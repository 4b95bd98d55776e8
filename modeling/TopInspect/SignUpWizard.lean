import TopInspect.ScreenContracts

/-! The sign-up wizard of hooks/useSignupFlow.ts and the screen (auth)/signup.tsx that shows it.
One step is on the screen at a time, and only its own field can be changed; the other steps have
been validated before. A completion keeps the data of the moment it was started at. -/
namespace TopInspect.SignUpWizard

open AuthSchema (Gender)
open AuthHandlers (OAuthProvider)
open ErrorVerdicts (genderText)
open EmailSchema (trim)
open AuthBodies
open AgeGate (Date birthYearOptions)
open ScreenRoutes ScreenContracts
open Forms (Form useForm)

inductive SignupStep where
  | name
  | birthYear
  | gender
  deriving DecidableEq

structure Signup where
  params : SignupScreenParams
  currentStep : SignupStep
  form : Form Field Value
  waiting : List (Field → Value)

inductive SignupEvent where
  | changeText (text : String)
  | blur
  | submit
  | pick (index : Nat)
  | choose (gender : Gender)
  | pressNext
  | pressBack
  | answered (index : Nat) (failure : Option String)

section Screen
variable (device : Device) (today : Date)

def formSchema (params : SignupScreenParams) : Forms.Schema Field Value :=
  if isOAuthSignup params then oauthSignupForm device today else phoneSignupForm device today

def initialData (params : SignupScreenParams) : Field → Option Value
  | .phone => if isOAuthSignup params then none else some (.text (params.phone.getD ""))
  | .provider =>
      if isOAuthSignup params then some (.text (providerText (params.provider.getD .google)))
      else none
  | .providerId => if isOAuthSignup params then some (.text (params.providerId.getD "")) else none
  | .email => if isOAuthSignup params then some (.text (params.email.getD "")) else none
  | _ => none

def mount (params : SignupScreenParams) : Signup where
  params
  currentStep := .name
  form := useForm (formSchema device today params) (initialData params)
  waiting := []

def filled : Value → Bool
  | .undefined => false
  | .text value => value ≠ ""
  | .number value => value ≠ 0

def trimmedFilled : Value → Bool
  | .text value => trim value ≠ ""
  | _ => false

def isCurrentStepValid (screen : Signup) : Bool :=
  match screen.currentStep with
  | .name => (screen.form.errors .name).isNone && trimmedFilled (screen.form.data .name)
  | .birthYear => (screen.form.errors .birthYear).isNone && filled (screen.form.data .birthYear)
  | .gender => (screen.form.errors .gender).isNone && filled (screen.form.data .gender)

def oauthBody (provider : OAuthProvider) (providerId email : String) (data : Field → Value) :
    OAuthSignupBody where
  provider := .text (providerText provider)
  providerId := .text providerId
  email := .text email
  name := data .name
  gender := data .gender
  birthYear := data .birthYear
  deviceInfo := some device.deviceInfo

def handleCompleteSignup (screen : Signup) : Signup × List Effect :=
  let started := { screen with waiting := screen.waiting ++ [screen.form.data] }
  match screen.params.provider, given screen.params.providerId with
  | some provider, some providerId =>
      let body := oauthBody device provider providerId (screen.params.email.getD "")
        screen.form.data
      (started, [.started, .send (.oauthSignup body)])
  | _, _ =>
      match given screen.params.phone with
      | none => (screen, [])
      | some phone =>
          (started, [.started, .send (.otp { phone := .text phone, purpose := .text "signup" })])

def SignupStep.field : SignupStep → Field
  | .name => .name
  | .birthYear => .birthYear
  | .gender => .gender

def handleNext (screen : Signup) : Signup × List Effect :=
  let verdict := screen.form.validate (formSchema device today screen.params)
    (some screen.currentStep.field)
  let validated := { screen with form := verdict.1 }
  if verdict.2 then
    match screen.currentStep with
    | .name => ({ validated with currentStep := .birthYear }, [])
    | .birthYear => ({ validated with currentStep := .gender }, [])
    | .gender => handleCompleteSignup device validated
  else (validated, [])

def handleBack (screen : Signup) : Signup × List Effect :=
  match screen.currentStep with
  | .name => (screen, [.back])
  | .birthYear => ({ screen with currentStep := .name }, [])
  | .gender => ({ screen with currentStep := .birthYear }, [])

-- An undefined year has no toString, and what it throws is caught.
def otpParams (phone : String) (data : Field → Value) : Option OtpScreenParams :=
  (Value.toText (data .birthYear)).map fun birthYear =>
    { phone, purpose := .signup, name := Value.toText (data .name),
      gender := Value.toText (data .gender)
      birthYear := some birthYear }

/-- What follows a completion that has been answered without an error. -/
def completed (params : SignupScreenParams) (data : Field → Value) : List Effect :=
  if isOAuthSignup params then [.clearUI, .home]
  else .finished :: ((otpParams (params.phone.getD "") data).map Effect.pushOtp).toList

/-- An event that the screen has no place for does nothing. -/
def step (store : Store) (screen : Signup) : SignupEvent → Signup × List Effect
  | .changeText text =>
      if screen.currentStep = .name then
        ({ screen with form := screen.form.set .name (.text (device.capitalizeWords text)) }, [])
      else (screen, [])
  | .blur =>
      if screen.currentStep = .name then
        let form := (screen.form.validate (formSchema device today screen.params) (some .name)).1
        ({ screen with form }, [])
      else (screen, [])
  | .submit =>
      if screen.currentStep = .name ∧ isCurrentStepValid screen then handleNext device today screen
      else (screen, [])
  | .pick index =>
      match screen.currentStep, (birthYearOptions today)[index]? with
      | .birthYear, some item =>
          ({ screen with form := screen.form.set .birthYear (.number item.value) }, [])
      | _, _ => (screen, [])
  | .choose gender =>
      if screen.currentStep = .gender then
        ({ screen with form := screen.form.set .gender (.text (genderText gender)) }, [])
      else (screen, [])
  | .pressNext =>
      if store.isLoading ∨ isCurrentStepValid screen = false then (screen, [])
      else handleNext device today screen
  | .pressBack => handleBack screen
  | .answered index failure =>
      match screen.waiting[index]? with
      | none => (screen, [])
      | some data =>
          let rest := { screen with waiting := screen.waiting.eraseIdx index }
          match failure with
          | some message => (rest, [.failed message])
          | none => (rest, completed screen.params data)

theorem complete_no_sign_up (screen : Signup) (body : PhoneSignupBody) :
    .send (.phoneSignup body) ∉ (handleCompleteSignup device screen).2 := by
  unfold handleCompleteSignup
  split
  · simp
  · simp only
    split <;> simp

theorem next_no_sign_up (screen : Signup) (body : PhoneSignupBody) :
    .send (.phoneSignup body) ∉ (handleNext device today screen).2 := by
  simp only [handleNext]
  split
  · split
    · simp
    · simp
    · exact complete_no_sign_up device _ body
  · simp

theorem no_sign_up (store : Store) (screen : Signup) (event : SignupEvent)
    (body : PhoneSignupBody) :
    .send (.phoneSignup body) ∉ (step device today store screen event).2 := by
  cases event with
  | changeText text =>
      simp only [step]
      split <;> simp
  | blur =>
      simp only [step]
      split <;> simp
  | submit =>
      simp only [step]
      split
      · exact next_no_sign_up device today screen body
      · simp
  | pick index =>
      simp only [step]
      split <;> simp
  | choose gender =>
      simp only [step]
      split <;> simp
  | pressNext =>
      simp only [step]
      split
      · simp
      · exact next_no_sign_up device today screen body
  | pressBack =>
      simp only [step, handleBack]
      split <;> simp
  | answered index failure =>
      simp only [step]
      split
      · simp
      · cases failure with
        | some message => simp
        | none =>
            simp only [completed]
            split
            · simp
            · cases otpParams (screen.params.phone.getD "") _ <;> simp

end Screen

section Invariant
variable (device : Device) (server : Date)

/-- What holds of a wizard: the fields of the steps behind it are accepted, and so are all the
fields of the completions that wait. -/
structure Kept (screen : Signup) : Prop where
  origin : Origin device screen.params
  name : screen.currentStep ≠ .name →
    ∃ name, userName device.names (screen.form.data .name) = .ok name
  birthYear : screen.currentStep = .gender →
    ∃ year, birthYear server (screen.form.data .birthYear) = .ok year
  waiting : ∀ data ∈ screen.waiting, ∃ profile, Spells device server data profile
  reachable : screen.waiting ≠ [] → isOAuthSignup screen.params = false →
    ∃ phone, given screen.params.phone = some phone

variable {device server} {today : Date}

theorem mount_kept (params : SignupScreenParams) (origin : Origin device params) :
    Kept device server (mount device today params) where
  origin := origin
  name := fun later => absurd rfl later
  birthYear := fun later => by cases later
  waiting := fun data member => absurd member List.not_mem_nil
  reachable := fun later => absurd rfl later

theorem validated_step (params : SignupScreenParams) (form : Form Field Value)
    (current : SignupStep) :
    (form.validate (formSchema device today params) (some current.field)).2 = true ↔
      parseField device today current.field (form.data current.field) = .ok () := by
  unfold formSchema
  split
  · exact validated device today _ form _ (by cases current <;> simp [SignupStep.field])
  · exact validated device today _ form _ (by cases current <;> simp [SignupStep.field])

theorem year_now (later : today.year ≤ server.year) (value : Value) (year : Int)
    (accepted : birthYear today value = .ok year) : birthYear server value = .ok year := by
  obtain ⟨same, now⟩ := (birth_year_ok today value year).mp accepted
  exact (birth_year_ok server value year).mpr ⟨same, year_later today later year now⟩

theorem spelled (data : Field → Value)
    (named : ∃ name, userName device.names (data .name) = .ok name)
    (dated : ∃ year, birthYear server (data .birthYear) = .ok year)
    (chosen : parseField device today .gender (data .gender) = .ok ()) :
    ∃ profile, Spells device server data profile := by
  obtain ⟨name, named⟩ := named
  obtain ⟨year, dated⟩ := dated
  obtain ⟨one, chosen⟩ := (unread_ok _).mp chosen
  exact ⟨{ name, gender := one, birthYear := year }, named, chosen, dated⟩

theorem oauth_accepted (params : SignupScreenParams) (provider : OAuthProvider)
    (providerId : String) (data : Field → Value) (profile : Profile) (origin : Origin device params)
    (known : params.provider = some provider)
    (identified : given params.providerId = some providerId)
    (spells : Spells device server data profile) :
    Accepted device server
      (.oauthSignup (oauthBody device provider providerId (params.email.getD "") data)) := by
  have oauth : isOAuthSignup params = true := by simp [isOAuthSignup, known, identified]
  obtain ⟨address, passes⟩ := origin.address oauth
  have filled := ((given_some _ _).mp identified).2
  have one : AuthBodies.provider (.text (providerText provider)) = .ok provider := by
    cases provider <;> rfl
  have two : AuthBodies.providerId (.text providerId) = .ok providerId := by
    simp [AuthBodies.providerId, string, bind, Except.bind, filled]
  have three : AuthBodies.email device.emails (.text (params.email.getD "")) = .ok address :=
    (email_ok _ _ _).mpr ⟨_, rfl, passes⟩
  refine ⟨{ provider, providerId, email := address, name := profile.name, gender := profile.gender
            birthYear := profile.birthYear, deviceInfo := some device.deviceInfo }, ?_⟩
  simp [oauthSignupSchema, oauthBody, one, two, three, spells.name, spells.gender, spells.birthYear]

theorem otp_accepted (phone : String) (taken : SmsDestinations.phone phone = some phone) :
    Accepted device server (.otp { phone := .text phone, purpose := .text "signup" }) := by
  have read : AuthBodies.phone (.text phone) = .ok phone := (phone_ok _ _).mpr ⟨_, rfl, taken⟩
  have purpose : otpRequestPurpose (.text "signup") = .ok .signup := rfl
  exact ⟨{ phone, purpose := .signup }, by simp [otpRequestSchema, read, purpose]⟩

theorem data_carried (phone : String) (data : Field → Value) (profile : Profile)
    (spells : Spells device server data profile) :
    ∃ params, otpParams phone data = some params ∧ params.phone = phone ∧ params.purpose = .signup ∧
      Carries device server params profile := by
  obtain ⟨name, same, -⟩ := (user_name_ok _ _ _).mp spells.name
  obtain ⟨year, accepted⟩ := (birth_year_ok _ _ _).mp spells.birthYear
  have chosen := gender_ok _ _ spells.gender
  refine ⟨_, by rw [otpParams, year]; rfl, rfl, rfl, ?_⟩
  constructor
  · exact ⟨name, by rw [same]; rfl, by rw [← same]; exact spells.name⟩
  · rw [chosen]
    rfl
  · rfl
  · exact accepted

end Invariant

section Steps
variable {device : Device} {server today : Date}

theorem complete_kept (screen : Signup) (kept : Kept device server screen)
    (spells : ∃ profile, Spells device server screen.form.data profile) :
    Kept device server (handleCompleteSignup device screen).1 ∧
      ∀ effect ∈ (handleCompleteSignup device screen).2, Fine device server effect := by
  -- the completion that is added waits with data that spell a profile
  have more : ∀ data ∈ screen.waiting ++ [screen.form.data], ∃ profile,
    Spells device server data profile := by
    intro data member
    rcases List.mem_append.mp member with old | new
    · exact kept.waiting data old
    · exact List.mem_singleton.mp new ▸ spells
  obtain ⟨profile, spells⟩ := spells
  unfold handleCompleteSignup
  split
  · next provider providerId known identified =>
      have oauth : isOAuthSignup screen.params = true := by simp [isOAuthSignup, known, identified]
      have accepted := oauth_accepted screen.params provider providerId _ profile kept.origin known
        identified spells
      refine ⟨⟨kept.origin, kept.name, kept.birthYear, more, ?_⟩, ?_⟩
      · intro _ other
        rw [oauth] at other
        cases other
      · simpa [Fine] using accepted
  · next other =>
      split
      · exact ⟨kept, by simp⟩
      · next phone present =>
          have plain := unprovided_plain screen.params other
          have accepted : Accepted device server
            (.otp { phone := .text phone, purpose := .text "signup" }) :=
            otp_accepted phone (kept.origin.phone plain phone present)
          refine ⟨⟨kept.origin, kept.name, kept.birthYear, more, fun _ _ => ⟨phone, present⟩⟩, ?_⟩
          simpa [Fine] using accepted

theorem next_kept (later : today.year ≤ server.year) (screen : Signup)
    (kept : Kept device server screen) :
    Kept device server (handleNext device today screen).1 ∧
      ∀ effect ∈ (handleNext device today screen).2, Fine device server effect := by
  simp only [handleNext]
  split
  · next passes =>
      rw [validated_step] at passes
      have validated : Kept device server { screen with
          form := (screen.form.validate (formSchema device today screen.params)
            (some screen.currentStep.field)).1 } :=
        ⟨kept.origin, kept.name, kept.birthYear, kept.waiting, kept.reachable⟩
      split
      · next current =>
          -- the name has just been accepted
          rw [current] at passes
          refine ⟨⟨kept.origin, fun _ => (unread_ok _).mp passes, fun other => ?_, kept.waiting,
            kept.reachable⟩, by simp⟩
          cases other
      · next current =>
          rw [current] at passes
          obtain ⟨year, accepted⟩ := (unread_ok _).mp passes
          refine ⟨⟨kept.origin, fun _ => kept.name (by rw [current]; decide),
            fun _ => ⟨year, year_now later _ _ accepted⟩, kept.waiting, kept.reachable⟩, by simp⟩
      · next current =>
          rw [current] at passes
          have named := kept.name (by rw [current]; decide)
          exact complete_kept _ validated (spelled _ named (kept.birthYear current) passes)
  · exact ⟨⟨kept.origin, kept.name, kept.birthYear, kept.waiting, kept.reachable⟩, by simp⟩

theorem completed_fine (params : SignupScreenParams) (data : Field → Value)
    (origin : Origin device params) (spells : ∃ profile, Spells device server data profile)
    (reachable : isOAuthSignup params = false → ∃ phone, given params.phone = some phone) :
    ∀ effect ∈ completed params data, Fine device server effect := by
  cases oauth : isOAuthSignup params with
  | true => simp [completed, oauth, Fine]
  | false =>
      obtain ⟨profile, spells⟩ := spells
      obtain ⟨phone, present⟩ := reachable oauth
      obtain ⟨made, built, same, purpose, carries⟩ := data_carried phone data profile spells
      have awaited : Awaited device server made :=
        ⟨by rw [same]; exact origin.phone oauth phone present, fun _ => ⟨profile, carries⟩⟩
      simp only [completed, oauth, ((given_some _ _).mp present).1, Option.getD_some, built]
      simpa [Fine] using awaited

theorem answered_kept (screen : Signup) (kept : Kept device server screen) (index : Nat)
    (failure : Option String) (store : Store) :
    Kept device server (step device today store screen (.answered index failure)).1 ∧
      ∀ effect ∈ (step device today store screen (.answered index failure)).2,
        Fine device server effect := by
  simp only [step]
  split
  · exact ⟨kept, by simp⟩
  · next data found =>
      have member := List.mem_of_getElem? found
      have rest : Kept device server { screen with waiting := screen.waiting.eraseIdx index } :=
        ⟨kept.origin, kept.name, kept.birthYear,
          fun other kept_one => kept.waiting other (List.mem_of_mem_eraseIdx kept_one),
          fun left => kept.reachable fun none => left (by simp [none])⟩
      cases failure with
      | some message => exact ⟨rest, by simp [Fine]⟩
      | none =>
          exact ⟨rest, completed_fine screen.params data kept.origin (kept.waiting data member)
            (kept.reachable (List.ne_nil_of_mem member))⟩

theorem step_kept (later : today.year ≤ server.year) (store : Store) (screen : Signup)
    (event : SignupEvent) (kept : Kept device server screen) :
    Kept device server (step device today store screen event).1 ∧
      ∀ effect ∈ (step device today store screen event).2, Fine device server effect := by
  cases event with
  | changeText text =>
      simp only [step]
      split
      · next current =>
          refine ⟨⟨kept.origin, fun other => absurd current other, fun other => ?_, kept.waiting,
            kept.reachable⟩, by simp⟩
          rw [current] at other
          cases other
      · exact ⟨kept, by simp⟩
  | blur =>
      simp only [step]
      split
      · exact ⟨⟨kept.origin, kept.name, kept.birthYear, kept.waiting, kept.reachable⟩, by simp⟩
      · exact ⟨kept, by simp⟩
  | submit =>
      simp only [step]
      split
      · exact next_kept later screen kept
      · exact ⟨kept, by simp⟩
  | pick index =>
      simp only [step]
      split
      · next item current found =>
          -- the name keeps its value, and the year is not behind the wizard yet
          refine ⟨⟨kept.origin, fun other => ?_, fun other => ?_, kept.waiting, kept.reachable⟩,
            by simp⟩
          · simpa [Form.set_data] using kept.name other
          · rw [current] at other
            cases other
      · exact ⟨kept, by simp⟩
  | choose chosen =>
      simp only [step]
      split
      · next current =>
          refine ⟨⟨kept.origin, fun other => ?_, fun other => ?_, kept.waiting, kept.reachable⟩,
            by simp⟩
          · simpa [Form.set_data] using kept.name other
          · simpa [Form.set_data] using kept.birthYear other
      · exact ⟨kept, by simp⟩
  | pressNext =>
      simp only [step]
      split
      · exact ⟨kept, by simp⟩
      · exact next_kept later screen kept
  | pressBack =>
      simp only [step, handleBack]
      split
      · exact ⟨kept, by simp [Fine]⟩
      · next current =>
          refine ⟨⟨kept.origin, fun other => absurd rfl other, fun other => ?_, kept.waiting,
            kept.reachable⟩, by simp⟩
          cases other
      · next current =>
          -- Back from the gender, the year is in front of the wizard again.
          refine ⟨⟨kept.origin, fun _ => kept.name (by rw [current]; decide), fun other => ?_,
            kept.waiting, kept.reachable⟩, by simp⟩
          cases other
  | answered index failure => exact answered_kept screen kept index failure store

end Steps

end TopInspect.SignUpWizard
