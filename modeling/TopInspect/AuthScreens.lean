import TopInspect.LoginScreens
import TopInspect.OtpScreens
import TopInspect.SignUpWizard

/-! The screens of (auth) together. A run begins at the login screen, and every other screen is
opened by a route that one of these screens pushes; one that a link from outside opens is left
out. The stack of the router is left out too: a screen below another one may still take an
event, as its answers do. What the store does beside these screens is an outside move. -/
namespace TopInspect.AuthScreens

open AuthHandlers (OtpRequestPurpose)
open AuthBodies ScreenRoutes ScreenContracts
open AgeGate (Date)
open LoginScreens (Login LoginEvent)
open SignUpWizard (Signup SignupEvent)
open OtpScreens (OtpScreen OtpEvent)
open Components
open Components.System (Safe Warranted Justified Upheld Permitted)

inductive Screen where
  | login (screen : Login)
  | signup (screen : Signup)
  | otp (screen : OtpScreen)

inductive Event where
  | login (event : LoginEvent)
  | signup (event : SignupEvent)
  | otp (event : OtpEvent)

structure Dated where
  today : Date
  event : Event

section App
variable (device : Device) (mounted : Date)

def step (store : Store) : Screen → Dated → Screen × List Effect
  | .login screen, { today, event := .login event } =>
      (LoginScreens.step device today screen event).map .login id
  | .signup screen, { today, event := .signup event } =>
      (SignUpWizard.step device today store screen event).map .signup id
  | .otp screen, { event := .otp event, .. } =>
      (OtpScreens.step device store screen event).map .otp id
  | screen, _ => (screen, [])

-- No schema reads the clock of an undefined value, so the date a form is made at does not matter.
def opens : Effect → Option Screen
  | .pushSignup params => some (.signup (SignUpWizard.mount device mounted params))
  | .pushOtp params => some (.otp (OtpScreens.mount params))
  | _ => none

def app : System Store Screen Dated Effect where
  step := step device
  absorb := absorb
  opens := opens device mounted

def start : State Store Screen Effect where
  shared := { isLoading := false, error := none }
  components := [.login (LoginScreens.mount device mounted)]
  emitted := []

end App

section Order

def Asked (log : List Effect) (phone : String) (purpose : OtpRequestPurpose) : Prop :=
  Effect.send (.otp { phone := .text phone, purpose := .text (purposeText purpose) }) ∈ log

/-- What has to have been sent before an effect: a code is submitted only for a phone it has been
asked for, and a sign-up's code is asked for only after the one of a login. -/
def Caused (log : List Effect) : Effect → Prop
  | .send (.otp body) =>
      body.purpose = .text "signup" → ∃ phone, body.phone = .text phone ∧ Asked log phone .login
  | .send (.phoneSignIn body) => ∃ phone, body.phone = .text phone ∧ Asked log phone .login
  | .send (.phoneSignup body) =>
      ∃ phone, body.phone = .text phone ∧ Asked log phone .signup ∧ Asked log phone .login
  | .pushSignup params => isOAuthSignup params = false →
      ∀ phone, given params.phone = some phone → Asked log phone .login
  | .pushOtp params => Asked log params.phone params.purpose ∧ Asked log params.phone .login
  | _ => True

/-- What has been sent before a screen is as it is. -/
def Traced (log : List Effect) : Screen → Prop
  | .login screen =>
      ∀ data ∈ screen.waiting, ∀ phone, data .phone = .text phone → Asked log phone .login
  | .signup screen => isOAuthSignup screen.params = false →
      (∀ phone, given screen.params.phone = some phone →
        Asked log phone .login ∧ (screen.waiting ≠ [] → Asked log phone .signup)) ∧
      (screen.waiting ≠ [] → ∃ phone, given screen.params.phone = some phone)
  | .otp screen =>
      Asked log screen.params.phone screen.params.purpose ∧ Asked log screen.params.phone .login

variable (device : Device) (server : Date)

def Kept : Screen → Prop
  | .login screen => LoginScreens.Kept screen
  | .signup screen => SignUpWizard.Kept device server screen
  | .otp screen => Awaited device server screen.params

def Allowed (dated : Dated) : Prop :=
  dated.today.year ≤ server.year ∧
    match dated.event with
    | .login event => LoginScreens.Allowed device event
    | _ => True

theorem traced_grows (log more : List Effect) (screen : Screen) (traced : Traced log screen) :
    Traced (more ++ log) screen := by
  have later : ∀ phone purpose, Asked log phone purpose → Asked (more ++ log) phone purpose :=
    fun phone purpose asked => List.mem_append_right _ asked
  cases screen with
  | login screen => exact fun data member phone same => later _ _ (traced data member phone same)
  | signup screen =>
      exact fun plain => ⟨fun phone present => ⟨later _ _ ((traced plain).1 phone present).1,
        fun waits => later _ _ (((traced plain).1 phone present).2 waits)⟩, (traced plain).2⟩
  | otp screen => exact ⟨later _ _ traced.1, later _ _ traced.2⟩

theorem asked_later (log more : List Effect) (phone : String) (purpose : OtpRequestPurpose)
    (asked : Asked log phone purpose) : Asked (more ++ log) phone purpose :=
    List.mem_append_right _ asked

end Order

section LoginOrder
variable (device : Device) (today : Date) (log : List Effect) (screen : Login)

theorem login_answered (kept : LoginScreens.Kept screen) (traced : Traced log (.login screen))
    (index : Nat) (result : Except String Bool) :
    Warranted Caused log (LoginScreens.step device today screen (.answered index result)).2 ∧
      Traced ((LoginScreens.step device today screen (.answered index result)).2.reverse ++ log)
        (.login (LoginScreens.step device today screen (.answered index result)).1) := by
  have fewer : Traced log
    (.login { screen with waiting := screen.waiting.eraseIdx index, isLoading := false }) :=
    fun data member => traced data (List.mem_of_mem_eraseIdx member)
  simp only [LoginScreens.step]
  split
  · exact ⟨trivial, traced⟩
  · next data found =>
      have member := List.mem_of_getElem? found
      -- The code has been asked for when the button was pressed, whatever is typed meanwhile.
      obtain ⟨phone, same, -⟩ := kept.waiting data member
      have asked := traced data member phone same
      cases result with
      | error message => exact ⟨⟨trivial, trivial⟩, traced_grows log _ _ fewer⟩
      | ok userExists =>
          refine ⟨⟨trivial, ?_, trivial⟩, traced_grows log _ _ fewer⟩
          have route : (Value.toText (data .phone)).getD "" = phone := by rw [same]; rfl
          have later : Asked (.finished :: log) phone .login := List.mem_cons_of_mem _ asked
          unfold LoginScreens.navigate
          rw [route]
          cases userExists with
          | true => exact ⟨later, later⟩
          | false =>
              intro _ other present
              obtain ⟨found, -⟩ := (given_some _ _).mp present
              obtain rfl := Option.some.inj found
              exact later

theorem login_traced (event : LoginEvent) (kept : LoginScreens.Kept screen)
    (traced : Traced log (.login screen)) :
    Warranted Caused log (LoginScreens.step device today screen event).2 ∧
      Traced ((LoginScreens.step device today screen event).2.reverse ++ log)
        (.login (LoginScreens.step device today screen event).1) := by
  cases event with
  | changeText value =>
      simp only [LoginScreens.step]
      split <;> exact ⟨trivial, traced⟩
  | blur => exact ⟨trivial, traced⟩
  | pressContinue =>
      simp only [LoginScreens.step, LoginScreens.handleSendOtp]
      split
      · exact ⟨trivial, traced⟩
      · split
        · -- the call that is added has sent what it waits for
          refine ⟨⟨trivial, fun other => ?_, trivial⟩, ?_⟩
          · have login := kept.purpose
            rw [login] at other
            exact absurd (Value.text.inj other) (by decide)
          · intro data member phone same
            rcases List.mem_append.mp member with old | new
            · exact asked_later log _ phone .login (traced data old phone same)
            · obtain rfl := List.mem_singleton.mp new
              simp [Asked, same, kept.purpose, purposeText]
        · exact ⟨trivial, traced⟩
  | answered index result => exact login_answered device today log screen kept traced index result
  | identified provider idToken =>
      refine ⟨?_, traced_grows log _ (.login screen) traced⟩
      simp only [LoginScreens.step, LoginScreens.handleIdentified]
      split
      · trivial
      · exact ⟨trivial, trivial, trivial⟩
  | signedIn result =>
      cases result with
      | error message => exact ⟨⟨trivial, trivial⟩, traced_grows log _ (.login screen) traced⟩
      | ok result =>
          refine ⟨?_, traced_grows log _ (.login screen) traced⟩
          simp only [LoginScreens.step, LoginScreens.handleSignedIn]
          split
          · next provider providerId _ known identified =>
              refine ⟨trivial, fun plain => ?_, trivial⟩
              have filled := ((given_some _ _).mp identified).2
              simp [isOAuthSignup, given, Option.filter, filled] at plain
          · exact ⟨trivial, trivial, trivial⟩

end LoginOrder

section SignupOrder
variable (device : Device) (today : Date) (log : List Effect) (screen : Signup)

theorem complete_traced (traced : Traced log (.signup screen)) :
    Warranted Caused log (SignUpWizard.handleCompleteSignup device screen).2 ∧
      Traced ((SignUpWizard.handleCompleteSignup device screen).2.reverse ++ log)
        (.signup (SignUpWizard.handleCompleteSignup device screen).1) := by
  unfold SignUpWizard.handleCompleteSignup
  split
  · next provider providerId known identified =>
      refine ⟨⟨trivial, trivial, trivial⟩, fun plain => ?_⟩
      simp [isOAuthSignup, known, identified] at plain
  · next unprovided =>
      split
      · exact ⟨trivial, traced⟩
      · next phone present =>
          have plain := unprovided_plain screen.params unprovided
          have login := ((traced plain).1 phone present).1
          refine ⟨⟨trivial, fun _ => ⟨phone, rfl, List.mem_cons_of_mem _ login⟩, trivial⟩,
            fun _ => ?_⟩
          refine ⟨fun other same => ?_, fun _ => ⟨phone, present⟩⟩
          obtain rfl := Option.some.inj (present.symm.trans same)
          refine ⟨asked_later log [_, _] phone .login login, fun _ => ?_⟩
          simp [Asked, purposeText]

theorem next_traced (traced : Traced log (.signup screen)) :
    Warranted Caused log (SignUpWizard.handleNext device today screen).2 ∧
      Traced ((SignUpWizard.handleNext device today screen).2.reverse ++ log)
        (.signup (SignUpWizard.handleNext device today screen).1) := by
  simp only [SignUpWizard.handleNext]
  split
  · split
    · exact ⟨trivial, traced⟩
    · exact ⟨trivial, traced⟩
    · exact complete_traced device log _ traced
  · exact ⟨trivial, traced⟩

theorem signup_answered (traced : Traced log (.signup screen)) (store : Store) (index : Nat)
    (failure : Option String) :
    Warranted Caused log (SignUpWizard.step device today store screen (.answered index failure)).2 ∧
      Traced ((SignUpWizard.step device today store screen (.answered index failure)).2.reverse ++
        log)
        (.signup (SignUpWizard.step device today store screen (.answered index failure)).1) := by
  have fewer : Traced log (.signup { screen with waiting := screen.waiting.eraseIdx index }) :=
    fun plain => ⟨fun phone present => ⟨((traced plain).1 phone present).1, fun waits =>
      ((traced plain).1 phone present).2 fun none => waits (by simp [none])⟩,
      fun waits => (traced plain).2 fun none => waits (by simp [none])⟩
  simp only [SignUpWizard.step]
  split
  · exact ⟨trivial, traced⟩
  · next data found =>
      have waits : screen.waiting ≠ [] := List.ne_nil_of_mem (List.mem_of_getElem? found)
      cases failure with
      | some message => exact ⟨⟨trivial, trivial⟩, traced_grows log _ _ fewer⟩
      | none =>
          refine ⟨?_, traced_grows log _ _ fewer⟩
          cases oauth : isOAuthSignup screen.params with
          | true =>
              simp only [SignUpWizard.completed, oauth]
              exact ⟨trivial, trivial, trivial⟩
          | false =>
              obtain ⟨phone, present⟩ := (traced oauth).2 waits
              obtain ⟨login, signup⟩ := (traced oauth).1 phone present
              simp only [SignUpWizard.completed, oauth, ((given_some _ _).mp present).1,
                Option.getD_some,
                SignUpWizard.otpParams]
              cases Value.toText (data .birthYear) with
              | none => exact ⟨trivial, trivial⟩
              | some year =>
                  exact ⟨trivial,
                    ⟨List.mem_cons_of_mem _ (signup waits), List.mem_cons_of_mem _ login⟩, trivial⟩

theorem signup_traced (store : Store) (event : SignupEvent) (traced : Traced log (.signup screen)) :
    Warranted Caused log (SignUpWizard.step device today store screen event).2 ∧
      Traced ((SignUpWizard.step device today store screen event).2.reverse ++ log)
        (.signup (SignUpWizard.step device today store screen event).1) := by
  cases event with
  | changeText text =>
      simp only [SignUpWizard.step]
      split <;> exact ⟨trivial, traced⟩
  | blur =>
      simp only [SignUpWizard.step]
      split <;> exact ⟨trivial, traced⟩
  | submit =>
      simp only [SignUpWizard.step]
      split
      · exact next_traced device today log screen traced
      · exact ⟨trivial, traced⟩
  | pick index =>
      simp only [SignUpWizard.step]
      split <;> exact ⟨trivial, traced⟩
  | choose gender =>
      simp only [SignUpWizard.step]
      split <;> exact ⟨trivial, traced⟩
  | pressNext =>
      simp only [SignUpWizard.step]
      split
      · exact ⟨trivial, traced⟩
      · exact next_traced device today log screen traced
  | pressBack =>
      simp only [SignUpWizard.step, SignUpWizard.handleBack]
      split
      · exact ⟨⟨trivial, trivial⟩, traced_grows log _ (.signup screen) traced⟩
      · exact ⟨trivial, traced⟩
      · exact ⟨trivial, traced⟩
  | answered index failure =>
      exact signup_answered device today log screen traced store index failure

end SignupOrder

section OtpOrder
variable (device : Device) (log : List Effect) (screen : OtpScreen)

theorem verify_caused (code : String) (traced : Traced log (.otp screen)) :
    Warranted Caused log (OtpScreens.handleVerifyOtp device screen code).2 := by
  unfold OtpScreens.handleVerifyOtp
  split
  · trivial
  · split
    · exact ⟨trivial, trivial⟩
    · next request sends =>
        have later : ∀ purpose, Asked log screen.params.phone purpose →
            Asked (.started :: .clearError :: log) screen.params.phone purpose :=
          fun purpose asked => asked_later log [.started, .clearError] _ purpose asked
        refine ⟨trivial, trivial, ?_, trivial⟩
        cases purpose : screen.params.purpose with
        | login =>
            simp only [OtpScreens.verification, purpose, Option.some.injEq] at sends
            subst sends
            exact ⟨_, rfl, later _ traced.2⟩
        | signup =>
            simp only [OtpScreens.verification, purpose] at sends
            split at sends
            · obtain rfl := Option.some.inj sends
              exact ⟨_, rfl, later _ (purpose ▸ traced.1), later _ traced.2⟩
            · cases sends

theorem otp_traced (store : Store) (event : OtpEvent) (traced : Traced log (.otp screen)) :
    Warranted Caused log (OtpScreens.step device store screen event).2 ∧
      Traced ((OtpScreens.step device store screen event).2.reverse ++ log)
        (.otp (OtpScreens.step device store screen event).1) := by
  constructor
  · cases event with
    | changeText text =>
        simp only [OtpScreens.step]
        split
        · trivial
        · simp only [OtpScreens.handleTextChange]
          split
          · exact verify_caused device log _ _ traced
          · trivial
    | pressResend =>
        simp only [OtpScreens.step]
        split
        · trivial
        · unfold OtpScreens.handleResendOtp
          split
          · trivial
          · refine ⟨trivial, trivial, fun _ => ⟨_, rfl, ?_⟩, trivial⟩
            exact asked_later log [.started, .clearError] _ .login traced.2
    | pressBack => exact ⟨trivial, trivial⟩
    | tick => trivial
    | verified failure =>
        simp only [OtpScreens.step]
        split
        · trivial
        · cases failure <;> simp [Warranted, Caused]
    | resent failure =>
        simp only [OtpScreens.step]
        split
        · trivial
        · cases failure <;> simp [Warranted, Caused]
  -- No event of this screen changes its route parameters.
  · apply traced_grows
    have same := OtpScreens.step_params device store screen event
    simp only [Traced, same]
    exact traced

end OtpOrder

section Runs
variable (device : Device) (mounted server : Date)

theorem step_accepting (store : Store) (screen : Screen) (dated : Dated)
    (kept : Kept device server screen) (allowed : Allowed device server dated) :
    Kept device server ((app device mounted).step store screen dated).1 ∧
      ∀ effect ∈ ((app device mounted).step store screen dated).2, Fine device server effect := by
  obtain ⟨today, event⟩ := dated
  cases screen with
  | login screen =>
      cases event with
      | login event =>
          exact ⟨LoginScreens.step_keeps screen event kept,
            LoginScreens.step_fine screen event kept allowed.2⟩
      | signup event => exact ⟨kept, by simp [app, step]⟩
      | otp event => exact ⟨kept, by simp [app, step]⟩
  | signup screen =>
      cases event with
      | signup event => exact SignUpWizard.step_kept allowed.1 store screen event kept
      | login event => exact ⟨kept, by simp [app, step]⟩
      | otp event => exact ⟨kept, by simp [app, step]⟩
  | otp screen =>
      cases event with
      | otp event =>
          refine ⟨?_, OtpScreens.step_fine store screen event kept⟩
          have same := OtpScreens.step_params device store screen event
          simpa only [app, step, Prod.map_fst, Kept, same] using kept
      | login event => exact ⟨kept, by simp [app, step]⟩
      | signup event => exact ⟨kept, by simp [app, step]⟩

theorem opened_kept (effect : Effect) (screen : Screen) (fine : Fine device server effect)
    (opened : (app device mounted).opens effect = some screen) : Kept device server screen := by
  cases effect with
  | pushSignup params =>
      obtain rfl := Option.some.inj opened
      exact SignUpWizard.mount_kept params fine
  | pushOtp params =>
      obtain rfl := Option.some.inj opened
      exact fine
  | _ => cases opened

theorem accepting_safe : (app device mounted).Safe (Allowed device server)
    (fun _ => Kept device server) (fun _ => Fine device server) :=
  System.safe_plain _ _ (step_accepting device mounted server) (opened_kept device mounted server)

/-- Every body that the screens ever send is one that the server's schemas take. -/
theorem bodies_accepted (moves : List (Move Store Dated))
    (permitted : ∀ move ∈ moves, Permitted (Allowed device server) move) (request : Sent)
    (sent : .send request ∈ ((app device mounted).run (start device mounted) moves).emitted) :
    Accepted device server request := by
  have initial : Upheld (fun _ => Kept device server) (fun _ => Fine device server)
    (start device mounted) := by
    refine ⟨fun screen member => ?_, trivial⟩
    obtain rfl := List.mem_singleton.mp member
    exact LoginScreens.mount_kept
  have upheld := System.run_upheld (accepting_safe device mounted server) _ moves permitted initial
  exact System.justified_plain _ _ upheld.emitted (.send request) sent

def Ordered (log : List Effect) (screen : Screen) : Prop :=
  Traced log screen ∧ ∀ login, screen = .login login → LoginScreens.Kept login

theorem ordered_safe : (app device mounted).Safe (fun _ => True) Ordered Caused where
  grows := fun log effect screen ordered => ⟨traced_grows log [effect] screen ordered.1, ordered.2⟩
  steps := by
    intro store log screen dated ordered _
    obtain ⟨today, event⟩ := dated
    have idle : Warranted Caused log [] ∧ Ordered log screen := ⟨trivial, ordered⟩
    cases screen with
    | login screen =>
        have kept := ordered.2 screen rfl
        cases event with
        | login event =>
            obtain ⟨warranted, traced⟩ := login_traced device today log screen event kept ordered.1
            refine ⟨warranted, traced, fun other same => ?_⟩
            obtain rfl := Screen.login.inj same
            exact LoginScreens.step_keeps screen event kept
        | signup event => exact idle
        | otp event => exact idle
    | signup screen =>
        cases event with
        | signup event =>
            obtain ⟨warranted, traced⟩ :=
              signup_traced device today log screen store event ordered.1
            exact ⟨warranted, traced, fun other same => by cases same⟩
        | login event => exact idle
        | otp event => exact idle
    | otp screen =>
        cases event with
        | otp event =>
            obtain ⟨warranted, traced⟩ := otp_traced device log screen store event ordered.1
            exact ⟨warranted, traced, fun other same => by cases same⟩
        | login event => exact idle
        | signup event => exact idle
  opened := by
    intro log effect screen caused opened
    cases effect with
    | pushSignup params =>
        -- A fresh wizard has not asked for a code of its own.
        obtain rfl := Option.some.inj opened
        refine ⟨fun plain =>
          ⟨fun phone present => ⟨List.mem_cons_of_mem _ (caused plain phone present), ?_⟩, ?_⟩, ?_⟩
        · exact fun waits => absurd rfl waits
        · exact fun waits => absurd rfl waits
        · intro other same
          cases same
    | pushOtp params =>
        obtain rfl := Option.some.inj opened
        exact ⟨⟨List.mem_cons_of_mem _ caused.1, List.mem_cons_of_mem _ caused.2⟩,
          fun other same => by cases same⟩
    | _ => cases opened

/-- In every run from the login screen a code is submitted only for a phone that it has been asked
for before, and the code of a sign-up is asked for only after that of a login. -/
theorem codes_asked (moves : List (Move Store Dated)) (later earlier : List Effect)
    (effect : Effect)
    (log : ((app device mounted).run (start device mounted) moves).emitted =
      later ++ effect :: earlier) :
    Caused earlier effect := by
  have initial : Upheld Ordered Caused (start device mounted) := by
    refine ⟨fun screen member => ?_, trivial⟩
    obtain rfl := List.mem_singleton.mp member
    refine ⟨fun data waits => absurd waits List.not_mem_nil, fun login same => ?_⟩
    obtain rfl := Screen.login.inj same
    exact LoginScreens.mount_kept
  have upheld := System.run_upheld (ordered_safe device mounted) _ moves
    (fun move _ => by cases move <;> trivial) initial
  have justified := upheld.emitted
  rw [log] at justified
  exact System.justified_at later earlier effect justified

def Faithful (log : List Effect) (body : PhoneSignupBody) : Prop :=
  ∃ params profile code, Effect.pushOtp params ∈ log ∧ params.purpose = .signup ∧
    Carries device server params profile ∧
    phoneSignupSchema device.names server body =
      .ok { phone := params.phone, code, name := profile.name, gender := profile.gender
            birthYear := profile.birthYear, deviceInfo := some device.deviceInfo }

def Entrusted (log : List Effect) (effect : Effect) : Prop :=
  Fine device server effect ∧
    ∀ body, effect = .send (.phoneSignup body) → Faithful device server log body

def Pushed (log : List Effect) (screen : Screen) : Prop :=
  Kept device server screen ∧ ∀ awaiting, screen = .otp awaiting →
    Effect.pushOtp awaiting.params ∈ log

theorem sign_up_faithful (log : List Effect) (store : Store) (screen : OtpScreen) (event : OtpEvent)
    (awaited : Awaited device server screen.params) (pushed : Effect.pushOtp screen.params ∈ log)
    (body : PhoneSignupBody)
    (sent : .send (.phoneSignup body) ∈ (OtpScreens.step device store screen event).2) :
    Faithful device server log body := by
  obtain ⟨code, six, built⟩ := OtpScreens.sign_up_sent store screen event body sent
  have signup : screen.params.purpose = .signup := by
    cases purpose : screen.params.purpose with
    | login => simp [OtpScreens.verification, purpose] at built
    | signup => rfl
  obtain ⟨profile, carries⟩ := awaited.profile signup
  obtain ⟨other, same, read⟩ := OtpScreens.sign_up_read screen.params code profile signup
    (OtpScreens.phone_read screen.params awaited) carries six
  obtain rfl : body = other := Sent.phoneSignup.inj (Option.some.inj (built.symm.trans same))
  exact ⟨screen.params, profile, code, pushed, signup, carries, read⟩

theorem pushing_safe : (app device mounted).Safe (Allowed device server) (Pushed device server)
    (Entrusted device server) where
  grows := fun log effect screen pushed =>
    ⟨pushed.1, fun awaiting same => List.mem_cons_of_mem _ (pushed.2 awaiting same)⟩
  steps := by
    intro store log screen dated pushed allowed
    obtain ⟨kept, fine⟩ := step_accepting device mounted server store screen dated pushed.1 allowed
    refine ⟨System.warranted_each ?_ log _ fun effect member => ⟨fine effect member, ?_⟩, kept, ?_⟩
    · intro log later effect entrusted
      refine ⟨entrusted.1, fun body same => ?_⟩
      obtain ⟨params, profile, code, earlier, rest⟩ := entrusted.2 body same
      exact ⟨params, profile, code, List.mem_cons_of_mem _ earlier, rest⟩
    · -- of all screens only that of the code sends a sign-up with one
      rintro body rfl
      obtain ⟨today, event⟩ := dated
      cases screen with
      | login screen =>
          cases event with
          | login event =>
              have none := LoginScreens.no_sign_up device today screen event body
              exact absurd member (by simpa [app, step] using none)
          | signup event => simp [app, step] at member
          | otp event => simp [app, step] at member
      | signup screen =>
          cases event with
          | signup event =>
              have none := SignUpWizard.no_sign_up device today store screen event body
              exact absurd member (by simpa [app, step] using none)
          | login event => simp [app, step] at member
          | otp event => simp [app, step] at member
      | otp screen =>
          cases event with
          | otp event =>
              exact sign_up_faithful device server log store screen event pushed.1
                (pushed.2 screen rfl) body (by simpa [app, step] using member)
          | login event => simp [app, step] at member
          | signup event => simp [app, step] at member
    -- A screen of the code keeps its parameters, so the route that brought them stays on record.
    · intro awaiting same
      apply List.mem_append_right
      obtain ⟨today, event⟩ := dated
      cases screen with
      | login screen => cases event <;> cases same
      | signup screen => cases event <;> cases same
      | otp screen =>
          have earlier := pushed.2 screen rfl
          cases event with
          | otp event =>
              have moved : (OtpScreens.step device store screen event).1 = awaiting :=
                Screen.otp.inj same
              rw [← moved, OtpScreens.step_params device store screen event]
              exact earlier
          | login event => exact Screen.otp.inj same ▸ earlier
          | signup event => exact Screen.otp.inj same ▸ earlier
  opened := by
    intro log effect screen entrusted opened
    refine ⟨opened_kept device mounted server effect screen entrusted.1 opened, ?_⟩
    rintro awaiting rfl
    cases effect with
    | pushOtp params =>
        obtain rfl := Screen.otp.inj (Option.some.inj opened)
        exact List.mem_cons_self
    | pushSignup params => cases opened
    | _ => cases opened

theorem pushes_justified (moves : List (Move Store Dated))
    (permitted : ∀ move ∈ moves, Permitted (Allowed device server) move) :
    Justified (Entrusted device server)
      ((app device mounted).run (start device mounted) moves).emitted := by
  have initial : Upheld (Pushed device server) (Entrusted device server)
    (start device mounted) := by
    refine ⟨fun screen member => ?_, trivial⟩
    obtain rfl := List.mem_singleton.mp member
    exact ⟨LoginScreens.mount_kept, fun awaiting same => by cases same⟩
  exact (System.run_upheld (pushing_safe device mounted server) _ moves permitted initial).emitted

/-- In every run, what the server reads from a sign-up that is sent with a code is the profile
that a wizard has handed on through the routes before. -/
theorem sign_ups_faithful (moves : List (Move Store Dated))
    (permitted : ∀ move ∈ moves, Permitted (Allowed device server) move)
    (later earlier : List Effect) (body : PhoneSignupBody)
    (log : ((app device mounted).run (start device mounted) moves).emitted =
      later ++ .send (.phoneSignup body) :: earlier) :
    Faithful device server earlier body := by
  have justified := pushes_justified device mounted server moves permitted
  rw [log] at justified
  exact (System.justified_at later earlier _ justified).2 body rfl

end Runs

section SigningUp

def sampleDay : Date :=
    { year := 2025, month := 6, day := 1, month_real := by decide, day_real := by decide }

def onLogin (event : LoginEvent) : Move Store Dated :=
    .act 0 { today := sampleDay, event := .login event }
def onSignup (event : SignupEvent) : Move Store Dated :=
    .act 1 { today := sampleDay, event := .signup event }
def onOtp (event : OtpEvent) : Move Store Dated :=
    .act 2 { today := sampleDay, event := .otp event }

def signingUp : List (Move Store Dated) :=
  [onLogin (.changeText "2125550123"), onLogin .pressContinue, onLogin (.answered 0 (.ok false)),
    onSignup (.changeText "Ada"), onSignup .pressNext, onSignup (.pick 3), onSignup .pressNext,
    onSignup (.choose .female), onSignup .pressNext, onSignup (.answered 0 none),
      onOtp (.changeText "493021")]

theorem signing_up_permitted : ∀ move ∈ signingUp,
    Permitted (Allowed sampleDevice sampleDay) move := by
  intro move member
  simp only [signingUp, List.mem_cons, List.not_mem_nil, or_false] at member
  rcases member with rfl | rfl | rfl | rfl | rfl | rfl | rfl | rfl | rfl | rfl | rfl <;>
    exact ⟨le_refl _, trivial⟩

def signedUp : State Store Screen Effect :=
    (app sampleDevice sampleDay).run (start sampleDevice sampleDay) signingUp

def signUpSent : PhoneSignupBody where
  phone := .text "2125550123"
  code := .text "493021"
  name := .text "Ada"
  gender := .text "female"
  birthYear := .number 2009
  deviceInfo := some sampleDevice.deviceInfo

theorem signed_up_log :
    signedUp.emitted = [] ++ .send (.phoneSignup signUpSent) :: signedUp.emitted.tail := by
  decide +kernel

theorem sign_ups_faithful_signed_up :
    Faithful sampleDevice sampleDay signedUp.emitted.tail signUpSent :=
  sign_ups_faithful sampleDevice sampleDay sampleDay signingUp signing_up_permitted []
    signedUp.emitted.tail signUpSent signed_up_log

theorem bodies_accepted_signed_up : Accepted sampleDevice sampleDay (.phoneSignup signUpSent) :=
  bodies_accepted sampleDevice sampleDay sampleDay signingUp signing_up_permitted _
    (by
      show _ ∈ signedUp.emitted
      rw [signed_up_log]
      exact List.mem_cons_self)

theorem codes_asked_signed_up : Caused signedUp.emitted.tail (.send (.phoneSignup signUpSent)) :=
  codes_asked sampleDevice sampleDay signingUp [] signedUp.emitted.tail _ signed_up_log

end SigningUp

end TopInspect.AuthScreens
