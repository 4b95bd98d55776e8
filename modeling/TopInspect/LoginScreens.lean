import TopInspect.ScreenContracts

/-! The first screen: hooks/usePhoneSignIn.ts, useGoogleSignIn.ts and useAppleSignIn.ts from the
ID token on, and (auth)/login.tsx. The box takes ten characters at most, and the button waits
for ten. A provider's token and the end of a sign-in with it may come at any time. -/
namespace TopInspect.LoginScreens

open AuthHandlers (OAuthProvider)
open EmailSchema (trim)
open ProtectedRoutes (jsLength)
open AuthBodies ScreenRoutes ScreenContracts
open AgeGate (Date)
open Forms (Form useForm)

/-- `waiting` holds the form data of the calls whose request has not been answered. -/
structure Login where
  form : Form Field Value
  isLoading : Bool
  waiting : List (Field → Value)

/-- What signInWithGoogle and signInWithApple come back with. -/
structure OAuthResult where
  needsSignup : Bool
  provider : Option OAuthProvider
  providerId : Option String
  email : Option String

inductive LoginEvent where
  | changeText (value : String)
  | blur
  | pressContinue
  | answered (index : Nat) (result : Except String Bool)
  | identified (provider : OAuthProvider) (idToken : Option String)
  | signedIn (result : Except String OAuthResult)

section Screen
variable (device : Device) (today : Date)

def initialData : Field → Option Value
  | .purpose => some (.text "login")
  | _ => none

def mount : Login where
  form := useForm (otpRequestForm device today) initialData
  isLoading := false
  waiting := []

/-- The button waits until the box holds ten characters between its blanks. -/
def isComplete (data : Field → Value) : Bool :=
  match data .phone with
  | .text phone => jsLength (trim phone) = 10
  | _ => false

def handleSendOtp (screen : Login) : Login × List Effect :=
  let verdict := screen.form.validate (otpRequestForm device today) (some .phone)
  if verdict.2 then
    let data := screen.form.data
    ({ form := verdict.1, isLoading := true, waiting := screen.waiting ++ [data] },
      [.started, .send (.otp { phone := data .phone, purpose := data .purpose })])
  else ({ screen with form := verdict.1 }, [])

def navigate (data : Field → Value) (userExists : Bool) : Effect :=
  let phone := (Value.toText (data .phone)).getD ""
  if userExists then
    .pushOtp { phone, purpose := .login, name := none, gender := none, birthYear := none }
  else .pushSignup { phone := some phone, provider := none, providerId := none, email := none }

-- A provider without a token throws before anything is sent.
def handleIdentified (provider : OAuthProvider) (idToken : Option String) : List Effect :=
  match given idToken with
  | none => []
  | some idToken =>
      let body := { idToken := .text idToken, deviceInfo := some device.deviceInfo }
      [.started, .send (.oauthSignIn provider body)]

def handleSignedIn (result : OAuthResult) : List Effect :=
  match result.needsSignup, result.provider, given result.providerId with
  | true, some provider, some providerId =>
      [.finished, .pushSignup { phone := none, provider := some provider,
                                providerId := some providerId
                                email := some (result.email.getD "") }]
  | _, _, _ => [.clearUI, .home]

def step (screen : Login) : LoginEvent → Login × List Effect
  | .changeText value =>
      if jsLength value ≤ 10 then ({ screen with form := screen.form.set .phone (.text value) }, [])
      else (screen, [])
  | .blur =>
      let form := (screen.form.validate (otpRequestForm device today) (some .phone)).1
      ({ screen with form }, [])
  | .pressContinue =>
      if screen.isLoading ∨ isComplete screen.form.data = false then (screen, [])
      else handleSendOtp device today screen
  | .answered index result =>
      match screen.waiting[index]? with
      | none => (screen, [])
      | some data =>
          let rest := { screen with waiting := screen.waiting.eraseIdx index, isLoading := false }
          match result with
          | .error message => (rest, [.failed message])
          | .ok userExists => (rest, [.finished, navigate data userExists])
  | .identified provider idToken => (screen, handleIdentified device provider idToken)
  | .signedIn (.error message) => (screen, [.failed message])
  | .signedIn (.ok result) => (screen, handleSignedIn result)

theorem no_sign_up (screen : Login) (event : LoginEvent) (body : PhoneSignupBody) :
    .send (.phoneSignup body) ∉ (step device today screen event).2 := by
  cases event with
  | changeText value =>
      simp only [step]
      split <;> simp
  | blur => simp [step]
  | pressContinue =>
      simp only [step]
      split
      · simp
      · unfold handleSendOtp
        simp only
        split <;> simp
  | answered index result =>
      simp only [step]
      split
      · simp
      · cases result with
        | error message => simp
        | ok userExists => cases userExists <;> simp [navigate]
  | identified provider idToken =>
      simp only [step, handleIdentified]
      split <;> simp
  | signedIn result =>
      cases result with
      | error message => simp [step]
      | ok result =>
          simp only [step, handleSignedIn]
          split <;> simp

end Screen

section Phones

theorem length_le_js (text : String) : text.toList.length ≤ jsLength text := by
  have single : ∀ letters : List Char,
      letters.length ≤ (letters.map fun letter => if 0x10000 ≤ letter.toNat then 2 else 1).sum := by
    intro letters
    induction letters with
    | nil => simp
    | cons letter rest ih =>
        simp only [List.length_cons, List.map_cons, List.sum_cons]
        split <;> omega
  exact single text.toList

theorem phone_letters (phone digits : String) (passes : SmsDestinations.phone phone = some digits) :
    digits = String.ofList ((trim phone).toList.filter Char.isDigit) ∧
    digits.toList.length = 10 := by
  unfold SmsDestinations.phone at passes
  split at passes
  · cases passes
  · simp only at passes
    split at passes
    · next ten =>
        obtain rfl := Option.some.inj passes
        refine ⟨rfl, ?_⟩
        unfold SmsDestinations.isPhone at ten
        split at ten
        · next letters => rw [letters]; rfl
        · cases ten
    · cases passes

/-- A text of ten characters that the schema takes is nothing but its ten digits. -/
theorem phone_whole (phone digits : String) (short : jsLength phone ≤ 10)
    (passes : SmsDestinations.phone phone = some digits) : digits = phone := by
  obtain ⟨filtered, ten⟩ := phone_letters phone digits passes
  have inner : (trim phone).toList.Sublist phone.toList := by
    rw [trim, String.toList_ofList]
    exact (List.rdropWhile_prefix _ _).sublist.trans (List.dropWhile_sublist _)
  have part : ((trim phone).toList.filter Char.isDigit).Sublist phone.toList :=
    (List.filter_sublist).trans inner
  have bound := length_le_js phone
  have whole : (trim phone).toList.filter Char.isDigit = phone.toList := by
    apply part.eq_of_length_le
    rw [filtered, String.toList_ofList] at ten
    omega
  rw [filtered, whole, String.ofList_toList]

end Phones

section Steps
variable (device : Device) (server : Date)

/-- The box is short, the purpose stays, and each call that waits has a phone as the schema
passes it on. -/
structure Kept (screen : Login) : Prop where
  short : ∀ text, screen.form.data .phone = .text text → jsLength text ≤ 10
  purpose : screen.form.data .purpose = .text "login"
  waiting : ∀ data ∈ screen.waiting, ∃ phone, data .phone = .text phone ∧
    SmsDestinations.phone phone = some phone

/-- What a provider's answer may be: an address of a new account is one the schema takes. -/
def Answerable (result : OAuthResult) : Prop :=
  result.needsSignup = true → ∃ address, EmailSchema.email device.emails (result.email.getD "") =
    some address

/-- A provider's ID token has the length that the schema asks for. -/
def Presentable (idToken : Option String) : Prop := ∀ token, idToken = some token →
    100 ≤ jsLength (trim token)

/-- Only what comes from the providers is restricted. -/
def Allowed : LoginEvent → Prop
  | .identified _ idToken => Presentable idToken
  | .signedIn (.ok result) => Answerable device result
  | _ => True

variable {device server} {today : Date}

theorem mount_kept : Kept (mount device today) where
  short := by
    intro text same
    have empty : (mount device today).form.data .phone = .text "" := rfl
    rw [empty] at same
    obtain rfl := Value.text.inj same
    decide
  purpose := rfl
  waiting := fun data member => absurd member List.not_mem_nil

theorem passed_phone (screen : Login) (kept : Kept screen)
    (passes : (screen.form.validate (otpRequestForm device today) (some .phone)).2 = true) :
    ∃ phone, screen.form.data .phone = .text phone ∧ SmsDestinations.phone phone = some phone := by
  rw [otpRequestForm, validated device today _ _ _ (by simp), parseField, unread_ok] at passes
  obtain ⟨digits, read⟩ := passes
  obtain ⟨text, same, taken⟩ := (phone_ok _ _).mp read
  have whole := phone_whole text digits (kept.short text same) taken
  subst whole
  exact ⟨_, same, taken⟩

theorem send_keeps (screen : Login) (kept : Kept screen) :
    Kept (handleSendOtp device today screen).1 := by
  simp only [handleSendOtp]
  split
  · next passes =>
      refine ⟨kept.short, kept.purpose, fun data member => ?_⟩
      rcases List.mem_append.mp member with old | new
      · exact kept.waiting data old
      · exact List.mem_singleton.mp new ▸ passed_phone screen kept passes
  · exact ⟨kept.short, kept.purpose, kept.waiting⟩

theorem send_fine (screen : Login) (kept : Kept screen) :
    ∀ effect ∈ (handleSendOtp device today screen).2, Fine device server effect := by
  simp only [handleSendOtp]
  split
  · next passes =>
      obtain ⟨phone, same, taken⟩ := passed_phone screen kept passes
      have read : AuthBodies.phone (screen.form.data .phone) = .ok phone :=
        (phone_ok _ _).mpr ⟨_, same, taken⟩
      have purpose : otpRequestPurpose (screen.form.data .purpose) = .ok .login := by
        rw [kept.purpose]
        rfl
      simp [Fine, Accepted, otpRequestSchema, read, purpose]
  · simp

theorem navigate_fine (data : Field → Value) (userExists : Bool) (phone : String)
    (same : data .phone = .text phone) (taken : SmsDestinations.phone phone = some phone) :
    Fine device server (navigate data userExists) := by
  simp only [navigate, same, Value.toText, Option.getD_some]
  cases userExists with
  | true => exact ⟨taken, fun other => by cases other⟩
  | false =>
      refine ⟨fun _ other present => ?_, fun oauth => by cases oauth⟩
      obtain ⟨found, -⟩ := (given_some _ _).mp present
      obtain rfl := Option.some.inj found
      exact taken

theorem identified_fine (provider : OAuthProvider) (idToken : Option String)
    (presentable : Presentable idToken) :
    ∀ effect ∈ handleIdentified device provider idToken, Fine device server effect := by
  unfold handleIdentified
  split
  · simp
  · next token present =>
      obtain ⟨found, filled⟩ := (given_some _ _).mp present
      have read : oauthIdToken (.text token) = .ok (trim token) :=
        (id_token_ok _ _).mpr ⟨token, rfl, filled, rfl, presentable token found⟩
      simp [Fine, Accepted, oauthSignInSchema, read]

theorem signed_in_fine (result : OAuthResult) (answerable : Answerable device result) :
    ∀ effect ∈ handleSignedIn result, Fine device server effect := by
  unfold handleSignedIn
  split
  · next needed known identified =>
      have origin : Origin device { phone := none, provider := result.provider,
                                    providerId := given result.providerId
                                    email := some (result.email.getD "") } :=
        ⟨fun _ phone present => (by cases present), fun _ => answerable needed⟩
      rw [known, identified] at origin
      simpa [Fine] using origin
  · simp [Fine]

theorem step_keeps (screen : Login) (event : LoginEvent) (kept : Kept screen) :
    Kept (step device today screen event).1 := by
  cases event with
  | changeText value =>
      simp only [step]
      split
      · next short =>
          refine ⟨fun text same => ?_, ?_, kept.waiting⟩
          · rw [Form.set_data, Function.update_self] at same
            obtain rfl := Value.text.inj same
            exact short
          · simpa [Form.set_data] using kept.purpose
      · exact kept
  | blur => exact ⟨kept.short, kept.purpose, kept.waiting⟩
  | pressContinue =>
      simp only [step]
      split
      · exact kept
      · exact send_keeps screen kept
  | answered index result =>
      simp only [step]
      split
      · exact kept
      · have rest : Kept { screen with
            waiting := screen.waiting.eraseIdx index, isLoading := false } :=
          ⟨kept.short, kept.purpose,
            fun other member => kept.waiting other (List.mem_of_mem_eraseIdx member)⟩
        cases result <;> exact rest
  | identified provider idToken => exact kept
  | signedIn result => cases result <;> exact kept

theorem step_fine (screen : Login) (event : LoginEvent) (kept : Kept screen)
    (allowed : Allowed device event) :
    ∀ effect ∈ (step device today screen event).2, Fine device server effect := by
  cases event with
  | changeText value =>
      simp only [step]
      split <;> simp
  | blur => simp [step]
  | pressContinue =>
      simp only [step]
      split
      · simp
      · exact send_fine screen kept
  | answered index result =>
      simp only [step]
      split
      · simp
      · next data found =>
          obtain ⟨phone, same, taken⟩ := kept.waiting data (List.mem_of_getElem? found)
          cases result with
          | error message => simp [Fine]
          | ok userExists =>
              have fine : Fine device server (navigate data userExists) :=
                navigate_fine data userExists phone same taken
              intro effect member
              rcases List.mem_cons.mp member with rfl | later
              · trivial
              · exact List.mem_singleton.mp later ▸ fine
  | identified provider idToken => exact identified_fine provider idToken allowed
  | signedIn result =>
      cases result with
      | error message => simp [step, Fine]
      | ok result => exact signed_in_fine result allowed

end Steps

end TopInspect.LoginScreens
