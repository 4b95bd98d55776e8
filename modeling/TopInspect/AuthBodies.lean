import TopInspect.AgeGate
import TopInspect.CodeSchemas
import TopInspect.SmsDestinations
import TopInspect.ErrorVerdicts

/-! The object schemas of schemas/auth.ts, which the forms of the app and the routes of the
server share, over the primitives of schemas/primitives.ts. A body is what has been sent; what
is read from it is a request, or the issues under the keys of its fields. -/
namespace TopInspect.AuthBodies

open AuthSchema (Gender DeviceInfo)
open AuthHandlers (OtpRequest OtpRequestPurpose PhoneSignInRequest PhoneSignupRequest OAuthProvider
  OAuthSignInRequest OAuthSignupRequest)
open ProtectedRoutes (jsLength)
open EmailSchema (EmailRules isSpace trim)
open ErrorVerdicts (NameRules)
open CodeSchemas (trimmedText trimmed_text_ok Refinement)
open AgeGate (Date)

/-- A value of a form or of a body; no screen fills in a fraction. -/
inductive Value where
  | undefined
  | text (value : String)
  | number (value : Int)
  deriving DecidableEq

def Value.typeName : Value → String
  | .undefined => "undefined"
  | .text _ => "string"
  | .number _ => "number"

abbrev Parsed (α : Type) : Type := Except (List String) α

section Primitives

def string : Value → Parsed String
  | .text value => .ok value
  | other => .error ["Invalid input: expected string, received " ++ other.typeName]

def phone (value : Value) : Parsed String := do
  let input ← string value
  if input = "" then .error ["Phone number is required"]
  else
    match SmsDestinations.phone input with
    | some digits => .ok digits
    | none => .error ["Invalid phone number"]

def email (rules : EmailRules) (value : Value) : Parsed String := do
  let input ← string value
  if input = "" then .error ["Email is required"]
  else
    match EmailSchema.email rules input with
    | some address => .ok address
    | none => .error ["Invalid email address"]

def otp (value : Value) : Parsed String := string value >>= CodeSchemas.otp

def userName (rules : NameRules) (value : Value) : Parsed String :=
  string value >>= trimmedText "Name is required"
    [⟨fun val => 2 ≤ jsLength val, "Name is too short"⟩,
      ⟨fun val => jsLength val ≤ 50, "Name is too long (max 50 characters)"⟩,
      ⟨fun val => val.toList.all fun letter => rules.isLetterOrMark letter || isSpace letter,
        "Name contains invalid characters"⟩]

def gender : Value → Parsed Gender
  | .text "male" => .ok .male
  | .text "female" => .ok .female
  | _ => .error ["Gender is required"]

def birthYear (today : Date) : Value → Parsed Int
  | .number year => AgeGate.birthYear today (some year)
  | _ => AgeGate.birthYear today none

def oauthIdToken (value : Value) : Parsed String :=
  string value >>= trimmedText "OAuth ID token is required"
    [⟨fun val => 100 ≤ jsLength val, "Invalid OAuth ID token format"⟩]

def otpRequestPurpose : Value → Parsed OtpRequestPurpose
  | .text "login" => .ok .login
  | .text "signup" => .ok .signup
  | _ => .error ["Invalid option: expected one of \"login\"|\"signup\""]

def provider : Value → Parsed OAuthProvider
  | .text "google" => .ok .google
  | .text "apple" => .ok .apple
  | _ => .error ["Invalid option: expected one of \"google\"|\"apple\""]

def providerId (value : Value) : Parsed String := do
  let input ← string value
  if input = "" then .error ["Provider ID is required"] else .ok input

end Primitives

inductive Field where
  | phone
  | purpose
  | code
  | name
  | gender
  | birthYear
  | deviceInfo
  | provider
  | providerId
  | email
  | idToken
  deriving DecidableEq

section Objects

abbrev Issue : Type := Field × String

def keyed {α : Type} (field : Field) : Parsed α → Except (List Issue) α
  | .ok value => .ok value
  | .error messages => .error (messages.map fun message => (field, message))

/-- An object reports the issues of all its fields. -/
def both {α β : Type} : Except (List Issue) α → Except (List Issue) β → Except (List Issue) (α × β)
  | .ok first, .ok second => .ok (first, second)
  | .error issues, .ok _ => .error issues
  | .ok _, .error issues => .error issues
  | .error first, .error second => .error (first ++ second)

@[simp] theorem keyed_ok {α : Type} (field : Field) (result : Parsed α) (value : α) :
    keyed field result = .ok value ↔ result = .ok value := by
  cases result <;> simp [keyed]

@[simp] theorem both_ok {α β : Type} (first : Except (List Issue) α)
    (second : Except (List Issue) β) (value : α × β) :
    both first second = .ok value ↔ first = .ok value.1 ∧
    second = .ok value.2 := by
  cases first <;> cases second <;> simp [both, Prod.ext_iff]

@[simp] theorem map_ok {α β : Type} (change : α → β) (result : Except (List Issue) α) (value : β) :
    result.map change = .ok value ↔ ∃ before, result = .ok before ∧ change before = value := by
  cases result <;> simp [Except.map]

structure OtpBody where
  phone : Value
  purpose : Value
  deriving DecidableEq

structure PhoneSignupBody where
  phone : Value
  code : Value
  name : Value
  gender : Value
  birthYear : Value
  deviceInfo : Option DeviceInfo
  deriving DecidableEq

structure PhoneSignInBody where
  phone : Value
  code : Value
  deviceInfo : Option DeviceInfo
  deriving DecidableEq

structure OAuthSignInBody where
  idToken : Value
  deviceInfo : Option DeviceInfo
  deriving DecidableEq

structure OAuthSignupBody where
  provider : Value
  providerId : Value
  email : Value
  name : Value
  gender : Value
  birthYear : Value
  deviceInfo : Option DeviceInfo
  deriving DecidableEq

def otpRequestSchema (body : OtpBody) : Except (List Issue) OtpRequest :=
  (both (keyed .phone (phone body.phone)) (keyed .purpose (otpRequestPurpose body.purpose))).map
    fun (phone, purpose) => { phone, purpose }

def phoneSignupSchema (names : NameRules) (today : Date) (body : PhoneSignupBody) :
    Except (List Issue) PhoneSignupRequest :=
  (both (keyed .phone (phone body.phone)) (both (keyed .code (otp body.code))
    (both (keyed .name (userName names body.name)) (both (keyed .gender (gender body.gender))
      (keyed .birthYear (birthYear today body.birthYear)))))).map
    fun (phone, code, name, gender, birthYear) =>
      { phone, code, name, gender, birthYear, deviceInfo := body.deviceInfo }

def phoneSignInSchema (body : PhoneSignInBody) : Except (List Issue) PhoneSignInRequest :=
  (both (keyed .phone (phone body.phone)) (keyed .code (otp body.code))).map
    fun (phone, code) => { phone, code, deviceInfo := body.deviceInfo }

def oauthSignInSchema (body : OAuthSignInBody) : Except (List Issue) OAuthSignInRequest :=
  (keyed .idToken (oauthIdToken body.idToken)).map
    fun idToken => { idToken, deviceInfo := body.deviceInfo }

def oauthSignupSchema (emails : EmailRules) (names : NameRules) (today : Date)
    (body : OAuthSignupBody) :
    Except (List Issue) OAuthSignupRequest :=
  (both (keyed .provider (provider body.provider))
    (both (keyed .providerId (providerId body.providerId))
    (both (keyed .email (email emails body.email)) (both (keyed .name (userName names body.name))
      (both (keyed .gender (gender body.gender))
        (keyed .birthYear (birthYear today body.birthYear))))))).map
    fun (provider, providerId, email, name, gender, birthYear) =>
      { provider, providerId, email, name, gender, birthYear, deviceInfo := body.deviceInfo }

end Objects

section Readings

@[simp] theorem string_ok (value : Value) (input : String) :
    string value = .ok input ↔ value = .text input := by
  cases value <;> simp [string]

theorem phone_ok (value : Value) (digits : String) :
    phone value = .ok digits ↔ ∃ input, value = .text input ∧
    SmsDestinations.phone input = some digits := by
  cases value with
  | text input =>
      by_cases empty : input = ""
      · simp [phone, string, empty, SmsDestinations.phone, bind, Except.bind]
      · cases read : SmsDestinations.phone input <;>
          simp [phone, string, empty, read, bind, Except.bind]
  | undefined => simp [phone, string, bind, Except.bind]
  | number number => simp [phone, string, bind, Except.bind]

theorem email_ok (rules : EmailRules) (value : Value) (address : String) :
    email rules value = .ok address ↔
      ∃ input, value = .text input ∧ EmailSchema.email rules input = some address := by
  cases value with
  | text input =>
      by_cases empty : input = ""
      · simp [email, string, empty, EmailSchema.email, bind, Except.bind]
      · cases read : EmailSchema.email rules input <;>
          simp [email, string, empty, read, bind, Except.bind]
  | undefined => simp [email, string, bind, Except.bind]
  | number number => simp [email, string, bind, Except.bind]

@[simp] theorem otp_text (input : String) : otp (.text input) = CodeSchemas.otp input := rfl

theorem user_name_ok (rules : NameRules) (value : Value) (name : String) :
    userName rules value = .ok name ↔
      ∃ input, value = .text input ∧ ErrorVerdicts.userName rules input = some name := by
  cases value with
  | text input =>
      have read : userName rules (.text input) = .ok name ↔
          input ≠ "" ∧ trim input = name ∧ 2 ≤ jsLength name ∧ jsLength name ≤ 50 ∧
            name.toList.all (fun letter => rules.isLetterOrMark letter || isSpace letter) =
              true := by
        simp only [userName, string, bind, Except.bind, trimmed_text_ok, List.forall_mem_cons,
          List.not_mem_nil, false_imp_iff, implies_true, and_true, decide_eq_true_eq]
      rw [read]
      by_cases empty : input = ""
      · simp [empty, ErrorVerdicts.userName]
      · simp only [ErrorVerdicts.userName, if_neg empty, Value.text.injEq, exists_eq_left']
        split
        · next passes =>
            simp only [Option.some.injEq]
            exact ⟨fun found => found.2.1, fun same => ⟨empty, same, same ▸ passes⟩⟩
        · next fails =>
            simp only [reduceCtorEq, iff_false]
            rintro ⟨-, same, passes⟩
            exact fails (same ▸ passes)
  | undefined => simp [userName, string, bind, Except.bind]
  | number number => simp [userName, string, bind, Except.bind]

theorem gender_text (value : Gender) :
    gender (.text (ErrorVerdicts.genderText value)) = .ok value := by
  cases value <;> rfl

theorem gender_ok (value : Value) (read : Gender) (accepted : gender value = .ok read) :
    value = .text (ErrorVerdicts.genderText read) := by
  unfold gender at accepted
  split at accepted
  · obtain rfl := Except.ok.inj accepted
    rfl
  · obtain rfl := Except.ok.inj accepted
    rfl
  · cases accepted

theorem id_token_ok (value : Value) (token : String) :
    oauthIdToken value = .ok token ↔
      ∃ input, value = .text input ∧ input ≠ "" ∧ trim input = token ∧ 100 ≤ jsLength token := by
  cases value with
  | text input =>
      simp only [oauthIdToken, string, bind, Except.bind, trimmed_text_ok,
        List.forall_mem_singleton, decide_eq_true_eq, Value.text.injEq, exists_eq_left']
  | undefined => simp [oauthIdToken, string, bind, Except.bind]
  | number number => simp [oauthIdToken, string, bind, Except.bind]

theorem birth_year_ok (today : Date) (value : Value) (year : Int) :
    birthYear today value = .ok year ↔ value = .number year ∧ AgeGate.Accepted today year := by
  cases value with
  | number number =>
      constructor
      · intro accepted
        simp only [birthYear] at accepted
        have same : number = year := by
          simp only [AgeGate.birthYear, Rat.den_intCast, Rat.num_intCast, ne_eq, not_true_eq_false,
            if_false] at accepted
          split at accepted
          · exact Except.ok.inj accepted
          · cases accepted
        subst same
        exact ⟨rfl, accepted⟩
      · rintro ⟨same, accepted⟩
        obtain rfl := Value.number.inj same
        exact accepted
  | undefined => simp [birthYear, AgeGate.birthYear]
  | text text => simp [birthYear, AgeGate.birthYear]

end Readings

end TopInspect.AuthBodies
