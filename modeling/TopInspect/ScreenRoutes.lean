import TopInspect.AuthBodies
import TopInspect.Components
import TopInspect.Forms

/-! What the screens of the sign-in share: the store they watch, the requests they send through
service.ts, the routes they push (hooks/utils.ts) with their parameters (config.ts), and the
schemas their forms are made for. -/
namespace TopInspect.ScreenRoutes

open AuthSchema (DeviceInfo Gender)
open AuthHandlers (OtpRequestPurpose OAuthProvider)
open EmailSchema (EmailRules isSpace)
open ErrorVerdicts (NameRules genderText)
open AuthBodies
open AgeGate (Date)

structure Device where
  names : NameRules
  emails : EmailRules
  capitalizeWords : String → String
  deviceInfo : DeviceInfo

def sampleDevice : Device where
  names := ErrorVerdicts.asciiNames
  emails := EmailSchema.asciiRules
  capitalizeWords := id
  deviceInfo := { os := .android, osVersion := "14", model := "Pixel 8", brand := "Google",
                  deviceYearClass := none
                  appVersion := "1.0.0", buildNumber := "1" }

structure Store where
  isLoading : Bool
  error : Option String

structure SignupScreenParams where
  phone : Option String
  provider : Option OAuthProvider
  providerId : Option String
  email : Option String
  deriving DecidableEq

structure OtpScreenParams where
  phone : String
  purpose : OtpRequestPurpose
  name : Option String
  gender : Option String
  birthYear : Option String
  deriving DecidableEq

inductive Sent where
  | otp (body : OtpBody)
  | phoneSignup (body : PhoneSignupBody)
  | phoneSignIn (body : PhoneSignInBody)
  | oauthSignIn (provider : OAuthProvider) (body : OAuthSignInBody)
  | oauthSignup (body : OAuthSignupBody)
  deriving DecidableEq

inductive Effect where
  | started
  | send (request : Sent)
  | finished
  | clearUI
  | clearError
  | failed (message : String)
  | pushSignup (params : SignupScreenParams)
  | pushOtp (params : OtpScreenParams)
  | back
  | home
  deriving DecidableEq

/-- What the operations of service.ts do to the store: each starts with isLoading, and ends
without it whether it succeeds or setErrorState keeps the message. -/
def absorb (store : Store) : Effect → Store
  | .started => { isLoading := true, error := none }
  | .finished => { store with isLoading := false }
  | .clearUI => { isLoading := false, error := none }
  | .clearError => { store with error := none }
  | .failed message => { isLoading := false, error := some message }
  | _ => store

section Texts

def providerText : OAuthProvider → String
  | .google => "google"
  | .apple => "apple"

def purposeText : OtpRequestPurpose → String
  | .login => "login"
  | .signup => "signup"

def given (value : Option String) : Option String := value.filter (· ≠ "")

/-- The signup mode of a wizard: an account at a provider, or else a phone. -/
def isOAuthSignup (params : SignupScreenParams) : Bool :=
  params.provider.isSome && (given params.providerId).isSome

theorem given_some (value : Option String) (text : String) :
    given value = some text ↔ value = some text ∧ text ≠ "" := by
  cases value <;> simp [given, Option.filter]
  constructor
  · rintro ⟨filled, rfl⟩
    exact ⟨rfl, filled⟩
  · rintro ⟨rfl, filled⟩
    exact ⟨filled, rfl⟩

theorem unprovided_plain (params : SignupScreenParams)
    (unprovided : ∀ provider providerId, params.provider = some provider →
      given params.providerId = some providerId → False) : isOAuthSignup params = false := by
  cases known : params.provider with
  | none => simp [isOAuthSignup, known]
  | some provider =>
      cases identified : given params.providerId with
      | none => simp [isOAuthSignup, identified]
      | some providerId => exact (unprovided provider providerId known identified).elim

def Value.toText : Value → Option String
  | .undefined => none
  | .text value => some value
  | .number value => some (toString value)

def leadingDigits (text : List Char) : Option Int :=
  match text.takeWhile Char.isDigit with
  | [] => none
  | digits => some (Nat.ofDigitChars 10 digits 0)

/-- The digits that a text starts with after its blanks and a sign. -/
def parseInt (text : String) : Option Int :=
  match text.toList.dropWhile isSpace with
  | '-' :: rest => (leadingDigits rest).map fun value => -value
  | '+' :: rest => leadingDigits rest
  | rest => leadingDigits rest

theorem digit_solid (letter : Char) (digit : letter.isDigit = true) :
    isSpace letter = false ∧ letter ≠ '-' ∧ letter ≠ '+' := by
  refine ⟨(CodeSchemas.base36_plain letter (CodeSchemas.digit_base36 letter digit)).1, ?_, ?_⟩
  · rintro rfl
    cases digit
  · rintro rfl
    cases digit

theorem parse_digits (value : Nat) : parseInt (toString value) = some (value : Int) := by
  have letters : (toString value : String).toList = Nat.toDigits 10 value := Nat.toList_repr
  have digits : ∀ letter ∈ Nat.toDigits 10 value, letter.isDigit = true :=
    fun letter member => Nat.isDigit_of_mem_toDigits (by decide) (by decide) member
  have whole : (Nat.toDigits 10 value).takeWhile Char.isDigit = Nat.toDigits 10 value :=
    List.takeWhile_eq_self_iff.mpr digits
  unfold parseInt
  rw [letters]
  cases spelled : Nat.toDigits 10 value with
  | nil => exact absurd spelled Nat.toDigits_ne_nil
  | cons first rest =>
      obtain ⟨solid, minus, plus⟩ :=
        digit_solid first (digits first (by rw [spelled]; exact List.mem_cons_self))
      rw [List.dropWhile_cons_of_neg (by simp [solid])]
      rw [spelled] at whole
      split
      · next same => exact absurd (List.cons.inj same).1 minus
      · next same => exact absurd (List.cons.inj same).1 plus
      · have same : Nat.ofDigitChars 10 (first :: rest) 0 = value :=
          spelled ▸ Nat.ofDigitChars_ten_toDigits
        rw [leadingDigits, whole]
        exact congrArg some (congrArg Int.ofNat same)

/-- A year survives the way through the parameters of a route. -/
theorem parse_year (year : Int) (positive : 0 ≤ year) : parseInt (toString year) = some year := by
  obtain ⟨value, rfl⟩ := Int.eq_ofNat_of_zero_le positive
  exact parse_digits value

end Texts

section FormSchemas
variable (device : Device) (today : Date)

def unread {α : Type} (result : Parsed α) : Parsed Unit := result.map fun _ => ()

@[simp] theorem unread_ok {α : Type} (result : Parsed α) : unread result = .ok () ↔
    ∃ value, result = .ok value := by
  cases result <;> simp [unread, Except.map]

def parseField : Field → Value → Parsed Unit
  | .phone, value => unread (phone value)
  | .purpose, value => unread (otpRequestPurpose value)
  | .code, value => unread (otp value)
  | .name, value => unread (userName device.names value)
  | .gender, value => unread (gender value)
  | .birthYear, value => unread (birthYear today value)
  | .deviceInfo, .undefined => .ok ()
  | .deviceInfo, value => .error ["Invalid input: expected object, received " ++ value.typeName]
  | .provider, value => unread (provider value)
  | .providerId, value => unread (providerId value)
  | .email, value => unread (email device.emails value)
  | .idToken, value => unread (oauthIdToken value)

def fieldKey : Field → String
  | .phone => "phone"
  | .purpose => "purpose"
  | .code => "code"
  | .name => "name"
  | .gender => "gender"
  | .birthYear => "birthYear"
  | .deviceInfo => "deviceInfo"
  | .provider => "provider"
  | .providerId => "providerId"
  | .email => "email"
  | .idToken => "idToken"

def objectSchema (shape : List Field) : Forms.Schema Field Value where
  shape
  safeParse := parseField device today
  key := fieldKey
  undefined := .undefined
  blank := .text ""

def otpRequestForm : Forms.Schema Field Value := objectSchema device today [.phone, .purpose]

def phoneSignupForm : Forms.Schema Field Value :=
  objectSchema device today [.phone, .code, .name, .gender, .birthYear, .deviceInfo]

def oauthSignupForm : Forms.Schema Field Value :=
  objectSchema device today [.provider, .providerId, .email, .name, .gender, .birthYear,
    .deviceInfo]

theorem issue_none (shape : List Field) (data : Field → Value) (field : Field)
    (member : field ∈ shape) :
    Forms.Form.issue (objectSchema device today shape) data field = none ↔
      parseField device today field (data field) = .ok () := by
  simp only [Forms.Form.issue, Forms.validateField, objectSchema, member, if_true]
  cases parseField device today field (data field) <;> simp

theorem validated (shape : List Field) (form : Forms.Form Field Value) (field : Field)
    (member : field ∈ shape) :
    (form.validate (objectSchema device today shape) (some field)).2 = true ↔
      parseField device today field (form.data field) = .ok () := by
  rw [Forms.Form.validate_verdict, List.forall_mem_singleton,
    issue_none device today shape _ _ member]

end FormSchemas

end TopInspect.ScreenRoutes
