import TopInspect.ScreenRoutes

/-! What the screens promise one another through the parameters of their routes, and the server
through the bodies that they send. -/
namespace TopInspect.ScreenContracts

open AuthSchema (Gender)
open AuthHandlers (OtpRequestPurpose)
open ErrorVerdicts (genderText)
open AuthBodies ScreenRoutes
open AgeGate (Date)

structure Profile where
  name : String
  gender : Gender
  birthYear : Int

variable (device : Device) (server : Date)

structure Spells (data : Field → Value) (profile : Profile) : Prop where
  name : userName device.names (data .name) = .ok profile.name
  gender : gender (data .gender) = .ok profile.gender
  birthYear : birthYear server (data .birthYear) = .ok profile.birthYear

/-- Where a wizard comes from: a phone the schema takes as it is, or an account at a provider
whose address it takes. -/
structure Origin (params : SignupScreenParams) : Prop where
  phone : isOAuthSignup params = false →
    ∀ phone, given params.phone = some phone → SmsDestinations.phone phone = some phone
  address : isOAuthSignup params = true →
    ∃ address, EmailSchema.email device.emails (params.email.getD "") = some address

structure Carries (params : OtpScreenParams) (profile : Profile) : Prop where
  name : ∃ name, params.name = some name ∧ userName device.names (.text name) = .ok profile.name
  gender : params.gender = some (genderText profile.gender)
  birthYear : params.birthYear = some (toString profile.birthYear)
  accepted : AgeGate.Accepted server profile.birthYear

/-- Where the screen of a code comes from. -/
structure Awaited (params : OtpScreenParams) : Prop where
  phone : SmsDestinations.phone params.phone = some params.phone
  profile : params.purpose = .signup → ∃ profile, Carries device server params profile

/-- The server's schema takes the body. -/
def Accepted : Sent → Prop
  | .otp body => ∃ request, otpRequestSchema body = .ok request
  | .phoneSignup body => ∃ request, phoneSignupSchema device.names server body = .ok request
  | .phoneSignIn body => ∃ request, phoneSignInSchema body = .ok request
  | .oauthSignIn _ body => ∃ request, oauthSignInSchema body = .ok request
  | .oauthSignup body =>
      ∃ request, oauthSignupSchema device.emails device.names server body = .ok request

def Fine : Effect → Prop
  | .send request => Accepted device server request
  | .pushSignup params => Origin device params
  | .pushOtp params => Awaited device server params
  | _ => True

variable {device server}

theorem year_later (today : Date) (later : today.year ≤ server.year) (year : Int)
    (accepted : AgeGate.Accepted today year) : AgeGate.Accepted server year := by
  rw [AgeGate.accepted_iff] at accepted ⊢
  exact ⟨accepted.1, accepted.2.1, by omega⟩

theorem gender_text_filled (gender : Gender) : genderText gender ≠ "" := by
  cases gender <;> decide

theorem name_filled (name read : String)
    (accepted : userName device.names (.text name) = .ok read) :
    name ≠ "" := by
  obtain ⟨input, same, passes⟩ := (user_name_ok device.names _ _).mp accepted
  obtain rfl := Value.text.inj same
  rintro rfl
  simp [ErrorVerdicts.userName] at passes

/-- A year the schema takes comes back from the text of its numeral. -/
theorem year_returns (profile : Profile) (accepted : AgeGate.Accepted server profile.birthYear) :
    parseInt (toString profile.birthYear) = some profile.birthYear := by
  have past := ((AgeGate.accepted_iff server profile.birthYear).mp accepted).2.1
  exact parse_year profile.birthYear (by omega)

theorem year_filled (profile : Profile) (accepted : AgeGate.Accepted server profile.birthYear) :
    toString profile.birthYear ≠ "" := by
  intro empty
  have returned := year_returns profile accepted
  rw [empty] at returned
  cases returned

end TopInspect.ScreenContracts
