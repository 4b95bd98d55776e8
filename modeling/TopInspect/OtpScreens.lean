import TopInspect.ScreenContracts

/-! The screen a code is entered on: hooks/useOtpFlow.ts, components/otp-input.tsx and
(auth)/otp.tsx. The box drops what is no digit; its sixth digit starts a verification, and while
the store is loading neither the box nor the resend button takes an event. -/
namespace TopInspect.OtpScreens

open AuthHandlers (OtpRequestPurpose)
open AuthBodies ScreenRoutes ScreenContracts
open AgeGate (Date)

namespace TIMING
def OTP_RESEND_COOLDOWN : Nat := 60
end TIMING

inductive OtpError where
  | validation (message : String)
  | api (message : String)

inductive OtpInputVariant where
  | default
  | error
  | success

/-- `verifying` and `resending` count the calls whose request has not been answered. -/
structure OtpScreen where
  params : OtpScreenParams
  resendTimer : Nat
  error : Option OtpError
  otp : String
  variant : OtpInputVariant
  verifying : Nat
  resending : Nat

inductive OtpEvent where
  | changeText (text : String)
  | pressResend
  | pressBack
  | tick
  | verified (failure : Option String)
  | resent (failure : Option String)

def mount (params : OtpScreenParams) : OtpScreen where
  params
  resendTimer := TIMING.OTP_RESEND_COOLDOWN
  error := none
  otp := ""
  variant := .default
  verifying := 0
  resending := 0

section Screen
variable (device : Device)

-- What parseInt gives up on is sent as null, which the schema reads as no number.
def birthYearValue (birthYear : String) : Value :=
  match parseInt birthYear with
  | some year => .number year
  | none => .undefined

/-- The body that a code is sent in; there is none for a sign-up without its data. -/
def verification (params : OtpScreenParams) (code : String) : Option Sent :=
  match params.purpose with
  | .login =>
      some (.phoneSignIn { phone := .text params.phone, code := .text code
                           deviceInfo := some device.deviceInfo })
  | .signup =>
      match given params.name, given params.gender, given params.birthYear with
      | some name, some gender, some birthYear =>
          some (.phoneSignup { phone := .text params.phone, code := .text code, name := .text name
                               gender := .text gender, birthYear := birthYearValue birthYear
                               deviceInfo := some device.deviceInfo })
      | _, _, _ => none

/-- The call has returned false: the box is emptied. -/
def handleError (screen : OtpScreen) : OtpScreen := { screen with otp := "", variant := .error }

def handleVerifyOtp (screen : OtpScreen) (code : String) : OtpScreen × List Effect :=
  if screen.params.phone = "" then
    (handleError { screen with error := some (.validation "Phone number not found") }, [])
  else
    match verification device screen.params code with
    | none =>
        let message := "Signup data not found. Please try again."
        (handleError { screen with error := some (.validation message) }, [.clearError])
    | some request =>
        ({ screen with error := none, verifying := screen.verifying + 1 },
          [.clearError, .started, .send request])

/-- `text.replace(/\D/g, "").slice(0, length)` -/
def limited (text : String) : String := String.ofList ((text.toList.filter Char.isDigit).take 6)

def handleTextChange (screen : OtpScreen) (text : String) : OtpScreen × List Effect :=
  let entered := { screen with otp := limited text }
  if (limited text).toList.length = 6 then handleVerifyOtp device entered (limited text)
  else (entered, [])

def handleResendOtp (screen : OtpScreen) : OtpScreen × List Effect :=
  if screen.params.phone = "" then
    ({ screen with error := some (.validation "Phone number not found") }, [])
  else
    let body : OtpBody :=
      { phone := .text screen.params.phone, purpose := .text (purposeText screen.params.purpose) }
    ({ screen with error := none, resending := screen.resending + 1 },
      [.clearError, .started, .send (.otp body)])

-- The box is `editable={!disabled}` and the button disabled while the store loads; both are taken
-- to hold from the moment the store changes, as if it were drawn again at once.
def step (store : Store) (screen : OtpScreen) : OtpEvent → OtpScreen × List Effect
  | .changeText text =>
      if store.isLoading then (screen, []) else handleTextChange device screen text
  | .pressResend =>
      if 0 < screen.resendTimer ∨ store.isLoading then (screen, []) else handleResendOtp screen
  | .pressBack => (screen, [.back])
  | .tick => ({ screen with resendTimer := screen.resendTimer - 1 }, [])
  | .verified failure =>
      match screen.verifying with
      | 0 => (screen, [])
      | pending + 1 =>
          match failure with
          | some message => (handleError { screen with verifying := pending }, [.failed message])
          | none => ({ screen with verifying := pending, variant := .success }, [.clearUI, .home])
  | .resent failure =>
      match screen.resending with
      | 0 => (screen, [])
      | pending + 1 =>
          match failure with
          | some message => ({ screen with resending := pending }, [.failed message])
          | none =>
              ({ screen with resending := pending, resendTimer := TIMING.OTP_RESEND_COOLDOWN
                             otp := "", variant := .default }, [.finished])

end Screen

section Codes
variable {device : Device} {server : Date}

theorem limited_digits (text : String) (letter : Char) (member : letter ∈ (limited text).toList) :
    letter.isDigit = true := by
  rw [limited, String.toList_ofList] at member
  exact (List.mem_filter.mp (List.mem_of_mem_take member)).2

theorem limited_code (text : String) (six : (limited text).toList.length = 6) :
    otp (.text (limited text)) = .ok (limited text) := by
  rw [otp_text, CodeSchemas.otp_unchanged]
  exact ⟨six, limited_digits text⟩

theorem phone_read (params : OtpScreenParams) (awaited : Awaited device server params) :
    phone (.text params.phone) = .ok params.phone := (phone_ok _ _).mpr ⟨_, rfl, awaited.phone⟩

theorem sign_up_read (params : OtpScreenParams) (code : String) (profile : Profile)
    (signup : params.purpose = .signup) (taken : phone (.text params.phone) = .ok params.phone)
    (carries : Carries device server params profile) (six : otp (.text code) = .ok code) :
    ∃ body, verification device params code = some (.phoneSignup body) ∧
      phoneSignupSchema device.names server body =
        .ok { phone := params.phone, code, name := profile.name, gender := profile.gender
              birthYear := profile.birthYear, deviceInfo := some device.deviceInfo } := by
  obtain ⟨name, same, named⟩ := carries.name
  have one : given params.name = some name := (given_some _ _).mpr ⟨same, name_filled name _ named⟩
  have two : given params.gender = some (ErrorVerdicts.genderText profile.gender) :=
    (given_some _ _).mpr ⟨carries.gender, gender_text_filled profile.gender⟩
  have three : given params.birthYear = some (toString profile.birthYear) :=
    (given_some _ _).mpr ⟨carries.birthYear, year_filled profile carries.accepted⟩
  have year : birthYearValue (toString profile.birthYear) = .number profile.birthYear := by
    rw [birthYearValue, year_returns profile carries.accepted]
  have dated : birthYear server (.number profile.birthYear) = .ok profile.birthYear :=
    (birth_year_ok _ _ _).mpr ⟨rfl, carries.accepted⟩
  simp only [verification, signup, one, two, three, year]
  refine ⟨_, rfl, ?_⟩
  simp [phoneSignupSchema, taken, six, named, gender_text, dated]

theorem verification_accepted (params : OtpScreenParams) (code : String) (request : Sent)
    (awaited : Awaited device server params) (six : otp (.text code) = .ok code)
    (sends : verification device params code = some request) : Accepted device server request := by
  have taken := phone_read params awaited
  cases purpose : params.purpose with
  | login =>
      simp only [verification, purpose, Option.some.injEq] at sends
      subst sends
      exact ⟨{ phone := params.phone, code, deviceInfo := some device.deviceInfo },
        by simp [phoneSignInSchema, taken, six]⟩
  | signup =>
      obtain ⟨profile, carries⟩ := awaited.profile purpose
      obtain ⟨body, built, read⟩ := sign_up_read params code profile purpose taken carries six
      obtain rfl := Option.some.inj (built.symm.trans sends)
      exact ⟨_, read⟩

theorem resend_accepted (params : OtpScreenParams) (awaited : Awaited device server params) :
    Accepted device server
      (.otp { phone := .text params.phone, purpose := .text (purposeText params.purpose) }) := by
  have taken := phone_read params awaited
  have purpose : otpRequestPurpose (.text (purposeText params.purpose)) = .ok params.purpose := by
    cases params.purpose <;> rfl
  exact ⟨{ phone := params.phone, purpose := params.purpose },
    by simp [otpRequestSchema, taken, purpose]⟩

end Codes

/-! Nothing that happens on the screen changes where it has come from. -/
section Steps
variable (device : Device)

theorem verify_params (screen : OtpScreen) (code : String) :
    (handleVerifyOtp device screen code).1.params = screen.params := by
  unfold handleVerifyOtp
  split
  · rfl
  · split <;> rfl

theorem step_params (store : Store) (screen : OtpScreen) (event : OtpEvent) :
    (step device store screen event).1.params = screen.params := by
  cases event with
  | changeText text =>
      simp only [step]
      split
      · rfl
      · simp only [handleTextChange]
        split
        · exact verify_params device _ _
        · rfl
  | pressResend =>
      simp only [step]
      split
      · rfl
      · unfold handleResendOtp
        split <;> rfl
  | pressBack => rfl
  | tick => rfl
  | verified failure =>
      simp only [step]
      split
      · rfl
      · cases failure <;> rfl
  | resent failure =>
      simp only [step]
      split
      · rfl
      · cases failure <;> rfl

variable {device} {server : Date}

theorem verify_sent (screen : OtpScreen) (code : String) (body : PhoneSignupBody)
    (sent : .send (.phoneSignup body) ∈ (handleVerifyOtp device screen code).2) :
    verification device screen.params code = some (.phoneSignup body) := by
  unfold handleVerifyOtp at sent
  split at sent
  · simp at sent
  · split at sent
    · simp at sent
    · next request sends =>
        rw [sends]
        simpa [eq_comm] using sent

theorem sign_up_sent (store : Store) (screen : OtpScreen) (event : OtpEvent)
    (body : PhoneSignupBody)
    (sent : .send (.phoneSignup body) ∈ (step device store screen event).2) :
    ∃ code, otp (.text code) = .ok code ∧
    verification device screen.params code = some (.phoneSignup body) := by
  cases event with
  | changeText text =>
      simp only [step] at sent
      split at sent
      · simp at sent
      · simp only [handleTextChange] at sent
        split at sent
        · next six =>
            exact ⟨_, limited_code text six,
              verify_sent { screen with otp := limited text } _ body sent⟩
        · simp at sent
  | pressResend =>
      simp only [step] at sent
      split at sent
      · simp at sent
      · unfold handleResendOtp at sent
        split at sent <;> simp at sent
  | pressBack => simp [step] at sent
  | tick => simp [step] at sent
  | verified failure =>
      simp only [step] at sent
      split at sent
      · simp at sent
      · cases failure <;> simp at sent
  | resent failure =>
      simp only [step] at sent
      split at sent
      · simp at sent
      · cases failure <;> simp at sent

theorem verify_fine (screen : OtpScreen) (code : String)
    (awaited : Awaited device server screen.params) (six : otp (.text code) = .ok code) :
    ∀ effect ∈ (handleVerifyOtp device screen code).2, Fine device server effect := by
  unfold handleVerifyOtp
  split
  · simp
  · split
    · simp [Fine]
    · next request sends =>
        have accepted := verification_accepted screen.params code request awaited six sends
        simpa [Fine] using accepted

theorem step_fine (store : Store) (screen : OtpScreen) (event : OtpEvent)
    (awaited : Awaited device server screen.params) :
    ∀ effect ∈ (step device store screen event).2, Fine device server effect := by
  cases event with
  | changeText text =>
      simp only [step]
      split
      · simp
      · simp only [handleTextChange]
        split
        · next six => exact verify_fine _ _ awaited (limited_code text six)
        · simp
  | pressResend =>
      simp only [step]
      split
      · simp
      · unfold handleResendOtp
        split
        · simp
        · have accepted := resend_accepted screen.params awaited
          simpa [Fine] using accepted
  | pressBack => simp [step, Fine]
  | tick => simp [step]
  | verified failure =>
      simp only [step]
      split
      · simp
      · cases failure <;> simp [Fine]
  | resent failure =>
      simp only [step]
      split
      · simp
      · cases failure <;> simp [Fine]

end Steps

end TopInspect.OtpScreens
