import TopInspect.EmailSchema

/-! Where a code is sent: the phone schema of schemas/primitives.ts, which passes ten
digits on, and sendOTP of adapters/sms.ts, which dials a country code and all of them
but the first. -/
namespace TopInspect.SmsDestinations

open EmailSchema (trim)

/-- `[2-9]`, the first digit of an area code or an exchange. -/
def leads (digit : Char) : Bool := digit.isDigit && '2' ≤ digit

/-- `/^[2-9]\d{2}[2-9](?!11)\d{2}\d{4}$/` -/
def isPhone (value : String) : Bool :=
  match value.toList with
  | [a, b, c, d, e, f, g, h, i, j] =>
      leads a && b.isDigit && c.isDigit && leads d && !(e = '1' && f = '1') &&
        [e, f, g, h, i, j].all Char.isDigit
  | _ => false

-- An input the schema refuses has no value.
def phone (input : String) : Option String :=
  if input = "" then none
  else
    let value := String.ofList ((trim input).toList.filter Char.isDigit)
    if isPhone value then some value else none

structure SmsEnv where
  ENV : Option String
  APP_NAME : String
  SMS_API_KEY : Option String
  SMS_SENDER_ID : Option String

structure SmsPayload where
  api_key : String
  senderid : String
  number : String
  message : String
  deriving DecidableEq

/-- `phone.substring(1)` after the country code. -/
def destination (phone : String) : String := "880" ++ String.ofList (phone.toList.drop 1)

/-- The request sendOTP makes. In development, and without a key or a sender, it makes none. -/
def sendOTP (env : SmsEnv) (phone otp : String) : Option SmsPayload :=
  if env.ENV = some "development" then none
  else
    match env.SMS_API_KEY.filter (· ≠ ""), env.SMS_SENDER_ID.filter (· ≠ "") with
    | some apiKey, some senderId =>
        some { api_key := apiKey, senderid := senderId, number := destination phone
               message := "Your " ++ env.APP_NAME ++ " OTP is " ++ otp }
    | _, _ => none

/-- The numbers of two phones are the same when the phones agree past the first digit. -/
theorem destination_inj (first second : String) :
    destination first = destination second ↔ first.toList.drop 1 = second.toList.drop 1 := by
  unfold destination
  rw [← String.toList_inj, String.toList_append, String.toList_append, List.append_cancel_left_eq,
    String.toList_ofList, String.toList_ofList]

def DifferLater (first second : String) : Prop := ∃ n, 0 < n ∧ first.toList[n]? ≠ second.toList[n]?

theorem differ_later (first second : String) :
    DifferLater first second ↔ first.toList.drop 1 ≠ second.toList.drop 1 := by
  unfold DifferLater
  rw [ne_eq, List.ext_getElem?_iff, not_forall]
  constructor
  · rintro ⟨n, positive, differ⟩
    refine ⟨n - 1, ?_⟩
    rw [List.getElem?_drop, List.getElem?_drop, show 1 + (n - 1) = n by omega]
    exact differ
  · rintro ⟨n, differ⟩
    rw [List.getElem?_drop, List.getElem?_drop] at differ
    exact ⟨1 + n, by omega, differ⟩

theorem dialled (env : SmsEnv) (phone otp : String) (payload : SmsPayload)
    (dials : sendOTP env phone otp = some payload) : payload.number = destination phone := by
  unfold sendOTP at dials
  split at dials
  · cases dials
  · split at dials
    · obtain rfl := Option.some.inj dials
      rfl
    · cases dials

/-- Two different phones are sent their codes at two numbers if and only if they differ
in a digit past the first. -/
theorem numbers_apart (env : SmsEnv) (input other first second otp code : String)
    (own also : SmsPayload) (_ : phone input = some first) (_ : phone other = some second)
    (_ : first ≠ second) (dials : sendOTP env first otp = some own)
    (redials : sendOTP env second code = some also) :
    own.number ≠ also.number ↔ DifferLater first second := by
  rw [dialled env first otp own dials, dialled env second code also redials, differ_later, ne_eq,
    destination_inj]

def live : SmsEnv where
  ENV := some "production"
  APP_NAME := "Prism"
  SMS_API_KEY := some "key"
  SMS_SENDER_ID := some "8809612345678"

def textTo (number otp : String) : SmsPayload where
  api_key := "key"
  senderid := "8809612345678"
  number
  message := "Your Prism OTP is " ++ otp

theorem numbers_apart_exchange :
    (textTo "880125550123" "493021").number ≠ (textTo "880125550124" "117305").number :=
  (numbers_apart live "(212) 555-0123" "212-555-0124" "2125550123" "2125550124" "493021" "117305"
    (textTo "880125550123" "493021") (textTo "880125550124" "117305")
    (by decide) (by decide) (by decide) (by decide) (by decide)).mpr ⟨9, by decide, by decide⟩

theorem numbers_shared : ¬ ∀ (env : SmsEnv) (input other first second otp code : String)
    (own also : SmsPayload), phone input = some first → phone other = some second →
    first ≠ second → sendOTP env first otp = some own → sendOTP env second code = some also →
    own.number ≠ also.number := by
  intro apart
  exact apart live "2125550123" "3125550123" "2125550123" "3125550123" "493021" "117305"
    (textTo "880125550123" "493021") (textTo "880125550123" "117305")
    (by decide) (by decide) (by decide) (by decide) (by decide) rfl

end TopInspect.SmsDestinations
