import TopInspect.HexText
import TopInspect.RefreshTokens
import TopInspect.UploadSigning

/-! The signature of handlers/upload.ts, and the service that checks it. The handler carries its
keys from one HMAC to the next as hexadecimal text; the service has the raw bytes, rebuilds the
signed text from the request as it arrives, and compares. -/
namespace TopInspect.AwsSignature

open RefreshTokens (padStart toString)
open ProtectedRoutes (includes)
open UploadSigning (Endpoint Bucket uploadUrl signedPath SentAsSigned PathSafe)

structure Crypto where
  digest : List UInt8 → List UInt8
  mac : (key data : List UInt8) → List UInt8
  mac_length : ∀ key data, (mac key data).length = 32

/-- What toISOString spells, in the years of four digits. -/
structure Instant where
  year : Nat
  month : Nat
  day : Nat
  hours : Nat
  minutes : Nat
  seconds : Nat
  milliseconds : Nat
  calendar : year ≤ 9999 ∧ month ≤ 12 ∧ day ≤ 31
  clock : hours ≤ 23 ∧ minutes ≤ 59 ∧ seconds ≤ 59 ∧ milliseconds ≤ 999

def pad (width number : Nat) : List Char := (padStart (toString number 10) width '0').toList

def toISOString (now : Instant) : List Char :=
  pad 4 now.year ++ '-' :: pad 2 now.month ++ '-' :: pad 2 now.day ++ 'T' :: pad 2 now.hours ++
    ':' :: pad 2 now.minutes ++ ':' :: pad 2 now.seconds ++ '.' :: pad 3 now.milliseconds ++ ['Z']

/-- `replace(/[:\-]|\.\d{3}/g, "")` -/
def withoutMarks : List Char → List Char
  | [] => []
  | letter :: rest =>
      if letter = ':' ∨ letter = '-' then withoutMarks rest
      else
        match letter, rest with
        | '.', first :: second :: third :: later =>
            if first.isDigit ∧ second.isDigit ∧ third.isDigit then withoutMarks later
            else '.' :: withoutMarks (first :: second :: third :: later)
        | other, rest => other :: withoutMarks rest

def dateOf (now : Instant) : String := String.ofList (((toISOString now).take 10).filter (· ≠ '-'))

def datetimeOf (now : Instant) : String := String.ofList (withoutMarks (toISOString now))

def utf8 (data : String) : List UInt8 := data.toList.flatMap String.utf8EncodeChar

/-- `b.toString(16).padStart(2, "0")` of each byte. -/
def hexText (bytes : List UInt8) : String :=
  String.ofList (bytes.flatMap fun byte => (padStart (toString byte.toNat 16) 2 '0').toList)

-- What a dot of a regular expression matches.
def isDot (letter : Char) : Bool := !(['\n', '\r', '\u2028', '\u2029'].contains letter)

/-- `new Uint8Array(text.match(/.{2}/g)!.map(byte => parseInt(byte, 16)))`, which throws for a
text without a match. -/
def bytesOf (text : String) : Option (List UInt8) :=
  match HexText.decode isDot text.toList with
  | [] => none
  | bytes => some bytes

section Signing
variable (crypto : Crypto)

def sha256 (data : String) : String := hexText (crypto.digest (utf8 data))

def hmacSha256 (key : List UInt8) (data : String) : String := hexText (crypto.mac key (utf8 data))

def getSigningKey (secretKey date region service : String) : Option (List UInt8) := do
  let kDateBytes ← bytesOf (hmacSha256 crypto (utf8 ("AWS4" ++ secretKey)) date)
  let kRegionBytes ← bytesOf (hmacSha256 crypto kDateBytes region)
  let kServiceBytes ← bytesOf (hmacSha256 crypto kRegionBytes service)
  bytesOf (hmacSha256 crypto kServiceBytes "aws4_request")

/-- `new URL(endpoint).hostname`, of a host that is no number. -/
def hostname (endpoint : Endpoint) : String :=
  String.ofList ((endpoint.host.toList.takeWhile (· ≠ ':')).map Char.toLower)

structure AuthHeaders where
  Authorization : String
  xAmzDate : String
  xAmzContentSha256 : String

def generateAwsSignatureV4 (now : Instant) (method path accessKeyId secretAccessKey : String)
    (endpoint : Endpoint) :
    Option AuthHeaders := do
  let date := dateOf now
  let datetime := datetimeOf now
  let host := hostname endpoint
  let region := if includes host "r2.cloudflarestorage.com" then "auto" else "us-east-1"
  let canonicalHeaders :=
    "\n".intercalate ["host:" ++ host, "x-amz-content-sha256:UNSIGNED-PAYLOAD",
      "x-amz-date:" ++ datetime]
  let signedHeaders := "host;x-amz-content-sha256;x-amz-date"
  let canonicalRequest :=
    "\n".intercalate [method, path, "", canonicalHeaders, "", signedHeaders, "UNSIGNED-PAYLOAD"]
  let algorithm := "AWS4-HMAC-SHA256"
  let credentialScope := date ++ "/" ++ region ++ "/s3/aws4_request"
  let stringToSign :=
    "\n".intercalate [algorithm, datetime, credentialScope, sha256 crypto canonicalRequest]
  let signingKey ← getSigningKey crypto secretAccessKey date region "s3"
  let signature := hmacSha256 crypto signingKey stringToSign
  return {
    Authorization := algorithm ++ " Credential=" ++ accessKeyId ++ "/" ++ credentialScope ++
      ", SignedHeaders=" ++ signedHeaders ++ ", Signature=" ++ signature
    xAmzDate := datetime
    xAmzContentSha256 := "UNSIGNED-PAYLOAD" }

end Signing

section Keys

theorem padded_byte (byte : UInt8) :
    (padStart (toString byte.toNat 16) 2 '0').toList = HexText.spell byte := by
  have all : ∀ number < 256, (padStart (toString number 16) 2 '0').toList =
      [HexText.digit (number / 16), HexText.digit (number % 16)] := by decide +kernel
  exact all byte.toNat byte.toNat_lt

theorem hex_text (bytes : List UInt8) : (hexText bytes).toList = HexText.encode bytes := by
  simp only [hexText, String.toList_ofList, padded_byte, HexText.encode]

/-- A text of bytes is read as these bytes, unless there are none. -/
theorem bytes_of_hex (bytes : List UInt8) (present : bytes ≠ []) :
    bytesOf (hexText bytes) = some bytes := by
  have digits : ∀ nibble < 16, isDot (HexText.digit nibble) = true := by decide
  rw [bytesOf, hex_text, HexText.decode_encode digits]
  cases bytes with
  | nil => exact absurd rfl present
  | cons first rest => rfl

variable (crypto : Crypto)

theorem bytes_of_mac (key : List UInt8) (data : String) :
    bytesOf (hmacSha256 crypto key data) = some (crypto.mac key (utf8 data)) := by
  apply bytes_of_hex
  intro empty
  have sized := crypto.mac_length key (utf8 data)
  rw [empty] at sized
  cases sized

/-- The key of a day, a region and a service, as the signature's definition derives it. -/
def derivedKey (secretKey date region service : String) : List UInt8 :=
  crypto.mac (crypto.mac
    (crypto.mac (crypto.mac (utf8 ("AWS4" ++ secretKey)) (utf8 date)) (utf8 region))
    (utf8 service)) (utf8 "aws4_request")

/-- The detour over hexadecimal text changes no key. -/
theorem signing_key_derived (secretKey date region service : String) :
    getSigningKey crypto secretKey date region service =
      some (derivedKey crypto secretKey date region service) := by
  simp only [getSigningKey, bytes_of_mac, Option.bind_eq_bind, Option.bind_some, derivedKey]

end Keys

section Dates

theorem pad_digits (width number : Nat) (positive : 0 < width) (fits : number < 10 ^ width) :
    (pad width number).length = width ∧ ∀ letter ∈ pad width number, letter.isDigit = true := by
  have letters : pad width number = (Numerals.fixed 10 width number).map
    RefreshTokens.letterOf := by
    simp only [pad, padStart, RefreshTokens.toString, String.toList_ofList]
    rw [RefreshTokens.padded_letters, Numerals.padded_fits width number positive fits]
  have plain : ∀ digit < 10, (RefreshTokens.letterOf digit).isDigit = true := by decide
  rw [letters]
  refine ⟨by rw [List.length_map, Numerals.fixed_length (by decide)], fun letter member => ?_⟩
  obtain ⟨digit, inside, rfl⟩ := List.mem_map.mp member
  exact plain digit (Numerals.fixed_digit (by decide) width number digit inside)

theorem mark_dropped (letter : Char) (rest : List Char) (mark : letter = ':' ∨ letter = '-') :
    withoutMarks (letter :: rest) = withoutMarks rest := by
  conv => lhs; unfold withoutMarks
  rw [if_pos mark]

theorem letter_kept (letter : Char) (rest : List Char)
    (plain : letter ≠ ':' ∧ letter ≠ '-' ∧ letter ≠ '.') :
    withoutMarks (letter :: rest) = letter :: withoutMarks rest := by
  conv => lhs; unfold withoutMarks
  rw [if_neg (by simp [plain.1, plain.2.1])]
  split
  · exact absurd rfl plain.2.2
  · rfl

theorem digits_kept (digits rest : List Char) (plain : ∀ letter ∈ digits, letter.isDigit = true) :
    withoutMarks (digits ++ rest) = digits ++ withoutMarks rest := by
  induction digits with
  | nil => rfl
  | cons first others ih =>
      have digit := plain first List.mem_cons_self
      have mark : first ≠ ':' ∧ first ≠ '-' := by
        constructor <;> (rintro rfl; exact absurd digit (by decide))
      have dot : first ≠ '.' := by
        rintro rfl
        exact absurd digit (by decide)
      rw [List.cons_append, letter_kept first _ ⟨mark.1, mark.2, dot⟩,
        ih fun letter member => plain letter (List.mem_cons_of_mem _ member), List.cons_append]

theorem fraction_dropped (digits rest : List Char) (three : digits.length = 3)
    (plain : ∀ letter ∈ digits, letter.isDigit = true) :
    withoutMarks ('.' :: (digits ++ rest)) = withoutMarks rest := by
  match digits, three with
  | [first, second, third], _ =>
      have one := plain first (by simp)
      have two := plain second (by simp)
      have last := plain third (by simp)
      simp [withoutMarks, one, two, last]

def dayLetters (now : Instant) : List Char := pad 4 now.year ++ (pad 2 now.month ++ pad 2 now.day)

def clockLetters (now : Instant) : List Char :=
    pad 2 now.hours ++ (pad 2 now.minutes ++ pad 2 now.seconds)

variable (now : Instant)

theorem day_digits : (dayLetters now).length = 8 ∧ ∀ letter ∈ dayLetters now,
    letter.isDigit = true := by
  obtain ⟨year, month, day⟩ := now.calendar
  have yearDigits := pad_digits 4 now.year (by omega) (by omega)
  have monthDigits := pad_digits 2 now.month (by omega) (by omega)
  have dayDigits := pad_digits 2 now.day (by omega) (by omega)
  constructor
  · simp [dayLetters, yearDigits.1, monthDigits.1, dayDigits.1]
  · intro letter member
    simp only [dayLetters, List.mem_append] at member
    rcases member with inYear | inMonth | inDay
    · exact yearDigits.2 letter inYear
    · exact monthDigits.2 letter inMonth
    · exact dayDigits.2 letter inDay

theorem date_letters : (dateOf now).toList = dayLetters now := by
  obtain ⟨year, month, day⟩ := now.calendar
  have yearDigits := pad_digits 4 now.year (by omega) (by omega)
  have monthDigits := pad_digits 2 now.month (by omega) (by omega)
  have dayDigits := pad_digits 2 now.day (by omega) (by omega)
  have kept : ∀ digits : List Char, (∀ letter ∈ digits, letter.isDigit = true) →
      digits.filter (· ≠ '-') = digits := by
    intro digits plain
    rw [List.filter_eq_self]
    intro letter member
    rw [decide_eq_true_eq]
    rintro rfl
    exact absurd (plain '-' member) (by decide)
  have front : (toISOString now).take 10 =
      pad 4 now.year ++ '-' :: (pad 2 now.month ++ '-' :: pad 2 now.day) := by
    have split : toISOString now =
      (pad 4 now.year ++ '-' :: (pad 2 now.month ++ '-' :: pad 2 now.day)) ++
        ('T' :: (pad 2 now.hours ++ ':' :: (pad 2 now.minutes ++ ':' :: (pad 2 now.seconds ++
          '.' :: (pad 3 now.milliseconds ++ ['Z']))))) := by
      simp [toISOString]
    rw [split, List.take_left']
    simp [yearDigits.1, monthDigits.1, dayDigits.1]
  rw [dateOf, String.toList_ofList, front]
  simp only [List.filter_append, List.filter_cons, kept _ yearDigits.2, kept _ monthDigits.2,
    kept _ dayDigits.2]
  simp [dayLetters]

theorem datetime_letters :
    (datetimeOf now).toList = dayLetters now ++ 'T' :: (clockLetters now ++ ['Z']) := by
  obtain ⟨year, month, day⟩ := now.calendar
  obtain ⟨hours, minutes, seconds, fraction⟩ := now.clock
  have yearDigits := pad_digits 4 now.year (by omega) (by omega)
  have monthDigits := pad_digits 2 now.month (by omega) (by omega)
  have dayDigits := pad_digits 2 now.day (by omega) (by omega)
  have hourDigits := pad_digits 2 now.hours (by omega) (by omega)
  have minuteDigits := pad_digits 2 now.minutes (by omega) (by omega)
  have secondDigits := pad_digits 2 now.seconds (by omega) (by omega)
  have fractionDigits := pad_digits 3 now.milliseconds (by omega) (by omega)
  have shape : toISOString now = pad 4 now.year ++ '-' ::
    (pad 2 now.month ++ '-' :: (pad 2 now.day ++
      'T' :: (pad 2 now.hours ++ ':' :: (pad 2 now.minutes ++ ':' :: (pad 2 now.seconds ++
        '.' :: (pad 3 now.milliseconds ++ ['Z'])))))) := by
    simp [toISOString]
  rw [datetimeOf, String.toList_ofList, shape, digits_kept _ _ yearDigits.2,
    mark_dropped '-' _ (by decide), digits_kept _ _ monthDigits.2, mark_dropped '-' _ (by decide),
    digits_kept _ _ dayDigits.2, letter_kept 'T' _ (by decide), digits_kept _ _ hourDigits.2,
    mark_dropped ':' _ (by decide), digits_kept _ _ minuteDigits.2, mark_dropped ':' _ (by decide),
    digits_kept _ _ secondDigits.2, fraction_dropped _ _ fractionDigits.1 fractionDigits.2,
    letter_kept 'Z' [] (by decide)]
  simp [dayLetters, clockLetters, withoutMarks]

end Dates

end TopInspect.AwsSignature
