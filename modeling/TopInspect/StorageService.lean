import TopInspect.AwsSignature
import TopInspect.PercentText
import TopInspect.Sha256

/-! What a storage service documents of the paths it reads and of the signatures it takes.
The service itself is a parameter, and one that does as documented comes last. -/
namespace TopInspect.StorageService

open AwsSignature
open PercentText (Spells decoded)

structure Request where
  method : String
  path : List Char
  query : Option (List Char)
  headers : List (String × String)

def Request.header (request : Request) (name : String) : Option String :=
  (request.headers.find? fun header => header.1 = name).map Prod.snd

structure Service where
  secretOf : String → Option String
  regions : List String
  /-- Whether a time stamp is near enough. -/
  fresh : String → Bool
  /-- The bucket and the object that a path names. -/
  objectName : List Char → List UInt8
  /-- The path as the service spells it in the text to be signed. -/
  canonicalUri : List Char → List Char
  /-- Whether the signature of a request is taken. -/
  verifies : Request → Bool

section Paths

/-- The letters that the signature's definition leaves as they are. -/
def isUnreserved (letter : Char) : Bool := letter.isAlphanum || ['-', '.', '_', '~'].contains letter

def isKept (letter : Char) : Bool := isUnreserved letter || letter = '/'

def uriEncode (byte : UInt8) : List Char :=
  if isKept (Char.ofNat byte.toNat) then [Char.ofNat byte.toNat]
  else ['%', UrlPath.hexDigit (byte.toNat / 16), UrlPath.hexDigit (byte.toNat % 16)]

/-- The object has the bytes of the path for its name, and they are encoded again to be signed. -/
structure ReadsPaths (service : Service) : Prop where
  named : ∀ path bytes, Spells path bytes → service.objectName path = bytes
  encoded : ∀ path, service.canonicalUri path = (service.objectName path).flatMap uriEncode

end Paths

section Signatures

structure Claim where
  accessKeyId : String
  date : String
  region : String
  signedHeaders : List String
  signature : String

namespace Claim
variable (claim : Claim)

def scope : String := claim.date ++ "/" ++ claim.region ++ "/s3/aws4_request"

def names : String := String.ofList ([';'].intercalate (claim.signedHeaders.map String.toList))

def authorization : String :=
  "AWS4-HMAC-SHA256 Credential=" ++ claim.accessKeyId ++ "/" ++ claim.scope ++
    ", SignedHeaders=" ++ claim.names ++ ", Signature=" ++ claim.signature

/-- The host and all headers of the signature's own are signed. -/
def covers (request : Request) : Bool :=
  claim.signedHeaders.contains "host" &&
    request.headers.all fun header =>
      !"x-amz-".toList.isPrefixOf header.1.toList || claim.signedHeaders.contains header.1

/-- The signed headers are named in order, each one sent, and once. -/
def inOrder (request : Request) : Bool :=
  decide (claim.signedHeaders.Pairwise (· < ·)) && decide (request.headers.map Prod.fst).Nodup &&
    claim.signedHeaders.all fun name => (request.header name).any fun value =>
      !value.toList.contains ' '

end Claim

/-- A request without a query and with its payload unsigned, as
the signature's definition spells it. -/
def canonicalRequest (uri : List Char) (request : Request) (claim : Claim) : String :=
  "\n".intercalate ([request.method, String.ofList uri, ""] ++
    claim.signedHeaders.map (fun name => name ++ ":" ++ (request.header name).getD "") ++
      ["", claim.names, "UNSIGNED-PAYLOAD"])

variable (crypto : Crypto)

/-- The signature that such a request must have. -/
def signatureFor (uri : List Char) (request : Request) (claim : Claim) (secret datetime : String) :
    String :=
  let stringToSign := "\n".intercalate ["AWS4-HMAC-SHA256", datetime, claim.scope,
    sha256 crypto (canonicalRequest uri request claim)]
  hexText (crypto.mac (derivedKey crypto secret claim.date claim.region "s3") (utf8 stringToSign))

variable (service : Service)

/-- A request that is signed as the definition of the signature has it. -/
structure ProperlySigned (request : Request) (claim : Claim) (secret datetime : String) : Prop where
  claimed : request.header "authorization" = some claim.authorization
  separated : ',' ∉ claim.accessKeyId.toList ∧ '/' ∉ claim.accessKeyId.toList
  known : service.secretOf claim.accessKeyId = some secret
  region : claim.region ∈ service.regions
  dated : request.header "x-amz-date" = some datetime
  fresh : service.fresh datetime = true
  day : datetime.toList.take 8 = claim.date.toList
  digits : ∀ letter ∈ claim.date.toList, letter.isDigit = true
  covered : claim.covers request = true
  ordered : claim.inOrder request = true
  lettered : ∀ name ∈ claim.signedHeaders, ∀ letter ∈ name.toList, letter.isAlphanum = true ∨
    letter = '-'
  unsigned : request.header "x-amz-content-sha256" = some "UNSIGNED-PAYLOAD"
  unqueried : request.query = none
  signature : claim.signature =
    signatureFor crypto (service.canonicalUri request.path) request claim secret datetime

structure Documented : Prop extends ReadsPaths service where
  verified : ∀ request claim secret datetime,
    ProperlySigned crypto service request claim secret datetime → service.verifies request = true

end Signatures

/-! A service that takes the header apart and computes the signature again. -/
section Storage

def webCrypto : Crypto where
  digest := Sha256.digest
  mac := Sha256.mac
  mac_length := Sha256.mac_length

def parseAuthorization (authorization : String) : Option Claim :=
  match authorization.toList.splitOn ',' with
  | [credential, signedHeaders, signature] => do
      let scope ← credential.dropPrefix? "AWS4-HMAC-SHA256 Credential=".toList
      let signedHeaders ← signedHeaders.dropPrefix? " SignedHeaders=".toList
      let signature ← signature.dropPrefix? " Signature=".toList
      match scope.splitOn '/' with
      | [accessKeyId, date, region, service, terminal] =>
          if service = "s3".toList ∧ terminal = "aws4_request".toList then
            some {
              accessKeyId := String.ofList accessKeyId, date := String.ofList date
              region := String.ofList region
              signedHeaders := (signedHeaders.splitOn ';').map String.ofList
              signature := String.ofList signature }
          else none
      | _ => none
  | _ => none

def regions : List String := ["auto", "us-east-1"]

def secretOf (accessKeyId : String) : Option String :=
    if accessKeyId = "AKID" then some "hush" else none

def canonicalUri (path : List Char) : List Char := (decoded path).flatMap uriEncode

def checks (request : Request) (claim : Claim) (datetime : String) : Bool :=
  match secretOf claim.accessKeyId with
  | some secret =>
      request.query.isNone && regions.contains claim.region && datetime.toList.take 8 =
        claim.date.toList && claim.covers request && claim.inOrder request &&
          request.header "x-amz-content-sha256" = some "UNSIGNED-PAYLOAD" &&
            claim.signature = signatureFor webCrypto (canonicalUri request.path) request claim
              secret datetime
  | none => false

def storage : Service where
  secretOf
  regions
  fresh _ := true
  objectName := decoded
  canonicalUri
  verifies request :=
    match (request.header "authorization").bind parseAuthorization, request.header "x-amz-date" with
    | some claim, some datetime => checks request claim datetime
    | _, _ => false

theorem mem_intercalate {α : Type} (mark : α) (separator : List α) (lists : List (List α))
    (member : mark ∈ separator.intercalate lists) : mark ∈ separator ∨ ∃ list ∈ lists,
    mark ∈ list := by
  induction lists with
  | nil => cases member
  | cons first rest ih =>
      cases rest with
      | nil => exact Or.inr ⟨first, List.mem_cons_self, by simpa using member⟩
      | cons second others =>
          rw [List.intercalate_cons_cons, List.mem_append, List.mem_append] at member
          rcases member with (inFirst | between) | later
          · exact Or.inr ⟨first, List.mem_cons_self, inFirst⟩
          · exact Or.inl between
          · obtain between | ⟨list, among, inside⟩ := ih later
            · exact Or.inl between
            · exact Or.inr ⟨list, List.mem_cons_of_mem first among, inside⟩

theorem parse_written (claim : Claim)
    (access : ',' ∉ claim.accessKeyId.toList ∧ '/' ∉ claim.accessKeyId.toList)
    (day : ',' ∉ claim.date.toList ∧ '/' ∉ claim.date.toList)
    (place : ',' ∉ claim.region.toList ∧ '/' ∉ claim.region.toList)
    (present : claim.signedHeaders ≠ [])
    (names : ∀ name ∈ claim.signedHeaders, ',' ∉ name.toList ∧ ';' ∉ name.toList)
    (hex : ',' ∉ claim.signature.toList) : parseAuthorization claim.authorization = some claim := by
  -- The header, letter by letter, cut where the parser cuts it.
  have letters : claim.authorization.toList =
      ("AWS4-HMAC-SHA256 Credential=".toList ++
        (claim.accessKeyId.toList ++ '/' :: (claim.date.toList ++ '/' ::
        (claim.region.toList ++ '/' :: ("s3".toList ++ '/' :: "aws4_request".toList))))) ++ ',' ::
          (" SignedHeaders=".toList ++ [';'].intercalate (claim.signedHeaders.map String.toList) ++
            ',' :: (" Signature=".toList ++ claim.signature.toList)) := by
    have service : "/s3/aws4_request".toList = '/' ::
      ("s3".toList ++ '/' :: "aws4_request".toList) := by decide
    have headers : ", SignedHeaders=".toList = ',' :: " SignedHeaders=".toList := by decide
    have signature : ", Signature=".toList = ',' :: " Signature=".toList := by decide
    have names : claim.names.toList = [';'].intercalate (claim.signedHeaders.map String.toList) :=
      String.toList_ofList
    have slash : "/".toList = ['/'] := by decide
    unfold Claim.authorization Claim.scope
    simp only [String.toList_append, names, service, headers, signature, slash,
      List.append_assoc, List.cons_append, List.nil_append]
  have credential : ',' ∉ "AWS4-HMAC-SHA256 Credential=".toList ++
    (claim.accessKeyId.toList ++ '/' ::
      (claim.date.toList ++ '/' ::
        (claim.region.toList ++ '/' :: ("s3".toList ++ '/' :: "aws4_request".toList)))) := by
    simp only [List.mem_append, List.mem_cons, access.1, day.1, place.1]
    decide
  have joined : ',' ∉ [';'].intercalate (claim.signedHeaders.map String.toList) := by
    intro member
    rcases mem_intercalate ',' _ _ member with between | ⟨_, among, inside⟩
    · exact absurd between (by decide)
    · obtain ⟨name, signed, rfl⟩ := List.mem_map.mp among
      exact (names name signed).1 inside
  have headers : ',' ∉ " SignedHeaders=".toList ++ [';'].intercalate
    (claim.signedHeaders.map String.toList) := by
    simp only [List.mem_append, joined]
    decide
  have signed : ',' ∉ " Signature=".toList ++ claim.signature.toList := by
    simp only [List.mem_append, hex]
    decide
  have scope : (claim.accessKeyId.toList ++ '/' ::
    (claim.date.toList ++ '/' :: (claim.region.toList ++ '/' ::
      ("s3".toList ++ '/' :: "aws4_request".toList)))).splitOn '/' =
        [claim.accessKeyId.toList, claim.date.toList, claim.region.toList, "s3".toList,
          "aws4_request".toList] := by
    rw [List.splitOn_append_cons_self_of_not_mem access.2,
      List.splitOn_append_cons_self_of_not_mem day.2,
      List.splitOn_append_cons_self_of_not_mem place.2,
        List.splitOn_append_cons_self_of_not_mem (by decide),
      List.splitOn_eq_singleton (by decide)]
  have split : (([';'].intercalate (claim.signedHeaders.map String.toList)).splitOn ';').map
    String.ofList =
      claim.signedHeaders := by
    rw [List.splitOn_intercalate]
    · simp
    · simpa using fun name member => (names name member).2
    · simpa using present
  simp only [parseAuthorization, letters]
  rw [List.splitOn_append_cons_self_of_not_mem credential,
    List.splitOn_append_cons_self_of_not_mem headers,
    List.splitOn_eq_singleton signed]
  simp only [List.dropPrefix?_append_of_beq _ BEq.rfl, Option.bind_eq_bind, Option.bind_some,
    scope, split]
  simp

theorem storage_documented : Documented webCrypto storage := by
  refine { named := ?_, encoded := ?_, verified := ?_ }
  · intro path bytes spells
    exact PercentText.decoded_spelled spells
  · intro path
    rfl
  · intro request claim secret datetime signed
    have read : parseAuthorization claim.authorization = some claim := by
      apply parse_written claim signed.separated
      · exact ⟨fun comma => absurd (signed.digits ',' comma) (by decide),
          fun slash => absurd (signed.digits '/' slash) (by decide)⟩
      · have region : claim.region ∈ regions := signed.region
        simp only [regions, List.mem_cons, List.not_mem_nil, or_false] at region
        rcases region with region | region
        all_goals
          rw [region]
          decide
      · intro empty
        have covered := signed.covered
        simp [Claim.covers, empty] at covered
      · intro name member
        constructor
        · intro comma
          rcases signed.lettered name member ',' comma with named | dash
          · exact absurd named (by decide)
          · exact absurd dash (by decide)
        · intro semicolon
          rcases signed.lettered name member ';' semicolon with named | dash
          · exact absurd named (by decide)
          · exact absurd dash (by decide)
      -- A signature is hexadecimal text, which has no comma.
      · rw [signed.signature, signatureFor, hex_text]
        exact HexText.encode_free ',' (by decide) _
    have known : secretOf claim.accessKeyId = some secret := signed.known
    have region : regions.contains claim.region = true := List.contains_iff_mem.mpr signed.region
    have signature : claim.signature =
        signatureFor webCrypto (canonicalUri request.path) request claim secret datetime :=
          signed.signature
    simp only [storage, signed.claimed, Option.bind_some, read, signed.dated, checks, known]
    simp only [signed.unqueried, region, signed.day, signed.covered, signed.ordered,
      signed.unsigned, ← signature]
    simp

end Storage
end TopInspect.StorageService
