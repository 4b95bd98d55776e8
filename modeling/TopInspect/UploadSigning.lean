import TopInspect.ProtectedRoutes
import TopInspect.UrlPath

/-! The request directUpload of handlers/upload.ts sends to the storage service, and the
path it has generateAwsSignatureV4 put into the canonical request, as it is and with an
empty query string. -/
namespace TopInspect.UploadSigning

open ProtectedRoutes (directUploadQuerySchema DirectUploadQuery)
open UrlPath

def isHostLetter (letter : Char) : Bool := letter.isAlphanum || ['-', '.', ':'].contains letter

def isNumeral (largest : Nat) (digits : List Char) : Bool :=
  digits.all Char.isDigit &&
    digits.foldl (fun total digit => 10 * total + (digit.toNat - '0'.toNat)) 0 ≤ largest

-- Labels of other scripts have a spelling of their own, which the parser checks.
def isLabel (label : List Char) : Bool :=
  label ≠ [] && !("xn--".toList.isPrefixOf (label.map Char.toLower))

/-- A last label that has the parser read the name as an address. -/
def isNumber (label : List Char) : Bool :=
  label.all Char.isDigit || "0x".toList.isPrefixOf (label.map Char.toLower)

def isName (name : List Char) : Bool :=
  let labels := name.splitOn '.'
  if labels.getLast?.any isNumber then
    labels.length = 4 &&
      labels.all fun label => isNumeral 255 label && (label = ['0'] || label.head?.any (· ≠ '0'))
  else labels.all isLabel

/-- A name or an address, with a port or without, that the parser of URLs takes. -/
def isHost (host : List Char) : Bool :=
  match host.splitOn ':' with
  | [name] => isName name
  | [name, port] => isName name && isNumeral 65535 port
  | _ => false

example : ["", "a:b", "1.2.3.999", "1.2.3.4:9000"].map (fun host => isHost host.toList) =
    [false, false, false, true] := by decide

structure Endpoint where
  host : String
  plain : ∀ letter ∈ host.toList, isHostLetter letter = true
  named : isHost host.toList = true

def Endpoint.text (endpoint : Endpoint) : String := "https://" ++ endpoint.host

/-- A bucket name without special characters. -/
structure Bucket where
  name : String
  present : name ≠ ""
  plain : ∀ letter ∈ name.toList, letter.isAlphanum = true ∨ letter ∈ ['-', '.', '_']
  undotted : isDot name.toList = false

def uploadUrl (endpoint : Endpoint) (bucket : Bucket) (key : String) : String :=
  endpoint.text ++ "/" ++ bucket.name ++ "/" ++ key

def signedPath (bucket : Bucket) (key : String) : String := "/" ++ bucket.name ++ "/" ++ key

/-- The request sent has the path that is signed and no query, inside the bucket. -/
structure SentAsSigned (endpoint : Endpoint) (bucket : Bucket) (key : String) : Prop where
  sent : ∃ target, UrlPath.target (uploadUrl endpoint bucket key).toList = some target ∧
    target.path = (signedPath bucket key).toList ∧ target.query = none ∧
    ("/" ++ bucket.name ++ "/").toList <+: target.path

/-- A key of letters that a URL path keeps, no segment of which is a dot segment. -/
def PathSafe (key : String) : Prop := Fixed key.toList

theorem alphanum_apart (letter other : Char) (named : letter.isAlphanum = true)
    (mark : other.isAlphanum = false) : letter ≠ other := by
  rintro rfl
  rw [named] at mark
  exact absurd mark (by decide)

theorem alphanum_bounds (letter : Char) (named : letter.isAlphanum = true) :
    48 ≤ letter.toNat ∧ letter.toNat ≤ 122 := by
  simp only [Char.isAlphanum, Char.isAlpha, Char.isUpper, Char.isLower, Char.isDigit,
    Bool.or_eq_true, Bool.and_eq_true, decide_eq_true_eq, ge_iff_le,
    UInt32.le_iff_toNat_le] at named
  change ((65 ≤ letter.toNat ∧ letter.toNat ≤ 90) ∨ (97 ≤ letter.toNat ∧ letter.toNat ≤ 122)) ∨
    (48 ≤ letter.toNat ∧ letter.toNat ≤ 57) at named
  omega

theorem alphanum_plain (letter : Char)
    (plain : letter.isAlphanum = true ∨ letter ∈ ['-', '.', '_', ':']) :
    isPlain letter = true ∧ endsAuthority letter = false := by
  rcases plain with named | mark
  · have apart := fun other => alphanum_apart letter other named
    have bounds := alphanum_bounds letter named
    have unencoded : isEncoded letter = false := by
      simp only [isEncoded, Bool.or_eq_false_iff, decide_eq_false_iff_not, List.contains_eq_mem,
        List.mem_cons, List.not_mem_nil, or_false, not_or]
      refine ⟨by omega, ?_⟩
      and_intros
      all_goals exact apart _ (by decide)
    constructor
    · simp [isPlain, unencoded, apart '/' (by decide), apart '\\' (by decide)]
    · simp [endsAuthority, apart '/' (by decide), apart '\\' (by decide),
        apart '?' (by decide), apart '#' (by decide)]
  · simp only [List.mem_cons, List.not_mem_nil, or_false] at mark
    rcases mark with rfl | rfl | rfl | rfl
    all_goals exact ⟨by decide, by decide⟩

theorem url_letters (endpoint : Endpoint) (bucket : Bucket) (key : String) :
    (uploadUrl endpoint bucket key).toList =
      "https://".toList ++
      (endpoint.host.toList ++ '/' :: (bucket.name.toList ++ '/' :: key.toList)) := by
  simp [uploadUrl, Endpoint.text]

theorem signed_letters (bucket : Bucket) (key : String) :
    (signedPath bucket key).toList = '/' :: (bucket.name.toList ++ '/' :: key.toList) := by
  simp [signedPath]

theorem bucket_plain (bucket : Bucket) (letter : Char) (member : letter ∈ bucket.name.toList) :
    isPlain letter = true := by
  apply And.left
  apply alphanum_plain
  rcases bucket.plain letter member with named | mark
  · exact Or.inl named
  · apply Or.inr
    simp only [List.mem_cons, List.not_mem_nil, or_false] at mark ⊢
    tauto

theorem bucket_split (bucket : Bucket) (key : List Char) :
    (bucket.name.toList ++ '/' :: key).splitOn '/' = bucket.name.toList :: key.splitOn '/' := by
  apply List.splitOn_append_cons_self_of_not_mem
  intro member
  exact absurd (bucket_plain bucket '/' member) (by decide)

theorem sent_as_signed (endpoint : Endpoint) (bucket : Bucket) (key contentType : String)
    (_ : directUploadQuerySchema { key, contentType } = true) :
    SentAsSigned endpoint bucket key ↔ PathSafe key := by
  constructor
  · rintro ⟨found, parses, path, -, -⟩
    obtain ⟨segments, serialized, settled⟩ := target_settled _ found parses
    rw [signed_letters] at path
    -- The parsed path has the segments of the signed one, and parsed segments are settled.
    have split : [] :: segments = [] :: bucket.name.toList :: key.toList.splitOn '/' := by
      rw [← serialize_split segments settled, ← serialized, path, ← bucket_split bucket key.toList]
      exact List.splitOn_append_cons_self_of_not_mem (List.not_mem_nil : '/' ∉ []) _
    obtain rfl : segments = bucket.name.toList :: key.toList.splitOn '/' := (List.cons.inj split).2
    constructor
    · intro letter member
      have inside : letter ∈ serialize (bucket.name.toList :: key.toList.splitOn '/') := by
        rw [← serialized, path]
        simp [member]
      obtain ⟨segment, among, held⟩ := List.mem_flatMap.mp inside
      rcases List.mem_cons.mp held with slash | own
      · exact Or.inr slash
      · exact Or.inl ((settled segment among).plain letter own)
    · intro segment among
      exact (settled segment (List.mem_cons_of_mem _ among)).undotted
  · intro safe
    -- A safe key leaves the parser nothing to change.
    have fixed : Fixed (bucket.name.toList ++ '/' :: key.toList) := by
      constructor
      · intro letter member
        rcases List.mem_append.mp member with own | rest
        · exact Or.inl (bucket_plain bucket letter own)
        · rcases List.mem_cons.mp rest with slash | inside
          · exact Or.inr slash
          · exact safe.plain letter inside
      · rw [bucket_split]
        intro segment member
        rcases List.mem_cons.mp member with rfl | later
        · exact bucket.undotted
        · exact safe.undotted segment later
    have authority : ∀ letter ∈ endpoint.host.toList,
        isPlain letter = true ∧ endsAuthority letter = false := by
      intro letter member
      apply alphanum_plain
      have host := endpoint.plain letter member
      simp only [isHostLetter, Bool.or_eq_true, List.contains_eq_mem, decide_eq_true_eq] at host
      rcases host with named | mark
      · exact Or.inl named
      · apply Or.inr
        simp only [List.mem_cons, List.not_mem_nil, or_false] at mark ⊢
        tauto
    refine ⟨_, (congrArg target (url_letters endpoint bucket key)).trans
      (target_fixed endpoint.host.toList _ authority fixed), ?_, rfl, ?_⟩
    · rw [signed_letters]
    · exact ⟨key.toList, by simp⟩

def account : Endpoint where
  host := "acct.r2.cloudflarestorage.com"
  plain := List.all_eq_true.mp (by decide)
  named := by decide

def images : Bucket where
  name := "images"
  present := by decide
  plain := fun letter member =>
    Or.inl (List.all_eq_true.mp
      (by decide : "images".toList.all Char.isAlphanum = true) letter member)
  undotted := by decide

theorem sent_as_signed_image : SentAsSigned account images "k3v9.jpg" ↔ PathSafe "k3v9.jpg" :=
  sent_as_signed account images "k3v9.jpg" "image/jpeg" (by decide)

-- A question mark starts a query, and a dot segment leaves the bucket.
theorem sent_unsigned :
    (directUploadQuerySchema { key := "cats?.jpg", contentType := "image/jpeg" } = true ∧
      ¬ SentAsSigned account images "cats?.jpg") ∧
      directUploadQuerySchema { key := "../cats.jpg", contentType := "image/jpeg" } = true ∧
      ¬ SentAsSigned account images "../cats.jpg" := by
  have query : (target (uploadUrl account images "cats?.jpg").toList).map Target.query =
      some (some ".jpg".toList) := by decide
  have outside : (target (uploadUrl account images "../cats.jpg").toList).map Target.path =
      some "/cats.jpg".toList := by decide
  refine ⟨⟨by decide, ?_⟩, by decide, ?_⟩
  · rintro ⟨found, parses, -, none, -⟩
    rw [parses, Option.map_some, none] at query
    simp at query
  · rintro ⟨found, parses, path, -, -⟩
    rw [parses, Option.map_some, path] at outside
    exact absurd outside (by decide)

end TopInspect.UploadSigning
