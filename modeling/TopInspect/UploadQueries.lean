import TopInspect.SignedUploads

/-! The query of an upload on its way from the app to the API: encodeURIComponent of
use-image-upload.ts, the query state of the URL parser, and validateQuery, whose reading of
queries is a parameter. -/
namespace TopInspect.UploadQueries

open AwsSignature (utf8)
open PercentText (Spells decoded)
open ProtectedRoutes (DirectUploadQuery directUploadQuerySchema)
open UploadSigning (Endpoint alphanum_apart alphanum_bounds)
open UrlPath (hexDigit percentEncode)

section Encoding

/-- What encodeURIComponent leaves as it is. -/
def isComponentLetter (letter : Char) : Bool :=
  letter.isAlphanum || ['-', '_', '.', '!', '~', '*', '\'', '(', ')'].contains letter

def encodeURIComponent (text : String) : List Char :=
  text.toList.flatMap fun letter =>
    if isComponentLetter letter then [letter] else percentEncode letter

/-- The query that uploadProcessedImage builds. -/
def uploadQuery (key contentType : String) : List Char :=
  "key=".toList ++ encodeURIComponent key ++ "&contentType=".toList ++
    encodeURIComponent contentType

/-- The special-query percent-encode set. -/
def isQueryEncoded (letter : Char) : Bool :=
  letter.toNat ≤ 0x1F || 0x7E < letter.toNat || [' ', '"', '#', '<', '>', '\''].contains letter

def queryState (query : List Char) : List Char :=
  query.flatMap fun letter => if isQueryEncoded letter then percentEncode letter else [letter]

end Encoding

section Reading

/-- An encoded name or value of a query. -/
structure Component (encoded : List Char) (text : String) : Prop where
  spells : Spells encoded (utf8 text)
  inside : '&' ∉ encoded ∧ '=' ∉ encoded ∧ '+' ∉ encoded

structure Parameter where
  encodedName : List Char
  encodedValue : List Char
  name : String
  value : String
  named : Component encodedName name
  valued : Component encodedValue value

def Parameter.text (parameter : Parameter) : List Char :=
  parameter.encodedName ++ '=' :: parameter.encodedValue

def joined (parameters : List Parameter) : List Char :=
    ['&'].intercalate (parameters.map Parameter.text)

/-- Each parameter of a query is read, under its name and in its place. -/
structure ReadsQueries (values : List Char → String → List String) : Prop where
  reads : ∀ (parameters : List Parameter) (name : String),
    values (joined parameters) name = ((parameters.filter (·.name = name)).map Parameter.value)

variable (values : List Char → String → List String)

/-- What validateQuery hands on: a schema of texts takes no parameter that is given twice. -/
def validateQuery (query : List Char) : Option DirectUploadQuery :=
  match values query "key", values query "contentType" with
  | [key], [contentType] =>
      if directUploadQuerySchema { key, contentType } then some { key, contentType } else none
  | _, _ => none

end Reading

section Letters

/-- One letter on its way: encoded by one of the two, or by none. -/
def carried (letter : Char) : List Char :=
  if isComponentLetter letter && letter ≠ '\'' then [letter] else percentEncode letter

/-- Letters that separate nothing in a query, and that the parser leaves alone. -/
def isInert (letter : Char) : Bool :=
  !isQueryEncoded letter && letter ≠ '&' && letter ≠ '=' && letter ≠ '+'

theorem hex_inert (n : Nat) : isInert (hexDigit n) = true := by
  have all : ∀ letter ∈ '0' :: "0123456789ABCDEF".toList, isInert letter = true :=
    List.all_eq_true.mp (by decide)
  apply all
  unfold hexDigit
  rw [List.getD_eq_getElem?_getD]
  cases found : "0123456789ABCDEF".toList[n]? with
  | none => exact List.mem_cons_self
  | some letter => exact List.mem_cons_of_mem _ (List.mem_of_getElem? found)

theorem encoded_inert (letter : Char) : ∀ other ∈ percentEncode letter, isInert other = true := by
  intro other member
  obtain ⟨byte, -, spelled⟩ := List.mem_flatMap.mp member
  simp only [List.mem_cons, List.not_mem_nil, or_false] at spelled
  rcases spelled with rfl | rfl | rfl
  · decide
  · exact hex_inert _
  · exact hex_inert _

theorem component_inert (letter : Char) (plain : isComponentLetter letter = true)
    (quote : letter ≠ '\'') :
    isInert letter = true := by
  simp only [isComponentLetter, Bool.or_eq_true, List.contains_eq_mem, decide_eq_true_eq,
    List.mem_cons, List.not_mem_nil, or_false] at plain
  rcases plain with named | rfl | rfl | rfl | rfl | rfl | rfl | rfl | rfl | rfl
  · have bounds := alphanum_bounds letter named
    have apart := fun other => alphanum_apart letter other named
    simp only [isInert, isQueryEncoded, Bool.and_eq_true, Bool.not_eq_true', Bool.or_eq_false_iff,
      decide_eq_false_iff_not, List.contains_eq_mem, List.mem_cons, List.not_mem_nil, or_false,
        not_or, decide_eq_true_eq]
    refine ⟨⟨⟨⟨by omega, ?_⟩, apart '&' (by decide)⟩, apart '=' (by decide)⟩, apart '+' (by decide)⟩
    and_intros
    all_goals exact apart _ (by decide)
  all_goals first | exact absurd rfl quote | decide

theorem carried_inert (letter : Char) : ∀ other ∈ carried letter, isInert other = true := by
  unfold carried
  split
  · next kept =>
      simp only [Bool.and_eq_true, decide_eq_true_eq] at kept
      intro other member
      rw [List.mem_singleton.mp member]
      exact component_inert letter kept.1 kept.2
  · exact encoded_inert letter

theorem query_inert (text : List Char) (inert : ∀ letter ∈ text, isInert letter = true) :
    queryState text = text := by
  induction text with
  | nil => rfl
  | cons letter rest ih =>
      have first := inert letter List.mem_cons_self
      simp only [isInert, Bool.and_eq_true, Bool.not_eq_true'] at first
      have later := ih fun other member => inert other (List.mem_cons_of_mem _ member)
      simp only [queryState, List.flatMap_cons, first.1.1.1] at later ⊢
      rw [later]
      rfl

/-- What the two encodings make of a text together. -/
theorem query_component (text : String) :
    queryState (encodeURIComponent text) = text.toList.flatMap carried := by
  rw [encodeURIComponent]
  induction text.toList with
  | nil => rfl
  | cons letter rest ih =>
      simp only [queryState, List.flatMap_cons, List.flatMap_append] at ih ⊢
      rw [ih]
      congr 1
      unfold carried
      by_cases plain : isComponentLetter letter = true
      -- The apostrophe alone passes the first encoding and is caught by the second.
      · by_cases quote : letter = '\''
        · subst quote
          decide
        · have alone := query_inert [letter] (by simpa using component_inert letter plain quote)
          rw [if_pos plain, if_pos (by simp [plain, quote])]
          simpa [queryState] using alone
      · rw [if_neg plain, if_neg (by simp [plain])]
        exact query_inert _ (encoded_inert letter)

end Letters

section Spelling

theorem carried_spells (text : String) : Spells (text.toList.flatMap carried) (utf8 text) := by
  apply PercentText.spells_flat
  intro letter rest bytes spells
  unfold carried
  split
  · next kept =>
      simp only [Bool.and_eq_true, decide_eq_true_eq] at kept
      have plain : letter ≠ '%' := by
        rintro rfl
        exact absurd kept.1 (by decide)
      exact Spells.plain letter plain spells
  · exact PercentText.spells_encoded letter spells

theorem carried_free (text : String) (mark : Char) (separates : isInert mark = false) :
    mark ∉ text.toList.flatMap carried := by
  intro member
  obtain ⟨letter, -, inside⟩ := List.mem_flatMap.mp member
  rw [carried_inert letter mark inside] at separates
  cases separates

theorem component_carried (text : String) : Component (text.toList.flatMap carried) text :=
  ⟨carried_spells text, carried_free text '&' (by decide), carried_free text '=' (by decide),
    carried_free text '+' (by decide)⟩

theorem component_plain (name : String)
    (plain : name.toList.all (fun letter => letter.isAlpha) = true) :
    Component name.toList name := by
  have apart : ∀ mark : Char, mark.isAlpha = false → mark ∉ name.toList := by
    intro mark unlettered member
    rw [List.all_eq_true.mp plain mark member] at unlettered
    cases unlettered
  exact ⟨PercentText.spells_plain _ (apart '%' (by decide)), apart '&' (by decide),
    apart '=' (by decide),
    apart '+' (by decide)⟩

def sent (name value : String) (plain : name.toList.all (fun letter => letter.isAlpha) = true) :
    Parameter where
  encodedName := name.toList
  encodedValue := value.toList.flatMap carried
  name
  value
  named := component_plain name plain
  valued := component_carried value

end Spelling

section Requests

/-- The URL that uploadProcessedImage asks for. -/
def uploadUrl (base : Endpoint) (key contentType : String) : String :=
  base.text ++ "/upload/direct?" ++ String.ofList (uploadQuery key contentType)

theorem encoded_letters (text : String) (letter : Char)
    (member : letter ∈ encodeURIComponent text) :
    letter = '\'' ∨ isInert letter = true := by
  obtain ⟨own, -, inside⟩ := List.mem_flatMap.mp member
  split at inside
  · next plain =>
      rw [List.mem_singleton.mp inside]
      by_cases quote : own = '\''
      · exact Or.inl quote
      · exact Or.inr (component_inert own plain quote)
  · exact Or.inr (encoded_inert own letter inside)

theorem fixed_letters (text : List Char)
    (all : text.all (fun letter => 0x20 < letter.toNat && letter ≠ '#') = true) :
    ∀ letter ∈ text, 0x20 < letter.toNat ∧ letter ≠ '#' := by
  intro letter member
  simpa using List.all_eq_true.mp all letter member

theorem query_letters (key contentType : String) :
    ∀ letter ∈ uploadQuery key contentType, 0x20 < letter.toNat ∧ letter ≠ '#' := by
  have encoded : ∀ text : String, ∀ letter ∈ encodeURIComponent text, 0x20 < letter.toNat ∧
    letter ≠ '#' := by
    intro text letter member
    rcases encoded_letters text letter member with rfl | inert
    · decide
    · simp only [isInert, isQueryEncoded, Bool.and_eq_true, Bool.not_eq_true', Bool.or_eq_false_iff,
        decide_eq_false_iff_not, List.contains_eq_mem, List.mem_cons, List.not_mem_nil, or_false,
          not_or] at inert
      obtain ⟨⟨⟨⟨⟨low, -⟩, blank, -, hash, -⟩, -⟩, -⟩, -⟩ := inert
      have apart : letter.toNat ≠ 0x20 := fun same => blank (Char.toNat_inj.mp same)
      exact ⟨by omega, hash⟩
  intro letter member
  simp only [uploadQuery, List.mem_append] at member
  rcases member with ((first | inKey) | second) | inType
  · exact fixed_letters _ (by decide) letter first
  · exact encoded key letter inKey
  · exact fixed_letters _ (by decide) letter second
  · exact encoded contentType letter inType

theorem url_letters (base : Endpoint) (key contentType : String) :
    (uploadUrl base key contentType).toList =
      "https://".toList ++
      (base.host.toList ++ "/upload/direct?".toList ++ uploadQuery key contentType) := by
  simp [uploadUrl, UploadSigning.Endpoint.text]

theorem url_clean (base : Endpoint) (key contentType : String) :
    UrlPath.cleaned (uploadUrl base key contentType).toList =
      (uploadUrl base key contentType).toList := by
  apply SignedUploads.cleaned_solid
  intro letter member
  rw [url_letters] at member
  simp only [List.mem_append] at member
  rcases member with scheme | (host | path) | query
  · exact (fixed_letters _ (by decide) letter scheme).1
  · exact (UrlPath.plain_above letter (SignedUploads.host_plain base letter host).1).1
  · exact (fixed_letters _ (by decide) letter path).1
  · exact (query_letters key contentType letter query).1

theorem query_target (base : Endpoint) (key contentType : String) :
    UrlPath.target (uploadUrl base key contentType).toList =
      some { path := "/upload/direct".toList, query := some (uploadQuery key contentType) } := by
  -- The host of an endpoint has none of the letters that end an authority.
  have named : (base.host.toList ++ "/upload/direct?".toList ++ uploadQuery key
    contentType).dropWhile
      (fun letter => !UrlPath.endsAuthority letter) = "/upload/direct?".toList ++ uploadQuery key
        contentType := by
    rw [List.append_assoc,
      List.dropWhile_append_of_pos fun letter member =>
        by simp [(SignedUploads.host_plain base letter member).2]]
    rfl
  have walked : UrlPath.pathStart ("/upload/direct?".toList ++ uploadQuery key contentType) =
      (["upload".toList, "direct".toList], '?' :: uploadQuery key contentType) := rfl
  have whole : (uploadQuery key contentType).takeWhile (· ≠ '#') = uploadQuery key contentType := by
    rw [List.takeWhile_eq_self_iff]
    intro letter member
    simpa using (query_letters key contentType letter member).2
  simp only [UrlPath.target, url_clean]
  rw [url_letters, List.dropPrefix?_append_of_beq _ BEq.rfl, Option.map_some, named, walked]
  simp only [whole]
  rfl

theorem sent_query (key contentType : String) : queryState (uploadQuery key contentType) =
    "key=".toList ++ key.toList.flatMap carried ++ "&contentType=".toList ++
    contentType.toList.flatMap carried := by
  have first : queryState "key=".toList = "key=".toList := by decide
  have second : queryState "&contentType=".toList = "&contentType=".toList := by decide
  have split : ∀ left right : List Char,
    queryState (left ++ right) = queryState left ++ queryState right :=
    fun left right => List.flatMap_append
  rw [uploadQuery, split, split, split, first, second, query_component, query_component]

/-- validateQuery takes the query for exactly the key and the content type that the app has put
there. -/
theorem queries_kept (values : List Char → String → List String) (reads : ReadsQueries values)
    (base : Endpoint) (key contentType : String) :
    ∃ query, UrlPath.target (uploadUrl base key contentType).toList =
        some { path := "/upload/direct".toList, query := some query } ∧
      validateQuery values (queryState query) =
        if directUploadQuerySchema { key, contentType } then some { key, contentType } else
          none := by
  have parameters : queryState (uploadQuery key contentType) =
      joined [sent "key" key (by decide), sent "contentType" contentType (by decide)] := by
    rw [sent_query]
    simp [joined, Parameter.text, sent]
  refine ⟨uploadQuery key contentType, query_target base key contentType, ?_⟩
  rw [parameters, validateQuery, reads.reads, reads.reads]
  rfl

end Requests

/-! A reader that cuts a query at its separators and decodes the pieces. -/
section Forms

def textOf (bytes : List UInt8) : Option String :=
  bytes.toByteArray.utf8Decode?.map fun letters => String.ofList letters.toList

def component (text : List Char) : Option String :=
  textOf (decoded (text.map fun letter => if letter = '+' then ' ' else letter))

def formValues (query : List Char) (name : String) : List String :=
  ((query.splitOn '&').filter (· ≠ [])).filterMap fun piece =>
    if component (piece.takeWhile (· ≠ '=')) = some name then component
      ((piece.dropWhile (· ≠ '=')).drop 1)
    else none

theorem text_utf8 (text : String) : textOf (utf8 text) = some text := by
  have encoded : (utf8 text).toByteArray = text.toList.utf8Encode := rfl
  rw [textOf, encoded, List.utf8Decode?_utf8Encode]
  simp

theorem component_read (encoded : List Char) (text : String) (spelled : Component encoded text) :
    component encoded = some text := by
  have same : encoded.map (fun letter => if letter = '+' then ' ' else letter) = encoded := by
    refine (List.map_congr_left fun letter member => ?_).trans (List.map_id _)
    rw [if_neg]
    · rfl
    · rintro rfl
      exact spelled.inside.2.2 member
  rw [component, same, PercentText.decoded_spelled spelled.spells, text_utf8]

theorem piece_parts (name value : List Char) (free : '=' ∉ name) :
    (name ++ '=' :: value).takeWhile (· ≠ '=') = name ∧
      ((name ++ '=' :: value).dropWhile (· ≠ '=')).drop 1 = value := by
  have all : ∀ letter ∈ name, decide (letter ≠ '=') = true := by
    intro letter member
    rw [decide_eq_true_eq]
    rintro rfl
    exact free member
  constructor
  · rw [List.takeWhile_append_of_pos all]
    simp
  · rw [List.dropWhile_append_of_pos all]
    simp

theorem form_reads : ReadsQueries formValues := by
  constructor
  intro parameters name
  -- No name and no value has a separator in it, so the cuts give the parameters back.
  have pieces : ((joined parameters).splitOn '&').filter (· ≠ []) = parameters.map
    Parameter.text := by
    cases parameters with
    | nil => rfl
    | cons first rest =>
        rw [joined, List.splitOn_intercalate]
        · rw [List.filter_eq_self]
          intro piece member
          obtain ⟨parameter, -, rfl⟩ := List.mem_map.mp member
          simp [Parameter.text]
        · intro piece member
          obtain ⟨parameter, -, rfl⟩ := List.mem_map.mp member
          simp [Parameter.text, parameter.named.inside.1, parameter.valued.inside.1]
        · simp
  rw [formValues, pieces]
  clear pieces
  induction parameters with
  | nil => rfl
  | cons first rest ih =>
      obtain ⟨front, back⟩ :=
        piece_parts first.encodedName first.encodedValue first.named.inside.2.1
      rw [List.map_cons, List.filterMap_cons, ih, Parameter.text, front, back,
        component_read _ _ first.named, component_read _ _ first.valued]
      by_cases same : first.name = name
      · rw [if_pos (congrArg some same), List.filter_cons_of_pos (by simpa using same),
          List.map_cons]
      · rw [if_neg fun other => same (Option.some.inj other),
          List.filter_cons_of_neg (by simpa using same)]

theorem queries_kept_cat :
    ∃ query, UrlPath.target (uploadUrl UploadSigning.account "my cat.jpg" "image/jpeg").toList =
      some { path := "/upload/direct".toList, query := some query } ∧
    validateQuery formValues (queryState query) = some { key := "my cat.jpg",
                                                         contentType := "image/jpeg" } :=
  queries_kept formValues form_reads UploadSigning.account "my cat.jpg" "image/jpeg"

end Forms

end TopInspect.UploadQueries
