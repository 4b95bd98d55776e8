import TopInspect.JsonText
import TopInspect.ProtectedRoutes

/-! What reaches a handler behind validate(schema): the json middleware of
middlewares/json.ts measures the bodies it takes for JSON, and hono's validator parses
those that it takes for JSON, each by its own reading of the content type. The validator's
reading is a parameter. -/
namespace TopInspect.JsonBodies

open EmailSchema (isSpace lowerAscii)
open ProtectedRoutes (includes jsLength)
open JsonText (isJson)

structure Issue where
  code : String
  message : String
  path : List String
  deriving DecidableEq

def issue (code message : String) : Issue := { code, message, path := ["body"] }

def MAX_BODY_SIZE : Nat := 1024 * 1024

/-- The bytes of a text sent as UTF-8. -/
def byteLength (text : String) : Nat := (text.toList.map Char.utf8Size).sum

def isBlank (rawBody : String) : Bool := rawBody.toList.all isSpace

-- A header value is Latin-1, of which lower-casing matters to ASCII letters only here.
def takenForJson (contentType : Option String) : Bool :=
  contentType.any fun contentType => includes (lowerAscii contentType) "application/json"

/-- The issue with a body, for which the json middleware answers 422. -/
def json (contentType : Option String) (rawBody : String) : Option Issue :=
  if !takenForJson contentType then none
  else if isBlank rawBody then some (issue "EMPTY_BODY" "Request body cannot be empty")
  else if jsLength rawBody > MAX_BODY_SIZE then
    some (issue "BODY_TOO_LARGE" "Request body exceeds size limit (1MB)")
  else if isJson rawBody then none
  else some (issue "INVALID_JSON" "Invalid JSON format in request body")

inductive Outcome where
  | refused (issue : Issue)
  | invalid
  | malformed
  | handled
  deriving DecidableEq

section Routes
variable (parsesJson : String → Bool) (schema : String → Bool)

/-- hono's json validator: the empty object is validated where the content type is another. -/
def validate (contentType : Option String) (body : String) : Outcome :=
  if contentType.any parsesJson then
    if isJson body then if schema body then .handled else .invalid
    else .malformed
  else if schema "{}" then .handled
  else .invalid

def route (contentType : Option String) (body : String) : Outcome :=
  match json contentType body with
  | some issue => .refused issue
  | none => validate parsesJson schema contentType body

structure Sound (body : String) : Prop where
  json : isJson body = true
  present : isBlank body = false
  small : byteLength body ≤ MAX_BODY_SIZE

def SoundlyHandled (contentType : Option String) (body : String) : Prop :=
  route parsesJson schema contentType body = .handled → Sound body

/-- A body that the validator parses and the middleware lets pass is within the limit. -/
def Measured (contentType : Option String) (body : String) : Prop :=
  contentType.any parsesJson = true →
    (takenForJson contentType = true → jsLength body ≤ MAX_BODY_SIZE) →
    byteLength body ≤ MAX_BODY_SIZE

theorem space_starts_none (letter : Char) (space : isSpace letter = true) :
    JsonText.startValue [] letter = none := by
  have plain : letter.isDigit = false := by
    by_contra digit
    simp only [Bool.not_eq_false, Char.isDigit, Bool.and_eq_true, decide_eq_true_eq, ge_iff_le,
      UInt32.le_iff_toNat_le] at digit
    change 48 ≤ letter.toNat ∧ letter.toNat ≤ 57 at digit
    simp only [isSpace, List.mem_cons, List.not_mem_nil, or_false, decide_eq_true_eq] at space
    omega
  unfold JsonText.startValue
  split
  case h_9 => rw [plain, if_neg Bool.false_ne_true]
  all_goals exact absurd space (by decide)

theorem blank_no_json (body : String) (blank : isBlank body = true) : isJson body = false := by
  cases accepted : isJson body with
  | false => rfl
  | true =>
      obtain ⟨letter, member, starts⟩ := JsonText.json_starts body accepted
      have space := List.all_eq_true.mp blank letter member
      exact absurd (space_starts_none letter space) starts

/-- The json middleware stops what it takes for JSON and finds blank, large or malformed. -/
theorem json_passes (contentType : Option String) (body : String) :
    json contentType body = none ↔ (takenForJson contentType = true →
      isBlank body = false ∧ jsLength body ≤ MAX_BODY_SIZE ∧ isJson body = true) := by
  unfold json
  cases takenForJson contentType with
  | false => simp
  | true =>
      cases blank : isBlank body with
      | true => simp
      | false =>
          by_cases large : jsLength body > MAX_BODY_SIZE
          · simp only [large, if_true]
            simp [Nat.not_le.mpr large]
          · simp only [large, if_false]
            cases isJson body <;> simp [Nat.not_lt.mp large]

theorem validate_handles (contentType : Option String) (body : String)
    (rejects : schema "{}" = false) :
    validate parsesJson schema contentType body = .handled ↔
      contentType.any parsesJson = true ∧ isJson body = true ∧ schema body = true := by
  unfold validate
  cases contentType.any parsesJson with
  | false => simp [rejects]
  | true => cases isJson body <;> cases schema body <;> simp

theorem handled_iff (contentType : Option String) (body : String)
    (rejects : schema "{}" = false) :
    route parsesJson schema contentType body = .handled ↔
      contentType.any parsesJson = true ∧ isJson body = true ∧ schema body = true ∧
        (takenForJson contentType = true → jsLength body ≤ MAX_BODY_SIZE) := by
  unfold route
  cases passes : json contentType body with
  | none =>
      rw [json_passes] at passes
      rw [validate_handles parsesJson schema contentType body rejects]
      constructor
      · rintro ⟨typed, parses, accepted⟩
        exact ⟨typed, parses, accepted, fun taken => (passes taken).2.1⟩
      · rintro ⟨typed, parses, accepted, -⟩
        exact ⟨typed, parses, accepted⟩
  | some found =>
      constructor
      · intro handled
        cases handled
      · rintro ⟨-, parses, -, small⟩
        have stopped : ¬ json contentType body = none := by simp [passes]
        rw [json_passes] at stopped
        apply absurd _ stopped
        intro taken
        cases blank : isBlank body with
        | true => simp [blank_no_json body blank] at parses
        | false => exact ⟨rfl, small taken, parses⟩

/-- Every handler gets a sound body exactly if the sizes that are measured bound the bytes. -/
theorem bodies_bounded (contentType : Option String) (body : String) :
    (∀ schema, schema "{}" = false → SoundlyHandled parsesJson schema contentType body) ↔
      (isJson body = true → Measured parsesJson contentType body) := by
  constructor
  · intro sound parses typed short
    by_cases empty : body = "{}"
    · subst empty
      decide
    · -- The route that takes this body only.
      let schema (text : String) : Bool := text = body
      have rejects : schema "{}" = false := decide_eq_false fun same => empty same.symm
      have accepts : schema body = true := decide_eq_true rfl
      have handled := (handled_iff parsesJson schema contentType body rejects).mpr
        ⟨typed, parses, accepts, short⟩
      exact (sound schema rejects handled).small
  · intro measured schema rejects handled
    rw [handled_iff parsesJson schema contentType body rejects] at handled
    obtain ⟨typed, parses, -, short⟩ := handled
    constructor
    · exact parses
    · cases blank : isBlank body with
      | false => rfl
      | true => simp [blank_no_json body blank] at parses
    · exact measured parses typed short

end Routes

/-! A long text of letters of three bytes. -/
section Euros

/-- What the validator documents of the content types that it parses. -/
structure ReadsJson (parsesJson : String → Bool) : Prop where
  plain : parsesJson "application/json" = true
  suffixed (name : String) : name ≠ "" →
    (∀ letter ∈ name.toList, letter.isLower ∨ letter = '-' ∨ letter = '.') →
    parsesJson ("application/" ++ name ++ "+json") = true

def euros (count : Nat) : String := String.ofList ('"' :: (List.replicate count '€' ++ ['"']))

theorem euros_length (count : Nat) :
    jsLength (euros count) = count + 2 ∧ byteLength (euros count) = 3 * count + 2 := by
  constructor
  · simp [jsLength, euros, List.map_replicate, List.sum_replicate]
    omega
  · simp [byteLength, euros, List.map_replicate, List.sum_replicate, show '"'.utf8Size = 1 from rfl,
      show '€'.utf8Size = 3 from rfl]
    omega

theorem bodies_unbounded : ¬ ∃ parsesJson : String → Bool, ReadsJson parsesJson ∧
    ∀ (schema : String → Bool) (contentType : Option String) (body : String),
      schema "{}" = false → SoundlyHandled parsesJson schema contentType body := by
  rintro ⟨parsesJson, reads, bounded⟩
  have sound := (bodies_bounded parsesJson (some "application/json") (euros 400000)).mp
    fun schema rejects => bounded schema _ _ rejects
  have small := sound (JsonText.string_json '€' 400000 (by decide)) reads.plain (by
    rw [(euros_length 400000).1]
    decide)
  rw [(euros_length 400000).2] at small
  exact absurd small (by decide)

end Euros
end TopInspect.JsonBodies
