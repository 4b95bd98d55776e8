import Mathlib.Data.List.DropRight

/-! The path of an https URL by the WHATWG rules. The parser cleans its input, skips the
authority, and walks the path letter by letter: it resolves dot segments, takes a
backslash for a slash, percent-encodes, and stops at a query or a fragment. -/
namespace TopInspect.UrlPath

def isTabOrNewline (letter : Char) : Bool := ['\t', '\n', '\r'].contains letter

/-- The input without control letters and blanks at its ends, tabs and newlines. -/
def cleaned (input : List Char) : List Char :=
  let outer := fun letter : Char => decide (letter.toNat ≤ 0x20)
  ((input.dropWhile outer).rdropWhile outer).filter fun letter => !isTabOrNewline letter

/-- The path percent-encode set. -/
def isEncoded (letter : Char) : Bool :=
  letter.toNat ≤ 0x1F || 0x7E < letter.toNat ||
    [' ', '"', '#', '<', '>', '?', '^', '\x60', '\x7b', '\x7d'].contains letter

def hexDigit (n : Nat) : Char := "0123456789ABCDEF".toList.getD n '0'

def percentEncode (letter : Char) : List Char :=
  (String.utf8EncodeChar letter).flatMap fun byte =>
    ['%', hexDigit (byte.toNat / 16), hexDigit (byte.toNat % 16)]

def encode (letter : Char) : List Char :=
  if isEncoded letter then percentEncode letter else [letter]

def isSingleDot (segment : List Char) : Bool :=
  [".", "%2e"].contains (String.ofList (segment.map Char.toLower))

def isDoubleDot (segment : List Char) : Bool :=
  ["..", ".%2e", "%2e.", "%2e%2e"].contains (String.ofList (segment.map Char.toLower))

def isDot (segment : List Char) : Bool := isSingleDot segment || isDoubleDot segment

/-- The end of a segment, at a slash or at the end of the path. -/
def endSegment (slash : Bool) (path : List (List Char)) (buffer : List Char) : List (List Char) :=
  if isDoubleDot buffer then path.dropLast ++ (if slash then [] else [[]])
  else if isSingleDot buffer then path ++ (if slash then [] else [[]])
  else path ++ [buffer]

/-- The path state, with what is left at its end. -/
def pathState (path : List (List Char)) (buffer : List Char) :
    List Char → List (List Char) × List Char
  | [] => (endSegment false path buffer, [])
  | letter :: rest =>
      if letter = '/' ∨ letter = '\\' then pathState (endSegment true path buffer) [] rest
      else if letter = '?' ∨ letter = '#' then (endSegment false path buffer, letter :: rest)
      else pathState path (buffer ++ encode letter) rest

def serialize (path : List (List Char)) : List Char := path.flatMap fun segment => '/' :: segment

structure Target where
  path : List Char
  query : Option (List Char)

def endsAuthority (letter : Char) : Bool := ['/', '\\', '?', '#'].contains letter

/-- The path start state: one slash is skipped. -/
def pathStart : List Char → List (List Char) × List Char
  | '/' :: rest => pathState [] [] rest
  | '\\' :: rest => pathState [] [] rest
  | rest => pathState [] [] rest

-- A text of another scheme is none of ours.
def target (url : List Char) : Option Target :=
  ((cleaned url).dropPrefix? "https://".toList).map fun rest =>
    let parsed := pathStart (rest.dropWhile fun letter => !endsAuthority letter)
    { path := serialize parsed.1
      query := match parsed.2 with
        | '?' :: query => some (query.takeWhile (· ≠ '#'))
        | _ => none }

/-- A letter that a segment may hold as it is. -/
def isPlain (letter : Char) : Bool := !isEncoded letter && letter ≠ '/' && letter ≠ '\\'

/-- A path segment as the parser leaves it. -/
structure Settled (segment : List Char) : Prop where
  plain : ∀ letter ∈ segment, isPlain letter = true
  undotted : isDot segment = false

theorem settled_empty : Settled [] := ⟨by simp, by decide⟩

theorem hex_plain (n : Nat) : isPlain (hexDigit n) = true := by
  have all : ∀ letter ∈ '0' :: "0123456789ABCDEF".toList, isPlain letter = true :=
    List.all_eq_true.mp (by decide)
  apply all
  unfold hexDigit
  rw [List.getD_eq_getElem?_getD]
  cases found : "0123456789ABCDEF".toList[n]? with
  | none => exact List.mem_cons_self
  | some letter => exact List.mem_cons_of_mem _ (List.mem_of_getElem? found)

theorem encode_plain (letter : Char) (inside : letter ≠ '/' ∧ letter ≠ '\\') :
    ∀ other ∈ encode letter, isPlain other = true := by
  unfold encode
  split
  · intro other member
    obtain ⟨byte, -, digit⟩ := List.mem_flatMap.mp member
    simp only [List.mem_cons, List.not_mem_nil, or_false] at digit
    rcases digit with rfl | rfl | rfl
    · decide
    · exact hex_plain _
    · exact hex_plain _
  · next kept =>
      intro other member
      obtain rfl := List.mem_singleton.mp member
      simp [isPlain, kept, inside]

theorem end_settled (slash : Bool) (path : List (List Char)) (buffer : List Char)
    (settled : ∀ segment ∈ path, Settled segment)
    (plain : ∀ letter ∈ buffer, isPlain letter = true) :
    ∀ segment ∈ endSegment slash path buffer, Settled segment := by
  have last : ∀ segment ∈ (if slash then [] else [[]] : List (List Char)), Settled segment := by
    cases slash with
    | true => simp
    | false => simpa using settled_empty
  unfold endSegment
  split
  · intro segment member
    rcases List.mem_append.mp member with old | new
    · exact settled segment ((List.dropLast_sublist path).subset old)
    · exact last segment new
  · next single =>
      split
      · intro segment member
        rcases List.mem_append.mp member with old | new
        · exact settled segment old
        · exact last segment new
      · next double =>
          intro segment member
          rcases List.mem_append.mp member with old | new
          · exact settled segment old
          · obtain rfl := List.mem_singleton.mp new
            exact ⟨plain, by simp [isDot, single, double]⟩

theorem end_nonempty (path : List (List Char)) (buffer : List Char) :
    endSegment false path buffer ≠ [] := by
  unfold endSegment
  split
  · simp
  · split <;> simp

/-- Whatever the input, the path comes out settled and with a last segment. -/
theorem path_settled (text : List Char) (path : List (List Char)) (buffer : List Char)
    (settled : ∀ segment ∈ path, Settled segment)
    (plain : ∀ letter ∈ buffer, isPlain letter = true) :
    (∀ segment ∈ (pathState path buffer text).1, Settled segment) ∧
      (pathState path buffer text).1 ≠ [] := by
  induction text generalizing path buffer with
  | nil => exact ⟨end_settled false path buffer settled plain, end_nonempty path buffer⟩
  | cons letter rest ih =>
      unfold pathState
      split
      · apply ih
        · exact end_settled true path buffer settled plain
        · simp
      · next inside =>
          split
          · exact ⟨end_settled false path buffer settled plain, end_nonempty path buffer⟩
          · apply ih
            · exact settled
            · intro other member
              rcases List.mem_append.mp member with old | new
              · exact plain other old
              · exact encode_plain letter (not_or.mp inside) other new

theorem start_settled (text : List Char) :
    (∀ segment ∈ (pathStart text).1, Settled segment) ∧ (pathStart text).1 ≠ [] := by
  unfold pathStart
  split
  all_goals exact path_settled _ [] [] (by simp) (by simp)

theorem plain_slash (segment : List Char) (settled : Settled segment) : '/' ∉ segment := by
  intro member
  exact absurd (settled.plain '/' member) (by decide)

theorem serialize_split (path : List (List Char)) (settled : ∀ segment ∈ path, Settled segment) :
    (serialize path).splitOn '/' = [] :: path := by
  induction path with
  | nil => rfl
  | cons segment rest ih =>
      have later := ih fun other member => settled other (List.mem_cons_of_mem _ member)
      have free := plain_slash segment (settled segment (by simp))
      have shape : serialize (segment :: rest) = [] ++ '/' :: (segment ++ serialize rest) := by
        simp [serialize]
      rw [shape, List.splitOn_append_cons_self_of_not_mem (by simp)]
      cases rest with
      | nil => simp [serialize, List.splitOn_eq_singleton free]
      | cons next others =>
          have after : serialize (next :: others) = [] ++ '/' :: (next ++ serialize others) := by
            simp [serialize]
          rw [after, List.splitOn_append_cons_self_of_not_mem (by simp)] at later
          rw [after, List.nil_append, List.splitOn_append_cons_self_of_not_mem free]
          simpa using later

/-- A text that the path state takes as it is: plain letters and slashes, no dot segment. -/
structure Fixed (text : List Char) : Prop where
  plain : ∀ letter ∈ text, isPlain letter = true ∨ letter = '/'
  undotted : ∀ segment ∈ text.splitOn '/', isDot segment = false

theorem plain_cases (letter : Char) (plain : isPlain letter = true) :
    encode letter = [letter] ∧ letter ≠ '/' ∧ letter ≠ '\\' ∧ letter ≠ '?' ∧ letter ≠ '#' := by
  simp only [isPlain, Bool.and_eq_true, Bool.not_eq_true', decide_eq_true_eq] at plain
  refine ⟨by simp [encode, plain.1.1], plain.1.2, plain.2, ?_, ?_⟩
  · rintro rfl
    exact absurd plain.1.1 (by decide)
  · rintro rfl
    exact absurd plain.1.1 (by decide)

theorem end_undotted (slash : Bool) (path : List (List Char)) (buffer : List Char)
    (undotted : isDot buffer = false) : endSegment slash path buffer = path ++ [buffer] := by
  simp only [isDot, Bool.or_eq_false_iff] at undotted
  simp [endSegment, undotted]

/-- The path state splits such a text at its slashes. -/
theorem path_fixed (text : List Char) (path : List (List Char)) (buffer : List Char)
    (free : '/' ∉ buffer) (plain : ∀ letter ∈ text, isPlain letter = true ∨ letter = '/')
    (undotted : ∀ segment ∈ (buffer ++ text).splitOn '/', isDot segment = false) :
    pathState path buffer text = (path ++ (buffer ++ text).splitOn '/', []) := by
  induction text generalizing path buffer with
  | nil =>
      rw [List.append_nil, List.splitOn_eq_singleton free] at undotted ⊢
      rw [pathState, end_undotted false path buffer (undotted buffer (by simp))]
  | cons letter rest ih =>
      have later := fun other member => plain other (List.mem_cons_of_mem letter member)
      rcases plain letter (by simp) with own | rfl
      · obtain ⟨same, slash, backslash, query, fragment⟩ := plain_cases letter own
        have moved : buffer ++ letter :: rest = (buffer ++ [letter]) ++ rest := by simp
        rw [moved] at undotted ⊢
        rw [pathState, if_neg (by simp [slash, backslash]),
          if_neg (by simp [query, fragment]), same]
        exact ih path (buffer ++ [letter]) (by simp [free, Ne.symm slash]) later undotted
      · rw [List.splitOn_append_cons_self_of_not_mem free] at undotted ⊢
        rw [pathState, if_pos (Or.inl rfl),
          end_undotted true path buffer (undotted buffer (by simp))]
        rw [ih (path ++ [buffer]) [] (by simp) later
          fun segment member => undotted segment (List.mem_cons_of_mem _ member)]
        simp

theorem serialize_intercalate (path : List (List Char)) (present : path ≠ []) :
    serialize path = '/' :: ['/'].intercalate path := by
  induction path with
  | nil => exact absurd rfl present
  | cons segment rest ih =>
      cases rest with
      | nil => simp [serialize]
      | cons next others =>
          have later := ih (by simp)
          rw [List.intercalate_cons_of_ne_nil (by simp)]
          simpa [serialize] using later

theorem plain_above (letter : Char) (plain : isPlain letter = true) :
    0x20 < letter.toNat ∧ isTabOrNewline letter = false := by
  have above : 0x20 < letter.toNat := by
    simp only [isPlain, isEncoded, Bool.and_eq_true, Bool.not_eq_true', Bool.or_eq_false_iff,
      decide_eq_false_iff_not, Nat.not_le] at plain
    have blank : letter ≠ ' ' := by
      rintro rfl
      exact absurd plain.1.1.2 (by decide)
    have apart : letter.toNat ≠ 0x20 := fun same => blank (Char.toNat_inj.mp same)
    have := plain.1.1.1.1
    omega
  constructor
  · exact above
  · simp only [isTabOrNewline, List.contains_eq_mem, decide_eq_false_iff_not, List.mem_cons,
      List.not_mem_nil, or_false, not_or]
    refine ⟨?_, ?_, ?_⟩
    all_goals
      rintro rfl
      exact absurd above (by decide)

theorem cleaned_plain (text : List Char)
    (plain : ∀ letter ∈ text, 0x20 < letter.toNat ∧ isTabOrNewline letter = false) :
    cleaned text = text := by
  have front : (text.dropWhile fun letter => decide (letter.toNat ≤ 0x20)) = text := by
    rw [List.dropWhile_eq_self_iff]
    intro nonempty
    simp [plain _ (List.getElem_mem nonempty)]
  have back : (text.rdropWhile fun letter => decide (letter.toNat ≤ 0x20)) = text := by
    rw [List.rdropWhile_eq_self_iff]
    intro nonempty
    simp [plain _ (List.getLast_mem nonempty)]
  rw [cleaned, front, back, List.filter_eq_self]
  intro letter member
  simp [plain letter member]

theorem target_fixed (host text : List Char)
    (authority : ∀ letter ∈ host, isPlain letter = true ∧ endsAuthority letter = false)
    (fixed : Fixed text) :
    target ("https://".toList ++ (host ++ '/' :: text)) =
      some { path := '/' :: text, query := none } := by
  have clean : cleaned ("https://".toList ++ (host ++ '/' :: text)) =
      "https://".toList ++ (host ++ '/' :: text) := by
    apply cleaned_plain
    intro letter member
    have scheme : ∀ other ∈ "https://".toList, 0x20 < other.toNat ∧
      isTabOrNewline other = false := by
      intro other present
      have plain : "https://".toList.all
          (fun other => decide (0x20 < other.toNat) && !isTabOrNewline other) = true := by decide
      simpa using List.all_eq_true.mp plain other present
    rcases List.mem_append.mp member with first | later
    · exact scheme letter first
    · rcases List.mem_append.mp later with named | rest
      · exact plain_above letter (authority letter named).1
      · rcases List.mem_cons.mp rest with rfl | inside
        · decide
        · rcases fixed.plain letter inside with plain | rfl
          · exact plain_above letter plain
          · decide
  have scheme : ("https://".toList ++ (host ++ '/' :: text)).dropPrefix? "https://".toList =
      some (host ++ '/' :: text) :=
    List.dropPrefix?_eq_some_iff.mpr ⟨_, rfl, BEq.rfl⟩
  have named : ((host ++ '/' :: text).dropWhile fun letter => !endsAuthority letter) =
      '/' :: text := by
    rw [List.dropWhile_append_of_pos fun letter member => by simp [(authority letter member).2]]
    rfl
  have walked : pathStart ('/' :: text) = (text.splitOn '/', []) := by
    have walks := path_fixed text [] [] (by simp) fixed.plain fixed.undotted
    simpa [pathStart] using walks
  have joined : serialize (text.splitOn '/') = '/' :: text := by
    rw [serialize_intercalate _ (List.splitOn_ne_nil _ _), List.intercalate_splitOn]
  simp only [target, clean, scheme, Option.map_some, named, walked, joined]

theorem target_settled (url : List Char) (found : Target) (parses : target url = some found) :
    ∃ path, found.path = serialize path ∧ ∀ segment ∈ path, Settled segment := by
  obtain ⟨rest, -, same⟩ := Option.map_eq_some_iff.mp parses
  subst same
  exact ⟨_, rfl, (start_settled _).1⟩

end TopInspect.UrlPath
