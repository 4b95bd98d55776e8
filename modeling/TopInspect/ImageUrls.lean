import TopInspect.AuthHandlers
import TopInspect.ImageChanges
import TopInspect.Splitting
import TopInspect.UploadSigning

/-! The URLs of stored images, and the way back from a URL to the image id. -/
namespace TopInspect.ImageUrls
open AuthHandlers (truthy)
open ImageChanges (isPreviewImage)
open UrlPath

inductive ImageSize where
  | thumbnail
  | medium
  | large
  | original
  deriving DecidableEq

def isBase36 (letter : Char) : Bool := letter.isDigit || letter.isLower

/-- `Math.random().toString(36).substr(2, 9)`. -/
structure ImageId where
  text : String
  base36 : ∀ letter ∈ text.toList, isBase36 letter = true

section Urls
variable (mediaUrl : Option String)

def sizeSuffix : ImageSize → String
  | .thumbnail => "_t"
  | .medium => "_m"
  | .large => "_l"
  | .original => ""

def getImageUrl (imageId : String) (size : ImageSize) (baseUrl : Option String) :
    Except String String :=
  match (truthy baseUrl).or (truthy mediaUrl) with
  | none => .error "EXPO_PUBLIC_MEDIA_URL is not configured"
  | some mediaBaseUrl => .ok (mediaBaseUrl ++ "/" ++ imageId ++ sizeSuffix size ++ ".jpg")

def getDisplayImageUrl (imageId : String) (size : ImageSize) : Except String String :=
  if isPreviewImage imageId then .ok imageId else getImageUrl mediaUrl imageId size none

end Urls

section Parser

/-- What makes an authority of an http URL valid; an empty one never is. -/
structure UrlRules where
  isAuthority : List Char → Bool
  present : isAuthority [] = false

def isSlash (letter : Char) : Bool := letter = '/' || letter = '\\'

/-- The input behind `http:` or `https:`, in capitals or not. -/
def afterScheme (input : List Char) : Option (List Char) :=
  if (input.take 5).map Char.toLower = "http:".toList then some (input.drop 5)
  else if (input.take 6).map Char.toLower = "https:".toList then some (input.drop 6)
  else none

-- A URL of another scheme is none of ours.
def urlPath (rules : UrlRules) (url : List Char) : Option (List (List Char)) :=
  (afterScheme (cleaned url)).bind fun input =>
    let rest := input.dropWhile isSlash
    if rules.isAuthority (rest.takeWhile fun letter => !endsAuthority letter) then
      some (pathStart (rest.dropWhile fun letter => !endsAuthority letter)).1
    else none

/-- `(?:_[tml])?\.jpg$`. -/
def closes (rest : List Char) : Bool :=
  [".jpg".toList, "_t.jpg".toList, "_m.jpg".toList, "_l.jpg".toList].contains rest

/-- The longest `([^_]+)` that the end of the expression follows. -/
def matchName (rest : List Char) : Option (List Char) :=
  let run := rest.takeWhile fun letter => letter ≠ '_'
  ((List.range' 1 run.length).reverse.find? fun length => closes (rest.drop length)).map rest.take

/-- The leftmost match of the expression. -/
def matchPath : List Char → Option (List Char)
  | [] => none
  | letter :: rest =>
      if letter = '/' then
        match matchName rest with
        | some name => some name
        | none => matchPath rest
      else matchPath rest

def extractImageId (rules : UrlRules) (url : String) : Option String :=
  (urlPath rules url.toList).bind fun path => (matchPath (serialize path)).map String.ofList

end Parser

section Matches

/-- What the expression matches behind a slash. -/
structure Names (rest name : List Char) : Prop where
  nonempty : name ≠ []
  plain : '_' ∉ name
  closed : ∃ close, closes close = true ∧ rest = name ++ close

theorem close_cases (close : List Char) (closed : closes close = true) :
    close = ".jpg".toList ∨ close = "_t.jpg".toList ∨ close = "_m.jpg".toList ∨
      close = "_l.jpg".toList := by
  simpa [closes] using closed

/-- A name with a longer one behind it, in the same text, would hold an underscore. -/
theorem names_longer (name other close shut between : List Char) (closed : closes close = true)
    (shuts : closes shut = true) (split : close = between ++ shut)
    (longer : other = name ++ between) (plain : '_' ∉ other) :
    between = [] := by
  by_contra nonempty
  cases between with
  | nil => exact nonempty rfl
  | cons first rest =>
      have under : first ≠ '_' := by
        rintro rfl
        exact plain (longer ▸ List.mem_append_right name List.mem_cons_self)
      rcases close_cases close closed with rfl | rfl | rfl | rfl
      · have lengths := congrArg List.length split
        rcases close_cases shut shuts with rfl | rfl | rfl | rfl <;> simp at lengths
      all_goals exact under (List.cons.inj split).1.symm

theorem names_unique (rest name other : List Char) (first : Names rest name)
    (second : Names rest other) : name = other := by
  obtain ⟨close, closed, rfl⟩ := first.closed
  obtain ⟨shut, shuts, same⟩ := second.closed
  rcases List.append_eq_append_iff.mp same with ⟨between, longer, split⟩ | ⟨between, longer, split⟩
  · have none_left :=
      names_longer name other close shut between closed shuts split longer second.plain
    simp [longer, none_left]
  · have none_left :=
      names_longer other name shut close between shuts closed split longer first.plain
    simp [longer, none_left]

theorem match_names (rest name : List Char) : matchName rest = some name ↔ Names rest name := by
  -- The search tries the longest run first; the name is closed, so it is found whole.
  have sound : ∀ found, matchName rest = some found → Names rest found := by
    intro found matched
    obtain ⟨length, search, rfl⟩ := Option.map_eq_some_iff.mp matched
    have member := List.mem_of_find?_eq_some search
    have closed := List.find?_some search
    rw [List.mem_reverse, List.mem_range'_1] at member
    have inside : rest.take length <+: rest.takeWhile fun letter => letter ≠ '_' := by
      apply List.prefix_of_prefix_length_le (List.take_prefix length rest) (List.takeWhile_prefix _)
      rw [List.length_take]
      omega
    constructor
    · intro empty
      have short := congrArg List.length empty
      have bound := (List.takeWhile_prefix (l := rest) fun letter => letter ≠ '_').length_le
      simp only [List.length_take, List.length_nil] at short
      omega
    · intro under
      have kept := List.mem_takeWhile_imp (inside.subset under)
      simp at kept
    · exact ⟨rest.drop length, closed, (List.take_append_drop length rest).symm⟩
  constructor
  · exact sound name
  · intro names
    cases matched : matchName rest with
    | some found => rw [names_unique rest found name (sound found matched) names]
    | none =>
        obtain ⟨close, closed, split⟩ := names.closed
        have missing := Option.map_eq_none_iff.mp matched
        have run : name <+: rest.takeWhile fun letter => letter ≠ '_' := by
          rw [split, List.takeWhile_append_of_pos]
          · exact List.prefix_append _ _
          · intro letter member
            simp only [decide_eq_true_eq]
            rintro rfl
            exact names.plain member
        have length : name.length ∈
          (List.range' 1 (rest.takeWhile fun letter => letter ≠ '_').length).reverse := by
          rw [List.mem_reverse, List.mem_range'_1]
          have := run.length_le
          have := List.length_pos_iff.mpr names.nonempty
          omega
        have refused := List.find?_eq_none.mp missing name.length length
        rw [split, List.drop_left] at refused
        exact absurd closed refused

end Matches

section Objects

def objectName (id : ImageId) (size : ImageSize) : List Char :=
  id.text.toList ++ ((sizeSuffix size).toList ++ ".jpg".toList)

theorem suffix_closes (size : ImageSize) :
    closes ((sizeSuffix size).toList ++ ".jpg".toList) = true := by
  cases size <;> decide

theorem base36_alphanum (letter : Char) (base36 : isBase36 letter = true) :
    letter.isAlphanum = true := by
  simp only [isBase36, Bool.or_eq_true] at base36
  simp only [Char.isAlphanum, Char.isAlpha, Bool.or_eq_true]
  tauto

theorem id_apart (id : ImageId) (mark : Char) (apart : mark.isAlphanum = false) :
    mark ∉ id.text.toList := by
  intro member
  rw [base36_alphanum mark (id.base36 mark member)] at apart
  exact absurd apart (by decide)

theorem object_plain (id : ImageId) (size : ImageSize) :
    ∀ letter ∈ objectName id size, isPlain letter = true := by
  intro letter member
  rcases List.mem_append.mp member with own | fixed
  · exact (UploadSigning.alphanum_plain letter
      (Or.inl (base36_alphanum letter (id.base36 letter own)))).1
  · have letters : ((sizeSuffix size).toList ++ ".jpg".toList).all isPlain = true := by
      cases size <;> decide
    exact List.all_eq_true.mp letters letter fixed

theorem object_last (id : ImageId) (size : ImageSize) :
    (objectName id size).getLast? = some 'g' := by
  rw [objectName, ← List.append_assoc, List.getLast?_append_of_ne_nil _ (by decide)]
  decide

theorem object_undotted (id : ImageId) (size : ImageSize) : isDot (objectName id size) = false := by
  have last := object_last id size
  have lowered : ((objectName id size).map Char.toLower).getLast? = some 'g' := by
    rw [List.getLast?_map, last]
    decide
  have apart : ∀ dots : String, dots.toList.getLast? ≠ some 'g' →
      String.ofList ((objectName id size).map Char.toLower) ≠ dots := by
    rintro dots ends rfl
    exact ends (by rw [String.toList_ofList]; exact lowered)
  simp only [isDot, isSingleDot, isDoubleDot, Bool.or_eq_false_iff, List.contains_eq_mem,
    decide_eq_false_iff_not, List.mem_cons, List.not_mem_nil, or_false, not_or]
  and_intros
  all_goals exact apart _ (by decide)

theorem object_names (id : ImageId) (nonempty : id.text ≠ "") (size : ImageSize) :
    Names (objectName id size) id.text.toList where
  nonempty := by simpa using nonempty
  plain := id_apart id '_' (by decide)
  closed := ⟨_, suffix_closes size, rfl⟩

/-- Behind an earlier slash the expression runs over the later ones, unless an underscore
stops it. -/
theorem names_across (id : ImageId) (size : ImageSize) (inside : List Char) :
    matchName (inside ++ '/' :: objectName id size) =
      if '_' ∈ inside then none else some (inside ++ '/' :: id.text.toList) := by
  by_cases under : '_' ∈ inside
  · rw [if_pos under]
    cases matched : matchName (inside ++ '/' :: objectName id size) with
    | none => rfl
    | some name =>
        have names := (match_names _ _).mp matched
        obtain ⟨close, closed, split⟩ := names.closed
        have slash : '/' ∉ close := by
          rcases close_cases close closed with rfl | rfl | rfl | rfl <;> decide
        rcases List.append_eq_append_iff.mp split with ⟨between, longer, -⟩ | ⟨between, -, rest⟩
        · exact absurd (longer ▸ List.mem_append_left between under) names.plain
        · exact absurd (rest ▸ List.mem_append_right between List.mem_cons_self) slash
  · rw [if_neg under, match_names]
    constructor
    · simp
    · rw [List.mem_append, List.mem_cons, not_or, not_or]
      exact ⟨under, by decide, id_apart id '_' (by decide)⟩
    · exact ⟨_, suffix_closes size, by simp [objectName]⟩

theorem match_skips (segment rest : List Char) (free : '/' ∉ segment) :
    matchPath (segment ++ rest) = matchPath rest := by
  induction segment with
  | nil => rfl
  | cons letter later ih =>
      rw [List.mem_cons, not_or] at free
      rw [List.cons_append, matchPath, if_neg (Ne.symm free.1), ih free.2]

/-- The last directory of a path, if it has one, holds an underscore. -/
def Shallow (directories : List (List Char)) : Prop :=
  ∀ directory ∈ directories.getLast?, '_' ∈ directory

theorem serialize_cons (directory : List Char) (path : List (List Char)) :
    serialize (directory :: path) = '/' :: (directory ++ serialize path) := by
  simp [serialize]

theorem serialize_last (directories : List (List Char)) (name : List Char) :
    serialize (directories ++ [name]) = serialize directories ++ '/' :: name := by
  simp [serialize]

theorem match_path (id : ImageId) (nonempty : id.text ≠ "") (size : ImageSize)
    (directories : List (List Char)) (settled : ∀ directory ∈ directories, Settled directory) :
    matchPath (serialize (directories ++ [objectName id size])) = some id.text.toList ↔
      Shallow directories := by
  induction directories with
  | nil =>
      have alone := (match_names _ _).mpr (object_names id nonempty size)
      simp [serialize, matchPath, alone, Shallow]
  | cons directory rest ih =>
      have later := ih fun other member => settled other (List.mem_cons_of_mem _ member)
      have free := plain_slash directory (settled directory List.mem_cons_self)
      have shape : directory ++ serialize (rest ++ [objectName id size]) =
          (directory ++ serialize rest) ++ '/' :: objectName id size := by
        rw [serialize_last, List.append_assoc]
      have across := names_across id size (directory ++ serialize rest)
      rw [List.cons_append, serialize_cons, matchPath, if_pos rfl, shape, across]
      -- An underline in a directory stops the search, which goes on behind the next slash.
      by_cases under : '_' ∈ directory ++ serialize rest
      · rw [if_pos under, ← shape, match_skips _ _ free, later]
        cases rest with
        | nil => simpa [Shallow, serialize] using under
        | cons next others => simp [Shallow]
      · rw [if_neg under]
        constructor
        · intro same
          have slash : '/' ∈ id.text.toList := by
            rw [← Option.some.inj same]
            exact List.mem_append_right _ List.mem_cons_self
          exact absurd slash (id_apart id '/' (by decide))
        · intro shallow
          exfalso
          have filled : (directory :: rest).getLast? =
            some ((directory :: rest).getLast (by simp)) :=
            List.getLast?_eq_some_getLast (by simp)
          have last := shallow _ filled
          rcases List.mem_cons.mp
            (List.getLast_mem (by simp : directory :: rest ≠ [])) with own | other
          · exact under (List.mem_append_left _ (own ▸ last))
          · exact under (List.mem_append_right _ (List.mem_flatMap.mpr
              ⟨_, other, List.mem_cons_of_mem _ last⟩))

end Objects

section Bases

def IsScheme (scheme : List Char) : Prop :=
  scheme.map Char.toLower = "http:".toList ∨ scheme.map Char.toLower = "https:".toList

/-- An http or https URL without a query and without a fragment. -/
structure MediaBase (rules : UrlRules) where
  text : String
  http : ∃ scheme rest, text.toList = scheme ++ rest ∧ IsScheme scheme
  bare : '?' ∉ text.toList ∧ '#' ∉ text.toList
  parses : (urlPath rules text.toList).isSome = true

theorem scheme_after (scheme rest : List Char) (http : IsScheme scheme) :
    afterScheme (scheme ++ rest) = some rest := by
  rcases http with short | long
  · have length : scheme.length = 5 := by simpa using congrArg List.length short
    rw [afterScheme, List.take_left' length, if_pos short, List.drop_left' length]
  · have length : scheme.length = 6 := by simpa using congrArg List.length long
    have other : ((scheme ++ rest).take 5).map Char.toLower ≠ "http:".toList := by
      rw [List.take_append_of_le_length (by omega), List.map_take, long]
      decide
    rw [afterScheme, if_neg other, List.take_left' length, if_pos long, List.drop_left' length]

theorem scheme_visible (scheme : List Char) (http : IsScheme scheme) :
    ∀ letter ∈ scheme, 0x20 < letter.toNat := by
  intro letter member
  by_contra low
  have small : letter.isUpper = false := by
    simp only [Char.isUpper, decide_eq_false_iff_not, ge_iff_le, UInt32.le_iff_toNat_le]
    change ¬ (65 ≤ letter.toNat ∧ letter.toNat ≤ 90)
    omega
  have same : letter.toLower = letter := Char.toLower_eq_of_not_isUpper (by simp [small])
  have present : letter ∈ scheme.map Char.toLower := List.mem_map.mpr ⟨letter, member, same⟩
  have visible : ∀ fixed : String,
    fixed.toList.all (fun other => decide (0x20 < other.toNat)) = true →
      scheme.map Char.toLower = fixed.toList → False := by
    intro fixed all written
    rw [written] at present
    exact low (of_decide_eq_true (List.all_eq_true.mp all letter present))
  rcases http with short | long
  · exact visible "http:" (by decide) short
  · exact visible "https:" (by decide) long

theorem visible_kept (text : List Char) (visible : ∀ letter ∈ text, 0x20 < letter.toNat) :
    text.filter (fun letter => !isTabOrNewline letter) = text := by
  rw [List.filter_eq_self]
  intro letter member
  have above := visible letter member
  simp only [isTabOrNewline, Bool.not_eq_true', List.contains_eq_mem, decide_eq_false_iff_not,
    List.mem_cons, List.not_mem_nil, or_false, not_or]
  and_intros
  all_goals
    rintro rfl
    exact absurd above (by decide)

theorem cleaned_append (scheme rest tail : List Char) (http : IsScheme scheme)
    (nonempty : tail ≠ []) (visible : ∀ letter ∈ tail, 0x20 < letter.toNat) :
    cleaned (scheme ++ rest ++ tail) =
      scheme ++ (rest.filter (fun letter => !isTabOrNewline letter) ++ tail) := by
  have apparent := scheme_visible scheme http
  have tight : Splitting.Tight (fun letter : Char => decide (letter.toNat ≤ 0x20))
      (scheme ++ rest ++ tail) := by
    constructor
    · intro letter first
      cases scheme with
      | nil => simp [IsScheme] at http
      | cons head others =>
          cases first
          have := apparent letter List.mem_cons_self
          simpa using this
    · intro letter last
      rw [List.getLast?_append_of_ne_nil _ nonempty] at last
      have := visible letter (List.mem_of_getLast? last)
      simpa using this
  have kept := Splitting.trimmed_tight _ tight
  rw [Splitting.trimmed] at kept
  rw [cleaned, kept, List.filter_append, List.filter_append, visible_kept scheme apparent,
    visible_kept tail visible, List.append_assoc]

def directories (path : List (List Char)) (buffer : List Char) : List Char → List (List Char)
  | [] => endSegment true path buffer
  | letter :: rest =>
      if letter = '/' ∨ letter = '\\' then directories (endSegment true path buffer) [] rest
      else directories path (buffer ++ encode letter) rest

theorem path_directories (text rest : List Char) (path : List (List Char)) (buffer : List Char)
    (bare : ∀ letter ∈ text, letter ≠ '?' ∧ letter ≠ '#') :
    pathState path buffer (text ++ '/' :: rest) = pathState (directories path buffer text)
    [] rest := by
  induction text generalizing path buffer with
  | nil => rw [List.nil_append, pathState, if_pos (Or.inl rfl), directories]
  | cons letter later ih =>
      have plain := bare letter List.mem_cons_self
      have others := fun other member => bare other (List.mem_cons_of_mem letter member)
      rw [List.cons_append, pathState, directories]
      split
      · exact ih _ _ others
      · rw [if_neg (by simp [plain])]
        exact ih _ _ others

/-- The directories that a URL gives its objects. -/
def startDirectories : List Char → List (List Char)
  | [] => []
  | _ :: rest => directories [] [] rest

theorem start_directories (text rest : List Char)
    (opens : ∀ letter ∈ text.head?, isSlash letter = true)
    (bare : ∀ letter ∈ text, letter ≠ '?' ∧ letter ≠ '#') :
    pathStart (text ++ '/' :: rest) = pathState (startDirectories text) [] rest := by
  cases text with
  | nil => rfl
  | cons first later =>
      have walks := path_directories later rest [] [] fun letter member =>
        bare letter (List.mem_cons_of_mem first member)
      have slash := opens first rfl
      simp only [isSlash, Bool.or_eq_true, decide_eq_true_eq] at slash
      rcases slash with rfl | rfl
      · exact walks
      · exact walks

theorem object_path (id : ImageId) (size : ImageSize) (path : List (List Char)) :
    pathState path [] (objectName id size) = (path ++ [objectName id size], []) := by
  have free := plain_slash _ ⟨object_plain id size, object_undotted id size⟩
  have walks := path_fixed (objectName id size) path [] (by simp)
    (fun letter member => Or.inl (object_plain id size letter member)) (by
      rw [List.nil_append, List.splitOn_eq_singleton free]
      simpa using object_undotted id size)
  rwa [List.nil_append, List.splitOn_eq_singleton free] at walks

theorem directory_path (path : List (List Char)) : pathState path [] [] = (path ++ [[]], []) := by
  rw [pathState, end_undotted false path [] (by decide)]

variable (rules : UrlRules)

/-- The parse of a URL behind its scheme. -/
def locate (rest : List Char) : Option (List (List Char)) :=
  if rules.isAuthority (rest.takeWhile fun letter => !endsAuthority letter) then
    some (pathStart (rest.dropWhile fun letter => !endsAuthority letter)).1
  else none

theorem locate_append (text more : List Char) :
    locate rules (text ++ '/' :: more) =
      if rules.isAuthority (text.takeWhile fun letter => !endsAuthority letter) then
        some (pathStart ((text.dropWhile fun letter => !endsAuthority letter) ++ '/' :: more)).1
      else none := by
  have ends : endsAuthority '/' = true := by decide
  have named : (text ++ '/' :: more).takeWhile (fun letter => !endsAuthority letter) =
      text.takeWhile fun letter => !endsAuthority letter := by
    rw [List.takeWhile_append]
    split
    · next whole =>
        have all := List.takeWhile_eq_self_iff.mp
          ((List.takeWhile_prefix _).eq_of_length whole)
        simp [ends, List.takeWhile_eq_self_iff.mpr all]
    · rfl
  have located : (text ++ '/' :: more).dropWhile (fun letter => !endsAuthority letter) =
      (text.dropWhile fun letter => !endsAuthority letter) ++ '/' :: more := by
    rw [List.dropWhile_append]
    split
    · next empty => simp [ends, List.isEmpty_iff.mp empty]
    · rfl
  rw [locate, named, located]

theorem url_path (url rest : List Char) (input : afterScheme (cleaned url) = some rest) :
    urlPath rules url = locate rules (rest.dropWhile isSlash) := by
  rw [urlPath, input]
  rfl

/-- Behind a media base either both of its URLs have its directories, or neither has a path
that an object could be found by. -/
theorem base_paths (base : MediaBase rules) (id : ImageId) (size : ImageSize) :
    (∃ path : List (List Char), (∀ directory ∈ path, Settled directory) ∧
      urlPath rules (base.text.toList ++ ['/']) = some (path ++ [[]]) ∧
      urlPath rules (base.text.toList ++ '/' :: objectName id size) =
        some (path ++ [objectName id size])) ∨
    (urlPath rules (base.text.toList ++ ['/']) = none ∧
      ∀ path, urlPath rules (base.text.toList ++ '/' :: objectName id size) = some path →
        path = [[]]) := by
  obtain ⟨scheme, rest, split, http⟩ := base.http
  have above := fun letter member => (plain_above letter (object_plain id size letter member)).1
  have behind : ∀ more : List Char, (∀ letter ∈ more, 0x20 < letter.toNat) →
      urlPath rules (base.text.toList ++ '/' :: more) =
        locate rules ((rest.filter (fun letter => !isTabOrNewline letter) ++ '/' :: more).dropWhile
          isSlash) := by
    intro more visible
    apply url_path
    rw [split, cleaned_append scheme rest _ http (List.cons_ne_nil _ _), scheme_after _ _ http]
    intro letter member
    rcases List.mem_cons.mp member with rfl | inside
    · decide
    · exact visible letter inside
  have bare : ∀ letter ∈ rest.filter (fun letter => !isTabOrNewline letter), letter ≠ '?' ∧
    letter ≠ '#' := by
    intro letter member
    have inside : letter ∈ base.text.toList :=
      split ▸ List.mem_append_right _ (List.mem_of_mem_filter member)
    constructor
    · rintro rfl
      exact base.bare.1 inside
    · rintro rfl
      exact base.bare.2 inside
  have slash : isSlash '/' = true := by decide
  rw [behind [] (by simp), behind _ above]
  generalize rest.filter (fun letter => !isTabOrNewline letter) = text at bare
  -- A base of slashes only has no host: the object name is taken for one.
  by_cases empty : text.dropWhile isSlash = []
  · right
    rw [List.dropWhile_append, List.dropWhile_append, if_pos (by simp [empty]),
      if_pos (by simp [empty])]
    constructor
    · simp [slash, locate, rules.present]
    · have fixed : (objectName id size).dropWhile isSlash = objectName id size := by
        rw [List.dropWhile_eq_self_iff]
        intro nonempty
        have plain := plain_cases _ (object_plain id size _ (List.getElem_mem nonempty))
        simp [isSlash, plain]
      have whole : (objectName id size).dropWhile (fun letter => !endsAuthority letter) = [] := by
        rw [List.dropWhile_eq_nil_iff]
        intro letter member
        have plain := plain_cases letter (object_plain id size letter member)
        simp [endsAuthority, plain]
      intro path
      simp only [List.dropWhile_cons, slash, if_true, fixed, locate, whole]
      split
      · intro found
        cases found
        decide
      · simp
  · rw [List.dropWhile_append, List.dropWhile_append, if_neg (by simpa using empty),
      if_neg (by simpa using empty), locate_append, locate_append]
    split
    · left
      have opens : ∀ letter ∈
          ((text.dropWhile isSlash).dropWhile fun letter => !endsAuthority letter).head?,
          isSlash letter = true := by
        intro letter first
        have member : letter ∈ text := (List.dropWhile_sublist _).subset
          ((List.dropWhile_sublist _).subset (List.mem_of_head? first))
        have ends := List.head?_dropWhile_not (fun letter => !endsAuthority letter)
          (text.dropWhile isSlash)
        rw [Option.mem_def.mp first] at ends
        have apart := bare letter member
        simp only [endsAuthority, Bool.not_eq_false', List.contains_eq_mem, List.mem_cons,
          List.not_mem_nil, or_false, decide_eq_true_eq] at ends
        simp only [isSlash, Bool.or_eq_true, decide_eq_true_eq]
        tauto
      have within : ∀ letter ∈
          (text.dropWhile isSlash).dropWhile fun letter => !endsAuthority letter,
          letter ≠ '?' ∧ letter ≠ '#' := fun letter member =>
        bare letter ((List.dropWhile_sublist _).subset ((List.dropWhile_sublist _).subset member))
      rw [start_directories _ [] opens within, start_directories _ _ opens within, object_path,
        directory_path]
      refine ⟨_, ?_, rfl, rfl⟩
      intro directory member
      have settled := (start_settled
        (((text.dropWhile isSlash).dropWhile fun letter => !endsAuthority letter) ++ ['/'])).1
      rw [start_directories _ [] opens within, directory_path] at settled
      exact settled directory (List.mem_append_left _ member)
    · exact Or.inr ⟨rfl, by simp⟩

/-- The base has no directory, or an underscore in its last one, and is still a URL with a
slash behind it. -/
def ShallowBase (base : MediaBase rules) : Prop :=
  ∃ path, urlPath rules (base.text.toList ++ ['/']) = some path ∧ Shallow path.dropLast

def Undone (mediaUrl : Option String) (base : MediaBase rules) (id : ImageId)
    (size : ImageSize) : Prop :=
  ∃ url, getImageUrl mediaUrl id.text size (some base.text) = .ok url ∧
    extractImageId rules url = some id.text

theorem image_url (mediaUrl : Option String) (base : MediaBase rules) (id : ImageId)
    (size : ImageSize) :
    ∃ url, getImageUrl mediaUrl id.text size (some base.text) = .ok url ∧
      url.toList = base.text.toList ++ '/' :: objectName id size := by
  obtain ⟨scheme, rest, split, http⟩ := base.http
  have filled : truthy (some base.text) = some base.text := by
    rw [truthy, Option.filter_some, if_pos]
    simp only [decide_eq_true_eq]
    intro empty
    rw [empty] at split
    obtain rfl := (List.append_eq_nil_iff.mp split.symm).1
    simp [IsScheme] at http
  refine ⟨_, by rw [getImageUrl, filled]; rfl, ?_⟩
  simp [objectName]

theorem undone_iff (mediaUrl : Option String) (base : MediaBase rules) (id : ImageId)
    (size : ImageSize) (nonempty : id.text ≠ "") :
    Undone rules mediaUrl base id size ↔ ShallowBase rules base := by
  obtain ⟨url, built, letters⟩ := image_url rules mediaUrl base id size
  have asked : Undone rules mediaUrl base id size ↔ extractImageId rules url = some id.text := by
    simp [Undone, built]
  rw [asked, extractImageId, letters, ShallowBase]
  rcases base_paths rules base id size with ⟨path, settled, bare, named⟩ | ⟨missing, only⟩
  · rw [named, bare, Option.bind_some]
    have matched := match_path id nonempty size path settled
    constructor
    · intro found
      obtain ⟨name, here, same⟩ := Option.map_eq_some_iff.mp found
      refine ⟨_, rfl, ?_⟩
      rw [List.dropLast_concat, ← matched, here, ← same, String.toList_ofList]
    · rintro ⟨parsed, same, shallow⟩
      cases same
      rw [List.dropLast_concat] at shallow
      rw [matched.mpr shallow, Option.map_some, String.ofList_toList]
  · rw [missing]
    constructor
    · intro found
      obtain ⟨path, parsed, matched⟩ := Option.bind_eq_some_iff.mp found
      rw [only path parsed] at matched
      exact absurd matched (by simp [serialize, matchPath, matchName])
    · rintro ⟨path, parsed, -⟩
      cases parsed

end Bases

section Samples

def hostRules : UrlRules where
  isAuthority := fun authority => !authority.isEmpty && authority.all UploadSigning.isHostLetter
  present := rfl

def plainHost : MediaBase hostRules where
  text := "https://media.example"
  http := ⟨"https:".toList, "//media.example".toList, by decide, Or.inr (by decide)⟩
  bare := by decide
  parses := by decide

def hostWithPath : MediaBase hostRules where
  text := "https://media.example/media"
  http := ⟨"https:".toList, "//media.example/media".toList, by decide, Or.inr (by decide)⟩
  bare := by decide
  parses := by decide

def photo : ImageId where
  text := "k3v9"
  base36 := List.all_eq_true.mp (by decide)

theorem undone_photo : Undone hostRules none plainHost photo .large :=
  (undone_iff hostRules none plainHost photo .large (by decide)).mpr
    ⟨[[]], by decide, by simp [Shallow]⟩

/-- Under a base with a path the id comes back with the path before it. -/
theorem path_kept :
    ¬ ∀ (rules : UrlRules) (mediaUrl : Option String) (base : MediaBase rules) (id : ImageId)
      (size : ImageSize), id.text ≠ "" → Undone rules mediaUrl base id size := by
  intro undone
  obtain ⟨url, built, found⟩ := undone hostRules none hostWithPath photo .large (by decide)
  have written : url = "https://media.example/media/k3v9_l.jpg" := by
    cases built
    decide
  rw [written] at found
  exact absurd found (by decide)

end Samples

end TopInspect.ImageUrls
