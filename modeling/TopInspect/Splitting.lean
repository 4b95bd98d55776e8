import Mathlib.Data.List.DropRight
import Mathlib.Data.List.Infix

/-! A text cut at its runs of blanks, as a split at `/\s+/` cuts it, and put together again; and a
text without the blanks at its ends. -/
namespace TopInspect.Splitting

variable {Letter : Type} (blank : Letter → Bool)

def startsBlank : List Letter → Bool
  | [] => false
  | letter :: _ => blank letter

def extend (letter : Letter) : List (List Letter) → List (List Letter)
  | [] => [[letter]]
  | first :: rest => (letter :: first) :: rest

-- A run of blanks cuts at its last one; blanks at an end leave an empty piece there.
def split : List Letter → List (List Letter)
  | [] => [[]]
  | letter :: rest =>
      if blank letter then
        if startsBlank blank rest then split rest else [] :: split rest
      else extend letter (split rest)

/-- Behind the first one, only the last piece may be empty. -/
def Spaced : List (List Letter) → Prop
  | [] => True
  | [_] => True
  | piece :: next :: rest => piece ≠ [] ∧ Spaced (next :: rest)

def Unbroken (piece : List Letter) : Prop := ∀ letter ∈ piece, blank letter = false

/-- The pieces that a split can leave. -/
structure Pieces (pieces : List (List Letter)) : Prop where
  nonempty : pieces ≠ []
  unbroken : ∀ piece ∈ pieces, Unbroken blank piece
  spaced : Spaced pieces.tail

variable {blank}

theorem split_nonempty (text : List Letter) : split blank text ≠ [] := by
  induction text with
  | nil => simp [split]
  | cons letter rest ih =>
      simp only [split]
      split
      · split
        · exact ih
        · simp
      · cases same : Splitting.split blank rest <;> simp [extend]

theorem split_unbroken (text : List Letter) :
    ∀ piece ∈ split blank text, Unbroken blank piece := by
  induction text with
  | nil => simp [split, Unbroken]
  | cons letter rest ih =>
      intro piece member
      simp only [split] at member
      split at member
      · split at member
        · exact ih piece member
        · rcases List.mem_cons.mp member with rfl | later
          · simp [Unbroken]
          · exact ih piece later
      · next solid =>
          have letters : Unbroken blank [letter] := by simpa [Unbroken] using solid
          cases pieces : Splitting.split blank rest with
          | nil =>
              rw [pieces, extend, List.mem_singleton] at member
              exact member ▸ letters
          | cons first others =>
              rw [pieces, extend] at member
              rw [pieces] at ih
              rcases List.mem_cons.mp member with rfl | later
              · intro other inside
                rcases List.mem_cons.mp inside with rfl | deeper
                · exact letters other List.mem_cons_self
                · exact ih first List.mem_cons_self other deeper
              · exact ih piece (List.mem_cons_of_mem first later)

theorem spaced_tail (piece : List Letter) (rest : List (List Letter))
    (spaced : Spaced (piece :: rest)) :
    Spaced rest := by
  cases rest with
  | nil => trivial
  | cons next others => exact spaced.2

theorem split_starts (text : List Letter) (starts : startsBlank blank text = false) :
    (split blank text).head? ≠ some [] ∨ text = [] := by
  cases text with
  | nil => exact Or.inr rfl
  | cons letter rest =>
      have solid : blank letter = false := starts
      apply Or.inl
      simp only [split, solid]
      cases Splitting.split blank rest <;> simp [extend]

theorem split_spaced (text : List Letter) : Spaced (split blank text).tail := by
  induction text with
  | nil => trivial
  | cons letter rest ih =>
      simp only [split]
      split
      · split
        · exact ih
        · next later =>
            rcases split_starts rest (Bool.eq_false_iff.mpr later) with opens | rfl
            · cases pieces : Splitting.split blank rest with
              | nil => trivial
              | cons first others =>
                  rw [pieces] at opens ih
                  cases others with
                  | nil => trivial
                  | cons next more =>
                      have filled : first ≠ [] := by simpa using opens
                      exact ⟨filled, ih⟩
            · trivial
      · cases pieces : Splitting.split blank rest with
        | nil => trivial
        | cons first others =>
            rw [pieces] at ih
            exact ih

theorem split_pieces (text : List Letter) : Pieces blank (split blank text) where
  nonempty := split_nonempty text
  unbroken := split_unbroken text
  spaced := split_spaced text

theorem split_unbroken_text (piece : List Letter) (unbroken : Unbroken blank piece) :
    split blank piece = [piece] := by
  induction piece with
  | nil => rfl
  | cons letter rest ih =>
      have solid : blank letter = false := unbroken letter List.mem_cons_self
      have same := ih fun other member => unbroken other (List.mem_cons_of_mem letter member)
      simp [split, solid, same, extend]

theorem split_append (piece text : List Letter) (mark : Letter) (unbroken : Unbroken blank piece)
    (cuts : blank mark = true) (starts : startsBlank blank text = false) :
    split blank (piece ++ mark :: text) = piece :: split blank text := by
  induction piece with
  | nil => simp [split, cuts, starts]
  | cons letter rest ih =>
      have solid : blank letter = false := unbroken letter List.mem_cons_self
      have same := ih fun other member => unbroken other (List.mem_cons_of_mem letter member)
      simp [split, solid, same, extend]

theorem joined_starts (pieces : List (List Letter)) (mark : Letter)
    (unbroken : ∀ piece ∈ pieces, Unbroken blank piece) (spaced : Spaced pieces) :
    startsBlank blank ([mark].intercalate pieces) = false := by
  cases pieces with
  | nil => rfl
  | cons first rest =>
      cases first with
      | cons letter others =>
          have solid := unbroken _ List.mem_cons_self letter List.mem_cons_self
          cases rest with
          | nil => simpa [startsBlank] using solid
          | cons next more => simpa [List.intercalate_cons_cons, startsBlank] using solid
      | nil =>
          cases rest with
          | nil => rfl
          | cons next more => exact absurd rfl spaced.1

/-- A split finds the pieces that were put together. -/
theorem split_joined (pieces : List (List Letter)) (mark : Letter) (cuts : blank mark = true)
    (given : Pieces blank pieces) : split blank ([mark].intercalate pieces) = pieces := by
  obtain ⟨nonempty, unbroken, spaced⟩ := given
  induction pieces with
  | nil => exact absurd rfl nonempty
  | cons first rest ih =>
      have whole := unbroken first List.mem_cons_self
      have others : ∀ piece ∈ rest, Unbroken blank piece :=
        fun piece member => unbroken piece (List.mem_cons_of_mem first member)
      cases rest with
      | nil => simpa using split_unbroken_text first whole
      | cons next more =>
          have starts := joined_starts (next :: more) mark others spaced
          rw [List.intercalate_cons_cons, List.append_assoc, List.singleton_append,
            split_append first _ mark whole cuts starts,
            ih (List.cons_ne_nil next more) others (spaced_tail next more spaced)]

theorem spaced_map (change : List Letter → List Letter) (pieces : List (List Letter))
    (filled : ∀ piece ∈ pieces, piece ≠ [] → change piece ≠ []) (spaced : Spaced pieces) :
    Spaced (pieces.map change) := by
  induction pieces with
  | nil => trivial
  | cons piece rest ih =>
      cases rest with
      | nil => trivial
      | cons next more =>
          have later := ih (fun other member => filled other (List.mem_cons_of_mem piece member))
            spaced.2
          exact ⟨filled piece List.mem_cons_self spaced.1, later⟩

theorem pieces_map (change : List Letter → List Letter) (pieces : List (List Letter))
    (given : Pieces blank pieces) (filled : ∀ piece ∈ pieces, piece ≠ [] → change piece ≠ [])
    (whole : ∀ piece ∈ pieces, Unbroken blank (change piece)) :
    Pieces blank (pieces.map change) where
  nonempty := by simpa using given.nonempty
  unbroken := by simpa using whole
  spaced := by
    rw [← List.map_tail]
    exact spaced_map change pieces.tail
      (fun piece member => filled piece (List.mem_of_mem_tail member))
      given.spaced

section Ends

variable (blank) in
def trimmed (text : List Letter) : List Letter := (text.dropWhile blank).rdropWhile blank

variable (blank) in
structure Tight (text : List Letter) : Prop where
  first : ∀ letter ∈ text.head?, blank letter = false
  last : ∀ letter ∈ text.getLast?, blank letter = false

theorem drop_first (text after : List Letter) (first : ∀ letter ∈ text.head?, blank letter = false)
    (nonempty : text ≠ []) : (text ++ after).dropWhile blank = text ++ after := by
  cases text with
  | nil => exact absurd rfl nonempty
  | cons letter rest =>
      have open_ended := first letter rfl
      simp [open_ended]

theorem drop_last (text after : List Letter) (last : ∀ letter ∈ text.getLast?, blank letter = false)
    (blanks : ∀ letter ∈ after, blank letter = true) : (text ++ after).rdropWhile blank = text := by
  have flipped : (after.reverse ++ text.reverse).dropWhile blank = text.reverse := by
    rw [List.dropWhile_append_of_pos fun letter member =>
      blanks letter (List.mem_reverse.mp member)]
    cases reversed : text.reverse with
    | nil => rfl
    | cons letter rest =>
        have ends : text.getLast? = some letter := by
          rw [← List.head?_reverse, reversed, List.head?_cons]
        simp [last letter ends]
  rw [List.rdropWhile, List.reverse_append, flipped, List.reverse_reverse]

theorem trimmed_between (before text after : List Letter) (tight : Tight blank text)
    (opens : ∀ letter ∈ before, blank letter = true)
    (closes : ∀ letter ∈ after, blank letter = true) :
    trimmed blank (before ++ text ++ after) = text := by
  rw [trimmed, List.append_assoc, List.dropWhile_append_of_pos opens]
  cases text with
  | nil =>
      have gone : after.dropWhile blank = [] := List.dropWhile_eq_nil_iff.mpr closes
      rw [List.nil_append, gone, List.rdropWhile_nil]
  | cons letter rest =>
      rw [drop_first _ after tight.first (List.cons_ne_nil letter rest)]
      exact drop_last _ after tight.last closes

theorem trimmed_tight (text : List Letter) (tight : Tight blank text) :
    trimmed blank text = text := by
  have alone := trimmed_between [] text [] tight (by simp) (by simp)
  rwa [List.nil_append, List.append_nil] at alone

theorem tight_trimmed (text : List Letter) : Tight blank (trimmed blank text) := by
  constructor
  · intro letter first
    have opening : ∀ other ∈ (text.dropWhile blank).head?, blank other = false := by
      intro other head
      have found := List.head?_dropWhile_not blank text
      rw [Option.mem_def.mp head] at found
      simpa using found
    obtain ⟨rest, split⟩ := List.rdropWhile_prefix blank (text.dropWhile blank)
    apply opening letter
    rw [← split, List.head?_append]
    exact Option.or_eq_some_iff.mpr (Or.inl first)
  · intro letter last
    have nonempty : trimmed blank text ≠ [] := by
      intro empty
      rw [empty] at last
      cases last
    have closing := List.rdropWhile_last_not blank (text.dropWhile blank) nonempty
    rw [List.getLast?_eq_some_getLast nonempty] at last
    cases last
    exact Bool.eq_false_iff.mpr closing

theorem trimmed_iff (text : List Letter) : trimmed blank text = text ↔ Tight blank text := by
  constructor
  · intro same
    exact same ▸ tight_trimmed text
  · exact trimmed_tight text

end Ends

end TopInspect.Splitting
