import TopInspect.EmailSchema
import TopInspect.Splitting

/-! Mail addresses with a display name, as parseAddress of email/utils.ts reads them: a lazy
regular expression finds the name and the bracketed address, a second one strips quotes. -/
namespace TopInspect.MailAddresses
open EmailSchema (isSpace)
open Splitting (Tight trimmed trimmed_between trimmed_iff trimmed_tight tight_trimmed)

/-- LineTerminator, what a dot of a regular expression does not match. -/
def isLineBreak (letter : Char) : Bool :=
  letter = '\n' || letter = '\r' || letter.toNat = 0x2028 || letter.toNat = 0x2029

structure Address where
  email : List Char
  name : Option (List Char)
  deriving DecidableEq

/-- `\s*<([^>]+)>$`, with what the brackets hold. -/
def matchBrackets (rest : List Char) : Option (List Char) :=
  match rest.dropWhile isSpace with
  | '<' :: bracketed =>
      let inner := bracketed.dropLast
      if bracketed.getLast? = some '>' ∧ inner ≠ [] ∧ '>' ∉ inner then some inner else none
  | _ => none

/-- `^(.+?)` and the brackets behind it: the shortest name that they follow. -/
def matchNamed (taken : List Char) : List Char → Option (List Char × List Char)
  | [] => none
  | letter :: rest =>
      if isLineBreak letter then none
      else match matchBrackets rest with
        | some inner => some (taken ++ [letter], inner)
        | none => matchNamed (taken ++ [letter]) rest

def isQuote (letter : Char) : Bool := letter = '"' || letter = '\''

/-- `replace(/^["']|["']$/g, "")`, either quote for itself. -/
def stripQuotes (text : List Char) : List Char :=
  let opened := match text with
    | letter :: rest => if isQuote letter then rest else letter :: rest
    | [] => []
  if opened.getLast?.any isQuote then opened.dropLast else opened

def parseAddress (addr : List Char) : Address :=
  match matchNamed [] (trimmed isSpace addr) with
  | some (name, email) =>
      { email := trimmed isSpace email, name := some (stripQuotes (trimmed isSpace name)) }
  | none => { email := trimmed isSpace addr, name := none }

/-- A text that can stand as a name or as an address. -/
structure Plain (text : List Char) : Prop where
  nonempty : text ≠ []
  trims : trimmed isSpace text = text
  unbroken : ∀ letter ∈ text, letter ≠ '<' ∧ letter ≠ '>' ∧ isLineBreak letter = false

def Blank (text : List Char) : Prop := ∀ letter ∈ text, isSpace letter = true

def formatted (name between email : List Char) : List Char :=
  name ++ between ++ '<' :: (email ++ ['>'])

/-- A text of at least two letters in one pair of quotes. -/
def Quoted (text : List Char) : Prop :=
  ∃ quote inner, isQuote quote = true ∧ text = quote :: (inner ++ [quote])

/-- The name without its quotes, if it has a pair of them. -/
def unquoted (name : List Char) : List Char :=
  match name with
  | quote :: rest => if isQuote quote ∧ rest.getLast? = some quote then rest.dropLast else name
  | [] => name

theorem unquoted_pair (quote : Char) (inner : List Char) (quotes : isQuote quote = true) :
    unquoted (quote :: (inner ++ [quote])) = inner := by
  simp [unquoted, quotes]

theorem unquoted_bare (name : List Char) (bare : ¬ Quoted name) : unquoted name = name := by
  cases name with
  | nil => rfl
  | cons letter rest =>
      apply if_neg
      rintro ⟨quotes, ends⟩
      have split := List.dropLast_append_getLast? letter ends
      exact bare ⟨letter, rest.dropLast, quotes, by rw [split]⟩

section Splitting

theorem brackets_match (between email : List Char) (blank : Blank between) (plain : Plain email) :
    matchBrackets (between ++ '<' :: (email ++ ['>'])) = some email := by
  have opens : isSpace '<' = false := by decide
  have found : (between ++ '<' :: (email ++ ['>'])).dropWhile isSpace = '<' ::
    (email ++ ['>']) := by
    rw [List.dropWhile_append_of_pos blank]
    simp [opens]
  have inside : '>' ∉ email := fun member => (plain.unbroken '>' member).2.1 rfl
  simp [matchBrackets, found, plain.nonempty, inside]

theorem brackets_wait (name after : List Char) (nonempty : name ≠ [])
    (last : ∀ letter ∈ name.getLast?, isSpace letter = false) (closed : '<' ∉ name) :
    matchBrackets (name ++ after) = none := by
  induction name with
  | nil => exact absurd rfl nonempty
  | cons letter rest ih =>
      cases space : isSpace letter with
      | false =>
          have other : letter ≠ '<' := fun same => closed (same ▸ List.mem_cons_self)
          simp only [matchBrackets, List.cons_append, List.dropWhile_cons, space]
          split
          · next same => simp_all
          · rfl
      | true =>
          have longer : rest ≠ [] := by
            rintro rfl
            exact absurd space (by simp [last letter rfl])
          have skipped : matchBrackets (letter :: rest ++ after) = matchBrackets
            (rest ++ after) := by
            simp [matchBrackets, space]
          rw [skipped]
          refine ih longer ?_ fun member => closed (List.mem_cons_of_mem _ member)
          intro other ends
          exact last other (by rw [List.getLast?_cons, Option.mem_def.mp ends]; rfl)

theorem named_match (taken name after email : List Char) (nonempty : name ≠ [])
    (last : ∀ letter ∈ name.getLast?, isSpace letter = false)
    (unbroken : ∀ letter ∈ name, letter ≠ '<' ∧ letter ≠ '>' ∧ isLineBreak letter = false)
    (brackets : matchBrackets after = some email) :
    matchNamed taken (name ++ after) = some (taken ++ name, email) := by
  induction name generalizing taken with
  | nil => exact absurd rfl nonempty
  | cons letter rest ih =>
      have onward := (unbroken letter List.mem_cons_self).2.2
      by_cases done : rest = []
      · simp [matchNamed, onward, done, brackets]
      · have closed : '<' ∉ rest := fun member =>
          (unbroken '<' (List.mem_cons_of_mem _ member)).1 rfl
        have ends : ∀ other ∈ rest.getLast?, isSpace other = false := by
          intro other found
          exact last other (by rw [List.getLast?_cons, Option.mem_def.mp found]; rfl)
        have step := ih (taken ++ [letter]) done ends fun other member =>
          unbroken other (List.mem_cons_of_mem _ member)
        simp [matchNamed, onward, brackets_wait rest after done ends closed, step]

theorem named_none (taken text : List Char) (closed : '<' ∉ text) :
    matchNamed taken text = none := by
  induction text generalizing taken with
  | nil => rfl
  | cons letter rest ih =>
      have later : '<' ∉ rest := fun member => closed (List.mem_cons_of_mem _ member)
      have wait : matchBrackets rest = none := by
        unfold matchBrackets
        split
        · next bracketed found =>
            exact absurd (List.dropWhile_sublist isSpace |>.subset (found ▸ List.mem_cons_self))
              later
        · rfl
      simp [matchNamed, wait, ih _ later]

end Splitting

theorem plain_tight (text : List Char) (plain : Plain text) : Tight isSpace text :=
  (trimmed_iff text).mp plain.trims

/-- What is written with a name and an address is read as just these two. -/
theorem parse_formatted (before name between email after : List Char) (named : Plain name)
    (addressed : Plain email) (opens : Blank before) (gap : Blank between) (closes : Blank after) :
    parseAddress (before ++ formatted name between email ++ after) =
      { email, name := some (stripQuotes name) } := by
  have tight : Tight isSpace (formatted name between email) := by
    constructor
    · intro letter first
      apply (plain_tight name named).first letter
      cases name with
      | nil => exact absurd rfl named.nonempty
      | cons head rest => exact first
    · intro letter last
      have split : formatted name between email = name ++ between ++ '<' :: email ++ ['>'] := by
        simp [formatted]
      rw [split, List.getLast?_concat] at last
      cases last
      decide
  have found := named_match [] name (between ++ '<' :: (email ++ ['>'])) email named.nonempty
    (plain_tight name named).last named.unbroken (brackets_match between email gap addressed)
  have whole : formatted name between email = name ++ (between ++ '<' :: (email ++ ['>'])) :=
    List.append_assoc _ _ _
  rw [parseAddress, trimmed_between _ _ _ tight opens closes, whole, found]
  simp [named.trims, addressed.trims]

theorem parse_alone (before email after : List Char) (addressed : Plain email)
    (opens : Blank before) (closes : Blank after) :
    parseAddress (before ++ email ++ after) = { email, name := none } := by
  have closed : '<' ∉ email := fun member => (addressed.unbroken '<' member).1 rfl
  rw [parseAddress, trimmed_between _ _ _ (plain_tight email addressed) opens closes,
    named_none [] email closed]

section Quotes

theorem strip_pair (quote : Char) (inner : List Char) (quotes : isQuote quote = true) :
    stripQuotes (quote :: (inner ++ [quote])) = inner := by
  simp [stripQuotes, quotes]

theorem strip_bare (name : List Char) (bare : Tight isQuote name) : stripQuotes name = name := by
  cases name with
  | nil => rfl
  | cons letter rest =>
      have first := bare.first letter rfl
      have last : (letter :: rest).getLast?.any isQuote = false := by
        cases ends : (letter :: rest).getLast? with
        | none => rfl
        | some other => exact bare.last other ends
      simp only [stripQuotes, first, last, Bool.false_eq_true, if_false]

theorem strip_kept (name : List Char) (kept : stripQuotes name = name) : Tight isQuote name := by
  cases name with
  | nil => exact ⟨by simp, by simp⟩
  | cons letter rest =>
      have length := congrArg List.length kept
      have first : isQuote letter = false := by
        by_contra quotes
        simp only [stripQuotes, Bool.eq_true_of_not_eq_false quotes, if_true] at length
        split at length <;> simp at length
      have last : (letter :: rest).getLast?.any isQuote = false := by
        by_contra quotes
        simp only [stripQuotes, first, Bool.eq_true_of_not_eq_false quotes, if_true,
          Bool.false_eq_true, if_false] at length
        simp at length
      constructor
      · intro other same
        cases same
        exact first
      · intro other ends
        rw [Option.mem_def.mp ends] at last
        exact last

theorem bare_unquoted (name : List Char) (bare : Tight isQuote name) : ¬ Quoted name := by
  rintro ⟨quote, inner, quotes, rfl⟩
  exact absurd quotes (by simp [bare.first quote rfl])

/-- The quotes go as a pair only if they stand as a pair, or not at all. -/
theorem strip_iff (name : List Char) :
    stripQuotes name = unquoted name ↔ Quoted name ∨ Tight isQuote name := by
  constructor
  · intro same
    by_cases pair : Quoted name
    · exact Or.inl pair
    · rw [unquoted_bare name pair] at same
      exact Or.inr (strip_kept name same)
  · rintro (⟨quote, inner, quotes, rfl⟩ | bare)
    · rw [strip_pair quote inner quotes, unquoted_pair quote inner quotes]
    · rw [strip_bare name bare, unquoted_bare name (bare_unquoted name bare)]

end Quotes

/-- Both ways of writing an address are read back, whatever blanks stand around. -/
def ReadsBack (name email : List Char) : Prop :=
  ∀ before between after, Blank before → Blank between → Blank after →
    parseAddress (before ++ formatted name between email ++ after) =
        { email, name := some (unquoted name) } ∧
      parseAddress (before ++ email ++ after) = { email, name := none }

theorem reads_back_iff (name email : List Char) (named : Plain name) (addressed : Plain email) :
    ReadsBack name email ↔ Quoted name ∨ Tight isQuote name := by
  rw [← strip_iff]
  constructor
  · intro reads
    have written := (reads [] [] [] (by simp [Blank]) (by simp [Blank]) (by simp [Blank])).1
    rw [parse_formatted [] name [] email [] named addressed (by simp [Blank]) (by simp [Blank])
      (by simp [Blank])] at written
    exact Option.some.inj (congrArg Address.name written)
  · intro same before between after opens gap closes
    constructor
    · rw [parse_formatted before name between email after named addressed opens gap closes, same]
    · exact parse_alone before email after addressed opens closes

def nicknamed : List Char := "Ada 'the countess'".toList

def quoted : List Char := "\"Ada, countess\"".toList

def account : List Char := "ada@example.com".toList

theorem plain_nicknamed : Plain nicknamed :=
  ⟨by decide, by decide, List.forall_iff_forall_mem.mp (by decide)⟩

theorem plain_quoted : Plain quoted :=
  ⟨by decide, by decide, List.forall_iff_forall_mem.mp (by decide)⟩

theorem plain_account : Plain account :=
  ⟨by decide, by decide, List.forall_iff_forall_mem.mp (by decide)⟩

theorem reads_back_quoted : ReadsBack quoted account :=
  (reads_back_iff quoted account plain_quoted plain_account).mpr
    (Or.inl ⟨'"', "Ada, countess".toList, by decide, by decide⟩)

/-- A nickname in quotes at the end of a name loses the last of them. -/
theorem nickname_lost :
    ¬ ∀ name email : List Char, Plain name → Plain email → ReadsBack name email := by
  intro reads
  have read := (reads nicknamed account plain_nicknamed plain_account [] [' '] []
    (by simp [Blank]) (by simp [Blank]; decide) (by simp [Blank])).1
  exact absurd read (by decide)

end TopInspect.MailAddresses
