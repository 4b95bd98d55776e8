import Mathlib.Data.List.Basic

/-! The texts that JSON.parse accepts, read letter by letter: where the reader stands
in the grammar, and which objects and arrays are still open around it. -/
namespace TopInspect.JsonText

inductive Bracket where
  | object
  | array
  deriving DecidableEq

inductive Mode where
  | value
  | firstElement
  | firstMember
  | member
  | colon
  | string (key : Bool)
  | escape (key : Bool)
  | hex (key : Bool) (missing : Nat)
  | literal (rest : List Char)
  | minus
  | zero
  | integer
  | point
  | fraction
  | exponent
  | exponentSign
  | power
  | done
  deriving DecidableEq

structure Reader where
  mode : Mode
  brackets : List Bracket
  deriving DecidableEq

def isBlank (letter : Char) : Bool := [' ', '\t', '\n', '\r'].contains letter

def isHex (letter : Char) : Bool :=
  letter.isDigit || ('a' ≤ letter && letter ≤ 'f') || ('A' ≤ letter && letter ≤ 'F')

def startValue (brackets : List Bracket) (letter : Char) : Option Reader :=
  match letter with
  | '{' => some { mode := .firstMember, brackets := .object :: brackets }
  | '[' => some { mode := .firstElement, brackets := .array :: brackets }
  | '"' => some { mode := .string false, brackets }
  | 't' => some { mode := .literal ['r', 'u', 'e'], brackets }
  | 'f' => some { mode := .literal ['a', 'l', 's', 'e'], brackets }
  | 'n' => some { mode := .literal ['u', 'l', 'l'], brackets }
  | '-' => some { mode := .minus, brackets }
  | '0' => some { mode := .zero, brackets }
  | digit => if digit.isDigit then some { mode := .integer, brackets } else none

/-- A letter after a value. -/
def endValue (brackets : List Bracket) (letter : Char) : Option Reader :=
  if isBlank letter then some { mode := .done, brackets }
  else
    match letter, brackets with
    | ',', .object :: _ => some { mode := .member, brackets }
    | ',', .array :: _ => some { mode := .value, brackets }
    | '}', .object :: outer => some { mode := .done, brackets := outer }
    | ']', .array :: outer => some { mode := .done, brackets := outer }
    | _, _ => none

def startEscape (key : Bool) (brackets : List Bracket) (letter : Char) : Option Reader :=
  if letter = 'u' then some { mode := .hex key 3, brackets }
  else if ['"', '\\', '/', 'b', 'f', 'n', 'r', 't'].contains letter then
    some { mode := .string key, brackets }
  else none

def step (reader : Reader) (letter : Char) : Option Reader :=
  let brackets := reader.brackets
  match reader.mode with
  | .value => if isBlank letter then some reader else startValue brackets letter
  | .firstElement =>
      if isBlank letter then some reader
      else if letter = ']' then endValue brackets letter
      else startValue brackets letter
  | .firstMember =>
      if isBlank letter then some reader
      else if letter = '}' then endValue brackets letter
      else if letter = '"' then some { mode := .string true, brackets }
      else none
  | .member =>
      if isBlank letter then some reader
      else if letter = '"' then some { mode := .string true, brackets }
      else none
  | .colon =>
      if isBlank letter then some reader
      else if letter = ':' then some { mode := .value, brackets }
      else none
  | .string key =>
      if letter = '"' then some { mode := if key then .colon else .done, brackets }
      else if letter = '\\' then some { mode := .escape key, brackets }
      else if letter.toNat < 0x20 then none
      else some reader
  | .escape key => startEscape key brackets letter
  | .hex key 0 => if isHex letter then some { mode := .string key, brackets } else none
  | .hex key (missing + 1) =>
      if isHex letter then some { mode := .hex key missing, brackets } else none
  | .literal [] => none
  | .literal [last] => if letter = last then some { mode := .done, brackets } else none
  | .literal (next :: rest) =>
      if letter = next then some { mode := .literal rest, brackets } else none
  | .minus =>
      if letter = '0' then some { mode := .zero, brackets }
      else if letter.isDigit then some { mode := .integer, brackets }
      else none
  | .zero => afterInteger brackets letter
  | .integer => if letter.isDigit then some reader else afterInteger brackets letter
  | .point => if letter.isDigit then some { mode := .fraction, brackets } else none
  | .fraction => if letter.isDigit then some reader else afterFraction brackets letter
  | .exponent =>
      if letter = '+' || letter = '-' then some { mode := .exponentSign, brackets }
      else if letter.isDigit then some { mode := .power, brackets }
      else none
  | .exponentSign => if letter.isDigit then some { mode := .power, brackets } else none
  | .power => if letter.isDigit then some reader else endValue brackets letter
  | .done => endValue brackets letter
where
  afterFraction (brackets : List Bracket) (letter : Char) : Option Reader :=
    if letter = 'e' || letter = 'E' then some { mode := .exponent, brackets }
    else endValue brackets letter
  afterInteger (brackets : List Bracket) (letter : Char) : Option Reader :=
    if letter = '.' then some { mode := .point, brackets } else afterFraction brackets letter

def read : Reader → List Char → Option Reader
  | reader, [] => some reader
  | reader, letter :: rest =>
      match step reader letter with
      | none => none
      | some next => read next rest

def Mode.complete : Mode → Bool
  | .zero => true
  | .integer => true
  | .fraction => true
  | .power => true
  | .done => true
  | _ => false

def start : Reader := { mode := .value, brackets := [] }

def isJson (text : String) : Bool :=
  match read start text.toList with
  | some reader => reader.mode.complete && reader.brackets.isEmpty
  | none => false

example : isJson "\x7b\"a\": [1, -2.5e3, \"\\u00e9\"], \"b\": null\x7d " = true := by decide
example : isJson "\x7b\"a\": 01\x7d" = false := by decide

theorem waits_on (letters : List Char) (plain : ∀ letter ∈ letters, startValue [] letter = none) :
    read start letters = some start ∨ read start letters = none := by
  induction letters with
  | nil => exact Or.inl rfl
  | cons letter rest ih =>
      have idle : startValue [] letter = none := plain letter (by simp)
      have later := ih fun other member => plain other (List.mem_cons_of_mem letter member)
      by_cases blank : isBlank letter = true
      · simpa [read, step, start, blank] using later
      · apply Or.inr
        simp [read, step, start, blank, idle]

theorem json_starts (text : String) (accepted : isJson text = true) :
    ∃ letter ∈ text.toList, startValue [] letter ≠ none := by
  by_contra missing
  have plain : ∀ letter ∈ text.toList, startValue [] letter = none := by
    intro letter member
    by_contra found
    exact missing ⟨letter, member, found⟩
  unfold isJson at accepted
  rcases waits_on text.toList plain with waiting | stuck
  · rw [waiting] at accepted
    exact absurd accepted (by decide)
  · rw [stuck] at accepted
    exact absurd accepted (by decide)

/-- A string takes in any number of a letter that has no meaning in it. -/
theorem string_reads (key : Bool) (brackets : List Bracket) (letter : Char) (n : Nat)
    (rest : List Char) (plain : letter ≠ '"' ∧ letter ≠ '\\' ∧ 0x20 ≤ letter.toNat) :
    read { mode := .string key, brackets } (List.replicate n letter ++ rest) =
      read { mode := .string key, brackets } rest := by
  induction n with
  | zero => rfl
  | succ n ih =>
      have steps : step { mode := .string key, brackets } letter =
          some { mode := .string key, brackets } := by
        simp only [step, plain.1, plain.2.1, if_false, Nat.not_lt.mpr plain.2.2]
      rw [List.replicate_succ, List.cons_append, read, steps]
      exact ih

theorem string_json (letter : Char) (n : Nat)
    (plain : letter ≠ '"' ∧ letter ≠ '\\' ∧ 0x20 ≤ letter.toNat) :
    isJson (String.ofList ('"' :: (List.replicate n letter ++ ['"']))) = true := by
  unfold isJson
  rw [String.toList_ofList, read,
    show step start '"' = some { mode := .string false, brackets := [] }
    from rfl]
  simp only [string_reads false [] letter n ['"'] plain]
  rfl

end TopInspect.JsonText
