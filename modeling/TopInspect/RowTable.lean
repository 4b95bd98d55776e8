import Mathlib.Data.List.Nodup
import Mathlib.Data.List.Pairwise

/-! Tables of rows under a uniqueness constraint. `Clash` says which two rows
may not stand together, so primary keys and unique columns of any number are
one relation, and a table carries the proof that no two of its rows clash. -/
namespace TopInspect.RowTable

structure Table (Row : Type) (Clash : Row → Row → Prop) where
  rows : List Row
  distinct : rows.Pairwise fun left right => ¬ Clash left right

namespace Table

variable {Row Key : Type} {Clash : Row → Row → Prop}

@[ext] theorem ext_rows (left right : Table Row Clash) (same : left.rows = right.rows) :
    left = right := by
  cases left
  cases right
  cases same
  rfl

def empty : Table Row Clash := { rows := [], distinct := List.Pairwise.nil }

-- `select ... where chosen limit 1`
def find (table : Table Row Clash) (chosen : Row → Bool) : Option Row :=
  table.rows.find? chosen

-- The affected-row count of an update or a delete.
def count (table : Table Row Clash) (chosen : Row → Bool) : Nat :=
  table.rows.countP chosen

def remove (table : Table Row Clash) (chosen : Row → Bool) : Table Row Clash where
  rows := table.rows.filter fun row => !chosen row
  distinct := table.distinct.filter _

def rewrite (chosen : Row → Bool) (change : Row → Row) (row : Row) : Row :=
  if chosen row then change row else row

section Constrained
variable [DecidableRel Clash]

def insert (table : Table Row Clash) (row : Row) : Option (Table Row Clash) :=
  if free : ∀ old ∈ table.rows, ¬ Clash old row then
    some { rows := table.rows ++ [row]
           distinct := List.pairwise_append.mpr
             ⟨table.distinct, List.pairwise_singleton _ _, fun old member new added => by
               rw [List.mem_singleton.mp added]
               exact free old member⟩ }
  else none

/-- An update is refused as a whole when its result would clash. -/
def amend (table : Table Row Clash) (chosen : Row → Bool) (change : Row → Row) :
    Option (Table Row Clash) :=
  if distinct : (table.rows.map (rewrite chosen change)).Pairwise
      (fun left right => ¬ Clash left right) then
    some { rows := table.rows.map (rewrite chosen change), distinct }
  else none

theorem insert_rows (table after : Table Row Clash) (row : Row)
    (inserted : table.insert row = some after) : after.rows = table.rows ++ [row] := by
  unfold insert at inserted
  split at inserted
  · cases inserted
    rfl
  · cases inserted

theorem insert_free (table : Table Row Clash) (row : Row)
    (free : ∀ old ∈ table.rows, ¬ Clash old row) :
    ∃ after, table.insert row = some after ∧ after.rows = table.rows ++ [row] := by
  unfold insert
  rw [dif_pos free]
  exact ⟨_, rfl, rfl⟩

theorem insert_apart (table after : Table Row Clash) (row : Row)
    (inserted : table.insert row = some after) : ∀ old ∈ table.rows, ¬ Clash old row := by
  intro old member
  have distinct := after.distinct
  rw [table.insert_rows after row inserted] at distinct
  exact (List.pairwise_append.mp distinct).2.2 old member row (List.mem_singleton_self row)

theorem amend_rows (table after : Table Row Clash) (chosen : Row → Bool) (change : Row → Row)
    (amended : table.amend chosen change = some after) :
    after.rows = table.rows.map (rewrite chosen change) := by
  unfold amend at amended
  split at amended
  · cases amended
    rfl
  · cases amended

theorem amend_safe (table : Table Row Clash) (chosen : Row → Bool) (change : Row → Row)
    (safe : ∀ left ∈ table.rows, ∀ right ∈ table.rows,
      Clash (rewrite chosen change left) (rewrite chosen change right) → Clash left right) :
    ∃ after, table.amend chosen change = some after ∧
      after.rows = table.rows.map (rewrite chosen change) := by
  have distinct : (table.rows.map (rewrite chosen change)).Pairwise
      (fun left right => ¬ Clash left right) := by
    rw [List.pairwise_map]
    exact table.distinct.imp_of_mem fun left right apart clash =>
      apart (safe _ left _ right clash)
  unfold amend
  rw [dif_pos distinct]
  exact ⟨_, rfl, rfl⟩

end Constrained

theorem find_mem (table : Table Row Clash) (chosen : Row → Bool) (row : Row)
    (found : table.find chosen = some row) : row ∈ table.rows ∧ chosen row = true :=
  ⟨List.mem_of_find?_eq_some found, List.find?_some found⟩

theorem find_none (table : Table Row Clash) (chosen : Row → Bool) :
    table.find chosen = none ↔ ∀ row ∈ table.rows, ¬ chosen row = true := by
  simp [find]

theorem eq_of_clash (table : Table Row Clash)
    (symmetric : ∀ left right, Clash left right → Clash right left) (left right : Row)
    (first : left ∈ table.rows) (second : right ∈ table.rows) (clash : Clash left right) :
    left = right := by
  have unordered : Std.Symm fun left right => ¬ Clash left right :=
    ⟨fun _ _ apart back => apart (symmetric _ _ back)⟩
  by_contra different
  exact table.distinct.forall first second different clash

section Keyed
variable (key : Row → Key) (keyed : ∀ left right, key left = key right → Clash left right)

include keyed in
theorem eq_of_key (table : Table Row Clash) (left right : Row)
    (first : left ∈ table.rows) (second : right ∈ table.rows) (same : key left = key right) :
    left = right := by
  have keys : (table.rows.map key).Nodup := by
    rw [List.Nodup, List.pairwise_map]
    exact table.distinct.imp fun apart equal => apart (keyed _ _ equal)
  exact List.inj_on_of_nodup_map keys first second same

include keyed in
theorem find_key [DecidableEq Key] (table : Table Row Clash) (wanted : Key) (row : Row) :
    table.find (fun row => key row = wanted) = some row ↔
      row ∈ table.rows ∧ key row = wanted := by
  constructor
  · intro found
    simpa using table.find_mem _ row found
  · rintro ⟨member, same⟩
    cases found : table.find (fun row => key row = wanted) with
    | none =>
        have absent := (table.find_none _).mp found row member
        exact absurd same (by simpa using absent)
    | some other =>
        obtain ⟨present, chosen⟩ := table.find_mem _ other found
        have equal : other = row := eq_of_key key keyed table other row present member
          (by simpa [same] using chosen)
        rw [equal]

end Keyed

section Lookup
variable [DecidableRel Clash]

theorem find_insert (table after : Table Row Clash) (row : Row) (chosen : Row → Bool)
    (inserted : table.insert row = some after) :
    after.find chosen = (table.find chosen).or (if chosen row then some row else none) := by
  simp [find, table.insert_rows after row inserted, List.find?_append, List.find?_singleton]

/-- An update that never moves a row into or out of a selection maps over it. -/
theorem find_amend (table after : Table Row Clash) (chosen picked : Row → Bool)
    (change : Row → Row) (amended : table.amend chosen change = some after)
    (keeps : ∀ row, picked (rewrite chosen change row) = picked row) :
    after.find picked = (table.find picked).map (rewrite chosen change) := by
  rw [find, find, table.amend_rows after chosen change amended, List.find?_map]
  congr 2
  funext row
  exact keeps row

end Lookup

theorem find_remove (table : Table Row Clash) (chosen picked : Row → Bool)
    (apart : ∀ row, picked row = true → chosen row = false) :
    (table.remove chosen).find picked = table.find picked := by
  simp only [find, remove, List.find?_filter]
  congr 1
  funext row
  cases hit : picked row with
  | false => simp
  | true => simp [apart row hit]

theorem find_remove_same (table : Table Row Clash) (chosen : Row → Bool) :
    (table.remove chosen).find chosen = none := by
  rw [find_none]
  intro row member
  simpa [remove] using (List.mem_filter.mp member).2

end Table
end TopInspect.RowTable
