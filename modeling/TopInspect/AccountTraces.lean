import TopInspect.AccountContract

/-! What the trace says about the accounts in the making. Each stage of a request
rests on entries of its own, so the request that asked for a profile is the one
that inserted the row, and a cleanup goes back to a profile that failed. -/
namespace TopInspect.AccountTraces

open Resumption Interleaving AuthSchema AuthStatements AuthHandlers AccountContract Staging
open Live

def openedId : Statement → Option String
  | .insertAuth row => some row.id
  | _ => none

def profiledId : Statement → Option String
  | .insertUser user => some user.id
  | _ => none

def Effective (entry : Entry) : Prop :=
  ∃ answer, (perform entry.tick entry.query entry.before).1 = .ok answer

def Threw (entry : Entry) : Prop :=
  ∃ error, (perform entry.tick entry.query entry.before).1 = .error error

def Made (trace : List Entry) (index : Nat) (row : Auth) : Prop :=
  ∃ entry ∈ trace, entry.task = index ∧ entry.query = .insertAuth row ∧ Effective entry

def Profiled (trace : List Entry) (id : String) : Prop :=
  ∃ entry ∈ trace, profiledId entry.query = some id ∧ Effective entry

def Failed (trace : List Entry) (index : Nat) (id : String) : Prop :=
  ∃ entry ∈ trace, entry.task = index ∧ profiledId entry.query = some id ∧ Threw entry

def Bare (trace : List Entry) (index : Nat) : Prop :=
  ∀ entry ∈ trace, entry.task = index → profiledId entry.query = none

theorem made_cons (entry : Entry) (trace : List Entry) (index : Nat) (row : Auth)
    (made : Made trace index row) : Made (entry :: trace) index row := by
  obtain ⟨other, member, holds⟩ := made
  exact ⟨other, List.mem_cons_of_mem _ member, holds⟩

theorem profiled_cons (entry : Entry) (trace : List Entry) (id : String)
    (profiled : Profiled trace id) : Profiled (entry :: trace) id := by
  obtain ⟨other, member, holds⟩ := profiled
  exact ⟨other, List.mem_cons_of_mem _ member, holds⟩

theorem failed_cons (entry : Entry) (trace : List Entry) (index : Nat) (id : String)
    (failed : Failed trace index id) : Failed (entry :: trace) index id := by
  obtain ⟨other, member, holds⟩ := failed
  exact ⟨other, List.mem_cons_of_mem _ member, holds⟩

theorem bare_cons (entry : Entry) (trace : List Entry) (index : Nat)
    (other : entry.task = index → profiledId entry.query = none) (bare : Bare trace index) :
    Bare (entry :: trace) index := by
  intro found member own
  rcases List.mem_cons.mp member with rfl | old
  · exact other own
  · exact bare found old own

/-- What a stage says about the task's own entries. -/
def Standing (trace : List Entry) (index : Nat) : Stage → Prop
  | .idle => Bare trace index
  | .opened row => Made trace index row ∧ Bare trace index
  | .unprofiled row => Failed trace index row.id
  | .settled => True

theorem standing_other (entry : Entry) (trace : List Entry) (index : Nat) (stage : Stage)
    (other : entry.task ≠ index) (standing : Standing trace index stage) :
    Standing (entry :: trace) index stage := by
  have bare := bare_cons entry trace index fun own => absurd own other
  cases stage with
  | idle => exact bare standing
  | opened row => exact ⟨made_cons entry trace index row standing.1, bare standing.2⟩
  | unprofiled row => exact failed_cons entry trace index row.id standing
  | settled => trivial

theorem standing_own (facts : Facts) (entry : Entry) (trace : List Entry) (stage : Stage)
    (asks : Asks facts entry.request stage entry.query)
    (standing : Standing trace entry.task stage) :
    Standing (entry :: trace) entry.task
      (moves stage entry.query (perform entry.tick entry.query entry.before).1) := by
  generalize query : entry.query = statement at asks
  generalize answered : (perform entry.tick statement entry.before).1 = result
  have outcome : (perform entry.tick entry.query entry.before).1 = query ▸ result := by
    subst query
    exact answered
  -- What the task stands on is moved by its own statement only.
  cases asks with
  | opens row own =>
      have bare := bare_cons entry trace entry.task (fun _ => by rw [query]; rfl) standing
      cases result with
      | error error => trivial
      | ok stored =>
          exact ⟨⟨entry, List.mem_cons_self, rfl, query,
            by unfold Effective; rw [query]; exact ⟨_, answered⟩⟩, bare⟩
  | profiles row user same =>
      cases result with
      | ok answer => trivial
      | error error =>
          exact ⟨entry, List.mem_cons_self, rfl, by rw [query]; exact congrArg some same,
            by unfold Threw; rw [query]; exact ⟨_, answered⟩⟩
  | defers row => trivial
  | calm _ _ ends calm =>
      rw [calm_moves facts entry.request stage ends statement calm result]
      cases ends with
      | settled => trivial
      | idle =>
          apply bare_cons entry trace entry.task _ standing
          intro _
          rw [query]
          cases statement with
          | insertUser user => exact absurd calm id
          | _ => rfl

structure Traced (trace : List Entry) : Prop where
  standing : ∀ index, Standing trace index (progress trace index)
  opens : ∀ entry ∈ trace, ∀ row, entry.query = .insertAuth row → Opens entry.request row
  profiles : ∀ entry ∈ trace, ∀ user, entry.query = .insertUser user →
    ∃ row, Made trace entry.task row ∧ row.id = user.id
  defers : ∀ entry ∈ trace, ∀ id, entry.query = .waitUntil (.deleteAuth id) →
    Failed trace entry.task id
  deletes : ∀ entry ∈ trace, ∀ id, entry.query = .deleteAuth id →
    entry.request = .background (.deleteAuth id)

theorem traced_cons (facts : Facts) (entry : Entry) (trace : List Entry)
    (asks : Asks facts entry.request (progress trace entry.task) entry.query)
    (traced : Traced trace) : Traced (entry :: trace) := by
  have own := traced.standing entry.task
  constructor
  · intro index
    by_cases same : entry.task = index
    · subst same
      rw [progress, stage_own]
      exact standing_own facts entry trace _ asks own
    · rw [progress, stage_other _ _ _ entry trace index same]
      exact standing_other entry trace index _ same (traced.standing index)
  · intro other member row query
    rcases List.mem_cons.mp member with rfl | old
    · exact (asks_opens facts _ _ row (query ▸ asks)).2
    · exact traced.opens other old row query
  · intro other member user query
    rcases List.mem_cons.mp member with rfl | old
    · obtain ⟨row, stage, same⟩ := asks_profiles facts _ _ user (query ▸ asks)
      rw [stage] at own
      exact ⟨row, made_cons other trace other.task row own.1, same.symm⟩
    · obtain ⟨row, made, same⟩ := traced.profiles other old user query
      exact ⟨row, made_cons entry trace other.task row made, same⟩
  · intro other member id query
    rcases List.mem_cons.mp member with rfl | old
    · rw [query] at asks
      obtain ⟨row, stage, rfl⟩ := asks_defers facts _ _ id asks
      rw [stage] at own
      exact failed_cons other trace other.task row.id own
    · exact failed_cons entry trace other.task id (traced.defers other old id query)
  · intro other member id query
    rcases List.mem_cons.mp member with rfl | old
    · exact asks_deletes facts _ _ id (query ▸ asks)
    · exact traced.deletes other old id query

theorem traced_nil : Traced [] := by
  constructor
  · intro index entry member
    exact absurd member List.not_mem_nil
  all_goals simp

/-! With distinct ids, an id belongs to one request and gets one answer. -/

def Distinct (trace : List Entry) : Prop :=
  (trace.filterMap fun entry => openedId entry.query).Nodup

instance (trace : List Entry) : Decidable (Distinct trace) :=
  inferInstanceAs (Decidable (List.Nodup _))

theorem distinct_suffix (short long : List Entry) (suffix : short <:+ long)
    (distinct : Distinct long) : Distinct short := by
  obtain ⟨front, rfl⟩ := suffix
  rw [Distinct, List.filterMap_append] at distinct
  exact distinct.of_append_right

theorem opened_unique (trace : List Entry) (distinct : Distinct trace) (left right : Entry)
    (id : String) (first : left ∈ trace) (second : right ∈ trace)
    (own : openedId left.query = some id) (other : openedId right.query = some id) :
    left = right := by
  by_contra different
  have apart := List.pairwise_filterMap.mp distinct
  have unordered : Std.Symm fun left right : Entry => ∀ one, openedId left.query = some one →
      ∀ two, openedId right.query = some two → one ≠ two :=
    ⟨fun _ _ apart one own two other same => apart two other one own same.symm⟩
  exact apart.forall first second different id own id other rfl

theorem made_unique (trace : List Entry) (distinct : Distinct trace) (left right : Nat)
    (row other : Auth) (first : Made trace left row) (second : Made trace right other)
    (same : row.id = other.id) : left = right ∧ row = other := by
  obtain ⟨entry, member, rfl, query, -⟩ := first
  obtain ⟨entry', member', rfl, query', -⟩ := second
  have equal : entry = entry' := opened_unique trace distinct entry entry' row.id member member'
    (by rw [query]; rfl) (by rw [query', same]; rfl)
  subst equal
  rw [query] at query'
  exact ⟨rfl, Statement.insertAuth.inj query'⟩

def Once (trace : List Entry) : Prop :=
  ∀ id index, Profiled trace id → ¬ Failed trace index id

theorem profile_fresh (trace : List Entry) (traced : Traced trace) (distinct : Distinct trace)
    (index : Nat) (row : Auth) (stage : progress trace index = .opened row) :
    ∀ entry ∈ trace, profiledId entry.query ≠ some row.id := by
  intro entry member same
  have own := traced.standing index
  rw [stage] at own
  cases query : entry.query with
  | insertUser user =>
      obtain ⟨other, made, id⟩ := traced.profiles entry member user query
      rw [query] at same
      have equal := (made_unique trace distinct entry.task index other row made own.1
        (id.trans (Option.some.inj same))).1
      have bare := own.2 entry member equal
      rw [query] at bare
      cases bare
  | _ => rw [query] at same; cases same

theorem once_cons (facts : Facts) (entry : Entry) (trace : List Entry)
    (asks : Asks facts entry.request (progress trace entry.task) entry.query)
    (traced : Traced trace) (distinct : Distinct trace) (once : Once trace) :
    Once (entry :: trace) := by
  have fresh : ∀ id, profiledId entry.query = some id →
      ∀ other ∈ trace, profiledId other.query ≠ some id := by
    intro id profiles
    cases query : entry.query with
    | insertUser user =>
        rw [query] at asks profiles
        obtain ⟨row, stage, same⟩ := asks_profiles facts _ _ user asks
        obtain rfl : user.id = id := Option.some.inj profiles
        exact same ▸ profile_fresh trace traced distinct entry.task row stage
    | _ => rw [query] at profiles; cases profiles
  rintro id index ⟨left, first, stores, answer, answered⟩ ⟨right, second, own, fails, error, threw⟩
  rcases List.mem_cons.mp first with rfl | before <;>
    rcases List.mem_cons.mp second with rfl | earlier
  · rw [answered] at threw
    cases threw
  · exact fresh id stores right earlier fails
  · exact fresh id fails left before stores
  · exact once id index ⟨left, before, stores, answer, answered⟩
      ⟨right, earlier, own, fails, error, threw⟩

end TopInspect.AccountTraces
