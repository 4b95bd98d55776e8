import TopInspect.AccountTraces

/-! The tables of the accounts against the trace. Statements throw without taking
effect, in any order and number; ids are fresh. Then profiles are the ones the
trace has stored, sessions belong to them, and an auth row without a profile is
excused by a sign-up that has not come to its profile or has failed to store it. -/
namespace TopInspect.AccountIntegrity

open Resumption Interleaving AuthSchema AuthStatements AuthHandlers AccountContract AccountTraces
open Staging RowTable Live

section Outcomes

theorem perform_cases (tick : Tick) (statement : Statement) (db : Db)
    (honest : tick.outage ≠ .lost) :
    (∃ error, (perform tick statement db).1 = .error error ∧ (perform tick statement db).2 = db) ∨
      ∃ answer, (perform tick statement db).1 = .ok answer ∧
        RowsAfter tick statement db (perform tick statement db).2 := by
  cases answered : (perform tick statement db).1 with
  | ok answer =>
      exact Or.inr ⟨answer, rfl, execute_rows tick statement db _ answer
        (perform_ok tick statement db answer answered)⟩
  | error error =>
      refine Or.inl ⟨error, rfl, ?_⟩
      have fate : tick.fate statement ≠ .lost := by
        cases statement <;> first | exact honest | simp [Tick.fate]
      unfold perform at answered ⊢
      rcases executed : execute tick statement db with failed | ⟨answer, after⟩ <;>
        cases reached : tick.fate statement <;> simp_all

theorem profiled_cons_iff (entry : Entry) (trace : List Entry) (id : String) :
    Profiled (entry :: trace) id ↔
      (profiledId entry.query = some id ∧ Effective entry) ∨ Profiled trace id := by
  simp [Profiled]

end Outcomes

/-- What a request is told of profiles is what the trace has stored. -/
def facts (trace : List Entry) : Facts where
  found := fun _ _ _ => True
  profiled := Profiled trace

/-- One identity: the same row but for its address. -/
structure SameAccount (left right : Auth) : Prop where
  id : left.id = right.id
  provider : left.provider = right.provider
  identifier : left.identifier = right.identifier

theorem SameAccount.refl (row : Auth) : SameAccount row row := ⟨rfl, rfl, rfl⟩

theorem SameAccount.trans {first second third : Auth} (left : SameAccount first second)
    (right : SameAccount second third) : SameAccount first third :=
  ⟨left.id.trans right.id, left.provider.trans right.provider,
    left.identifier.trans right.identifier⟩

structure Integrity (db : Db) (trace : List Entry) : Prop where
  traced : Traced trace
  once : Once trace
  told : ∀ entry ∈ trace,
    Told (facts trace) entry.query (perform entry.tick entry.query entry.before).1
  users : ∀ id, Profiled trace id ↔ ∃ user ∈ db.users.rows, user.id = id
  tokens : ∀ token ∈ db.tokens.rows, Profiled trace token.authId
  rows : ∀ row ∈ db.auth.rows, ∃ index made, Made trace index made ∧ SameAccount made row

section Answered
variable (env : Env) (state : State) (index : Nat) (tick : Tick) (task : Task) (query : Statement)
variable (coherent : (server env).Coherent state) (handed : Handed state)
variable (present : state.tasks[index]? = some task)
variable (awaits : task.residual.awaiting = some query)
variable (integrity : Integrity state.world state.trace)

include coherent present awaits integrity in
theorem answered_asks :
    Asks (facts state.trace) task.request (progress state.trace index) query :=
  task_asks (facts state.trace) env state coherent index task query integrity.told present awaits

include coherent handed present awaits integrity in
/-- A cleanup goes back to a profile that failed, so it takes no profile away. -/
theorem deletes_unprofiled (id : String) (deletes : query = .deleteAuth id) :
    ¬ Profiled state.trace id := by
  intro profiled
  have asks := answered_asks env state index task query coherent present awaits integrity
  rw [deletes] at asks
  obtain ⟨entry, member, defers⟩ :=
    handed index task present (.deleteAuth id) (asks_deletes _ _ _ id asks)
  exact integrity.once id entry.task profiled (integrity.traced.defers entry member id defers)

theorem users_answered (honest : tick.outage ≠ .lost)
    (spares : ∀ id, query = .deleteAuth id → ¬ Profiled state.trace id)
    (users : ∀ id, Profiled state.trace id ↔ ∃ user ∈ state.world.users.rows, user.id = id)
    (id : String) :
    Profiled (entryOf state index tick task query :: state.trace) id ↔
      ∃ user ∈ (perform tick query state.world).2.users.rows, user.id = id := by
  rw [profiled_cons_iff]
  rcases perform_cases tick query state.world honest with
    ⟨error, threw, same⟩ | ⟨answer, answered, after⟩
  · have idle : ¬ Effective (entryOf state index tick task query) := by
      rintro ⟨answer, answered⟩
      have clash := threw.symm.trans answered
      cases clash
    simp [idle, same, users]
  · have took : Effective (entryOf state index tick task query) := ⟨answer, answered⟩
    rw [after.users]
    cases query with
    | insertUser user =>
        simp [took, users, profiledId, usersAfter, or_comm, or_and_right, exists_or]
    | deleteAuth other =>
        -- No profile is stored under an account that is cleaned up, so the cascade drops none.
        have gone := spares other rfl
        rw [users] at gone
        simp only [profiledId, reduceCtorEq, false_and, false_or, users, usersAfter,
          List.mem_filter]
        constructor
        · rintro ⟨user, member, rfl⟩
          refine ⟨user, ⟨member, ?_⟩, rfl⟩
          simpa using fun same => gone ⟨user, member, same⟩
        · rintro ⟨user, ⟨member, -⟩, rfl⟩
          exact ⟨user, member, rfl⟩
    | _ => simp [profiledId, usersAfter, users]

theorem tokens_answered
    (asks : Asks (facts state.trace) task.request (progress state.trace index) query)
    (tokens : ∀ token ∈ state.world.tokens.rows, Profiled state.trace token.authId) :
    ∀ token ∈ (perform tick query state.world).2.tokens.rows,
      Profiled (entryOf state index tick task query :: state.trace) token.authId := by
  intro token member
  apply profiled_cons
  rcases perform_tokens tick query state.world with same | same
  · exact tokens token (same ▸ member)
  · rw [same] at member
    cases query with
    | insertToken id authId text expiresAt deviceInfo =>
        rcases List.mem_append.mp member with old | new
        · exact tokens token old
        · obtain rfl := List.mem_singleton.mp new
          exact asks_token _ _ _ id authId text expiresAt deviceInfo asks
    | rotateToken text newText expiresAt lastUsedAt =>
        obtain ⟨old, stored, rfl⟩ := List.mem_map.mp member
        unfold Table.rewrite
        split <;> exact tokens old stored
    | revokeToken text revokedAt =>
        obtain ⟨old, stored, rfl⟩ := List.mem_map.mp member
        unfold Table.rewrite
        split <;> exact tokens old stored
    | deleteAuth id => exact tokens token (List.mem_filter.mp member).1
    | _ => exact tokens token member

theorem rows_answered (honest : tick.outage ≠ .lost)
    (rows : ∀ row ∈ state.world.auth.rows, ∃ index made,
      Made state.trace index made ∧ SameAccount made row) :
    ∀ row ∈ (perform tick query state.world).2.auth.rows, ∃ other made,
      Made (entryOf state index tick task query :: state.trace) other made ∧
        SameAccount made row := by
  -- What the old rows came from is still in the trace.
  have kept : ∀ row ∈ state.world.auth.rows, ∃ other made,
      Made (entryOf state index tick task query :: state.trace) other made ∧
        SameAccount made row := by
    intro row member
    obtain ⟨other, made, known, same⟩ := rows row member
    exact ⟨other, made, made_cons _ _ other made known, same⟩
  intro row member
  rcases perform_cases tick query state.world honest with
    ⟨error, -, same⟩ | ⟨answer, answered, after⟩
  · exact kept row (same ▸ member)
  · rw [after.auth] at member
    cases query with
    | insertAuth added =>
        rcases List.mem_append.mp member with old | new
        · exact kept row old
        · obtain rfl := List.mem_singleton.mp new
          exact ⟨index, row, ⟨_, List.mem_cons_self, rfl, rfl, answer, answered⟩, rfl, rfl, rfl⟩
    | updateAuthEmail id email =>
        obtain ⟨old, stored, rfl⟩ := List.mem_map.mp member
        obtain ⟨other, made, known, same⟩ := kept old stored
        refine ⟨other, made, known, ?_⟩
        unfold Table.rewrite
        split <;> exact ⟨same.id, same.provider, same.identifier⟩
    | deleteAuth id => exact kept row (List.mem_filter.mp member).1
    | _ => exact kept row member

theorem told_answered
    (users : ∀ id, Profiled state.trace id ↔ ∃ user ∈ state.world.users.rows, user.id = id)
    (told : ∀ entry ∈ state.trace,
      Told (facts state.trace) entry.query (perform entry.tick entry.query entry.before).1) :
    ∀ entry ∈ entryOf state index tick task query :: state.trace,
      Told (facts (entryOf state index tick task query :: state.trace)) entry.query
        (perform entry.tick entry.query entry.before).1 := by
  intro entry member
  rcases List.mem_cons.mp member with rfl | old
  · apply told_answer
    · exact fun _ _ _ _ => trivial
    · intro id user lookup
      apply profiled_cons
      obtain ⟨stored, same⟩ := Table.find_mem _ _ user lookup
      exact (users id).mpr ⟨user, stored, of_decide_eq_true same⟩
    · intro user answer asked answered
      exact ⟨_, List.mem_cons_self, by rw [asked]; rfl, by subst asked; exact ⟨answer, answered⟩⟩
  · exact told_mono (fun _ _ _ _ => trivial) (fun id => profiled_cons _ _ id) _ _ (told entry old)

include coherent handed present awaits integrity in
theorem integrity_answered (honest : tick.outage ≠ .lost)
    (distinct : Distinct (entryOf state index tick task query :: state.trace)) :
    Integrity (perform tick query state.world).2
      (entryOf state index tick task query :: state.trace) := by
  have asks := answered_asks env state index task query coherent present awaits integrity
  have earlier := distinct_suffix _ _ (List.suffix_cons _ _) distinct
  constructor
  · exact traced_cons (facts state.trace) (entryOf state index tick task query) state.trace asks
      integrity.traced
  · exact once_cons (facts state.trace) (entryOf state index tick task query) state.trace asks
      integrity.traced earlier integrity.once
  · exact told_answered state index tick task query integrity.users integrity.told
  · exact users_answered state index tick task query honest
      (fun id deletes => deletes_unprofiled env state index task query coherent handed present
        awaits integrity id deletes) integrity.users
  · exact tokens_answered state index tick task query asks integrity.tokens
  · exact rows_answered state index tick task query honest integrity.rows

end Answered

def Honest : Action → Prop
  | .arrive _ _ => True
  | .advance _ tick => tick.outage ≠ .lost

instance decidableHonest : ∀ action, Decidable (Honest action)
  | .arrive _ _ => inferInstanceAs (Decidable True)
  | .advance _ tick => inferInstanceAs (Decidable (tick.outage ≠ .lost))

theorem integrity_empty : Integrity Db.empty [] := by
  constructor
  · exact traced_nil
  · rintro id index ⟨entry, member, -⟩
    exact absurd member List.not_mem_nil
  all_goals simp [Profiled, Db.empty, Table.empty]

section Run
variable (env : Env) (schedule : List Action)
variable (honest : ∀ action ∈ schedule, Honest action)
variable (distinct : Distinct ((server env).run (start Db.empty) schedule).trace)

include honest distinct in
theorem integrity_run :
    Integrity ((server env).run (start Db.empty) schedule).world
      ((server env).run (start Db.empty) schedule).trace := by
  have fresh := Machine.guarded_trace Distinct distinct_suffix (start Db.empty) schedule distinct
    (Machine.guarded_actions Honest (start Db.empty) schedule honest)
  have strong := Machine.guarded_invariant Handed
    (fun state action handed _ => handed_step env state action handed) (start Db.empty) schedule
    (handed_start _) fresh
  apply Machine.trace_invariant Integrity _ _ _ ((server env).coherent_start _)
    integrity_empty strong
  intro state index tick task query resume coherent present awaits allowed integrity
  obtain ⟨⟨honest, distinct⟩, handed⟩ := allowed
  have comes := Machine.upcoming_answered (server env) state index tick task query resume present
    awaits rfl
  rw [Machine.upcoming_trace state (.advance index tick) _ comes] at distinct
  exact integrity_answered env state index tick task query coherent handed present
    (by rw [awaits]; rfl) integrity honest distinct

end Run
end TopInspect.AccountIntegrity
