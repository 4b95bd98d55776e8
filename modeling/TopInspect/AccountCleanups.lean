import TopInspect.AccountIntegrity

/-! Where an auth row without a profile comes from, told from the tasks. Its
sign-up stands before the profile, or before the hand-over to a cleanup, or the
cleanup has not run, or its delete has failed. No freshness is needed for this:
a row that goes away takes its excuse with it. -/
namespace TopInspect.AccountCleanups

open Resumption Interleaving AuthSchema AuthStatements AuthHandlers AccountContract AccountTraces
open AccountIntegrity Staging RowTable Live

/-- Why an auth row may be without its profile. -/
inductive Excused (state : State) (row : Auth) : Prop where
  | opened (index : Nat) (made : Auth) (stage : progress state.trace index = .opened made)
      (same : SameAccount made row)
  | unprofiled (index : Nat) (made : Auth) (stage : progress state.trace index = .unprofiled made)
      (same : SameAccount made row)
  | cleaning (index : Nat) (task : Task) (present : state.tasks[index]? = some task)
      (awaits : task.residual.awaiting = some (.deleteAuth row.id))
  | kept (entry : Entry) (member : entry ∈ state.trace) (deletes : entry.query = .deleteAuth row.id)
      (threw : Threw entry) (stored : ∃ old ∈ entry.before.auth.rows, SameAccount old row)

def Accounted (state : State) : Prop :=
  ∀ row ∈ state.world.auth.rows,
    (∃ user ∈ state.world.users.rows, user.id = row.id) ∨ Excused state row

theorem excused_same (state : State) (row other : Auth) (same : SameAccount row other)
    (excused : Excused state row) : Excused state other := by
  cases excused with
  | opened index made stage own => exact .opened index made stage (own.trans same)
  | unprofiled index made stage own => exact .unprofiled index made stage (own.trans same)
  | cleaning index task present awaits => exact .cleaning index task present (same.id ▸ awaits)
  | kept entry member deletes threw stored =>
      obtain ⟨old, known, own⟩ := stored
      exact .kept entry member (same.id ▸ deletes) threw ⟨old, known, own.trans same⟩

def anyFacts : Facts where
  found := fun _ _ _ => True
  profiled := fun _ => True

theorem told_any (tick : Tick) (statement : Statement) (db : Db) :
    Told anyFacts statement (perform tick statement db).1 :=
  told_answer anyFacts tick statement db (fun _ _ _ _ => trivial) (fun _ _ _ => trivial)
    fun _ _ _ _ => trivial

section Answered
variable (env : Env) (state : State) (index : Nat) (tick : Tick) (task : Task) (query : Statement)
variable (resume : Except DbError query.Answer → Tick →
  Residual Statement Statement.Answer DbError Tick (Option Response))
variable (present : state.tasks[index]? = some task) (awaits : task.residual = .await query resume)

abbrev answered : State := (server env).answer state index task query resume tick

include present awaits in
theorem excused_elsewhere (row : Auth) (excused : Excused state row) :
    Excused (answered env state index tick task query resume) row ∨
      (∃ made, progress state.trace index = .opened made ∧ SameAccount made row) ∨
      (∃ made, progress state.trace index = .unprofiled made ∧ SameAccount made row) ∨
      query = .deleteAuth row.id := by
  cases excused with
  | opened other made stage same =>
      by_cases own : index = other
      · subst own
        exact Or.inr (Or.inl ⟨made, stage, same⟩)
      · exact Or.inl (.opened other made
          ((stage_other moves perform .idle _ _ other own).trans stage) same)
  | unprofiled other made stage same =>
      by_cases own : index = other
      · subst own
        exact Or.inr (Or.inr (Or.inl ⟨made, stage, same⟩))
      · exact Or.inl (.unprofiled other made
          ((stage_other moves perform .idle _ _ other own).trans stage) same)
  | cleaning other found stands deletes =>
      by_cases own : other = index
      · subst own
        obtain rfl : found = task := Option.some.inj (stands.symm.trans present)
        rw [awaits] at deletes
        exact Or.inr (Or.inr (Or.inr (Option.some.inj deletes)))
      · exact Or.inl (.cleaning other found
          ((server env).answer_task_other state index task query resume tick other found stands own)
          deletes)
  | kept entry member deletes threw stored =>
      exact Or.inl (.kept entry (List.mem_cons_of_mem _ member) deletes threw stored)

theorem cleaning_started (row : Auth) (defers : query = .waitUntil (.deleteAuth row.id)) :
    Excused (answered env state index tick task query resume) row := by
  subst defers
  apply Excused.cleaning state.tasks.length
    ((server env).launch tick (state.trace.length + 1) (.background (.deleteAuth row.id)))
  · simp [answered, Machine.answer, server, spawned]
  · rfl

theorem progress_own :
    progress (answered env state index tick task query resume).trace index =
      moves (progress state.trace index) query (perform tick query state.world).1 :=
  stage_own moves perform .idle (entryOf state index tick task query) state.trace

variable (asks : Asks anyFacts task.request (progress state.trace index) query)

include present awaits asks in
theorem excused_answered (honest : tick.outage ≠ .lost) (row : Auth)
    (stored : row ∈ state.world.auth.rows) (excused : Excused state row) :
    Excused (answered env state index tick task query resume) row ∨
      (∃ user ∈ (perform tick query state.world).2.users.rows, user.id = row.id) ∨
      (query = .deleteAuth row.id ∧ ∃ answer, (perform tick query state.world).1 = .ok answer) := by
  rcases excused_elsewhere env state index tick task query resume present awaits row excused with
    elsewhere | ⟨made, stage, own⟩ | ⟨made, stage, own⟩ | deletes
  · exact Or.inl elsewhere
  · have next := progress_own env state index tick task query resume
    rw [stage] at asks next
    obtain ⟨user, rfl, same⟩ := asks_opened anyFacts _ made query asks
    rcases perform_cases tick (.insertUser user) state.world honest with
      ⟨error, threw, -⟩ | ⟨answer, -, after⟩
    · rw [threw] at next
      exact Or.inl (.unprofiled index made next own)
    · refine Or.inr (Or.inl ⟨user, ?_, same.trans own.id⟩)
      rw [after.users]
      exact List.mem_append_right _ (List.mem_singleton_self user)
  · rw [stage] at asks
    have defers := asks_unprofiled anyFacts _ made query asks
    exact Or.inl (cleaning_started env state index tick task query resume row (own.id ▸ defers))
  · rcases perform_cases tick query state.world honest with ⟨error, threw, -⟩ | ⟨answer, took, -⟩
    · exact Or.inl (.kept _ List.mem_cons_self deletes ⟨error, threw⟩ ⟨row, stored, .refl row⟩)
    · exact Or.inr (Or.inr ⟨deletes, answer, took⟩)

theorem row_origin (honest : tick.outage ≠ .lost) (row : Auth)
    (member : row ∈ (perform tick query state.world).2.auth.rows) :
    (query = .insertAuth row ∧ ∃ answer, (perform tick query state.world).1 = .ok answer) ∨
      ((∃ old ∈ state.world.auth.rows, SameAccount old row) ∧
        (query = .deleteAuth row.id → ∃ error,
          (perform tick query state.world).1 = .error error)) := by
  rcases perform_cases tick query state.world honest with
    ⟨error, threw, same⟩ | ⟨answer, took, after⟩
  · exact Or.inr ⟨⟨row, same ▸ member, .refl row⟩, fun _ => ⟨error, threw⟩⟩
  · rw [after.auth] at member
    cases query with
    | insertAuth added =>
        rcases List.mem_append.mp member with old | new
        · exact Or.inr ⟨⟨row, old, .refl row⟩, by simp⟩
        · obtain rfl := List.mem_singleton.mp new
          exact Or.inl ⟨rfl, answer, took⟩
    | updateAuthEmail id email =>
        obtain ⟨old, stored, rfl⟩ := List.mem_map.mp member
        refine Or.inr ⟨⟨old, stored, ?_⟩, by simp⟩
        unfold Table.rewrite
        split <;> exact ⟨rfl, rfl, rfl⟩
    | deleteAuth id =>
        obtain ⟨old, other⟩ := List.mem_filter.mp member
        refine Or.inr ⟨⟨row, old, .refl row⟩, fun same => ?_⟩
        obtain rfl := Statement.deleteAuth.inj same
        simp at other
    | _ => exact Or.inr ⟨⟨row, member, .refl row⟩, by simp⟩

theorem user_kept (honest : tick.outage ≠ .lost) (user : User)
    (member : user ∈ state.world.users.rows)
    (spared : query = .deleteAuth user.id →
      ∃ error, (perform tick query state.world).1 = .error error) :
    user ∈ (perform tick query state.world).2.users.rows := by
  rcases perform_cases tick query state.world honest with
    ⟨error, threw, same⟩ | ⟨answer, took, after⟩
  · exact same.symm ▸ member
  · rw [after.users]
    cases query with
    | insertUser added => exact List.mem_append_left _ member
    | deleteAuth id =>
        refine List.mem_filter.mpr ⟨member, ?_⟩
        have other : user.id ≠ id := by
          intro same
          obtain ⟨error, threw⟩ := spared (by rw [same])
          rw [took] at threw
          cases threw
        simpa using other
    | _ => exact member

include present awaits asks in
theorem accounted_answered (honest : tick.outage ≠ .lost) (accounted : Accounted state) :
    Accounted (answered env state index tick task query resume) := by
  intro row member
  rcases row_origin state tick query honest row member with
    ⟨inserts, answer, took⟩ | ⟨⟨old, stored, same⟩, spared⟩
  · have next := progress_own env state index tick task query resume
    rw [took] at next
    subst inserts
    rw [(asks_opens anyFacts _ _ row asks).1] at next
    exact Or.inr (.opened index row next (.refl row))
  · rcases accounted old stored with ⟨user, known, own⟩ | excused
    · have owned := own.trans same.id
      exact Or.inl ⟨user, user_kept state tick query honest user known (owned ▸ spared), owned⟩
    · rcases excused_answered env state index tick task query resume present awaits asks honest
        old stored excused with excused | ⟨user, known, own⟩ | ⟨deletes, answer, took⟩
      · exact Or.inr (excused_same _ old row same excused)
      · exact Or.inl ⟨user, known, own.trans same.id⟩
      · obtain ⟨error, threw⟩ := spared (same.id ▸ deletes)
        rw [took] at threw
        cases threw

end Answered

section Run
variable (env : Env)

theorem accounted_step (state : State) (action : Action) (honest : Honest action)
    (coherent : (server env).Coherent state) (accounted : Accounted state) :
    Accounted ((server env).step state action) := by
  have transition := (server env).step_transition state action
  generalize (server env).step state action = after at transition
  cases transition with
  | idle => exact accounted
  | arrived request tick =>
      intro row member
      rcases accounted row member with settled | excused
      · exact Or.inl settled
      · refine Or.inr ?_
        cases excused with
        | opened index made stage same => exact .opened index made stage same
        | unprofiled index made stage same => exact .unprofiled index made stage same
        | cleaning index task present awaits =>
            have inside := (List.getElem?_eq_some_iff.mp present).1
            exact .cleaning index task ((List.getElem?_append_left inside).trans present) awaits
        | kept entry known deletes threw stored => exact .kept entry known deletes threw stored
  | answered index tick task query resume present awaits =>
      have asks := task_asks anyFacts env state coherent index task query
        (fun entry _ => told_any entry.tick entry.query entry.before) present (by rw [awaits]; rfl)
      exact accounted_answered env state index tick task query resume present awaits asks honest
        accounted

theorem accounted_run (schedule : List Action) (honest : ∀ action ∈ schedule, Honest action) :
    Accounted ((server env).run (start Db.empty) schedule) := by
  have kept := (server env).guarded_run (fun _ action => Honest action)
    (fun state => (server env).Coherent state ∧ Accounted state)
    (fun state action holds allowed => ⟨Machine.coherent_step state action holds.1,
      accounted_step env state action allowed holds.1 holds.2⟩)
    (start Db.empty) schedule
    ⟨(server env).coherent_start _, by simp [Accounted, start, Db.empty, Table.empty]⟩
    (Machine.guarded_actions Honest _ schedule honest)
  exact kept.2

def Quiet (state : State) : Prop :=
  ∀ (index : Nat) (task : Task), state.tasks[index]? = some task → task.residual.awaiting = none

theorem settled_ends (state : State) (coherent : (server env).Coherent state) (index : Nat)
    (settled : ∀ task : Task, state.tasks[index]? = some task → task.residual.awaiting = none) :
    Ends (progress state.trace index) := by
  cases present : state.tasks[index]? with
  | none =>
      have unborn := Machine.history_unborn state coherent index (by simpa using present)
      rw [progress, stageOf, unborn]
      exact .idle
  | some task =>
      exact obeys_settled Ends _ task.residual
        (task_meets anyFacts env state coherent index task
          (fun entry _ => told_any entry.tick entry.query entry.before) present)
        (settled task present)

def CleanedUp (trace : List Entry) : Prop :=
  ∀ entry ∈ trace, ∀ id, entry.query = .deleteAuth id → Effective entry

/-- The sign-up that inserted a row has not asked for its profile, or has failed to store it. -/
def Unfinished (trace : List Entry) (row : Auth) : Prop :=
  ∃ entry ∈ trace, ∃ made, entry.query = .insertAuth made ∧ SameAccount made row ∧
    Effective entry ∧ Opens entry.request made ∧
    (Bare trace entry.task ∨ Failed trace entry.task row.id)

structure Intact (state : State) : Prop where
  owners : ∀ token ∈ state.world.tokens.rows,
    (∃ row ∈ state.world.auth.rows, row.id = token.authId) ∧
      ∃ user ∈ state.world.users.rows, user.id = token.authId
  profiles : ∀ user ∈ state.world.users.rows, ∃ row ∈ state.world.auth.rows, row.id = user.id
  unprofiled : ∀ row ∈ state.world.auth.rows,
    (∀ user ∈ state.world.users.rows, user.id ≠ row.id) → Unfinished state.trace row
  whole : Quiet state → CleanedUp state.trace →
    ∀ row ∈ state.world.auth.rows, ∃ user ∈ state.world.users.rows, user.id = row.id

theorem excused_unfinished (state : State) (coherent : (server env).Coherent state)
    (handed : Handed state) (distinct : Distinct state.trace)
    (integrity : Integrity state.world state.trace) (row : Auth)
    (stored : row ∈ state.world.auth.rows) (excused : Excused state row) :
    Unfinished state.trace row := by
  obtain ⟨index, made, known, same⟩ := integrity.rows row stored
  have only : ∀ other found, Made state.trace other found → found.id = row.id → other = index :=
    fun other found makes id => (made_unique state.trace distinct other index found made makes known
      (id.trans same.id.symm)).1
  -- The failed profile of a row was asked for by the request that inserted it.
  have blames : ∀ other, Failed state.trace other row.id → Failed state.trace index row.id := by
    intro other failed
    have source := failed
    obtain ⟨entry, member, own, profiles, -⟩ := source
    cases query : entry.query with
    | insertUser user =>
        rw [query] at profiles
        obtain ⟨found, makes, id⟩ := integrity.traced.profiles entry member user query
        rw [own] at makes
        exact only other found makes (id.trans (Option.some.inj profiles)) ▸ failed
    | _ => rw [query] at profiles; cases profiles
  have handedOver : ∀ (other : Nat) (task : Task), state.tasks[other]? = some task →
      task.request = .background (.deleteAuth row.id) → Failed state.trace index row.id := by
    intro other task present background
    obtain ⟨entry, member, defers⟩ := handed other task present _ background
    exact blames entry.task (integrity.traced.defers entry member row.id defers)
  have ends : Bare state.trace index ∨ Failed state.trace index row.id := by
    cases excused with
    | opened other found stage same =>
        have own := integrity.traced.standing other
        rw [stage] at own
        exact Or.inl (only other found own.1 same.id ▸ own.2)
    | unprofiled other found stage same =>
        have own := integrity.traced.standing other
        rw [stage] at own
        exact Or.inr (blames other (same.id ▸ own))
    | cleaning other task present awaits =>
        have asks := task_asks anyFacts env state coherent other task _
          (fun entry _ => told_any entry.tick entry.query entry.before) present awaits
        exact Or.inr (handedOver other task present (asks_deletes _ _ _ _ asks))
    | kept entry member deletes threw =>
        obtain ⟨owner, present, request, -⟩ := coherent.owner entry member
        have asked := integrity.traced.deletes entry member row.id deletes
        exact Or.inr (handedOver entry.task owner present (request.trans asked))
  obtain ⟨entry, member, rfl, query, took⟩ := known
  exact ⟨entry, member, made, query, same, took,
    integrity.traced.opens entry member made query, ends⟩

theorem quiet_whole (state : State) (coherent : (server env).Coherent state)
    (accounted : Accounted state) (quiet : Quiet state) (cleaned : CleanedUp state.trace) :
    ∀ row ∈ state.world.auth.rows, ∃ user ∈ state.world.users.rows, user.id = row.id := by
  intro row stored
  rcases accounted row stored with settled | excused
  · exact settled
  · cases excused with
    | opened index made stage same =>
        have ends := settled_ends env state coherent index fun task => quiet index task
        rw [stage] at ends
        cases ends
    | unprofiled index made stage same =>
        have ends := settled_ends env state coherent index fun task => quiet index task
        rw [stage] at ends
        cases ends
    | cleaning index task present awaits =>
        rw [quiet index task present] at awaits
        cases awaits
    | kept entry member deletes threw =>
        obtain ⟨answer, took⟩ := cleaned entry member row.id deletes
        obtain ⟨error, threw⟩ := threw
        rw [took] at threw
        cases threw

/-- Sessions belong to complete accounts, profiles to auth rows, and an auth row
without a profile to a sign-up that has not finished it. -/
theorem accounts_intact (schedule : List Action) (honest : ∀ action ∈ schedule, Honest action)
    (distinct : Distinct ((server env).run (start Db.empty) schedule).trace) :
    Intact ((server env).run (start Db.empty) schedule) := by
  have coherent : (server env).Coherent ((server env).run (start Db.empty) schedule) :=
    Machine.coherent_run _ _ ((server env).coherent_start _)
  have handed : Handed ((server env).run (start Db.empty) schedule) :=
    (server env).guarded_run (fun _ _ => True) Handed
      (fun state action handed _ => handed_step env state action handed) _ _ (handed_start _)
      (Machine.guarded_trivial _ _)
  have integrity := integrity_run env schedule honest distinct
  have accounted := accounted_run env schedule honest
  generalize (server env).run (start Db.empty) schedule = state at *
  constructor
  · intro token stored
    exact ⟨state.world.tokens_auth token stored,
      (integrity.users _).mp (integrity.tokens token stored)⟩
  · exact state.world.users_auth
  · intro row stored missing
    rcases accounted row stored with ⟨user, known, same⟩ | excused
    · exact absurd same (missing user known)
    · exact excused_unfinished env state coherent handed distinct integrity row stored excused
  · exact quiet_whole env state coherent accounted

end Run
/-! One sign-up loses its profile and is cleaned up, another one goes through. -/

def joins (providerId email : String) : Request :=
  .oauthSignup { provider := .google, providerId, email, name := "Ada Lovelace", gender := .female,
                 birthYear := 1985, deviceInfo := none }

def refusedAt (present : Time) (draw : String) : Tick :=
  { tickAt present draw with outage := .refused }

def mixed : List Action :=
  [.arrive (joins "g1" "ada@example.com") (tickAt 0 "a"),
    .arrive (joins "g2" "grace@example.com") (tickAt 0 "b"),
    .advance 0 (tickAt 0 "c"), .advance 1 (tickAt 0 "d"), .advance 0 (tickAt 0 "e"),
    .advance 1 (tickAt 0 "f"), .advance 0 (tickAt 0 "g"), .advance 1 (tickAt 0 "h"),
    .advance 0 (refusedAt 0 "i"), .advance 1 (tickAt 0 "j"), .advance 0 (tickAt 0 "k"),
    .advance 1 (tickAt 0 "l"), .advance 2 (tickAt 0 "m"), .advance 1 (tickAt 0 "n")]

theorem accounts_intact_mixed :
    ((server sampleEnv).run (start Db.empty) mixed).world.auth.rows.map Auth.identifier = ["g2"] ∧
      Intact ((server sampleEnv).run (start Db.empty) mixed) :=
  ⟨by decide, accounts_intact sampleEnv mixed (by decide) (by decide)⟩

end TopInspect.AccountCleanups
