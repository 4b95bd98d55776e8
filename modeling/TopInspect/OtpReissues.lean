import TopInspect.OtpRaces

/-! A code that is sent again while an older one is being checked. A check
writes to whatever row its phone has by then, so the row of the newer code
bears the count, or the deletion, that was meant for the older one. Only the
order of the statements keeps them apart. -/
namespace TopInspect.OtpReissues

open Resumption AuthSchema AuthStatements AuthHandlers OtpVerification OtpRaces Live
open Interleaving hiding Entry State Action Task

def writtenPhone : Statement → Option String
  | .updateOtpAttempts phone _ => some phone
  | .deleteOtp phone => some phone
  | _ => none

section Phone
variable (env : Env) (phone : String)

def Acts (statement : Option Statement) : Prop := statement.bind writtenPhone = some phone

instance : DecidablePred (Acts phone) := fun statement =>
  inferInstanceAs (Decidable (statement.bind writtenPhone = some phone))

/-- Some check has read the row of the phone and has still to write to it. -/
def Acting (state : State) : Prop := ∃ task ∈ state.tasks, Acts phone task.residual.awaiting

instance : DecidablePred (Acting phone) := fun state =>
  inferInstanceAs (Decidable (∃ task ∈ state.tasks, Acts phone task.residual.awaiting))

/-- No code is stored for the phone while a check has still to write. -/
def ReissuesInOrder (state : State) (action : Action) : Prop :=
  ∀ entry ∈ (server env).upcoming state action, Stores phone entry → ¬ Acting phone state

instance (state : State) (action : Action) : Decidable (ReissuesInOrder env phone state action) :=
  inferInstanceAs (Decidable (∀ entry ∈ (server env).upcoming state action, _))

/-- A write that finds a row of the phone and takes effect on it. -/
structure Hits (write : Entry) : Prop where
  writes : Acts phone (some write.query)
  effective : write.tick.outage ≠ .refused
  stored : write.before.findOtp phone ≠ none

/-- What a check changes or deletes is no row of a later send than it has read. -/
def NeverStale (trace : List Entry) : Prop :=
  ∀ later write between read earlier, trace = later ++ write :: (between ++ read :: earlier) →
    Hits phone write → write.task = read.task → Reads phone read.toEvent →
    ∀ entry ∈ between, ¬ Stores phone entry

def ReadOf (index : Nat) (entry : Entry) : Prop := entry.task = index ∧ Reads phone entry.toEvent

instance (index : Nat) : DecidablePred (ReadOf phone index) := fun entry =>
  inferInstanceAs (Decidable (entry.task = index ∧ Reads phone entry.toEvent))

theorem acts_touches (statement : Statement) (acts : Acts phone (some statement)) :
    TouchesOtps statement := by
  cases statement with
  | updateOtpAttempts other attempts => trivial
  | deleteOtp other => trivial
  | _ => cases acts

theorem acting_history (state : State) (coherent : (server env).Coherent state) (index : Nat)
    (task : Task) (found : state.tasks[index]? = some task)
    (acts : Acts phone task.residual.awaiting) :
    ∃ select, Reads phone select ∧ (history index state.trace = [select] ∨
      ∃ update attempts, history index state.trace = [select, update] ∧
        update.query = .updateOtpAttempts phone attempts) := by
  cases awaits : task.residual.awaiting with
  | none =>
      rw [awaits] at acts
      cases acts
  | some statement =>
      rw [awaits] at acts
      rcases task_statement env state coherent index task found statement awaits
        (acts_touches phone statement acts) with ⟨own, code, -, stands⟩ | ⟨body, -, send⟩
      · generalize history index state.trace = past at stands
        cases stands with
        | read => cases acts
        | update select newAttempts reads verdict =>
            obtain rfl : own = phone := Option.some.inj acts
            exact ⟨select, reads, Or.inl rfl⟩
        | discard select reads verdict =>
            obtain rfl : own = phone := Option.some.inj acts
            exact ⟨select, reads, Or.inl rfl⟩
        | consume select reads verdict =>
            obtain rfl : own = phone := Option.some.inj acts
            exact ⟨select, reads, Or.inl rfl⟩
        | retire select update newAttempts reads verdict updated spent =>
            obtain rfl : own = phone := Option.some.inj acts
            exact ⟨select, reads, Or.inr ⟨update, newAttempts, rfl, updated⟩⟩
      · cases statement with
        | updateOtpAttempts other attempts => cases send
        | deleteOtp other => cases send
        | _ => cases acts

/-- Since the read of a check that has still to write, no code has been stored. -/
def Current (state : State) : Prop :=
  ∀ (index : Nat) (task : Task), state.tasks[index]? = some task →
    Acts phone task.residual.awaiting →
    ∀ entry ∈ since (ReadOf phone index) state.trace, ¬ Stores phone entry

theorem acting_task (state : State) (index : Nat) (task : Task)
    (found : state.tasks[index]? = some task) (acts : Acts phone task.residual.awaiting) :
    Acting phone state := ⟨task, List.mem_of_getElem? found, acts⟩

theorem acting_old (state : State) (coherent : (server env).Coherent state) (index : Nat)
    (select : Step) (rest : List Step) (past : history index state.trace = select :: rest) :
    index < state.tasks.length := by
  by_contra absent
  rw [Machine.history_unborn state coherent index (Nat.not_lt.mp absent)] at past
  cases past

section Answered
variable (state : State) (index : Nat) (tick : Tick) (task : Task) (query : Statement)
  (resume : Except DbError query.Answer → Tick →
    Residual Statement Statement.Answer DbError Tick (Option Response))
  (coherent : (server env).Coherent state) (current : Current phone state)
  (present : state.tasks[index]? = some task) (awaits : task.residual = .await query resume)

include coherent current present awaits in
theorem own_current (after : Task)
    (found : ((server env).answer state index task query resume tick).tasks[index]? = some after)
    (acts : Acts phone after.residual.awaiting) :
    ∀ entry ∈ since (ReadOf phone index) (entryOf state index tick task query :: state.trace),
      ¬ Stores phone entry := by
  obtain ⟨select, reads, past⟩ := acting_history env phone _
    (Machine.coherent_answered state coherent index tick task query resume present awaits) index
    after found acts
  have grown : history index (entryOf state index tick task query :: state.trace) =
      history index state.trace ++ [(entryOf state index tick task query).toEvent] :=
    history_cons_own (entryOf state index tick task query) state.trace
  rcases past with past | ⟨update, attempts, past, counted⟩
  · have single := grown.symm.trans past
    have own : (entryOf state index tick task query).toEvent = select := by
      cases before : history index state.trace with
      | nil => simpa [before] using single
      | cons first rest => simp [before] at single
    rw [since_mark _ _ _ ⟨rfl, own ▸ reads⟩]
    simp
  · have pair := grown.symm.trans past
    have last : (entryOf state index tick task query).toEvent = update := by
      have tails : history index state.trace ++ [(entryOf state index tick task query).toEvent] =
          [select] ++ [update] := pair
      exact List.singleton_inj.mp (List.append_inj_right' tails rfl)
    have asked : query = .updateOtpAttempts phone attempts := by
      rw [← counted, ← last]
    subst asked
    have unread : ¬ ReadOf phone index
        (entryOf state index tick task (.updateOtpAttempts phone attempts)) := by
      rintro ⟨-, same, -⟩
      cases same
    rw [since_cons _ _ _ unread]
    intro entry member
    rcases List.mem_cons.mp member with rfl | old
    · rintro ⟨stores, -⟩
      cases stores
    · exact current index task present (by rw [awaits]; rfl) entry old

include coherent current present awaits in
theorem current_answered
    (inOrder : Stores phone (entryOf state index tick task query) → ¬ Acting phone state) :
    Current phone ((server env).answer state index task query resume tick) := by
  intro other after found acts
  show ∀ entry ∈ since (ReadOf phone other) (entryOf state index tick task query :: state.trace), _
  rcases (server env).answer_tasks state index task query resume tick present other after found with
    ⟨rfl, -⟩ | ⟨apart, old⟩ | ⟨outside, -⟩
  · exact own_current env phone state other tick task query resume coherent current present awaits
      after found acts
  · have unread : ¬ ReadOf phone other (entryOf state index tick task query) := fun read =>
      apart read.1.symm
    rw [since_cons _ _ _ unread]
    intro entry member
    rcases List.mem_cons.mp member with rfl | earlier
    · exact fun stores => inOrder stores (acting_task phone state other after old acts)
    · exact current other after old acts entry earlier
  · -- A task that was started by this answer has read nothing yet.
    obtain ⟨select, -, past⟩ := acting_history env phone _
      (Machine.coherent_answered state coherent index tick task query resume present awaits) other
      after found acts
    have inside := (List.getElem?_eq_some_iff.mp present).1
    have unborn : history other (entryOf state index tick task query :: state.trace) = [] :=
      (history_cons_other other (entryOf state index tick task query) state.trace
        (fun same : index = other => by omega)).trans
        (Machine.history_unborn state coherent other outside)
    rcases past with past | ⟨update, attempts, past, -⟩
    · cases unborn.symm.trans past
    · cases unborn.symm.trans past

include coherent current present awaits in
theorem write_current (acts : Acts phone (some query)) (between earlier : List Entry) (read : Entry)
    (split : state.trace = between ++ read :: earlier) (own : read.task = index) :
    ∀ entry ∈ between, ¬ Stores phone entry := by
  have pending : Acts phone task.residual.awaiting := by rw [awaits]; exact acts
  obtain ⟨select, -, past⟩ := acting_history env phone state coherent index task present pending
  have parts : history index state.trace =
      history index earlier ++ read.toEvent :: history index between := by
    simp [split, history, own]
  -- A task reads the row once, so the read named here is the last one.
  have once : ∀ entry ∈ between, ¬ ReadOf phone index entry := by
    rintro entry member ⟨same, again⟩
    have known : entry.toEvent ∈ history index between :=
      (mem_history index between _).mpr ⟨entry, member, same, rfl⟩
    rcases past with past | ⟨update, attempts, past, counted⟩
    · have lengths := congrArg List.length (parts.symm.trans past)
      have some := List.length_pos_of_mem known
      simp only [List.length_append, List.length_cons, List.length_nil] at lengths
      omega
    · -- The one event after the read is a count.
      have whole := parts.symm.trans past
      cases before : history index earlier with
      | nil =>
          rw [before] at whole
          obtain ⟨-, rest⟩ := List.cons.inj whole
          rw [rest] at known
          obtain same := List.mem_singleton.mp known
          rw [same] at again
          cases counted.symm.trans again.1
      | cons first others =>
          have lengths := congrArg List.length whole
          have some := List.length_pos_of_mem known
          simp only [before, List.length_append, List.length_cons, List.length_nil] at lengths
          omega
  have clear := current index task present pending
  rw [split] at clear
  have inside := stretch_within (ReadOf phone index) between (read :: earlier) once
  exact fun entry member => clear entry (inside.subset member)

end Answered

theorem reissue_step (state : State) (action : Action) (coherent : (server env).Coherent state)
    (current : Current phone state) (never : NeverStale phone state.trace)
    (allowed : ReissuesInOrder env phone state action) :
    Current phone ((server env).step state action) ∧
      NeverStale phone ((server env).step state action).trace := by
  have transition := (server env).step_transition state action
  generalize (server env).step state action = after at transition ⊢
  cases transition with
  | idle => exact ⟨current, never⟩
  | arrived request tick =>
      refine ⟨fun index task found acts => ?_, never⟩
      -- A task that has just arrived has read nothing, so one that acts is an older one.
      obtain ⟨select, -, past⟩ := acting_history env phone _
        (Machine.coherent_arrived state coherent request tick) index task found acts
      have old : index < state.tasks.length := by
        rcases past with past | ⟨update, attempts, past, -⟩
        · exact acting_old env state coherent index select [] past
        · exact acting_old env state coherent index select [update] past
      rw [List.getElem?_append_left old] at found
      exact current index task found acts
  | answered index tick task query resume present awaits ready =>
      constructor
      · apply current_answered env phone state index tick task query resume coherent current present
          awaits
        exact allowed _ (Machine.upcoming_answered (server env) state index tick task query resume
          present awaits ready)
      · intro later write between read earlier split hits own reads
        cases later with
        | cons first rest =>
            exact never rest write between read earlier (List.cons.inj split).2 hits own reads
        | nil =>
            obtain ⟨rfl, before⟩ := List.cons.inj split
            exact write_current env phone state index task query resume coherent current present
              awaits hits.writes between earlier read before own.symm

/-- In every run in which no code is stored while a check has still to write, no
check ever touches a row of a later send. -/
theorem writes_current (db : Db) (schedule : List Action)
    (guarded : (server env).Guarded (ReissuesInOrder env phone) (start db) schedule) :
    NeverStale phone ((server env).run (start db) schedule).trace := by
  have kept := (server env).guarded_run (ReissuesInOrder env phone)
    (fun state => (server env).Coherent state ∧ Current phone state ∧ NeverStale phone state.trace)
    (fun state action holds allowed => ⟨Machine.coherent_step state action holds.1,
      reissue_step env phone state action holds.1 holds.2.1 holds.2.2 allowed⟩)
    (start db) schedule
  apply (kept ⟨(server env).coherent_start db, ?_, ?_⟩ guarded).2.2
  · intro index task found
    simp [start] at found
  · intro later write between read earlier split
    simp [start] at split

end Phone

/-! The check of an expired code, and a new code. -/

def resend : List Action :=
  .arrive send (tickAt 400000 "c") :: List.replicate 3 (.advance 3 (tickAt 400000 "c"))

-- Task 2 checks the old code after it has expired.
def reads : List Action := [.arrive guess (tickAt 400000 "b"), .advance 2 (tickAt 400000 "b")]

def drops : List Action := [.advance 2 (tickAt 400000 "d")]

theorem writes_current_in_turn :
    NeverStale sample
      ((server sampleEnv).run (start Db.empty) (sent ++ reads ++ drops ++ resend)).trace :=
  writes_current sampleEnv sample Db.empty (sent ++ reads ++ drops ++ resend) (by decide)

def dropped : List Entry :=
  ((server sampleEnv).run (start Db.empty) (sent ++ reads ++ resend ++ drops)).trace

-- Newest first: the delete, the three statements of the new send, the old read.
def recent (back : Fin 5) : Entry := dropped.get (back.castLE (by decide))

theorem dropped_hits : Hits sample (recent 0) := by
  constructor
  · decide
  · decide
  · decide

/-- The check deletes the row of the new code. -/
theorem new_code_deleted : ¬ ∀ (env : Env) (phone : String) (db : Db) (schedule : List Action),
    NeverStale phone ((server env).run (start db) schedule).trace := by
  intro never
  have split : dropped = [] ++ recent 0 :: ([recent 1, recent 2, recent 3] ++
      recent 4 :: dropped.drop 5) := rfl
  have same : (recent 0).task = (recent 4).task := by decide
  have read : Reads sample (recent 4).toEvent := by decide
  have stores : Stores sample (recent 1) := by decide
  have clear := never sampleEnv sample Db.empty (sent ++ reads ++ resend ++ drops) _ _ _ _ _ split
    dropped_hits same read
  exact clear (recent 1) List.mem_cons_self stores

end TopInspect.OtpReissues
