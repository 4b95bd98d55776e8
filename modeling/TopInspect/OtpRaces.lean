import TopInspect.OtpVerification

/-! One-time codes under concurrency. Verifications interleave statement by
statement with each other, with sends and with every other request. The counter
is written from an earlier read and the consuming delete is not conditional, so
both guarantees rest on which reads fall between a read and its write. -/
namespace TopInspect.OtpRaces

open Resumption AuthSchema AuthStatements AuthHandlers AUTH_CONFIG OtpVerification Live
open Interleaving hiding Entry State Action Task

def storedPhone : Statement → Option String
  | .upsertOtp row => some row.phone
  | _ => none

def countedPhone : Statement → Option String
  | .updateOtpAttempts phone _ => some phone
  | _ => none

def Verdict.isWrong : Verdict → Bool
  | .wrong _ => true
  | _ => false

section Reading
variable (phone : String)

def Stores (entry : Entry) : Prop :=
  storedPhone entry.query = some phone ∧ entry.tick.outage ≠ .refused

instance : DecidablePred (Stores phone) := fun entry =>
  inferInstanceAs (Decidable (storedPhone entry.query = some phone ∧
    entry.tick.outage ≠ .refused))

/-- The verdict of a verification for the phone, at the entry of its read. -/
def readVerdict (entry : Entry) : Option Verdict :=
  match verification entry.request with
  | none => none
  | some (own, code) =>
      if own = phone ∧ Reads phone entry.toEvent then
        some (Step.verdict phone code entry.toEvent)
      else none

def Wrong (entry : Entry) : Prop := (readVerdict phone entry).any Verdict.isWrong = true

instance : DecidablePred (Wrong phone) := fun entry =>
  inferInstanceAs (Decidable ((readVerdict phone entry).any Verdict.isWrong = true))

def Right (entry : Entry) : Prop := readVerdict phone entry = some .right

instance : DecidablePred (Right phone) := fun entry =>
  inferInstanceAs (Decidable (readVerdict phone entry = some .right))

theorem read_verdict (entry : Entry) (verdict : Verdict) :
    readVerdict phone entry = some verdict ↔
      ∃ code, verification entry.request = some (phone, code) ∧ Reads phone entry.toEvent ∧
        Step.verdict phone code entry.toEvent = verdict := by
  unfold readVerdict
  cases verification entry.request with
  | none => simp
  | some pair =>
      obtain ⟨own, code⟩ := pair
      by_cases same : own = phone
      · subst same
        by_cases reads : Reads own entry.toEvent <;> simp [reads]
      · simp [same]

theorem wrong_iff (entry : Entry) :
    Wrong phone entry ↔ ∃ newAttempts, readVerdict phone entry = some (.wrong newAttempts) := by
  unfold Wrong
  cases readVerdict phone entry with
  | none => simp
  | some verdict => cases verdict <;> simp [Verdict.isWrong]

theorem read_stores_nothing (entry : Entry) (reads : Reads phone entry.toEvent) :
    ¬ Stores phone entry := by
  have query : entry.query = .selectOtp phone := reads.1
  simp [Stores, query, storedPhone]

/-- Only a send of the phone can make a row appear, and only an update of the
phone can change its counter. -/
theorem row_after (entry : Entry) (otp : Otp) (plain : ¬ Stores phone entry)
    (other : ∀ attempts, entry.query ≠ .updateOtpAttempts phone attempts)
    (found : (perform entry.tick entry.query entry.before).2.findOtp phone = some otp) :
    entry.before.findOtp phone = some otp := by
  rcases perform_otp entry.tick entry.query entry.before phone with same | same
  · exact same ▸ found
  · rw [same] at found
    cases query : entry.query with
    | upsertOtp row =>
        by_cases own : phone = row.phone
        · have refused : entry.tick.outage = .refused := by
            by_contra reached
            exact plain ⟨by simp [query, storedPhone, own], reached⟩
          rw [query] at same found
          have kept : (perform entry.tick (.upsertOtp row) entry.before).2 = entry.before := by
            simp [perform, Tick.fate, refused]
          rw [kept] at same
          exact same.trans found
        · simpa [query, otpAfter, own] using found
    | updateOtpAttempts own attempts =>
        have apart : phone ≠ own := fun same => other attempts (by rw [query, same])
        simpa [query, otpAfter, apart] using found
    | deleteOtp own =>
        by_cases same : phone = own
        · simp [query, otpAfter, same] at found
        · simpa [query, otpAfter, same] using found
    | _ => simpa [query, otpAfter] using found

end Reading

section Tasks
variable (env : Env) (state : State)

theorem task_statement (coherent : (server env).Coherent state) (index : Nat) (task : Task)
    (found : state.tasks[index]? = some task) (statement : Statement)
    (awaits : task.residual.awaiting = some statement) (touches : TouchesOtps statement) :
    (∃ phone code, verification task.request = some (phone, code) ∧
      Awaits phone code (history index state.trace) statement) ∨
    ∃ body, task.request = .requestOTP body ∧ OfSend body.phone statement := by
  obtain ⟨tick, follows⟩ := coherent.follows index task found
  exact otp_statement env task.request tick _ task.residual statement follows awaits touches

theorem update_history (coherent : (server env).Coherent state) (index : Nat) (task : Task)
    (found : state.tasks[index]? = some task) (phone : String) (attempts : Nat)
    (awaits : task.residual.awaiting = some (.updateOtpAttempts phone attempts)) :
    ∃ select code, history index state.trace = [select] ∧
      verification task.request = some (phone, code) ∧ Reads phone select ∧
      Step.verdict phone code select = .wrong attempts := by
  rcases task_statement env state coherent index task found _ awaits trivial with
    ⟨own, code, verifies, stands⟩ | ⟨body, -, send⟩
  · generalize history index state.trace = past at stands
    cases stands with
    | update select newAttempts reads verdict =>
        exact ⟨select, code, rfl, verifies, reads, verdict⟩
  · exact absurd send id

end Tasks

section Counting
variable (env : Env) (phone : String)

def UpdatesAttempts (statement : Option Statement) : Prop :=
  statement.bind countedPhone = some phone

instance : DecidablePred (UpdatesAttempts phone) := fun statement =>
  inferInstanceAs (Decidable (statement.bind countedPhone = some phone))

/-- Some verification has compared a wrong code and not yet written its count. -/
def Outstanding (state : State) : Prop :=
  ∃ task ∈ state.tasks, UpdatesAttempts phone task.residual.awaiting

instance : DecidablePred (Outstanding phone) := fun state =>
  inferInstanceAs (Decidable (∃ task ∈ state.tasks, UpdatesAttempts phone task.residual.awaiting))

/-- No wrong code is compared while another comparison's count is outstanding,
and every count reaches the server. -/
def CountsInOrder (state : State) (action : Action) : Prop :=
  ∀ entry ∈ (server env).upcoming state action,
    (Wrong phone entry → ¬ Outstanding phone state) ∧
      (UpdatesAttempts phone (some entry.query) → entry.tick.outage ≠ .refused)

instance (state : State) (action : Action) : Decidable (CountsInOrder env phone state action) :=
  inferInstanceAs (Decidable (∀ entry ∈ (server env).upcoming state action, _))

def wrongSince (trace : List Entry) : Nat :=
  (since (Stores phone) trace).countP fun entry => Wrong phone entry

theorem wrong_since_stores (entry : Entry) (trace : List Entry) (stores : Stores phone entry) :
    wrongSince phone (entry :: trace) = 0 := by
  simp [wrongSince, since_mark _ entry trace stores]

theorem wrong_since_wrong (entry : Entry) (trace : List Entry) (wrong : Wrong phone entry) :
    wrongSince phone (entry :: trace) = wrongSince phone trace + 1 := by
  obtain ⟨attempts, verdict⟩ := (wrong_iff phone entry).mp wrong
  obtain ⟨code, -, reads, -⟩ := (read_verdict phone entry _).mp verdict
  simp [wrongSince, since_cons _ entry trace (read_stores_nothing phone entry reads), wrong]

theorem wrong_since_other (entry : Entry) (trace : List Entry) (plain : ¬ Stores phone entry)
    (other : ¬ Wrong phone entry) :
    wrongSince phone (entry :: trace) = wrongSince phone trace := by
  simp [wrongSince, since_cons _ entry trace plain, other]

theorem wrong_since_le (entry : Entry) (trace : List Entry) (other : ¬ Wrong phone entry) :
    wrongSince phone (entry :: trace) ≤ wrongSince phone trace := by
  by_cases stores : Stores phone entry
  · rw [wrong_since_stores phone entry trace stores]
    exact Nat.zero_le _
  · exact Nat.le_of_eq (wrong_since_other phone entry trace stores other)

/-- The wrong codes of the newest stretch are on record: in the row when no count
is outstanding, in the outstanding count otherwise. -/
structure Counted (state : State) : Prop where
  bounded : ∀ suffix, suffix <:+ state.trace → wrongSince phone suffix ≤ OTP_MAX_ATTEMPTS
  outstanding : ∀ (index : Nat) (task : Task) (attempts : Nat), state.tasks[index]? = some task →
    task.residual.awaiting = some (.updateOtpAttempts phone attempts) →
    wrongSince phone state.trace ≤ attempts
  stored : ¬ Outstanding phone state → ∀ otp, state.world.findOtp phone = some otp →
    wrongSince phone state.trace ≤ otp.attempts

theorem counted_start (db : Db) : Counted phone (start db) where
  bounded := by
    intro suffix ends
    obtain rfl : suffix = [] := List.suffix_nil.mp ends
    exact Nat.zero_le _
  outstanding := by simp [start]
  stored := fun _ otp _ => Nat.zero_le _

theorem outstanding_task (state : State) (index : Nat) (task : Task)
    (found : state.tasks[index]? = some task) (attempts : Nat)
    (awaits : task.residual.awaiting = some (.updateOtpAttempts phone attempts)) :
    Outstanding phone state :=
  ⟨task, List.mem_of_getElem? found, by simp [awaits, UpdatesAttempts, countedPhone]⟩

theorem updates_attempts (statement : Option Statement)
    (updates : UpdatesAttempts phone statement) :
    ∃ attempts, statement = some (.updateOtpAttempts phone attempts) := by
  obtain ⟨asked, rfl, counts⟩ := Option.bind_eq_some_iff.mp updates
  cases asked with
  | updateOtpAttempts other attempts =>
      obtain rfl : other = phone := by simpa [countedPhone] using counts
      exact ⟨attempts, rfl⟩
  | _ => simp [countedPhone] at counts

theorem update_born (state : State) (coherent : (server env).Coherent state) (index : Nat)
    (select : Step) (past : history index state.trace = [select]) : index < state.tasks.length := by
  by_contra absent
  rw [Machine.history_unborn state coherent index (Nat.not_lt.mp absent)] at past
  cases past

theorem counted_arrived (state : State) (coherent : (server env).Coherent state)
    (request : Request) (tick : Tick) (counted : Counted phone state) :
    Counted phone { state with
      tasks := state.tasks ++ [(server env).launch tick state.trace.length request] } where
  bounded := counted.bounded
  outstanding := by
    intro index task attempts found awaits
    obtain ⟨select, code, past, -⟩ := update_history env _
      (Machine.coherent_arrived state coherent request tick) index task found phone attempts awaits
    have old := update_born env state coherent index select past
    rw [List.getElem?_append_left old] at found
    exact counted.outstanding index task attempts found awaits
  stored := by
    intro settled otp found
    refine counted.stored (fun ⟨task, member, updates⟩ => settled ⟨task, ?_, updates⟩) otp found
    exact List.mem_append_left _ member

section Answered
variable (state : State) (index : Nat) (tick : Tick) (task : Task) (query : Statement)
  (resume : Except DbError query.Answer → Tick →
    Residual Statement Statement.Answer DbError Tick (Option Response))

variable (coherent : (server env).Coherent state) (counted : Counted phone state)
  (present : state.tasks[index]? = some task) (awaits : task.residual = .await query resume)
  (wrong : Wrong phone (entryOf state index tick task query) → ¬ Outstanding phone state)
  (reached : UpdatesAttempts phone (some query) → tick.outage ≠ .refused)

include counted wrong in
theorem wrong_counted (compared : Wrong phone (entryOf state index tick task query)) :
    ∃ attempts, readVerdict phone (entryOf state index tick task query) =
        some (.wrong attempts) ∧ wrongSince phone state.trace + 1 ≤ attempts ∧
      attempts ≤ OTP_MAX_ATTEMPTS := by
  obtain ⟨attempts, verdict⟩ := (wrong_iff phone _).mp compared
  obtain ⟨code, -, -, judged⟩ := (read_verdict phone _ _).mp verdict
  obtain ⟨otp, found, -, few, -, rfl⟩ := (judge_wrong _ _ _ _).mp judged
  have held := counted.stored (wrong compared) otp found
  exact ⟨_, verdict, by omega, few⟩

include counted wrong in
theorem bounded_answered :
    wrongSince phone (entryOf state index tick task query :: state.trace) ≤ OTP_MAX_ATTEMPTS := by
  by_cases compared : Wrong phone (entryOf state index tick task query)
  · obtain ⟨attempts, -, counts, few⟩ :=
      wrong_counted phone state index tick task query counted wrong compared
    rw [wrong_since_wrong phone _ _ compared]
    omega
  · exact Nat.le_trans (wrong_since_le phone _ _ compared) (counted.bounded _ List.suffix_rfl)

include coherent counted present awaits wrong in
theorem outstanding_answered (other : Nat) (found : Task) (attempts : Nat)
    (lookup : ((server env).answer state index task query resume tick).tasks[other]? = some found)
    (pending : found.residual.awaiting = some (.updateOtpAttempts phone attempts)) :
    wrongSince phone (entryOf state index tick task query :: state.trace) ≤ attempts := by
  obtain ⟨select, code, past, verifies, reads, verdict⟩ := update_history env _
    (Machine.coherent_answered state coherent index tick task query resume present awaits)
    other found lookup phone attempts pending
  by_cases own : index = other
  · -- The answer was the read itself, so the count comes from the row it read.
    subst own
    have grown : history index state.trace ++ [(entryOf state index tick task query).toEvent] =
        [select] := (history_cons_own (entryOf state index tick task query) state.trace).symm.trans
      past
    have read : (entryOf state index tick task query).toEvent = select := by
      cases before : history index state.trace with
      | nil => simpa [before] using grown
      | cons first rest => simp [before] at grown
    have request : found.request = task.request := by
      have resumed := (server env).answer_task_own state index task query resume
        tick present
      obtain rfl := Option.some.inj (lookup.symm.trans resumed)
      rfl
    have judged : readVerdict phone (entryOf state index tick task query) =
        some (.wrong attempts) := by
      rw [request] at verifies
      refine (read_verdict phone _ _).mpr ⟨code, verifies, ?_, ?_⟩
      · exact read ▸ reads
      · exact read ▸ verdict
    have compared := (wrong_iff phone _).mpr ⟨attempts, judged⟩
    obtain ⟨same, equal, counts, -⟩ :=
      wrong_counted phone state index tick task query counted wrong compared
    obtain rfl : attempts = same := by simpa using judged.symm.trans equal
    rw [wrong_since_wrong phone _ _ compared]
    exact counts
  · -- Another task's count was outstanding before, so nothing wrong was compared.
    have unchanged : history other state.trace = [select] :=
      (history_cons_other other (entryOf state index tick task query) state.trace own).symm.trans
        past
    have old := update_born env state coherent other select unchanged
    have still : state.tasks[other]? = some found := by
      rcases (server env).answer_tasks state index task query resume tick present other found
        lookup with
        ⟨same, -⟩ | ⟨-, before⟩ | ⟨late, -⟩
      · exact absurd same.symm own
      · exact before
      · omega
    have pendingBefore := outstanding_task phone state other found still attempts pending
    have clear : ¬ Wrong phone (entryOf state index tick task query) := fun compared =>
      wrong compared pendingBefore
    exact Nat.le_trans (wrong_since_le phone _ _ clear)
      (counted.outstanding other found attempts still pending)

include coherent present awaits in
theorem wrong_outstanding (compared : Wrong phone (entryOf state index tick task query)) :
    Outstanding phone ((server env).answer state index task query resume tick) := by
  obtain ⟨attempts, verdict⟩ := (wrong_iff phone _).mp compared
  obtain ⟨code, verifies, reads, judged⟩ := (read_verdict phone _ _).mp verdict
  have resumed := (server env).answer_task_own state index task query resume
    tick present
  obtain ⟨first, follows⟩ := (Machine.coherent_answered state coherent index tick task query resume
    present awaits).follows index _ resumed
  -- The read of a verification is its first statement.
  have start : history index state.trace = [] := by
    have asked : task.residual.awaiting = some (.selectOtp phone) := by
      rw [awaits]
      exact congrArg some reads.1
    rcases task_statement env state coherent index task present _ asked trivial with
      ⟨own, used, -, stands⟩ | ⟨body, send, -⟩
    · generalize history index state.trace = past at stands
      cases stands
      rfl
    · have silent : verification task.request = some (phone, code) := verifies
      rw [send] at silent
      cases silent
  have past : history index ((server env).answer state index task query resume tick).trace =
      [(entryOf state index tick task query).toEvent] := by
    have grown := history_cons_own (entryOf state index tick task query) state.trace
    rw [start] at grown
    exact grown
  rw [past] at follows
  obtain ⟨rest, stands, -⟩ := verification_read env task.request phone code verifies first _ reads _
    follows
  refine outstanding_task phone _ index _ resumed attempts ?_
  rw [stands, judged]
  rfl

include coherent counted present awaits reached in
theorem stored_answered
    (settled : ¬ Outstanding phone ((server env).answer state index task query resume tick))
    (otp : Otp)
    (found : ((server env).answer state index task query resume tick).world.findOtp phone =
      some otp) :
    wrongSince phone (entryOf state index tick task query :: state.trace) ≤ otp.attempts := by
  have clear : ¬ Wrong phone (entryOf state index tick task query) := fun compared =>
    settled (wrong_outstanding env phone state index tick task query resume coherent present awaits
      compared)
  by_cases stores : Stores phone (entryOf state index tick task query)
  · rw [wrong_since_stores phone _ _ stores]
    exact Nat.zero_le _
  · rw [wrong_since_other phone _ _ stores clear]
    by_cases updates : UpdatesAttempts phone (some query)
    · -- The count that was outstanding is the one the row now holds.
      obtain ⟨attempts, same⟩ := updates_attempts phone _ updates
      obtain rfl : query = .updateOtpAttempts phone attempts := Option.some.inj same
      have written := perform_otp_written tick (.updateOtpAttempts phone attempts) state.world
        trivial (reached updates) phone
      have row : (state.world.findOtp phone).map (fun otp => { otp with attempts }) = some otp := by
        simpa [otpAfter] using written.symm.trans found
      obtain ⟨old, -, rfl⟩ := Option.map_eq_some_iff.mp row
      exact counted.outstanding index task attempts present (by rw [awaits]; rfl)
    · refine counted.stored (fun outstanding => settled ?_) otp ?_
      · obtain ⟨pending, member, updating⟩ := outstanding
        obtain ⟨other, lookup⟩ := List.getElem?_of_mem member
        have apart : other ≠ index := by
          rintro rfl
          obtain rfl := Option.some.inj (present.symm.trans lookup)
          exact updates (by simpa [awaits, Residual.awaiting] using updating)
        exact ⟨pending, List.mem_of_getElem? ((server env).answer_task_other state index task query
          resume tick other pending lookup apart), updating⟩
      · exact row_after phone (entryOf state index tick task query) otp stores
          (fun attempts same => updates (by
            have query : query = .updateOtpAttempts phone attempts := same
            simp [query, UpdatesAttempts, countedPhone])) found

end Answered

theorem counted_step (state : State) (action : Action) (coherent : (server env).Coherent state)
    (counted : Counted phone state) (allowed : CountsInOrder env phone state action) :
    Counted phone ((server env).step state action) := by
  have transition := (server env).step_transition state action
  generalize (server env).step state action = after at transition ⊢
  cases transition with
  | idle => exact counted
  | arrived request tick => exact counted_arrived env phone state coherent request tick counted
  | answered index tick task query resume present awaits ready =>
      obtain ⟨wrong, reached⟩ := allowed (entryOf state index tick task query)
        (Machine.upcoming_answered (server env) state index tick task query resume present awaits
          ready)
      refine ⟨fun suffix ends => ?_, ?_, ?_⟩
      · rcases List.suffix_cons_iff.mp ends with rfl | old
        · exact bounded_answered phone state index tick task query counted wrong
        · exact counted.bounded suffix old
      · exact outstanding_answered env phone state index tick task query resume coherent counted
          present awaits wrong
      · exact stored_answered env phone state index tick task query resume coherent counted present
          awaits reached

theorem counted_run (db : Db) (schedule : List Action)
    (guarded : (server env).Guarded (CountsInOrder env phone) (start db) schedule) :
    Counted phone ((server env).run (start db) schedule) := by
  refine ((server env).guarded_run (CountsInOrder env phone)
    (fun state => (server env).Coherent state ∧ Counted phone state) ?_ (start db) schedule
    ⟨(server env).coherent_start db, counted_start phone db⟩ guarded).2
  rintro state action ⟨coherent, counted⟩ allowed
  exact ⟨Machine.coherent_step state action coherent,
    counted_step env phone state action coherent counted allowed⟩

/-- Between two sends at most three wrong codes meet the stored one. -/
def GuessesBounded (trace : List Entry) : Prop :=
  ∀ later stretch earlier, trace = later ++ stretch ++ earlier →
    (∀ entry ∈ stretch, ¬ Stores phone entry) →
    (stretch.countP fun entry => Wrong phone entry) ≤ OTP_MAX_ATTEMPTS

theorem guesses_bounded (db : Db) (schedule : List Action)
    (guarded : (server env).Guarded (CountsInOrder env phone) (start db) schedule) :
    GuessesBounded phone ((server env).run (start db) schedule).trace := by
  intro later stretch earlier split between
  have counted := counted_run env phone db schedule guarded
  have ends : stretch ++ earlier <:+ ((server env).run (start db) schedule).trace :=
    ⟨later, by rw [split, List.append_assoc]⟩
  exact Nat.le_trans (stretch_within (Stores phone) stretch earlier between).sublist.countP_le
    (counted.bounded _ ends)

end Counting

section Guessing

def sample : String := "2125550123"

def send : Request := .requestOTP { phone := sample, purpose := .signup }

def guess : Request := .phoneSignIn { phone := sample, code := "000000", deviceInfo := none }

def sent : List Action :=
  [.arrive send (tickAt 0 "a"), .advance 0 (tickAt 0 "a"), .advance 0 (tickAt 0 "a"),
    .advance 0 (tickAt 0 "a"), .advance 0 (tickAt 0 "a")]

-- Task 1 is the message in the background, so the guesses start at task 2.
def guessesInTurn : List Action :=
  sent ++ [.arrive guess (tickAt 1 "b"), .advance 2 (tickAt 1 "b"), .advance 2 (tickAt 1 "b"),
    .arrive guess (tickAt 2 "c"), .advance 3 (tickAt 2 "c"), .advance 3 (tickAt 2 "c")]

def guessesAtOnce : List Action :=
  sent ++ [.arrive guess (tickAt 1 "b"), .arrive guess (tickAt 1 "b"),
    .arrive guess (tickAt 1 "b"), .arrive guess (tickAt 1 "b"), .advance 2 (tickAt 1 "b"),
    .advance 3 (tickAt 1 "b"), .advance 4 (tickAt 1 "b"), .advance 5 (tickAt 1 "b")]

theorem guesses_bounded_in_turn :
    GuessesBounded sample ((server sampleEnv).run (start Db.empty) guessesInTurn).trace :=
  guesses_bounded sampleEnv sample Db.empty guessesInTurn (by decide)

/-- Four guesses that all read the row before the first of them writes it. -/
theorem guesses_exceed : ¬ ∀ (env : Env) (phone : String) (db : Db) (schedule : List Action),
    GuessesBounded phone ((server env).run (start db) schedule).trace := by
  intro bounded
  let trace := ((server sampleEnv).run (start Db.empty) guessesAtOnce).trace
  have split : trace = [] ++ trace.take 4 ++ trace.drop 4 := by simp
  have clear : ∀ entry ∈ trace.take 4, ¬ Stores sample entry := by decide
  have many : ((trace.take 4).countP fun entry => Wrong sample entry) = 4 := by decide
  have few := bounded sampleEnv sample Db.empty guessesAtOnce _ _ _ split clear
  rw [many] at few
  exact absurd few (by decide)

end Guessing

section Consuming
variable (env : Env) (phone : String)

/-- The call that made this read of the row returned success. -/
def Verified (state : State) (select : Entry) : Prop :=
  ∃ code tick rest later, verification select.request = some (phone, code) ∧
    history select.task state.trace = select.toEvent :: rest ++ later ∧
    Follows perform (verifyOTPCode phone code tick) (select.toEvent :: rest) (.done .success)

/-- Of the calls that read one stored code at most one succeeds. -/
def ConsumedOnce (state : State) : Prop :=
  ∀ later stretch earlier, state.trace = later ++ stretch ++ earlier →
    (∀ entry ∈ stretch, ¬ Stores phone entry) →
    ∀ first ∈ stretch, ∀ second ∈ stretch,
      Verified phone state first → Verified phone state second → first.task = second.task

def standsAt (state : State) (index : Nat) : Option Statement :=
  state.tasks[index]?.bind fun task => task.residual.awaiting

/-- The right code is not read while another call that has read it on the same
storing still awaits its delete. -/
def ConsumesInOrder (state : State) (action : Action) : Prop :=
  ∀ entry ∈ (server env).upcoming state action, Right phone entry →
    ∀ other ∈ since (Stores phone) state.trace, Right phone other →
      standsAt state other.task ≠ some (.deleteOtp phone)

instance (state : State) (action : Action) : Decidable (ConsumesInOrder env phone state action) :=
  inferInstanceAs (Decidable (∀ entry ∈ (server env).upcoming state action, _))

/-- The delete of a call was answered by an error, so the call threw. -/
def Failed (trace : List Entry) (index : Nat) : Prop :=
  ∃ entry ∈ trace, entry.task = index ∧ entry.query = .deleteOtp phone ∧
    entry.tick.outage ≠ .none

theorem failed_cons (entry : Entry) (trace : List Entry) (index : Nat)
    (failed : Failed phone trace index) : Failed phone (entry :: trace) index := by
  obtain ⟨delete, member, rest⟩ := failed
  exact ⟨delete, List.mem_cons_of_mem _ member, rest⟩

structure Consumed (state : State) : Prop where
  pending : ∀ entry ∈ since (Stores phone) state.trace, Right phone entry →
    standsAt state entry.task = some (.deleteOtp phone) ∨
      Failed phone state.trace entry.task ∨ state.world.findOtp phone = none
  alone : ∀ suffix, suffix <:+ state.trace →
    ∀ first ∈ since (Stores phone) suffix, ∀ second ∈ since (Stores phone) suffix,
      Right phone first → Right phone second → first.task = second.task ∨
        Failed phone state.trace first.task ∨ Failed phone state.trace second.task

theorem consumed_start (db : Db) : Consumed phone (start db) where
  pending := by simp [start]
  alone := by
    intro suffix ends
    obtain rfl : suffix = [] := List.suffix_nil.mp ends
    simp

theorem consumed_arrived (state : State) (request : Request) (tick : Tick)
    (consumed : Consumed phone state) :
    Consumed phone { state with
      tasks := state.tasks ++ [(server env).launch tick state.trace.length request] } where
  pending := by
    intro entry member right
    rcases consumed.pending entry member right with stands | rest
    · refine Or.inl ?_
      obtain ⟨task, found, awaits⟩ := Option.bind_eq_some_iff.mp stands
      refine Option.bind_eq_some_iff.mpr ⟨task, ?_, awaits⟩
      exact (List.getElem?_append_left (List.getElem?_eq_some_iff.mp found).1).trans found
    · exact Or.inr rest
  alone := consumed.alone

theorem row_absent (entry : Entry) (plain : ¬ Stores phone entry)
    (absent : entry.before.findOtp phone = none) :
    (perform entry.tick entry.query entry.before).2.findOtp phone = none := by
  by_cases updates : ∃ attempts, entry.query = .updateOtpAttempts phone attempts
  · obtain ⟨attempts, query⟩ := updates
    rw [query]
    rcases perform_otp entry.tick (.updateOtpAttempts phone attempts) entry.before phone with
      same | same
    · exact same.trans absent
    · simpa [otpAfter, absent] using same
  · by_contra found
    obtain ⟨otp, some⟩ := Option.ne_none_iff_exists'.mp found
    have before := row_after phone entry otp plain (fun attempts query => updates ⟨attempts, query⟩)
      some
    rw [absent] at before
    cases before

section Answered
variable (state : State) (index : Nat) (tick : Tick) (task : Task) (query : Statement)
  (resume : Except DbError query.Answer → Tick →
    Residual Statement Statement.Answer DbError Tick (Option Response))
  (coherent : (server env).Coherent state) (consumed : Consumed phone state)
  (present : state.tasks[index]? = some task) (awaits : task.residual = .await query resume)

include coherent present awaits in
theorem read_stands (code : String) (verifies : verification task.request = some (phone, code))
    (reads : Reads phone (entryOf state index tick task query).toEvent) :
    ∃ rest : OtpVerificationResult → Handler (Option Response),
      standsAt ((server env).answer state index task query resume tick) index =
        ((conclude phone (Step.verdict phone code (entryOf state index tick task query).toEvent)
          tick).bindAt rest tick).awaiting := by
  have resumed := (server env).answer_task_own state index task query resume
    tick present
  obtain ⟨first, follows⟩ := (Machine.coherent_answered state coherent index tick task query resume
    present awaits).follows index _ resumed
  have start : history index state.trace = [] := by
    have asked : task.residual.awaiting = some (.selectOtp phone) := by
      rw [awaits]
      exact congrArg some reads.1
    rcases task_statement env state coherent index task present _ asked trivial with
      ⟨own, used, -, stands⟩ | ⟨body, send, -⟩
    · generalize history index state.trace = past at stands
      cases stands
      rfl
    · rw [send] at verifies
      cases verifies
  have past : history index ((server env).answer state index task query resume tick).trace =
      [(entryOf state index tick task query).toEvent] := by
    have grown := history_cons_own (entryOf state index tick task query) state.trace
    rw [start] at grown
    exact grown
  rw [past] at follows
  obtain ⟨rest, stands, -⟩ := verification_read env task.request phone code verifies first _ reads _
    follows
  refine ⟨rest, ?_⟩
  unfold standsAt
  rw [resumed]
  exact congrArg Residual.awaiting stands

include consumed coherent present awaits in
theorem pending_answered (entry : Entry)
    (member : entry ∈ since (Stores phone) (entryOf state index tick task query :: state.trace))
    (right : Right phone entry) :
    standsAt ((server env).answer state index task query resume tick) entry.task =
        some (.deleteOtp phone) ∨
      Failed phone (entryOf state index tick task query :: state.trace) entry.task ∨
      ((server env).answer state index task query resume tick).world.findOtp phone = none := by
  by_cases stores : Stores phone (entryOf state index tick task query)
  · rw [since_mark _ _ _ stores] at member
    exact absurd member List.not_mem_nil
  · rw [since_cons _ _ _ stores] at member
    rcases List.mem_cons.mp member with rfl | old
    · obtain ⟨code, verifies, reads, judged⟩ := (read_verdict phone _ _).mp right
      obtain ⟨rest, stands⟩ := read_stands env phone state index tick task query resume coherent
        present awaits code verifies reads
      rw [judged] at stands
      exact Or.inl stands
    · rcases consumed.pending entry old right with stands | failed | absent
      · obtain ⟨other, found, waiting⟩ := Option.bind_eq_some_iff.mp stands
        by_cases own : entry.task = index
        · -- Its own delete was answered: with an error, or after the row went.
          rw [own] at found
          obtain rfl : task = other := Option.some.inj (present.symm.trans found)
          obtain rfl : query = .deleteOtp phone := by
            simpa [awaits, Residual.awaiting] using waiting
          by_cases reached : tick.outage = .refused
          · exact Or.inr (Or.inl ⟨entryOf state index tick task (.deleteOtp phone),
              List.mem_cons_self, own.symm, rfl, by simp [reached]⟩)
          · refine Or.inr (Or.inr ?_)
            exact (perform_otp_written tick (.deleteOtp phone) state.world trivial reached
              phone).trans (by simp [otpAfter])
        · refine Or.inl (Option.bind_eq_some_iff.mpr ⟨other, ?_, waiting⟩)
          exact (server env).answer_task_other state index task query resume tick _ other found own
      · exact Or.inr (Or.inl (failed_cons phone _ _ _ failed))
      · exact Or.inr (Or.inr (row_absent phone (entryOf state index tick task query) stores absent))

include consumed in
theorem alone_answered
    (inOrder : Right phone (entryOf state index tick task query) →
      ∀ other ∈ since (Stores phone) state.trace, Right phone other →
        standsAt state other.task ≠ some (.deleteOtp phone))
    (first second : Entry)
    (left : first ∈ since (Stores phone) (entryOf state index tick task query :: state.trace))
    (right : second ∈ since (Stores phone) (entryOf state index tick task query :: state.trace))
    (one : Right phone first) (two : Right phone second) :
    first.task = second.task ∨
      Failed phone (entryOf state index tick task query :: state.trace) first.task ∨
      Failed phone (entryOf state index tick task query :: state.trace) second.task := by
  -- A read that finds the right code meets a row, so an earlier reader has failed.
  have newest : Right phone (entryOf state index tick task query) →
      ∀ other ∈ since (Stores phone) state.trace, Right phone other →
        Failed phone (entryOf state index tick task query :: state.trace) other.task := by
    intro here other member found
    obtain ⟨code, -, -, judged⟩ := (read_verdict phone _ _).mp here
    obtain ⟨otp, row, -⟩ := (judge_right _ _ _).mp judged
    rcases consumed.pending other member found with stands | failed | absent
    · exact absurd stands (inOrder here other member found)
    · exact failed_cons phone _ _ _ failed
    · exact absurd (row.symm.trans absent) (by simp)
  by_cases stores : Stores phone (entryOf state index tick task query)
  · rw [since_mark _ _ _ stores] at left
    exact absurd left List.not_mem_nil
  · rw [since_cons _ _ _ stores] at left right
    rcases List.mem_cons.mp left with rfl | left <;> rcases List.mem_cons.mp right with rfl | right
    · exact Or.inl rfl
    · exact Or.inr (Or.inr (newest one second right two))
    · exact Or.inr (Or.inl (newest two first left one))
    · rcases consumed.alone _ List.suffix_rfl first left second right one two with
        same | failed | failed
      · exact Or.inl same
      · exact Or.inr (Or.inl (failed_cons phone _ _ _ failed))
      · exact Or.inr (Or.inr (failed_cons phone _ _ _ failed))

end Answered

theorem consumed_step (state : State) (action : Action) (coherent : (server env).Coherent state)
    (consumed : Consumed phone state) (allowed : ConsumesInOrder env phone state action) :
    Consumed phone ((server env).step state action) := by
  have transition := (server env).step_transition state action
  generalize (server env).step state action = after at transition ⊢
  cases transition with
  | idle => exact consumed
  | arrived request tick => exact consumed_arrived env phone state request tick consumed
  | answered index tick task query resume present awaits ready =>
      have inOrder := allowed (entryOf state index tick task query)
        (Machine.upcoming_answered (server env) state index tick task query resume present awaits
          ready)
      refine ⟨pending_answered env phone state index tick task query resume coherent consumed
        present awaits, fun suffix ends => ?_⟩
      rcases List.suffix_cons_iff.mp ends with rfl | old
      · exact fun first left second right =>
          alone_answered phone state index tick task query consumed inOrder first second left right
      · intro first left second right one two
        rcases consumed.alone suffix old first left second right one two with same | failed | failed
        · exact Or.inl same
        · exact Or.inr (Or.inl (failed_cons phone _ _ _ failed))
        · exact Or.inr (Or.inr (failed_cons phone _ _ _ failed))

theorem verified_right (state : State) (coherent : (server env).Coherent state) (select : Entry)
    (member : select ∈ state.trace) (verified : Verified phone state select) :
    Right phone select ∧ ¬ Failed phone state.trace select.task := by
  obtain ⟨code, tick, rest, later, verifies, past, success⟩ := verified
  obtain ⟨read, delete, pair, reads, judged, asked, steady⟩ :=
    verify_success phone code tick _ success
  obtain ⟨rfl, rfl⟩ : select.toEvent = read ∧ rest = [delete] := by simpa using pair
  refine ⟨(read_verdict phone select _).mpr ⟨code, verifies, reads, judged⟩, ?_⟩
  rintro ⟨failure, recorded, own, query, outage⟩
  obtain ⟨task, found, request, -⟩ := coherent.owner select member
  obtain ⟨first, follows⟩ := coherent.follows select.task task found
  obtain ⟨next, same, avoids⟩ := verification_first env task.request phone code (request ▸ verifies)
  have known : failure.toEvent ∈ history select.task state.trace :=
    (mem_history _ _ _).mpr ⟨failure, recorded, own, rfl⟩
  rw [past] at follows known
  rw [show (server env).program task.request = handler env task.request from rfl, same] at follows
  -- What follows the verification writes no attempts any more.
  obtain ⟨middle, done, rest⟩ := (follows_append perform _ _ _ later).mp follows
  have start : verifyOTPCode phone code first = verifyOTPCode phone code tick := by
    rw [verify_judges]
    rfl
  have stands := bind_follows perform next _ _ first _ (start ▸ success)
  have settled := follows_unique perform _ _ _ _ done stands
  subst settled
  have silent := (avoids_follows perform _ _ later (avoids _ _) rest).2
  simp only [List.cons_append, List.nil_append, List.mem_cons] at known
  rcases known with isRead | isDelete | isLater
  · have asked : failure.query = .selectOtp phone := by
      rw [show failure.query = failure.toEvent.query from rfl, isRead]
      exact reads.1
    rw [query] at asked
    cases asked
  · exact outage (by rw [show failure.tick = failure.toEvent.tick from rfl, isDelete]; exact steady)
  · refine silent _ isLater ?_
    rw [show failure.toEvent.query = failure.query from rfl, query]
    trivial

theorem consumed_once (db : Db) (schedule : List Action)
    (guarded : (server env).Guarded (ConsumesInOrder env phone) (start db) schedule) :
    ConsumedOnce phone ((server env).run (start db) schedule) := by
  have coherent := Machine.coherent_run (start db) schedule
    ((server env).coherent_start db)
  have consumed := ((server env).guarded_run (ConsumesInOrder env phone)
    (fun state => (server env).Coherent state ∧ Consumed phone state)
    (fun state action ⟨coherent, consumed⟩ allowed =>
      ⟨Machine.coherent_step state action coherent,
        consumed_step env phone state action coherent consumed allowed⟩)
    (start db) schedule ⟨(server env).coherent_start db, consumed_start phone db⟩ guarded).2
  intro later stretch earlier split between first left second right one two
  have inside := stretch_within (Stores phone) stretch earlier between
  have ends : stretch ++ earlier <:+ ((server env).run (start db) schedule).trace :=
    ⟨later, by rw [split, List.append_assoc]⟩
  have recorded : ∀ entry ∈ stretch, entry ∈ ((server env).run (start db) schedule).trace :=
    fun entry member => ends.subset (List.mem_append_left _ member)
  obtain ⟨firstRight, firstPassed⟩ :=
    verified_right env phone _ coherent first (recorded first left) one
  obtain ⟨secondRight, secondPassed⟩ :=
    verified_right env phone _ coherent second (recorded second right) two
  rcases consumed.alone _ ends first (inside.subset left) second (inside.subset right) firstRight
    secondRight with same | failed | failed
  · exact same
  · exact absurd failed firstPassed
  · exact absurd failed secondPassed

end Consuming

section Taking

def enroll : Request :=
  .phoneSignup { phone := sample, code := "493021", name := "Ada", gender := .female,
                 birthYear := 1990, deviceInfo := none }

def enter : Request := .phoneSignIn { phone := sample, code := "493021", deviceInfo := none }

def takersInTurn : List Action :=
  sent ++ [.arrive enroll (tickAt 1 "b"), .advance 2 (tickAt 1 "b"), .advance 2 (tickAt 1 "b"),
    .arrive enter (tickAt 2 "c"), .advance 3 (tickAt 2 "c")]

theorem consumed_once_in_turn :
    ConsumedOnce sample ((server sampleEnv).run (start Db.empty) takersInTurn) :=
  consumed_once sampleEnv sample Db.empty takersInTurn (by decide)

def takersAtOnce : List Action :=
  sent ++ [.arrive enroll (tickAt 1 "b"), .arrive enter (tickAt 1 "b"), .advance 2 (tickAt 1 "b"),
    .advance 3 (tickAt 1 "b"), .advance 2 (tickAt 1 "b"), .advance 3 (tickAt 1 "b")]

def takenAtOnce : State := (server sampleEnv).run (start Db.empty) takersAtOnce

-- Newest first: the two deletes, then the two reads they follow.
def recent (back : Fin 4) : Entry :=
  (takenAtOnce.trace.take 4).get (back.cast (by decide))

theorem enroll_verified : Verified sample takenAtOnce (recent 3) :=
  ⟨"493021", tickAt 0 "a", [(recent 1).toEvent], [], rfl, rfl, ⟨rfl, rfl, rfl⟩⟩

theorem enter_verified : Verified sample takenAtOnce (recent 2) :=
  ⟨"493021", tickAt 0 "a", [(recent 0).toEvent], [], rfl, rfl, ⟨rfl, rfl, rfl⟩⟩

/-- A sign-up and a sign-in that both pass with one code. -/
theorem consumed_twice : ¬ ∀ (env : Env) (phone : String) (db : Db) (schedule : List Action),
    ConsumedOnce phone ((server env).run (start db) schedule) := by
  intro once
  have split : takenAtOnce.trace = [] ++ takenAtOnce.trace.take 4 ++ takenAtOnce.trace.drop 4 := by
    simp
  have clear : ∀ entry ∈ takenAtOnce.trace.take 4, ¬ Stores sample entry := by decide
  have same := once sampleEnv sample Db.empty takersAtOnce _ _ _ split clear
    (recent 3) (List.get_mem _ _) (recent 2) (List.get_mem _ _) enroll_verified enter_verified
  exact absurd same (by decide)

end Taking
end TopInspect.OtpRaces
