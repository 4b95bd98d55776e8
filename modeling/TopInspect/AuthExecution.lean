import TopInspect.Serial
import TopInspect.AuthHandlers

/-! Executing the handlers' building blocks: readings of the running segment
ask nothing, and a select leaves the database alone. -/
namespace TopInspect.AuthExecution

open Resumption AuthSchema AuthStatements AuthHandlers AUTH_CONFIG Serial

abbrev Run : Type := Serial.Run Statement Tick Db

section Readings
variable (run : Run)

@[simp] theorem exec_now : exec perform now run = (.ok run.tick.now, run) := rfl

@[simp] theorem exec_minutes_ago (count : Int) :
    exec perform (minutesAgo count) run = (.ok (run.tick.now - minutes count), run) := rfl

@[simp] theorem exec_minutes_from_now (count : Int) :
    exec perform (minutesFromNow count) run = (.ok (run.tick.now + minutes count), run) := rfl

@[simp] theorem exec_days_from_now (count : Int) :
    exec perform (daysFromNow count) run = (.ok (run.tick.now + days count), run) := rfl

@[simp] theorem exec_generate_otp :
    exec perform generateOTP run = (.ok run.tick.otpCode, run) := rfl

@[simp] theorem exec_generate_refresh_token :
    exec perform generateRefreshToken run = (.ok run.tick.refreshToken, run) := rfl

@[simp] theorem exec_create_id : exec perform createId run = (.ok run.tick.id, run) := rfl

@[simp] theorem exec_generate_access_token (userId : String) :
    exec perform (generateAccessToken userId) run =
      (.ok { sub := userId, iat := run.tick.now / 1000,
             exp := run.tick.now / 1000 + ACCESS_TOKEN_EXPIRY_MINUTES * 60 }, run) := rfl

@[simp] theorem exec_recently_refreshed (lastUsedAt : Time) :
    exec perform (recentlyRefreshed lastUsedAt) run =
      (.ok (decide (run.tick.now - lastUsedAt < minutes REFRESH_COOLDOWN_MINUTES)), run) := rfl

end Readings

theorem read_world (tick : Tick) (statement : Statement) (db : Db)
    (reads : ∀ after answer, execute tick statement db = .ok (answer, after) → after = db) :
    (perform tick statement db).2 = db := by
  rcases perform_effect tick statement db with same | ⟨answer, executed⟩
  · exact same
  · exact reads _ _ executed

theorem read_exec (statement : Statement) (value : Db → statement.Answer)
    (reads : ∀ tick db, execute tick statement db = .ok (value db, db)) (run : Run)
    (answer : statement.Answer) (read : (exec perform (call statement) run).1 = .ok answer) :
    answer = value run.world ∧ (exec perform (call statement) run).2.world = run.world ∧
      (exec perform (call statement) run).2.tick = run.ticks 0 := by
  rw [exec_call] at read ⊢
  have executed := perform_ok _ _ _ _ read
  rw [reads, Except.ok.injEq, Prod.mk.injEq] at executed
  refine ⟨executed.1.symm, read_world _ _ _ fun after _ same => ?_, rfl⟩
  rw [reads, Except.ok.injEq, Prod.mk.injEq] at same
  exact same.2.symm

def Steady (run : Run) : Prop := ∀ n, (run.ticks n).outage = .none

theorem steady_after (run : Run) (steady : Steady run) (statement : Statement) :
    Steady (run.after perform statement) := fun n => steady (n + 1)

theorem steady_exec {α : Type} (program : Handler α) (run : Run) (steady : Steady run) :
    Steady (exec perform program run).2 := by
  obtain ⟨spent, moves⟩ := finish_clock perform (program run.tick) run
  intro n
  rw [show (exec perform program run).2.ticks n = run.clock (n + 1 + spent) from moves (n + 1),
    show n + 1 + spent = n + spent + 1 by omega]
  exact steady _

/-! Programs that never answer with tokens. -/
section Plain

def Plain (program : Handler Response) : Prop :=
  ∀ run response access refresh, (exec perform program run).1 = .ok response →
    response.body ≠ .tokens access refresh

theorem plain_pure (response : Response)
    (plain : ∀ access refresh, response.body ≠ .tokens access refresh) : Plain (pure response) := by
  intro run other access refresh answered
  obtain rfl := Except.ok.inj answered
  exact plain access refresh

theorem plain_bind {α : Type} (program : Handler α) (next : α → Handler Response)
    (plain : ∀ value, Plain (next value)) : Plain (program >>= next) := by
  intro run response access refresh answered
  obtain ⟨middle, -, answered, -⟩ := exec_bind_ok perform program next run response answered
  exact plain middle _ response access refresh answered

theorem plain_ite (condition : Prop) [Decidable condition] (yes no : Handler Response)
    (first : Plain yes) (second : Plain no) : Plain (if condition then yes else no) := by
  split
  · exact first
  · exact second

theorem plain_catch (program : Handler Response) (rescue : DbError → Handler Response)
    (first : Plain program) (second : ∀ error, Plain (rescue error)) :
    Plain (tryCatch program rescue) := by
  intro run response access refresh answered
  rcases exec_catch_ok perform program rescue run response answered with done | ⟨error, last, done⟩
  · exact first run response access refresh done
  · exact second error last response access refresh done

theorem send_plain (body : OtpRequest) : Plain (requestOTP body) := by
  refine plain_bind _ _ fun recentOTP => plain_bind _ _ fun threshold => ?_
  refine plain_ite _ _ _ (plain_pure _ (by simp [res.otpRateLimited, res.err])) ?_
  refine plain_bind _ _ fun existingAuth => plain_bind _ _ fun userExists => ?_
  refine plain_ite _ _ _ (plain_pure _ (by simp [res.ok])) ?_
  refine plain_ite _ _ _ (plain_pure _ (by simp [res.userExists, res.err])) ?_
  refine plain_bind _ _ fun otpCode => plain_bind _ _ fun expiresAt => ?_
  refine plain_bind _ _ fun createdAt => plain_catch _ _ ?_ fun error => ?_
  · refine plain_bind _ _ fun _ => plain_bind _ _ fun _ => plain_pure _ (by simp [res.ok])
  · exact plain_pure _ (by simp [res.databaseError, res.err])

theorem logout_plain (body : LogoutRequest) : Plain (logout body) := by
  refine plain_bind _ _ fun found => ?_
  cases found with
  | none => exact plain_pure _ (by simp [res.unauthorized, res.err])
  | some token =>
      refine plain_ite _ _ _ (plain_pure _ (by simp [res.unauthorized, res.err])) ?_
      exact plain_bind _ _ fun revokedAt => plain_bind _ _ fun _ => plain_pure _ (by simp [res.ok])

theorem otp_error_plain (errorCode : OtpErrorCode) (error : String) (access : AccessToken)
    (refresh : String) : (handleOtpError errorCode error).body ≠ .tokens access refresh := by
  cases errorCode <;>
    simp [handleOtpError, res.unauthorized, res.expiredOtp, res.tooManyOtpAttempts, res.invalidOtp,
      res.err]

theorem conflict_plain (provider : OAuthProvider) (holder : Option Auth) (refusal : Response)
    (refuses : emailConflict provider holder = some refusal) (access : AccessToken)
    (refresh : String) : refusal.body ≠ .tokens access refresh := by
  cases holder with
  | none => cases refuses
  | some row =>
      simp only [emailConflict] at refuses
      split at refuses
      · obtain rfl := Option.some.inj refuses
        simp [res.conflict, res.err]
      · cases refuses

end Plain

/-- Only jobs wait in the queue. -/
def JobsQueued (queue : List Request) : Prop := ∀ request ∈ queue, ∃ job, request = .background job

theorem jobs_queued (env : Env)
    (state : Serial.State Request Statement DbError Tick Db (Option Response))
    (caller : Option Nat) (request : Request) (tick : Tick) (ticks : Nat → Tick)
    (jobs : JobsQueued state.queue) :
    JobsQueued (serve (server env) state caller request tick ticks).queue := by
  intro waiting member
  rcases List.mem_append.mp member with old | new
  · exact jobs waiting old
  · obtain ⟨event, -, spawns⟩ := List.mem_flatMap.mp new
    simp only [server, spawned] at spawns
    split at spawns
    · exact ⟨_, List.mem_singleton.mp spawns⟩
    · exact absurd spawns List.not_mem_nil

/-! Requests served one after another. -/
section Serving

abbrev Served : Type := Serial.Served Request Statement DbError Tick Db (Option Response)
abbrev State : Type := Serial.State Request Statement DbError Tick Db (Option Response)
abbrev Turn : Type := Serial.Turn Request Tick

def Reliable (turn : Turn) : Prop := ∀ n, (turn.clock n).outage = .none

def Served.readAt (record : Served) : Time := (record.clock 1).now

section Records
variable (env : Env)

def recordOf (state : State) (caller : Option Nat) (request : Request) (tick : Tick)
    (ticks : Nat → Tick) : Served :=
  let outcome := exec perform (handler env request) { world := state.world, tick, ticks, log := [] }
  { caller, request, tick, ticks, before := state.world, result := outcome.1,
    log := outcome.2.log }

theorem serve_served (state : State) (caller : Option Nat) (request : Request) (tick : Tick)
    (ticks : Nat → Tick) :
    (serve (server env) state caller request tick ticks).served =
      recordOf env state caller request tick ticks :: state.served := rfl

theorem serve_world (state : State) (caller : Option Nat) (request : Request) (tick : Tick)
    (ticks : Nat → Tick) :
    (serve (server env) state caller request tick ticks).world =
      (exec perform (handler env request)
        (recordOf env state caller request tick ticks).opening).2.world := rfl

theorem record_map {Answer : Type} (state : State) (caller : Option Nat) (request : Request)
    (tick : Tick) (ticks : Nat → Tick) (change : Answer → Option Response)
    (program : Handler Answer) (wraps : handler env request = change <$> program) :
    let outcome := exec perform program (recordOf env state caller request tick ticks).opening
    (recordOf env state caller request tick ticks).result = outcome.1.map change ∧
      (recordOf env state caller request tick ticks).log = outcome.2.log ∧
      (serve (server env) state caller request tick ticks).world = outcome.2.world := by
  have same := exec_map perform change program
    (recordOf env state caller request tick ticks).opening
  rw [← wraps] at same
  exact ⟨congrArg Prod.fst same, congrArg (fun outcome => outcome.2.log) same,
    congrArg (fun outcome => outcome.2.world) same⟩

end Records

/-! Requests that each happen at one instant. -/

structure Visit where
  caller : Nat
  request : Request
  present : Time
  draw : String

def Visit.turn (visit : Visit) : Turn :=
  .visit visit.caller visit.request (tickAt visit.present visit.draw)
    fun _ => tickAt visit.present visit.draw

theorem Visit.clock_turn (visit : Visit) (n : Nat) :
    visit.turn.clock n = tickAt visit.present visit.draw := by
  cases n <;> rfl

end Serving

end TopInspect.AuthExecution
