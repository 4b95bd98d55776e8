import TopInspect.OtpServing
import TopInspect.SessionServing

/-! Handlers served alone while the database answers every statement. A statement
then does what it executes, so a handler is walked through statement by
statement; its building blocks (the check of a code, the tokens, the account)
are walked through once. -/
namespace TopInspect.SteadyServing

open Resumption AuthSchema AuthStatements AuthHandlers AUTH_CONFIG AuthExecution OtpVerification
open OtpServing SessionServing RowTable
open Serial hiding Run Served State Turn

def moved (run : Run) (statement : Statement) (world : Db) : Run :=
  { run.after perform statement with world }

@[simp] theorem moved_world (run : Run) (statement : Statement) (world : Db) :
    (moved run statement world).world = world := rfl

@[simp] theorem moved_tick (run : Run) (statement : Statement) (world : Db) :
    (moved run statement world).tick = run.ticks 0 := rfl

@[simp] theorem moved_ticks (run : Run) (statement : Statement) (world : Db) (n : Nat) :
    (moved run statement world).ticks n = run.ticks (n + 1) := rfl

@[simp] theorem moved_clock (run : Run) (statement : Statement) (world : Db) (n : Nat) :
    (moved run statement world).clock n = run.clock (n + 1) := by
  cases n <;> rfl

@[simp] theorem moved_log (run : Run) (statement : Statement) (world : Db) :
    (moved run statement world).log = run.log ++ [⟨statement, run.ticks 0, run.world⟩] := rfl

theorem after_moved (run : Run) (statement : Statement) (world : Db)
    (effect : (perform (run.ticks 0) statement run.world).2 = world) :
    run.after perform statement = moved run statement world := by
  simp [moved, Run.after, effect]

theorem steady_moved (run : Run) (steady : Steady run) (statement : Statement) (world : Db) :
    Steady (moved run statement world) := fun n => steady (n + 1)

section Statements
variable {α : Type} {run : Run} {post : Except DbError α → Run → Prop}

theorem ends_step (steady : Steady run) (statement : Statement)
    (next : statement.Answer → Handler α) (answer : statement.Answer) (after : Db)
    (executed : execute (run.ticks 0) statement run.world = .ok (answer, after))
    (rest : Ends perform (next answer) (moved run statement after) post) :
    Ends perform (call statement >>= next) run post := by
  have performed :=
    perform_steady (run.ticks 0) statement run.world after answer (steady 0) executed
  apply ends_bind
  unfold Ends
  rw [exec_call, performed, after_moved run statement after (congrArg Prod.snd performed)]
  exact rest

theorem ends_reading {β : Type} (program : Handler β) (read : Tick → β)
    (reads : ∀ tick, program tick = .done (read tick)) (next : β → Handler α)
    (rest : Ends perform (next (read run.tick)) run post) :
    Ends perform (program >>= next) run post := by
  apply ends_bind
  unfold Ends exec
  rw [reads]
  exact rest

theorem ends_refused (steady : Steady run) (statement : Statement)
    (next : statement.Answer → Handler α) (error : DbError)
    (executed : execute (run.ticks 0) statement run.world = .error error)
    (rest : post (.error error) (moved run statement run.world)) :
    Ends perform (call statement >>= next) run post := by
  have performed := perform_throws (run.ticks 0) statement run.world error (steady 0) executed
  apply ends_bind
  unfold Ends
  rw [exec_call, performed, after_moved run statement run.world (congrArg Prod.snd performed)]
  exact rest

end Statements

def Cleans : Statement → Prop
  | .waitUntil (.deleteAuth _) => True
  | _ => False

def Quiet (run last : Run) : Prop :=
  ∃ history, last.log = run.log ++ history ∧ ∀ event ∈ history, ¬ Cleans event.query

theorem Quiet.trans {first middle last : Run} (left : Quiet first middle)
    (right : Quiet middle last) : Quiet first last := by
  obtain ⟨history, grows, quiet⟩ := left
  obtain ⟨more, grows', quiet'⟩ := right
  refine ⟨history ++ more, by rw [grows', grows, List.append_assoc], ?_⟩
  intro event member
  rcases List.mem_append.mp member with old | new
  · exact quiet event old
  · exact quiet' event new

/-- Where an undisturbed run stands some statements later. -/
structure Onward (run : Run) (spent : Nat) (last : Run) : Prop where
  steady : Steady last
  clock : ∀ n, last.clock n = run.clock (n + spent)
  quiet : Quiet run last

theorem onward_refl (run : Run) (steady : Steady run) : Onward run 0 run := by
  constructor
  · exact steady
  · exact fun _ => rfl
  · exact ⟨[], by simp, by simp⟩

theorem Onward.moves {first run : Run} {spent : Nat} (onward : Onward first spent run)
    (statement : Statement) (world : Db) (harmless : ¬ Cleans statement) :
    Onward first (spent + 1) (moved run statement world) := by
  constructor
  · exact steady_moved run onward.steady statement world
  · intro n
    rw [moved_clock, onward.clock, Nat.add_assoc n 1 spent, Nat.add_comm 1 spent]
  · apply onward.quiet.trans
    refine ⟨[⟨statement, run.ticks 0, run.world⟩], moved_log run statement world, ?_⟩
    intro event member
    obtain rfl := List.mem_singleton.mp member
    exact harmless

theorem Onward.trans {first middle last : Run} {early late : Nat}
    (left : Onward first early middle) (right : Onward middle late last) :
    Onward first (late + early) last := by
  constructor
  · exact right.steady
  · intro n
    rw [right.clock, left.clock, Nat.add_assoc]
  · exact left.quiet.trans right.quiet

structure SameTables (left right : Db) : Prop where
  auth : left.auth = right.auth
  users : left.users = right.users
  tokens : left.tokens = right.tokens

def resultOf : Verdict → OtpVerificationResult
  | .missing => .failure .OTP_NOT_FOUND "No OTP found for this phone number"
  | .expired => .failure .OTP_EXPIRED "OTP has expired"
  | .exhausted =>
      .failure .OTP_MAX_ATTEMPTS "Too many failed attempts. Please request a new OTP."
  | .wrong newAttempts =>
      if OTP_MAX_ATTEMPTS ≤ newAttempts then
        .failure .OTP_MAX_ATTEMPTS "Too many failed attempts. Please request a new OTP."
      else .failure .OTP_INVALID "Invalid OTP! Please check and try again."
  | .right => .success

theorem SameTables.refl (db : Db) : SameTables db db := ⟨rfl, rfl, rfl⟩

/-- What a verdict leaves behind: its phone's row, and everything else as it was. -/
structure Judged (phone : String) (verdict : Verdict) (before after : Db) : Prop where
  tables : SameTables after before
  otps : ∀ other, after.findOtp other =
    if other = phone then rowAfter (before.findOtp phone) verdict else before.findOtp other

theorem judged_delete (db : Db) (phone : String) (verdict : Verdict)
    (drops : rowAfter (db.findOtp phone) verdict = none) :
    Judged phone verdict db (db.deleteOtp phone) := by
  constructor
  · exact ⟨rfl, rfl, rfl⟩
  · intro other
    rw [db.delete_otp phone other, drops]

section Verification
variable {α : Type} {run : Run} {post : Except DbError α → Run → Prop}

theorem ends_drop (steady : Steady run) (phone : String) (result : OtpVerificationResult)
    (next : OtpVerificationResult → Handler α)
    (rest : Ends perform (next result) (moved run (.deleteOtp phone) (run.world.deleteOtp phone))
      post) :
    Ends perform (dropRow phone result >>= next) run post := by
  unfold dropRow
  rw [bind_assoc]
  exact ends_step steady (.deleteOtp phone) _ _ _ rfl rest

theorem ends_conclude (steady : Steady run) (phone : String) (verdict : Verdict)
    (next : OtpVerificationResult → Handler α)
    (rest : ∀ last spent, Onward run spent last → Judged phone verdict run.world last.world →
      (verdict = .right → spent = 1) → Ends perform (next (resultOf verdict)) last post) :
    Ends perform (conclude phone verdict >>= next) run post := by
  -- Three of the verdicts drop the row, and a right code spends one tick in doing so.
  have drops : rowAfter (run.world.findOtp phone) verdict = none →
      Ends perform (next (resultOf verdict))
        (moved run (.deleteOtp phone) (run.world.deleteOtp phone)) post := fun gone =>
    rest _ 1 ((onward_refl run steady).moves _ _ not_false)
      (judged_delete run.world phone verdict gone)
      fun _ => rfl
  cases verdict with
  | missing =>
      apply rest run 0 (onward_refl run steady) _ (by simp)
      constructor
      · exact .refl _
      · intro other
        by_cases same : other = phone <;> simp [same, rowAfter]
  | expired => exact ends_drop steady phone _ next (drops rfl)
  | exhausted => exact ends_drop steady phone _ next (drops rfl)
  | right => exact ends_drop steady phone _ next (drops rfl)
  | wrong newAttempts =>
      obtain ⟨after, updated, auth, users, tokens, lookup⟩ :=
        run.world.update_otp_attempts phone newAttempts
      have counted := (onward_refl run steady).moves (.updateOtpAttempts phone newAttempts) after
        not_false
      unfold conclude
      rw [bind_assoc]
      apply ends_step steady (.updateOtpAttempts phone newAttempts) _ _ after
        (by simp only [execute, updated, Except.map]; rfl)
      by_cases spent : OTP_MAX_ATTEMPTS ≤ newAttempts
      · simp only [spent, if_true]
        apply ends_drop (steady_moved run steady _ _)
        have gone := rest _ _ (counted.moves (.deleteOtp phone) (after.deleteOtp phone) not_false)
        simp only [resultOf, spent, if_true] at gone
        apply gone
        · constructor
          · exact ⟨auth, users, tokens⟩
          · intro other
            rw [moved_world, after.delete_otp phone other]
            by_cases same : other = phone
            · simp [same, rowAfter, spent]
            · simp [same, lookup other]
        · simp
      · simp only [spent, if_false]
        have kept := rest _ _ counted
        simp only [resultOf, spent, if_false] at kept
        apply kept
        · constructor
          · exact ⟨auth, users, tokens⟩
          · intro other
            rw [moved_world, lookup other]
            by_cases same : other = phone <;> simp [same, rowAfter, spent]
        · simp

theorem ends_verify (steady : Steady run) (phone code : String)
    (next : OtpVerificationResult → Handler α)
    (rest : ∀ last spent, Onward run spent last →
      Judged phone (judge code (run.ticks 0).now (run.world.findOtp phone)) run.world last.world →
      (judge code (run.ticks 0).now (run.world.findOtp phone) = .right → spent = 2) →
      Ends perform (next (resultOf (judge code (run.ticks 0).now (run.world.findOtp phone))))
      last post) :
    Ends perform (verifyOTPCode phone code >>= next) run post := by
  have read := (onward_refl run steady).moves (.selectOtp phone) run.world not_false
  rw [verify_judges, bind_assoc]
  apply ends_step steady (.selectOtp phone) _ (run.world.findOtp phone) run.world rfl
  rw [bind_assoc]
  apply ends_conclude read.steady
  intro last spent onward judged exact_
  apply rest last _ (read.trans onward) judged
  intro right
  rw [exact_ right]

end Verification

def sessionRow (run : Run) (authId : String) (deviceInfo : Option DeviceInfo) : Token :=
  newToken (run.ticks 0) run.tick.id authId run.tick.refreshToken
    (run.tick.now + days REFRESH_TOKEN_EXPIRY_DAYS) deviceInfo

structure Signed (row : Token) (before after : Db) : Prop where
  tokens : after.tokens.rows = before.tokens.rows ++ [row]
  auth : after.auth = before.auth
  users : after.users = before.users
  otps : after.otps = before.otps

structure Opened (row : Auth) (user : User) (before after : Db) : Prop where
  auth : after.auth.rows = before.auth.rows ++ [row]
  users : after.users.rows = before.users.rows ++ [user]
  otps : after.otps = before.otps
  tokens : after.tokens = before.tokens

section Accounts
variable {α : Type} {run : Run} {post : Except DbError α → Run → Prop}

theorem ends_issue (steady : Steady run) (authId : String) (deviceInfo : Option DeviceInfo)
    (next : AccessToken × String → Handler α)
    (refused : ∀ error, run.world.insertToken (sessionRow run authId deviceInfo) = .error error →
      post (.error error) (moved run (issueRow authId deviceInfo run.tick) run.world))
    (rest : ∀ after, run.world.insertToken (sessionRow run authId deviceInfo) = .ok after →
      Ends perform (next (accessFor authId run.tick.now, run.tick.refreshToken))
        (moved run (issueRow authId deviceInfo run.tick) after) post) :
    Ends perform (issueTokens authId deviceInfo >>= next) run post := by
  show Ends perform ((call (issueRow authId deviceInfo run.tick) >>= fun _ =>
    pure (accessFor authId run.tick.now, run.tick.refreshToken)) >>= next) run post
  rw [bind_assoc]
  cases executed : run.world.insertToken (sessionRow run authId deviceInfo) with
  | error error =>
      have throws : execute (run.ticks 0) (issueRow authId deviceInfo run.tick) run.world =
          .error error := by
        rw [sessionRow] at executed
        simp only [issueRow, execute, executed, Except.map]
      exact ends_refused steady _ _ error throws (refused error executed)
  | ok after =>
      have answers : execute (run.ticks 0) (issueRow authId deviceInfo run.tick) run.world =
          .ok ((), after) := by
        rw [sessionRow] at executed
        simp only [issueRow, execute, executed, Except.map]
      exact ends_step steady _ _ () after answers (rest after executed)

theorem ends_session (steady : Steady run) (authId : String) (deviceInfo : Option DeviceInfo)
    (next : AccessToken × String → Handler α)
    (free : ∀ row ∈ run.world.tokens.rows,
      row.id ≠ run.tick.id ∧ row.token ≠ run.tick.refreshToken)
    (owned : ∃ owner ∈ run.world.auth.rows, owner.id = authId)
    (rest : ∀ last : Run, Onward run 1 last →
      Signed (sessionRow run authId deviceInfo) run.world last.world →
      Ends perform (next (accessFor authId run.tick.now, run.tick.refreshToken)) last post) :
    Ends perform (issueTokens authId deviceInfo >>= next) run post := by
  obtain ⟨after, stored⟩ := run.world.insert_token_ok (sessionRow run authId deviceInfo)
    (fun old member clash => clash.elim (free old member).1 (free old member).2) owned
  apply ends_issue steady
  · intro error refused
    rw [stored] at refused
    cases refused
  · intro after inserted
    obtain ⟨tokens, auth, users, otps⟩ := run.world.insert_token after _ inserted
    exact rest _ ((onward_refl run steady).moves _ _ not_false) ⟨tokens, auth, users, otps⟩

/-- A created account has its profile: its key is free because its row is new. -/
theorem ends_create (steady : Steady run) (row : Auth) (name : String) (gender : Gender)
    (birthYear : Int) (next : Auth → Handler α)
    (refused : ∀ error, run.world.insertAuth row = .error error →
      post (.error error) (moved run (.insertAuth row) run.world))
    (rest : ∀ last : Run, Onward run 2 last →
      (∀ old ∈ run.world.auth.rows, ¬ Auth.Clash old row) →
      Opened row { id := row.id, name, gender, birthYear } run.world last.world →
      Ends perform (next row) last post) :
    Ends perform (insertAuth row >>= fun newAuth =>
      createProfile newAuth name gender birthYear >>= fun _ => next newAuth) run post := by
  cases executed : run.world.insertAuth row with
  | error error =>
      apply ends_refused steady (.insertAuth row) _ error
      · simp only [execute, executed, Except.map]
      · exact refused error executed
  | ok middle =>
      obtain ⟨auth, users, otps, tokens⟩ := run.world.insert_auth middle row executed
      obtain ⟨after, stored⟩ := run.world.insert_user_ok middle row
        { id := row.id, name, gender, birthYear } executed rfl
      obtain ⟨added, same, kept, others⟩ := middle.insert_user after _ stored
      apply ends_step steady (.insertAuth row) _ row middle
        (by simp only [execute, executed, Except.map])
      have onward := (onward_refl run steady).moves (.insertAuth row) middle not_false
      have profile := perform_steady (run.ticks 1)
        (.insertUser { id := row.id, name, gender, birthYear }) middle after () (steady 1)
        (by simp only [execute, stored, Except.map])
      apply ends_bind
      apply ends_catch
      unfold Ends
      rw [insertUser, exec_call, after_moved _ _ after (congrArg Prod.snd profile)]
      simp only [moved_world, moved_ticks, profile]
      apply rest
      · exact onward.moves _ after not_false
      · exact run.world.insert_auth_apart middle row executed
      · exact ⟨same ▸ auth, by rw [moved_world, added, users], kept.trans otps, others.trans tokens⟩

end Accounts
end TopInspect.SteadyServing
