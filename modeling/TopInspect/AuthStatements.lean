import TopInspect.Resumption
import TopInspect.AuthSchema

/-! The statements the auth handlers await, one constructor for each query text
of handlers.ts, and what the database does with them. `waitUntil` is listed with
them: it hands a job to the runtime and answers at once. -/
namespace TopInspect.AuthStatements

open Resumption RowTable AuthSchema

structure WelcomeEmail where
  appName : String
  username : String
  dashboardUrl : String
  supportUrl : String
  deriving DecidableEq

inductive Job where
  | deleteAuth (id : String)
  | sendOTP (phone otp : String)
  | sendEmail (recipient subject : String) (template : WelcomeEmail)
  deriving DecidableEq

/-- How a statement can fail to answer: the database never saw it, or it took
effect and the answer was lost. -/
inductive Outage where
  | none
  | refused
  | lost
  deriving DecidableEq

/-- What surrounds one synchronous segment: how the statement it resumes from
fared, the database clock at that statement, the clock of the segment and the
values its generators draw. -/
structure Tick where
  outage : Outage
  dbNow : Time
  now : Time
  otpCode : String
  refreshToken : String
  id : String

inductive Statement where
  | selectOtp (phone : String)
  | upsertOtp (row : Otp)
  | updateOtpAttempts (phone : String) (attempts : Nat)
  | deleteOtp (phone : String)
  | selectAuth (provider : Provider) (identifier : String)
  | selectAuthById (id : String)
  | selectAuthByEmail (email : String)
  | insertAuth (row : Auth)
  | updateAuthEmail (id email : String)
  | deleteAuth (id : String)
  | selectUser (id : String)
  | insertUser (row : User)
  | selectToken (token : String)
  | insertToken (id authId token : String) (expiresAt : Time) (deviceInfo : Option DeviceInfo)
  | rotateToken (token newToken : String) (expiresAt lastUsedAt : Time)
  | revokeToken (token : String) (revokedAt : Time)
  | waitUntil (job : Job)
  deriving DecidableEq

/-- Updates and deletes answer their affected-row count. -/
abbrev Statement.Answer : Statement → Type
  | .selectOtp _ => Option Otp
  | .upsertOtp _ => Unit
  | .updateOtpAttempts _ _ => Nat
  | .deleteOtp _ => Nat
  | .selectAuth _ _ => Option Auth
  | .selectAuthById _ => Option Auth
  | .selectAuthByEmail _ => Option Auth
  | .insertAuth _ => Auth
  | .updateAuthEmail _ _ => Nat
  | .deleteAuth _ => Nat
  | .selectUser _ => Option User
  | .insertUser _ => Unit
  | .selectToken _ => Option Token
  | .insertToken _ _ _ _ _ => Unit
  | .rotateToken _ _ _ _ => Nat
  | .revokeToken _ _ => Nat
  | .waitUntil _ => Unit

-- `tokens.lastUsedAt` and `tokens.revokedAt` default to now() and null.
def newToken (tick : Tick) (id authId token : String) (expiresAt : Time)
    (deviceInfo : Option DeviceInfo) : Token :=
  { id, authId, token, deviceInfo, expiresAt, revokedAt := none, lastUsedAt := tick.dbNow }

def execute (tick : Tick) :
    (statement : Statement) → Db → Except DbError (statement.Answer × Db)
  | .selectOtp phone, db => .ok (db.findOtp phone, db)
  | .upsertOtp row, db => (db.upsertOtp row).map fun after => ((), after)
  | .updateOtpAttempts phone attempts, db =>
      (db.updateOtpAttempts phone attempts).map fun after =>
        (db.otps.count fun otp => otp.phone = phone, after)
  | .deleteOtp phone, db => .ok (db.otps.count fun otp => otp.phone = phone, db.deleteOtp phone)
  | .selectAuth provider identifier, db => .ok (db.findAuth provider identifier, db)
  | .selectAuthById id, db => .ok (db.findAuthById id, db)
  | .selectAuthByEmail email, db => .ok (db.findAuthByEmail email, db)
  | .insertAuth row, db => (db.insertAuth row).map fun after => (row, after)
  | .updateAuthEmail id email, db =>
      (db.updateAuthEmail id email).map fun after => (db.auth.count fun row => row.id = id, after)
  | .deleteAuth id, db => .ok (db.auth.count fun row => row.id = id, db.deleteAuth id)
  | .selectUser id, db => .ok (db.findUser id, db)
  | .insertUser row, db => (db.insertUser row).map fun after => ((), after)
  | .selectToken token, db => .ok (db.findToken token, db)
  | .insertToken id authId token expiresAt deviceInfo, db =>
      (db.insertToken (newToken tick id authId token expiresAt deviceInfo)).map
        fun after => ((), after)
  | .rotateToken token newToken expiresAt lastUsedAt, db =>
      (db.rotateToken token newToken expiresAt lastUsedAt).map fun after =>
        (db.tokens.count fun row => row.token = token, after)
  | .revokeToken token revokedAt, db =>
      (db.revokeToken token revokedAt).map fun after =>
        (db.tokens.count fun row => row.token = token, after)
  | .waitUntil _, db => .ok ((), db)

-- Handing a job over reaches no server, so no outage touches it.
def Tick.fate (tick : Tick) : Statement → Outage
  | .waitUntil _ => .none
  | _ => tick.outage

def perform : Perform Statement Statement.Answer DbError Tick Db := fun tick statement db =>
  match tick.fate statement, execute tick statement db with
  | .refused, _ => (.error .unavailable, db)
  | _, .error error => (.error error, db)
  | .lost, .ok (_, after) => (.error .unavailable, after)
  | .none, .ok (answer, after) => (.ok answer, after)

abbrev Step : Type := Event Statement Tick Db

theorem perform_ok (tick : Tick) (statement : Statement) (db : Db) (answer : statement.Answer)
    (answered : (perform tick statement db).1 = .ok answer) :
    execute tick statement db = .ok (answer, (perform tick statement db).2) := by
  unfold perform at answered ⊢
  rcases executed : execute tick statement db with error | ⟨value, after⟩ <;>
    cases fate : tick.fate statement <;> simp_all

theorem answered_steady (tick : Tick) (statement : Statement) (db : Db)
    (answer : statement.Answer) (remote : ∀ job, statement ≠ .waitUntil job)
    (answered : (perform tick statement db).1 = .ok answer) : tick.outage = .none := by
  have fate : tick.fate statement = tick.outage := by
    cases statement with
    | waitUntil job => exact absurd rfl (remote job)
    | _ => rfl
  unfold perform at answered
  rw [fate] at answered
  cases outage : tick.outage with
  | none => rfl
  | refused => simp [outage] at answered
  | lost => rcases executed : execute tick statement db with error | value <;>
      simp [outage, executed] at answered

/-- A statement leaves the database as it was or takes effect, answered or not. -/
theorem perform_effect (tick : Tick) (statement : Statement) (db : Db) :
    (perform tick statement db).2 = db ∨
      ∃ answer, execute tick statement db = .ok (answer, (perform tick statement db).2) := by
  unfold perform
  rcases executed : execute tick statement db with error | ⟨answer, after⟩ <;>
    cases tick.fate statement <;> simp

/-- The statement has been carried out; its answer may have been lost. -/
def Carried (tick : Tick) (statement : Statement) (db : Db) : Prop :=
  tick.fate statement ≠ .refused ∧ ∃ answer after, execute tick statement db = .ok (answer, after)

theorem perform_carried (tick : Tick) (statement : Statement) (db : Db) :
    (perform tick statement db).2 = db ∨ Carried tick statement db ∧
      ∃ answer, execute tick statement db = .ok (answer, (perform tick statement db).2) := by
  unfold perform Carried
  rcases executed : execute tick statement db with error | ⟨answer, after⟩ <;>
    cases tick.fate statement <;> simp

theorem answered_carried (tick : Tick) (statement : Statement) (db : Db) (answer : statement.Answer)
    (answered : (perform tick statement db).1 = .ok answer) : Carried tick statement db := by
  refine ⟨fun refused => ?_, answer, _, perform_ok tick statement db answer answered⟩
  simp [perform, refused] at answered

theorem perform_steady (tick : Tick) (statement : Statement) (db after : Db)
    (answer : statement.Answer) (steady : tick.outage = .none)
    (executed : execute tick statement db = .ok (answer, after)) :
    perform tick statement db = (.ok answer, after) := by
  have fate : tick.fate statement = .none := by
    cases statement <;> simp [Tick.fate, steady]
  unfold perform
  rw [fate, executed]

theorem perform_throws (tick : Tick) (statement : Statement) (db : Db) (error : DbError)
    (steady : tick.outage = .none) (executed : execute tick statement db = .error error) :
    perform tick statement db = (.error error, db) := by
  have fate : tick.fate statement = .none := by
    cases statement <;> simp [Tick.fate, steady]
  unfold perform
  rw [fate, executed]

theorem map_ok {α β : Type} (result : Except DbError α) (change : α → β) (value : β) :
    result.map change = .ok value ↔ ∃ source, result = .ok source ∧ change source = value := by
  cases result <;> simp [Except.map]

/-! Which statements can change which table. -/

def WritesOtps : Statement → Prop
  | .upsertOtp _ => True
  | .updateOtpAttempts _ _ => True
  | .deleteOtp _ => True
  | _ => False

/-- What a statement that takes effect makes of the row of one phone. -/
def otpAfter (phone : String) : Statement → Option Otp → Option Otp
  | .upsertOtp row, stored => if phone = row.phone then some row else stored
  | .updateOtpAttempts other attempts, stored =>
      if phone = other then stored.map fun otp => { otp with attempts } else stored
  | .deleteOtp other, stored => if phone = other then none else stored
  | _, stored => stored

def authAfter : Statement → List Auth → List Auth
  | .insertAuth row, rows => rows ++ [row]
  | .updateAuthEmail id email, rows =>
      rows.map (Table.rewrite (fun row => row.id = id) fun row => { row with email := some email })
  | .deleteAuth id, rows => rows.filter fun row => !decide (row.id = id)
  | _, rows => rows

def usersAfter : Statement → List User → List User
  | .insertUser row, rows => rows ++ [row]
  | .deleteAuth id, rows => rows.filter fun user => !decide (user.id = id)
  | _, rows => rows

def tokensAfter (tick : Tick) : Statement → List Token → List Token
  | .insertToken id authId token expiresAt deviceInfo, rows =>
      rows ++ [newToken tick id authId token expiresAt deviceInfo]
  | .rotateToken token newToken expiresAt lastUsedAt, rows =>
      rows.map (Table.rewrite (fun row => row.token = token) fun row =>
        { row with token := newToken, expiresAt, lastUsedAt })
  | .revokeToken token revokedAt, rows =>
      rows.map (Table.rewrite (fun row => row.token = token) fun row =>
        { row with revokedAt := some revokedAt })
  | .deleteAuth id, rows => rows.filter fun row => !decide (row.authId = id)
  | _, rows => rows

theorem otp_after_other (phone : String) (statement : Statement) (stored : Option Otp)
    (other : ¬ WritesOtps statement) : otpAfter phone statement stored = stored := by
  cases statement <;> simp_all [WritesOtps, otpAfter]

theorem execute_otp (tick : Tick) (statement : Statement) (db after : Db)
    (answer : statement.Answer) (executed : execute tick statement db = .ok (answer, after))
    (phone : String) :
    after.findOtp phone = otpAfter phone statement (db.findOtp phone) := by
  cases statement with
  | upsertOtp row =>
      obtain ⟨stored, upserted, -, -, -, lookup⟩ := db.upsert_otp row
      obtain ⟨source, written, same⟩ := (map_ok _ _ _).mp executed
      obtain rfl : stored = source := by simpa [upserted] using written
      cases same
      exact lookup phone
  | updateOtpAttempts other attempts =>
      obtain ⟨stored, updated, -, -, -, lookup⟩ := db.update_otp_attempts other attempts
      obtain ⟨source, written, same⟩ := (map_ok _ _ _).mp executed
      obtain rfl : stored = source := by simpa [updated] using written
      cases same
      exact lookup phone
  | deleteOtp other =>
      cases executed
      exact db.delete_otp other phone
  | insertAuth row =>
      obtain ⟨source, inserted, same⟩ := (map_ok _ _ _).mp executed
      cases same
      simp only [Db.findOtp, otpAfter, (db.insert_auth after row inserted).2.2.1]
  | updateAuthEmail id email =>
      obtain ⟨source, updated, same⟩ := (map_ok _ _ _).mp executed
      cases same
      simp only [Db.findOtp, otpAfter, (db.update_auth_email after id email updated).2.2.1]
  | insertUser row =>
      obtain ⟨source, inserted, same⟩ := (map_ok _ _ _).mp executed
      cases same
      simp only [Db.findOtp, otpAfter, (db.insert_user after row inserted).2.2.1]
  | insertToken id authId token expiresAt deviceInfo =>
      obtain ⟨source, inserted, same⟩ := (map_ok _ _ _).mp executed
      cases same
      simp only [Db.findOtp, otpAfter, (db.insert_token after _ inserted).2.2.2]
  | rotateToken token newToken expiresAt lastUsedAt =>
      obtain ⟨source, rotated, same⟩ := (map_ok _ _ _).mp executed
      cases same
      simp only [Db.findOtp, otpAfter, (db.amend_tokens after _ _ _ rotated).2.2.2]
  | revokeToken token revokedAt =>
      obtain ⟨source, revoked, same⟩ := (map_ok _ _ _).mp executed
      cases same
      simp only [Db.findOtp, otpAfter, (db.amend_tokens after _ _ _ revoked).2.2.2]
  | selectOtp phone => cases executed; rfl
  | selectAuth provider identifier => cases executed; rfl
  | selectAuthById id => cases executed; rfl
  | selectAuthByEmail email => cases executed; rfl
  | deleteAuth id => cases executed; rfl
  | selectUser id => cases executed; rfl
  | selectToken token => cases executed; rfl
  | waitUntil job => cases executed; rfl

structure RowsAfter (tick : Tick) (statement : Statement) (db after : Db) : Prop where
  auth : after.auth.rows = authAfter statement db.auth.rows
  users : after.users.rows = usersAfter statement db.users.rows
  tokens : after.tokens.rows = tokensAfter tick statement db.tokens.rows

theorem execute_rows (tick : Tick) (statement : Statement) (db after : Db)
    (answer : statement.Answer) (executed : execute tick statement db = .ok (answer, after)) :
    RowsAfter tick statement db after := by
  cases statement with
  | insertAuth row =>
      obtain ⟨source, inserted, same⟩ := (map_ok _ _ _).mp executed
      cases same
      obtain ⟨auth, users, -, tokens⟩ := db.insert_auth after row inserted
      exact ⟨auth, congrArg Table.rows users, congrArg Table.rows tokens⟩
  | updateAuthEmail id email =>
      obtain ⟨source, updated, same⟩ := (map_ok _ _ _).mp executed
      cases same
      obtain ⟨auth, users, -, tokens⟩ := db.update_auth_email after id email updated
      exact ⟨auth, congrArg Table.rows users, congrArg Table.rows tokens⟩
  | insertUser row =>
      obtain ⟨source, inserted, same⟩ := (map_ok _ _ _).mp executed
      cases same
      obtain ⟨users, auth, -, tokens⟩ := db.insert_user after row inserted
      exact ⟨congrArg Table.rows auth, users, congrArg Table.rows tokens⟩
  | insertToken id authId token expiresAt deviceInfo =>
      obtain ⟨source, inserted, same⟩ := (map_ok _ _ _).mp executed
      cases same
      obtain ⟨tokens, auth, users, -⟩ := db.insert_token after _ inserted
      exact ⟨congrArg Table.rows auth, congrArg Table.rows users, tokens⟩
  | rotateToken token newToken expiresAt lastUsedAt =>
      obtain ⟨source, rotated, same⟩ := (map_ok _ _ _).mp executed
      cases same
      obtain ⟨tokens, auth, users, -⟩ := db.amend_tokens after _ _ _ rotated
      exact ⟨congrArg Table.rows auth, congrArg Table.rows users, tokens⟩
  | revokeToken token revokedAt =>
      obtain ⟨source, revoked, same⟩ := (map_ok _ _ _).mp executed
      cases same
      obtain ⟨tokens, auth, users, -⟩ := db.amend_tokens after _ _ _ revoked
      exact ⟨congrArg Table.rows auth, congrArg Table.rows users, tokens⟩
  | upsertOtp row =>
      obtain ⟨stored, upserted, auth, users, tokens, -⟩ := db.upsert_otp row
      obtain ⟨source, written, equal⟩ := (map_ok _ _ _).mp executed
      obtain rfl : stored = source := by simpa [upserted] using written
      cases equal
      exact ⟨congrArg Table.rows auth, congrArg Table.rows users, congrArg Table.rows tokens⟩
  | updateOtpAttempts phone attempts =>
      obtain ⟨stored, updated, auth, users, tokens, -⟩ := db.update_otp_attempts phone attempts
      obtain ⟨source, written, equal⟩ := (map_ok _ _ _).mp executed
      obtain rfl : stored = source := by simpa [updated] using written
      cases equal
      exact ⟨congrArg Table.rows auth, congrArg Table.rows users, congrArg Table.rows tokens⟩
  | deleteAuth id => cases executed; exact ⟨rfl, rfl, rfl⟩
  | deleteOtp phone => cases executed; exact ⟨rfl, rfl, rfl⟩
  | selectOtp phone => cases executed; exact ⟨rfl, rfl, rfl⟩
  | selectAuth provider identifier => cases executed; exact ⟨rfl, rfl, rfl⟩
  | selectAuthById id => cases executed; exact ⟨rfl, rfl, rfl⟩
  | selectAuthByEmail email => cases executed; exact ⟨rfl, rfl, rfl⟩
  | selectUser id => cases executed; exact ⟨rfl, rfl, rfl⟩
  | selectToken token => cases executed; exact ⟨rfl, rfl, rfl⟩
  | waitUntil job => cases executed; exact ⟨rfl, rfl, rfl⟩

theorem execute_tokens (tick : Tick) (statement : Statement) (db after : Db)
    (answer : statement.Answer) (executed : execute tick statement db = .ok (answer, after)) :
    after.tokens.rows = tokensAfter tick statement db.tokens.rows :=
  (execute_rows tick statement db after answer executed).tokens

theorem perform_rows (tick : Tick) (statement : Statement) (db : Db) :
    (perform tick statement db).2 = db ∨
      RowsAfter tick statement db (perform tick statement db).2 := by
  rcases perform_effect tick statement db with same | ⟨answer, executed⟩
  · exact Or.inl same
  · exact Or.inr (execute_rows tick statement db _ answer executed)

theorem perform_tokens (tick : Tick) (statement : Statement) (db : Db) :
    (perform tick statement db).2.tokens.rows = db.tokens.rows ∨
      (perform tick statement db).2.tokens.rows = tokensAfter tick statement db.tokens.rows := by
  rcases perform_effect tick statement db with same | ⟨answer, executed⟩
  · exact Or.inl (by rw [same])
  · exact Or.inr (execute_tokens tick statement db _ answer executed)

theorem perform_otp (tick : Tick) (statement : Statement) (db : Db) (phone : String) :
    (perform tick statement db).2.findOtp phone = db.findOtp phone ∨
      (perform tick statement db).2.findOtp phone =
        otpAfter phone statement (db.findOtp phone) := by
  rcases perform_effect tick statement db with same | ⟨answer, executed⟩
  · exact Or.inl (by rw [same])
  · exact Or.inr (execute_otp tick statement db _ answer executed phone)

theorem perform_otp_other (tick : Tick) (statement : Statement) (db : Db)
    (other : ¬ WritesOtps statement) (phone : String) :
    (perform tick statement db).2.findOtp phone = db.findOtp phone := by
  rcases perform_otp tick statement db phone with same | same
  · exact same
  · rw [same, otp_after_other phone statement _ other]

/-- No constraint refuses a write of the table. -/
theorem execute_writes (tick : Tick) (statement : Statement) (db : Db)
    (writes : WritesOtps statement) :
    ∃ answer after, execute tick statement db = .ok (answer, after) := by
  cases statement with
  | upsertOtp row =>
      obtain ⟨after, upserted, -⟩ := db.upsert_otp row
      exact ⟨(), after, by simp [execute, upserted, Except.map]⟩
  | updateOtpAttempts other attempts =>
      obtain ⟨after, updated, -⟩ := db.update_otp_attempts other attempts
      exact ⟨db.otps.count fun otp => otp.phone = other, after,
        by simp only [execute, updated, Except.map]⟩
  | deleteOtp other => exact ⟨_, _, rfl⟩
  | _ => exact absurd writes not_false

theorem perform_otp_written (tick : Tick) (statement : Statement) (db : Db)
    (writes : WritesOtps statement) (reached : tick.outage ≠ .refused) (phone : String) :
    (perform tick statement db).2.findOtp phone = otpAfter phone statement (db.findOtp phone) := by
  have fate : tick.fate statement = tick.outage := by
    cases statement with
    | waitUntil job => exact absurd writes not_false
    | _ => rfl
  obtain ⟨answer, after, executed⟩ := execute_writes tick statement db writes
  have lookup := execute_otp tick statement db after answer executed phone
  have same : (perform tick statement db).2 = after := by
    unfold perform
    rw [fate, executed]
    cases outage : tick.outage with
    | none => rfl
    | refused => exact absurd outage reached
    | lost => rfl
  rw [same, lookup]

end TopInspect.AuthStatements
