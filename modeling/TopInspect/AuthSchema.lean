import TopInspect.RowTable

/-! The tables of db/schema.ts with the columns the auth handlers read or write.
Uniqueness lives in the tables, the two foreign keys in the database, so a row
without its auth row cannot be stored. Times are milliseconds since the epoch.
The columns users.createdAt, users.updatedAt and tokens.createdAt are read by no
handler and left out. -/
namespace TopInspect.AuthSchema

open RowTable

abbrev Time := Int

inductive Provider where
  | phone
  | google
  | apple
  deriving DecidableEq

inductive Gender where
  | male
  | female
  deriving DecidableEq

inductive Os where
  | ios
  | android
  | windows
  | macos
  | web
  deriving DecidableEq

structure DeviceInfo where
  os : Os
  osVersion : String
  model : String
  brand : String
  deviceYearClass : Option Int
  appVersion : String
  buildNumber : String
  deriving DecidableEq

structure Auth where
  id : String
  provider : Provider
  identifier : String
  email : Option String
  deriving DecidableEq

structure User where
  id : String
  name : String
  gender : Gender
  birthYear : Int
  deriving DecidableEq

structure Otp where
  phone : String
  code : String
  attempts : Nat
  expiresAt : Time
  createdAt : Time
  deriving DecidableEq

structure Token where
  id : String
  authId : String
  token : String
  deviceInfo : Option DeviceInfo
  expiresAt : Time
  revokedAt : Option Time
  lastUsedAt : Time
  deriving DecidableEq

/-- Primary key, `auth_provider_identifier_unique`, and the unique email, where
absent emails do not count as equal. -/
def Auth.Clash (left right : Auth) : Prop :=
  left.id = right.id ∨
    (left.provider = right.provider ∧ left.identifier = right.identifier) ∨
    (left.email ≠ none ∧ left.email = right.email)

def User.Clash (left right : User) : Prop := left.id = right.id

def Otp.Clash (left right : Otp) : Prop := left.phone = right.phone

def Token.Clash (left right : Token) : Prop :=
  left.id = right.id ∨ left.token = right.token

instance : DecidableRel Auth.Clash := fun left right =>
  inferInstanceAs (Decidable (left.id = right.id ∨
    (left.provider = right.provider ∧ left.identifier = right.identifier) ∨
    (left.email ≠ none ∧ left.email = right.email)))

instance : DecidableRel User.Clash := fun left right =>
  inferInstanceAs (Decidable (left.id = right.id))

instance : DecidableRel Otp.Clash := fun left right =>
  inferInstanceAs (Decidable (left.phone = right.phone))

instance : DecidableRel Token.Clash := fun left right =>
  inferInstanceAs (Decidable (left.id = right.id ∨ left.token = right.token))

structure Db where
  auth : Table Auth Auth.Clash
  users : Table User User.Clash
  otps : Table Otp Otp.Clash
  tokens : Table Token Token.Clash
  users_auth : ∀ user ∈ users.rows, ∃ row ∈ auth.rows, row.id = user.id
  tokens_auth : ∀ token ∈ tokens.rows, ∃ row ∈ auth.rows, row.id = token.authId

/-- Why a statement threw: it never took effect, or a constraint refused it. -/
inductive DbError where
  | unavailable
  | duplicateKey
  | foreignKey
  deriving DecidableEq

namespace Db

def empty : Db where
  auth := Table.empty
  users := Table.empty
  otps := Table.empty
  tokens := Table.empty
  users_auth := by simp [Table.empty]
  tokens_auth := by simp [Table.empty]

def findOtp (db : Db) (phone : String) : Option Otp :=
  db.otps.find fun otp => otp.phone = phone

def findAuth (db : Db) (provider : Provider) (identifier : String) : Option Auth :=
  db.auth.find fun row => row.provider = provider ∧ row.identifier = identifier

def findAuthById (db : Db) (id : String) : Option Auth :=
  db.auth.find fun row => row.id = id

def findAuthByEmail (db : Db) (email : String) : Option Auth :=
  db.auth.find fun row => row.email = some email

def findUser (db : Db) (id : String) : Option User :=
  db.users.find fun user => user.id = id

def findToken (db : Db) (token : String) : Option Token :=
  db.tokens.find fun row => row.token = token

/-- `insert ... onConflictDoUpdate` sets every column but the phone, which is
the conflict target, so both branches store the same row. -/
def upsertOtp (db : Db) (row : Otp) : Except DbError Db :=
  let stored := match db.findOtp row.phone with
    | none => db.otps.insert row
    | some _ => db.otps.amend (fun otp => otp.phone = row.phone) fun _ => row
  match stored with
  | none => .error .duplicateKey
  | some otps => .ok { db with otps }

def updateOtpAttempts (db : Db) (phone : String) (attempts : Nat) : Except DbError Db :=
  match db.otps.amend (fun otp => otp.phone = phone) fun otp => { otp with attempts } with
  | none => .error .duplicateKey
  | some otps => .ok { db with otps }

def deleteOtp (db : Db) (phone : String) : Db :=
  { db with otps := db.otps.remove fun otp => otp.phone = phone }

def insertAuth (db : Db) (row : Auth) : Except DbError Db :=
  match inserted : db.auth.insert row with
  | none => .error .duplicateKey
  | some auth => .ok
      { db with
        auth
        users_auth := fun user member => by
          obtain ⟨old, present, same⟩ := db.users_auth user member
          exact ⟨old, by simp [db.auth.insert_rows auth row inserted, present], same⟩
        tokens_auth := fun token member => by
          obtain ⟨old, present, same⟩ := db.tokens_auth token member
          exact ⟨old, by simp [db.auth.insert_rows auth row inserted, present], same⟩ }

theorem rewritten_id (rows : List Auth) (chosen : Auth → Bool) (email : Option String)
    (id : String) (present : ∃ row ∈ rows, row.id = id) :
    ∃ row ∈ rows.map (Table.rewrite chosen fun row => { row with email }), row.id = id := by
  obtain ⟨row, member, same⟩ := present
  refine ⟨_, List.mem_map_of_mem member, ?_⟩
  unfold Table.rewrite
  split <;> exact same

def updateAuthEmail (db : Db) (id email : String) : Except DbError Db :=
  match amended : db.auth.amend (fun row => row.id = id)
      fun row => { row with email := some email } with
  | none => .error .duplicateKey
  | some auth => .ok
      { db with
        auth
        users_auth := fun user member => by
          rw [db.auth.amend_rows auth _ _ amended]
          exact rewritten_id _ _ _ _ (db.users_auth user member)
        tokens_auth := fun token member => by
          rw [db.auth.amend_rows auth _ _ amended]
          exact rewritten_id _ _ _ _ (db.tokens_auth token member) }

/-- Both foreign keys cascade on delete. -/
def deleteAuth (db : Db) (id : String) : Db :=
  { db with
    auth := db.auth.remove fun row => row.id = id
    users := db.users.remove fun user => user.id = id
    tokens := db.tokens.remove fun token => token.authId = id
    users_auth := fun user member => by
      obtain ⟨kept, other⟩ := List.mem_filter.mp member
      obtain ⟨row, present, same⟩ := db.users_auth user kept
      refine ⟨row, List.mem_filter.mpr ⟨present, ?_⟩, same⟩
      simpa [same] using other
    tokens_auth := fun token member => by
      obtain ⟨kept, other⟩ := List.mem_filter.mp member
      obtain ⟨row, present, same⟩ := db.tokens_auth token kept
      refine ⟨row, List.mem_filter.mpr ⟨present, ?_⟩, same⟩
      simpa [same] using other }

def insertUser (db : Db) (row : User) : Except DbError Db :=
  match inserted : db.users.insert row with
  | none => .error .duplicateKey
  | some users =>
      if owned : ∃ owner ∈ db.auth.rows, owner.id = row.id then
        .ok { db with
          users
          users_auth := fun user member => by
            rw [db.users.insert_rows users row inserted, List.mem_append] at member
            rcases member with old | new
            · exact db.users_auth user old
            · rw [List.mem_singleton.mp new]
              exact owned }
      else .error .foreignKey

def insertToken (db : Db) (row : Token) : Except DbError Db :=
  match inserted : db.tokens.insert row with
  | none => .error .duplicateKey
  | some tokens =>
      if owned : ∃ owner ∈ db.auth.rows, owner.id = row.authId then
        .ok { db with
          tokens
          tokens_auth := fun token member => by
            rw [db.tokens.insert_rows tokens row inserted, List.mem_append] at member
            rcases member with old | new
            · exact db.tokens_auth token old
            · rw [List.mem_singleton.mp new]
              exact owned }
      else .error .foreignKey

/-- An update of token rows that leaves their owner alone. -/
def amendTokens (db : Db) (chosen : Token → Bool) (change : Token → Token)
    (keeps : ∀ row, (change row).authId = row.authId) : Except DbError Db :=
  match amended : db.tokens.amend chosen change with
  | none => .error .duplicateKey
  | some tokens => .ok
      { db with
        tokens
        tokens_auth := fun token member => by
          rw [db.tokens.amend_rows tokens chosen change amended] at member
          obtain ⟨old, present, rfl⟩ := List.mem_map.mp member
          obtain ⟨row, owner, same⟩ := db.tokens_auth old present
          refine ⟨row, owner, same.trans ?_⟩
          unfold Table.rewrite
          split
          · exact (keeps old).symm
          · rfl }

def rotateToken (db : Db) (token newToken : String) (expiresAt lastUsedAt : Time) :
    Except DbError Db :=
  db.amendTokens (fun row => row.token = token)
    (fun row => { row with token := newToken, expiresAt, lastUsedAt }) fun _ => rfl

def revokeToken (db : Db) (token : String) (revokedAt : Time) : Except DbError Db :=
  db.amendTokens (fun row => row.token = token)
    (fun row => { row with revokedAt := some revokedAt }) fun _ => rfl

/-! What each operation leaves behind, stated once. -/

theorem find_otp_mem (db : Db) (phone : String) (otp : Otp) :
    db.findOtp phone = some otp ↔ otp ∈ db.otps.rows ∧ otp.phone = phone :=
  Table.find_key Otp.phone (fun _ _ same => same) db.otps phone otp

theorem find_auth_mem (db : Db) (provider : Provider) (identifier : String) (row : Auth)
    (found : db.findAuth provider identifier = some row) :
    row ∈ db.auth.rows ∧ row.provider = provider ∧ row.identifier = identifier := by
  obtain ⟨member, same⟩ := db.auth.find_mem _ row found
  exact ⟨member, by simpa using same⟩

theorem find_auth_none (db : Db) (provider : Provider) (identifier : String) :
    db.findAuth provider identifier = none ↔
      ∀ row ∈ db.auth.rows, ¬ (row.provider = provider ∧ row.identifier = identifier) := by
  rw [findAuth, db.auth.find_none]
  simp

theorem find_user_none (db : Db) (id : String) :
    db.findUser id = none ↔ ∀ user ∈ db.users.rows, user.id ≠ id := by
  rw [findUser, db.users.find_none]
  simp

theorem find_auth_email (db : Db) (email : String) (row : Auth)
    (found : db.findAuthByEmail email = some row) :
    row ∈ db.auth.rows ∧ row.email = some email := by
  obtain ⟨member, same⟩ := db.auth.find_mem _ row found
  exact ⟨member, by simpa using same⟩

theorem find_auth_id (db : Db) (id : String) (row : Auth) :
    db.findAuthById id = some row ↔ row ∈ db.auth.rows ∧ row.id = id :=
  Table.find_key Auth.id (fun _ _ same => Or.inl same) db.auth id row

theorem find_token_mem (db : Db) (token : String) (row : Token) :
    db.findToken token = some row ↔ row ∈ db.tokens.rows ∧ row.token = token :=
  Table.find_key Token.token (fun _ _ same => Or.inr same) db.tokens token row

theorem auth_id_inj (db : Db) (left right : Auth) (first : left ∈ db.auth.rows)
    (second : right ∈ db.auth.rows) (same : left.id = right.id) : left = right :=
  Table.eq_of_key Auth.id (fun _ _ equal => Or.inl equal) db.auth left right first second same

theorem auth_identity_inj (db : Db) (left right : Auth) (first : left ∈ db.auth.rows)
    (second : right ∈ db.auth.rows) (provider : left.provider = right.provider)
    (identifier : left.identifier = right.identifier) : left = right :=
  Table.eq_of_key (fun row : Auth => (row.provider, row.identifier))
    (fun _ _ equal => Or.inr (Or.inl ⟨congrArg Prod.fst equal, congrArg Prod.snd equal⟩))
    db.auth left right first second (by rw [provider, identifier])

theorem auth_email_inj (db : Db) (left right : Auth) (first : left ∈ db.auth.rows)
    (second : right ∈ db.auth.rows) (email : String) (own : left.email = some email)
    (other : right.email = some email) : left = right := by
  apply db.auth.eq_of_clash _ left right first second
  · exact Or.inr (Or.inr ⟨by simp [own], own.trans other.symm⟩)
  · rintro one two (same | same | ⟨present, same⟩)
    · exact Or.inl same.symm
    · exact Or.inr (Or.inl ⟨same.1.symm, same.2.symm⟩)
    · exact Or.inr (Or.inr ⟨same ▸ present, same.symm⟩)

theorem token_id_inj (db : Db) (left right : Token) (first : left ∈ db.tokens.rows)
    (second : right ∈ db.tokens.rows) (same : left.id = right.id) : left = right :=
  Table.eq_of_key Token.id (fun _ _ equal => Or.inl equal) db.tokens left right first second same

theorem upsert_otp (db : Db) (row : Otp) :
    ∃ after, db.upsertOtp row = .ok after ∧ after.auth = db.auth ∧ after.users = db.users ∧
      after.tokens = db.tokens ∧
      ∀ phone, after.findOtp phone = if phone = row.phone then some row else db.findOtp phone := by
  unfold upsertOtp
  cases found : db.findOtp row.phone with
  | none =>
      have free : ∀ old ∈ db.otps.rows, ¬ Otp.Clash old row := by
        intro old member same
        have absent := (db.otps.find_none _).mp found old member
        exact absent (decide_eq_true same)
      obtain ⟨after, inserted, -⟩ := db.otps.insert_free row free
      refine ⟨{ db with otps := after }, by simp [inserted], rfl, rfl, rfl, fun phone => ?_⟩
      have lookup := db.otps.find_insert after row (fun otp => otp.phone = phone) inserted
      by_cases same : phone = row.phone
      · subst same
        unfold findOtp at found
        simp [findOtp, lookup, found]
      · simp [findOtp, lookup, same, Ne.symm same]
  | some old =>
      have safe : ∀ left ∈ db.otps.rows, ∀ right ∈ db.otps.rows,
          Otp.Clash (Table.rewrite (fun otp => otp.phone = row.phone) (fun _ => row) left)
            (Table.rewrite (fun otp => otp.phone = row.phone) (fun _ => row) right) →
          Otp.Clash left right := by
        intro left _ right _
        by_cases first : left.phone = row.phone <;> by_cases second : right.phone = row.phone <;>
          simp [Otp.Clash, Table.rewrite, first, second]
      obtain ⟨after, amended, -⟩ := db.otps.amend_safe _ _ safe
      refine ⟨{ db with otps := after }, by simp [amended], rfl, rfl, rfl, fun phone => ?_⟩
      have lookup := db.otps.find_amend after _ (fun otp => otp.phone = phone) _ amended (by
        intro otp
        by_cases same : otp.phone = row.phone <;> simp [Table.rewrite, same])
      rw [findOtp, lookup]
      by_cases same : phone = row.phone
      · subst same
        have own := ((db.find_otp_mem row.phone old).mp found).2
        unfold findOtp at found
        simp [found, Table.rewrite, own]
      · simp only [same, if_false]
        cases hit : db.findOtp phone with
        | none => simpa [findOtp] using hit
        | some other =>
            have own := ((db.find_otp_mem phone other).mp hit).2
            unfold findOtp at hit
            simp [hit, Table.rewrite, own, same]

theorem update_otp_attempts (db : Db) (phone : String) (attempts : Nat) :
    ∃ after, db.updateOtpAttempts phone attempts = .ok after ∧ after.auth = db.auth ∧
      after.users = db.users ∧ after.tokens = db.tokens ∧
      ∀ other, after.findOtp other =
        if other = phone then (db.findOtp other).map (fun otp => { otp with attempts })
        else db.findOtp other := by
  unfold updateOtpAttempts
  have keeps : ∀ otp : Otp, (Table.rewrite (fun otp => decide (otp.phone = phone))
      (fun otp => { otp with attempts }) otp).phone = otp.phone := by
    intro otp
    unfold Table.rewrite
    split <;> rfl
  obtain ⟨after, amended, -⟩ := db.otps.amend_safe (fun otp => otp.phone = phone)
    (fun otp => { otp with attempts }) (by
      intro left _ right _ clash
      simpa [Otp.Clash, keeps] using clash)
  refine ⟨{ db with otps := after }, by simp [amended], rfl, rfl, rfl, fun other => ?_⟩
  have lookup := db.otps.find_amend after _ (fun otp => otp.phone = other) _ amended (by
    intro otp
    simp [keeps])
  rw [findOtp, lookup]
  cases hit : db.findOtp other with
  | none =>
      unfold findOtp at hit
      simp [hit]
  | some otp =>
      obtain ⟨-, own⟩ := (db.find_otp_mem other otp).mp hit
      unfold findOtp at hit
      rw [hit]
      subst own
      by_cases same : otp.phone = phone
      · simp [Table.rewrite, same]
      · simp [Table.rewrite, same]

theorem delete_otp (db : Db) (phone other : String) :
    (db.deleteOtp phone).findOtp other = if other = phone then none else db.findOtp other := by
  by_cases same : other = phone
  · subst same
    simpa [findOtp, deleteOtp] using db.otps.find_remove_same fun otp => otp.phone = other
  · simp only [same, if_false]
    exact db.otps.find_remove (fun otp => otp.phone = phone) (fun otp => otp.phone = other)
      (by simp only [decide_eq_true_eq, decide_eq_false_iff_not]; rintro otp rfl; exact same)

theorem insert_auth (db after : Db) (row : Auth) (inserted : db.insertAuth row = .ok after) :
    after.auth.rows = db.auth.rows ++ [row] ∧ after.users = db.users ∧
      after.otps = db.otps ∧ after.tokens = db.tokens := by
  unfold insertAuth at inserted
  split at inserted
  · cases inserted
  · next auth stored =>
      cases inserted
      exact ⟨db.auth.insert_rows auth row stored, rfl, rfl, rfl⟩

theorem insert_auth_apart (db after : Db) (row : Auth) (inserted : db.insertAuth row = .ok after) :
    ∀ old ∈ db.auth.rows, ¬ Auth.Clash old row := by
  unfold insertAuth at inserted
  split at inserted
  · cases inserted
  · next auth stored => exact db.auth.insert_apart auth row stored

theorem update_auth_email (db after : Db) (id email : String)
    (updated : db.updateAuthEmail id email = .ok after) :
    after.auth.rows = db.auth.rows.map (Table.rewrite (fun row => row.id = id)
        fun row => { row with email := some email }) ∧
      after.users = db.users ∧ after.otps = db.otps ∧ after.tokens = db.tokens := by
  unfold updateAuthEmail at updated
  split at updated
  · cases updated
  · next auth stored =>
      cases updated
      exact ⟨db.auth.amend_rows auth _ _ stored, rfl, rfl, rfl⟩

theorem insert_user (db after : Db) (row : User) (inserted : db.insertUser row = .ok after) :
    after.users.rows = db.users.rows ++ [row] ∧ after.auth = db.auth ∧
      after.otps = db.otps ∧ after.tokens = db.tokens := by
  unfold insertUser at inserted
  split at inserted
  · cases inserted
  · next users stored =>
      split at inserted
      · cases inserted
        exact ⟨db.users.insert_rows users row stored, rfl, rfl, rfl⟩
      · cases inserted

theorem insert_token (db after : Db) (row : Token) (inserted : db.insertToken row = .ok after) :
    after.tokens.rows = db.tokens.rows ++ [row] ∧ after.auth = db.auth ∧
      after.users = db.users ∧ after.otps = db.otps := by
  unfold insertToken at inserted
  split at inserted
  · cases inserted
  · next tokens stored =>
      split at inserted
      · cases inserted
        exact ⟨db.tokens.insert_rows tokens row stored, rfl, rfl, rfl⟩
      · cases inserted

theorem amend_tokens (db after : Db) (chosen : Token → Bool) (change : Token → Token)
    (keeps : ∀ row, (change row).authId = row.authId)
    (amended : db.amendTokens chosen change keeps = .ok after) :
    after.tokens.rows = db.tokens.rows.map (Table.rewrite chosen change) ∧
      after.auth = db.auth ∧ after.users = db.users ∧ after.otps = db.otps := by
  unfold amendTokens at amended
  split at amended
  · cases amended
  · next tokens stored =>
      cases amended
      exact ⟨db.tokens.amend_rows tokens chosen change stored, rfl, rfl, rfl⟩

/-! When a constraint lets an operation pass. -/

theorem rotate_token_ok (db : Db) (token newToken : String) (expiresAt lastUsedAt : Time)
    (fresh : ∀ row ∈ db.tokens.rows, row.token ≠ newToken) :
    ∃ after, db.rotateToken token newToken expiresAt lastUsedAt = .ok after := by
  have safe : ∀ left ∈ db.tokens.rows, ∀ right ∈ db.tokens.rows,
      Token.Clash
        (Table.rewrite (fun row => row.token = token)
          (fun row => { row with token := newToken, expiresAt, lastUsedAt }) left)
        (Table.rewrite (fun row => row.token = token)
          (fun row => { row with token := newToken, expiresAt, lastUsedAt }) right) →
      Token.Clash left right := by
    intro left first right second
    have apart := fresh left first
    have other := fresh right second
    by_cases one : left.token = token <;> by_cases two : right.token = token <;>
      simp +contextual [Token.Clash, Table.rewrite, one, two, apart, Ne.symm other]
  obtain ⟨after, amended, -⟩ := db.tokens.amend_safe _ _ safe
  unfold rotateToken amendTokens
  split
  · next refused => simp [amended] at refused
  · exact ⟨_, rfl⟩

theorem revoke_token_ok (db : Db) (token : String) (revokedAt : Time) :
    ∃ after, db.revokeToken token revokedAt = .ok after := by
  have safe : ∀ left ∈ db.tokens.rows, ∀ right ∈ db.tokens.rows,
      Token.Clash
        (Table.rewrite (fun row => row.token = token)
          (fun row => { row with revokedAt := some revokedAt }) left)
        (Table.rewrite (fun row => row.token = token)
          (fun row => { row with revokedAt := some revokedAt }) right) →
      Token.Clash left right := by
    intro left _ right _
    by_cases one : left.token = token <;> by_cases two : right.token = token <;>
      simp [Token.Clash, Table.rewrite, one, two]
  obtain ⟨after, amended, -⟩ := db.tokens.amend_safe _ _ safe
  unfold revokeToken amendTokens
  split
  · next refused => simp [amended] at refused
  · exact ⟨_, rfl⟩

theorem update_auth_email_ok (db : Db) (id email : String)
    (free : ∀ other ∈ db.auth.rows, other.id ≠ id → other.email ≠ some email) :
    ∃ after, db.updateAuthEmail id email = .ok after := by
  have safe : ∀ left ∈ db.auth.rows, ∀ right ∈ db.auth.rows,
      Auth.Clash
        (Table.rewrite (fun row => row.id = id) (fun row => { row with email := some email }) left)
        (Table.rewrite (fun row => row.id = id) (fun row => { row with email := some email })
          right) →
      Auth.Clash left right := by
    intro left first right second
    have one := free left first
    have two := free right second
    grind [Auth.Clash, Table.rewrite]
  obtain ⟨after, amended, -⟩ := db.auth.amend_safe _ _ safe
  unfold updateAuthEmail
  split
  · next refused => simp [amended] at refused
  · exact ⟨_, rfl⟩

/-- Once an address has been stored in a row, no other row has held it. -/
theorem update_auth_email_apart (db after : Db) (row : Auth) (email : String)
    (stored : row ∈ db.auth.rows) (updated : db.updateAuthEmail row.id email = .ok after) :
    ∀ other ∈ db.auth.rows, other.id ≠ row.id → other.email ≠ some email := by
  intro other member apart held
  obtain ⟨rows, -⟩ := db.update_auth_email after row.id email updated
  have own : ({ row with email := some email } : Auth) ∈ after.auth.rows := by
    rw [rows]
    exact List.mem_map.mpr ⟨row, stored, by simp [Table.rewrite]⟩
  have kept : other ∈ after.auth.rows := by
    rw [rows]
    exact List.mem_map.mpr ⟨other, member, by simp [Table.rewrite, apart]⟩
  have same := after.auth_email_inj _ other own kept email rfl held
  apply apart
  rw [← same]

theorem insert_auth_ok (db : Db) (row : Auth) (free : ∀ old ∈ db.auth.rows, ¬ Auth.Clash old row) :
    ∃ after, db.insertAuth row = .ok after := by
  obtain ⟨table, inserted, -⟩ := db.auth.insert_free row free
  unfold insertAuth
  split
  · next refused => simp [inserted] at refused
  · exact ⟨_, rfl⟩

theorem insert_token_ok (db : Db) (row : Token)
    (free : ∀ old ∈ db.tokens.rows, ¬ Token.Clash old row)
    (owned : ∃ owner ∈ db.auth.rows, owner.id = row.authId) :
    ∃ after, db.insertToken row = .ok after := by
  obtain ⟨table, inserted, -⟩ := db.tokens.insert_free row free
  unfold insertToken
  split
  · next refused => simp [inserted] at refused
  · rw [dif_pos owned]
    exact ⟨_, rfl⟩

/-- The profile of a row that was inserted just now can always be stored: its
key is free because every profile has an auth row. -/
theorem insert_user_ok (db after : Db) (row : Auth) (user : User)
    (inserted : db.insertAuth row = .ok after) (same : user.id = row.id) :
    ∃ final, after.insertUser user = .ok final := by
  obtain ⟨rows, users, -⟩ := db.insert_auth after row inserted
  have apart := db.insert_auth_apart after row inserted
  have free : ∀ old ∈ after.users.rows, ¬ User.Clash old user := by
    intro old member clash
    rw [users] at member
    obtain ⟨owner, present, owns⟩ := db.users_auth old member
    exact apart owner present (Or.inl (owns.trans ((show old.id = user.id from clash).trans same)))
  have owned : ∃ owner ∈ after.auth.rows, owner.id = user.id :=
    ⟨row, by simp [rows], same.symm⟩
  obtain ⟨table, stored, -⟩ := after.users.insert_free user free
  unfold insertUser
  split
  · next refused => simp [stored] at refused
  · rw [dif_pos owned]
    exact ⟨_, rfl⟩

end Db
end TopInspect.AuthSchema
