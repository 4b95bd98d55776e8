import TopInspect.AccountContract
import TopInspect.HandlerExits

/-! Phone numbers do not see one another. All that a request for a phone learns
from the database is a small view of it: the code that is stored and how far its
account has come. Requests for the phone move the view as a machine of their own
would, and no other request touches it. -/
namespace TopInspect.PhoneIsolation

open Resumption AuthSchema AuthStatements AuthHandlers AUTH_CONFIG AuthExecution OtpVerification
open OtpServing SteadyServing HandlerExits RowTable AccountContract
open Serial hiding Run Served State Turn

/-! One phone's machine. -/

/-- `account` says whether the account has its profile, once there is one. -/
structure View where
  otp : Option Otp
  account : Option Bool

def view (db : Db) (phone : String) : View where
  otp := db.findOtp phone
  account := (db.findAuth .phone phone).map fun row => (db.findUser row.id).isSome

/-- What a segment of a request for a phone reads besides the database. -/
structure Moment where
  now : Time
  otpCode : String

def momentOf (tick : Tick) : Moment := { now := tick.now, otpCode := tick.otpCode }

/-- An answer without the values of its tokens. -/
def erase (response : Response) : Response :=
  match response.body with
  | .tokens _ _ => { response with body := .tokens { sub := "", iat := 0, exp := 0 } "" }
  | _ => response

def tokenAnswer (status : Nat) : Response :=
  { status, body := .tokens { sub := "", iat := 0, exp := 0 } "" }

def pausing (present : Time) (stored : Option Otp) : Bool :=
  stored.any fun otp => otp.createdAt > present - minutes OTP_COOLDOWN_MINUTES

section Machine
variable (moments : Nat → Moment)

def attendSend (body : OtpRequest) (seen : View) : Response × View :=
  let known := seen.account.getD false
  if pausing (moments 1).now seen.otp then (res.otpRateLimited, seen)
  else if body.purpose = .login ∧ known = false then (res.ok (.otp false), seen)
  else if body.purpose = .signup ∧ known = true then
    (res.userExists "User already exists. Please login instead.", seen)
  else
    let drawn := moments (if seen.account.isSome then 3 else 2)
    (res.ok (.otp known),
      { seen with
        otp := some { phone := body.phone, code := drawn.otpCode, attempts := 0,
                      expiresAt := drawn.now + minutes OTP_EXPIRY_MINUTES, createdAt :=
                        drawn.now } })

/-- A request that carries a code goes on with it once it is right. -/
def attendCode (code : String) (seen : View) (goesOn : View → Response × View) : Response × View :=
  let verdict := judge code (moments 1).now seen.otp
  let judged : View := { seen with otp := rowAfter seen.otp verdict }
  match resultOf verdict with
  | .failure errorCode error => (handleOtpError errorCode error, judged)
  | .success => goesOn judged

def completeUp (seen : View) : Response × View :=
  match seen.account with
  | some true => (res.userExists "User already exists. Please login instead.", seen)
  | some false =>
      (res.profileIncomplete "Account setup incomplete. Please contact support.", seen)
  | none => (tokenAnswer 201, { seen with account := some true })

def completeIn (seen : View) : Response × View :=
  match seen.account with
  | some true => (tokenAnswer 200, seen)
  | some false => (res.profileIncomplete "User profile incomplete. Please sign up again.", seen)
  | none => (res.userNotFound "User not found. Please sign up first.", seen)

/-- The other requests name no phone, and are never attended. -/
def attend : Request → View → Response × View
  | .requestOTP body, seen => attendSend moments body seen
  | .phoneSignup body, seen => attendCode moments body.code seen completeUp
  | .phoneSignIn body, seen => attendCode moments body.code seen completeIn
  | _, seen => (res.ok (.message ""), seen)

end Machine

/-! What the tables keep of a view. -/
section Tables
variable {before after : Db}

theorem view_same (tables : SameTables after before) (phone : String)
    (otp : after.findOtp phone = before.findOtp phone) : view after phone = view before phone := by
  simp only [view, Db.findAuth, Db.findUser, tables.auth, tables.users, otp]

theorem view_signed (session : Token) (stored : Signed session before after) (phone : String) :
    view after phone = view before phone := by
  simp only [view, Db.findAuth, Db.findUser, Db.findOtp, stored.auth, stored.users, stored.otps]

theorem find_auth_opened (row : Auth) (user : User) (opened : Opened row user before after)
    (provider : Provider) (identifier : String) :
    after.findAuth provider identifier = (before.findAuth provider identifier).or
      (if row.provider = provider ∧ row.identifier = identifier then some row else none) := by
  simp [Db.findAuth, Table.find, opened.auth, List.find?_append, List.find?_singleton]

theorem find_user_opened (row : Auth) (user : User) (opened : Opened row user before after)
    (id : String) : after.findUser id =
      (before.findUser id).or (if user.id = id then some user else none) := by
  simp [Db.findUser, Table.find, opened.users, List.find?_append, List.find?_singleton]

theorem view_opened (row : Auth) (user : User) (opened : Opened row user before after)
    (same : user.id = row.id) (apart : ∀ old ∈ before.auth.rows, ¬ Auth.Clash old row)
    (phone : String) (other : ¬ (row.provider = .phone ∧ row.identifier = phone)) :
    view after phone = view before phone := by
  have found : after.findAuth .phone phone = before.findAuth .phone phone := by
    rw [find_auth_opened row user opened, if_neg other, Option.or_none]
  have otp : after.findOtp phone = before.findOtp phone := by
    simp only [Db.findOtp, opened.otps]
  unfold view
  rw [found, otp]
  cases held : before.findAuth .phone phone with
  | none => rfl
  | some old =>
      have distinct : user.id ≠ old.id := fun equal =>
        apart old (before.find_auth_mem _ _ old held).1 (Or.inl (equal.symm.trans same))
      simp [find_user_opened row user opened, distinct]

theorem view_joined (row : Auth) (user : User) (opened : Opened row user before after)
    (same : user.id = row.id) (phone : String) (provider : row.provider = .phone)
    (identifier : row.identifier = phone) (absent : before.findAuth .phone phone = none) :
    view after phone = { view before phone with account := some true } := by
  have found : after.findAuth .phone phone = some row := by
    rw [find_auth_opened row user opened, absent, if_pos ⟨provider, identifier⟩]
    rfl
  have profile : (after.findUser row.id).isSome = true := by
    rw [find_user_opened row user opened, if_pos same]
    cases before.findUser row.id <;> rfl
  have otp : after.findOtp phone = before.findOtp phone := by
    simp only [Db.findOtp, opened.otps]
  simp [view, found, profile, otp]

theorem view_filled (id email : String) (filled : before.updateAuthEmail id email = .ok after)
    (phone : String) : view after phone = view before phone := by
  obtain ⟨rows, users, otps, -⟩ := before.update_auth_email after id email filled
  have found : after.findAuth .phone phone = (before.findAuth .phone phone).map
      (Table.rewrite (fun row => row.id = id) fun row => { row with email := some email }) := by
    simp only [Db.findAuth, Table.find, rows, List.find?_map]
    congr 2
    funext row
    by_cases key : row.id = id <;> simp [Table.rewrite, key]
  have ids : ∀ row : Auth, (Table.rewrite (fun row => decide (row.id = id))
      (fun row => { row with email := some email }) row).id = row.id := by
    intro row
    by_cases key : row.id = id <;> simp [Table.rewrite, key]
  simp only [view, found, Db.findOtp, Db.findUser, users, otps, Option.map_map]
  congr 2
  funext row
  simp [ids]

end Tables

structure New (db : Db) (clock : Nat → Tick) : Prop where
  ids : ∀ n, ∀ row ∈ db.auth.rows, row.id ≠ (clock n).id
  sessions : ∀ n, ∀ row ∈ db.tokens.rows,
    row.id ≠ (clock n).id ∧ row.token ≠ (clock n).refreshToken

theorem new_untaken (db : Db) (clock : Nat → Tick) (new : New db clock) (n : Nat) :
    ¬ Taken db (clock n) := by
  rintro ⟨row, member, same | same⟩
  · exact (new.sessions n row member).1 same
  · exact (new.sessions n row member).2 same

section Own
variable {db after : Db} {clock : Nat → Tick} {reply : Reply}

theorem known_view (db : Db) (phone : String) :
    userExists db phone = (view db phone).account.getD false := by
  unfold userExists view
  cases db.findAuth .phone phone <;> rfl

def Attended (clock : Nat → Tick) (request : Request) (phone : String) (before : Db) (reply : Reply)
    (after : Db) : Prop :=
  ∃ response, reply = .ok response ∧ (erase response, view after phone) =
    attend (fun n => momentOf (clock n)) request (view before phone)

theorem send_attended (body : OtpRequest) (exits : SendExit db clock body reply after) :
    Attended clock (.requestOTP body) body.phone db reply after := by
  have known := known_view db body.phone
  have pause : pausing (momentOf (clock 1)).now (view db body.phone).otp =
      recentlySent db body.phone (clock 1).now := rfl
  cases exits with
  | limited recent =>
      refine ⟨_, rfl, ?_⟩
      simp only [attend, attendSend, pause, recent, if_true]
      rfl
  | unknown settled purpose missing =>
      refine ⟨_, rfl, ?_⟩
      simp only [attend, attendSend, pause, settled, ← known, missing, purpose]
      rfl
  | known settled purpose present =>
      refine ⟨_, rfl, ?_⟩
      simp only [attend, attendSend, pause, settled, ← known, present, purpose]
      rfl
  | sent after settled fits stored =>
      refine ⟨_, rfl, ?_⟩
      obtain ⟨other, upserted, auth, users, tokens, lookup⟩ := db.upsert_otp (freshRow body
        (clock (if (db.findAuth .phone body.phone).isSome then 3 else 2)))
      obtain rfl : other = after := Except.ok.inj (upserted.symm.trans stored)
      obtain ⟨login, signup⟩ : ¬ (body.purpose = .login ∧ userExists db body.phone = false) ∧
          ¬ (body.purpose = .signup ∧ userExists db body.phone = true) := by
        simpa [purposeRefuses, userExists] using fits
      have drawn : (view db body.phone).account.isSome =
        (db.findAuth .phone body.phone).isSome := by
        simp [view]
      have row := (lookup body.phone).trans (if_pos rfl)
      simp only [attend, attendSend, pause, settled, ← known, if_neg login, if_neg signup, drawn]
      simp [view, erase, res.ok, row, Db.findAuth, Db.findUser, auth, users, freshRow, momentOf]

theorem view_judged (phone : String) (verdict : Verdict) (judged : Judged phone verdict db after) :
    view after phone = { view db phone with otp := rowAfter (db.findOtp phone) verdict } := by
  have otp := (judged.otps phone).trans (if_pos rfl)
  simp only [view, Db.findAuth, Db.findUser, judged.tables.auth, judged.tables.users, otp]

theorem attend_accepted (phone code : String) (goesOn : View → Response × View) (middle : Db)
    (accepted : Accepted db clock phone code middle) :
    attendCode (fun n => momentOf (clock n)) code (view db phone) goesOn =
      goesOn (view middle phone) := by
  have right : judge code (momentOf (clock 1)).now (view db phone).otp = .right := accepted.right
  rw [view_judged phone _ accepted.judged]
  simp only [attendCode, right]
  rfl

theorem attend_refused (phone code : String) (goesOn : View → Response × View)
    (exits : CodeExit db clock phone code reply after) :
    ∃ response, reply = .ok response ∧ (erase response, view after phone) =
      attendCode (fun n => momentOf (clock n)) code (view db phone) goesOn := by
  cases exits with
  | refused after errorCode error fails judged =>
      refine ⟨_, rfl, ?_⟩
      rw [view_judged phone _ judged]
      have verdict : resultOf (judge code (momentOf (clock 1)).now (view db phone).otp) =
          .failure errorCode error := fails
      simp only [attendCode, verdict]
      cases errorCode <;> rfl

theorem account_absent (phone : String) (absent : db.findAuth .phone phone = none) :
    (view db phone).account = none := by
  rw [view, absent]
  rfl

theorem account_found (phone : String) (row : Auth) (found : db.findAuth .phone phone = some row) :
    (view db phone).account = some (db.findUser row.id).isSome := by
  rw [view, found]
  rfl

theorem account_kept (phone code : String) (accepted : Accepted db clock phone code after) :
    (view after phone).account = (view db phone).account := by
  rw [view_judged phone _ accepted.judged]

theorem sign_up_attended (new : New db clock) (body : PhoneSignupRequest)
    (exits : SignUpExit db clock body reply after) :
    Attended clock (.phoneSignup body) body.phone db reply after := by
  cases exits with
  | code reply after refused => exact attend_refused body.phone body.code completeUp refused
  | known after row user accepted found profile =>
      refine ⟨_, rfl, ?_⟩
      have account :=
        (account_kept body.phone _ accepted).trans (account_found body.phone row found)
      rw [profile] at account
      rw [attend, attend_accepted body.phone _ _ _ accepted, completeUp, account]
      rfl
  | incomplete after row accepted found missing =>
      refine ⟨_, rfl, ?_⟩
      have account :=
        (account_kept body.phone _ accepted).trans (account_found body.phone row found)
      rw [missing] at account
      rw [attend, attend_accepted body.phone _ _ _ accepted, completeUp, account]
      rfl
  | creates middle reply after accepted absent exits =>
      have free : middle.findAuth .phone body.phone = none := by
        simpa only [Db.findAuth, accepted.judged.tables.auth] using absent
      have account := account_absent body.phone free
      cases exits with
      | clash error clashes =>
          obtain ⟨old, member, clash⟩ := clashes
          rw [accepted.judged.tables.auth] at member
          rcases clash with same | ⟨provider, identifier⟩ | ⟨present, same⟩
          · exact absurd same (new.ids 3 old member)
          · exact absurd ⟨provider, identifier⟩ ((db.find_auth_none _ _).mp absent old member)
          · exact absurd same present
      | unsigned error after apart opened taken =>
          obtain ⟨old, member, same⟩ := taken
          rw [accepted.judged.tables.tokens] at member
          exact absurd ⟨old, member, same⟩ (new_untaken db clock new 5)
      | signed session opened after access refresh apart added drawn stored =>
          refine ⟨_, rfl, ?_⟩
          rw [attend, attend_accepted body.phone _ _ _ accepted, completeUp, account,
            view_signed session stored, view_joined _ _ added rfl body.phone rfl rfl free]
          rfl

theorem sign_in_attended (new : New db clock) (body : PhoneSignInRequest)
    (exits : SignInExit db clock body reply after) :
    Attended clock (.phoneSignIn body) body.phone db reply after := by
  cases exits with
  | code reply after refused => exact attend_refused body.phone body.code completeIn refused
  | unknown after accepted absent =>
      refine ⟨_, rfl, ?_⟩
      have account := (account_kept body.phone _ accepted).trans (account_absent body.phone absent)
      rw [attend, attend_accepted body.phone _ _ _ accepted, completeIn, account]
      rfl
  | incomplete after row accepted found missing =>
      refine ⟨_, rfl, ?_⟩
      have account :=
        (account_kept body.phone _ accepted).trans (account_found body.phone row found)
      rw [missing] at account
      rw [attend, attend_accepted body.phone _ _ _ accepted, completeIn, account]
      rfl
  | unsigned error after row user accepted found profile taken =>
      exact absurd taken (new_untaken db clock new 4)
  | signed session middle after access refresh row user accepted found profile drawn stored =>
      refine ⟨_, rfl, ?_⟩
      have account :=
        (account_kept body.phone _ accepted).trans (account_found body.phone row found)
      rw [profile] at account
      rw [attend, attend_accepted body.phone _ _ _ accepted, completeIn, account,
        view_signed session stored]
      rfl

theorem exits_attended (env : Env) (new : New db clock) (request : Request) (phone : String)
    (own : phoneOf request = some phone) (exits : Exits env db clock request reply after) :
    Attended clock request phone db reply after := by
  cases request with
  | requestOTP body =>
      obtain rfl := Option.some.inj own
      exact send_attended body exits
  | phoneSignup body =>
      obtain rfl := Option.some.inj own
      exact sign_up_attended new body exits
  | phoneSignIn body =>
      obtain rfl := Option.some.inj own
      exact sign_in_attended new body exits
  | _ => cases own

end Own

section Others
variable {db after : Db} {clock : Nat → Tick} {reply : Reply} {phone : String}

theorem view_judged_other (own : String) (verdict : Verdict) (judged : Judged own verdict db after)
    (apart : phone ≠ own) : view after phone = view db phone :=
  view_same judged.tables phone ((judged.otps phone).trans (if_neg apart))

theorem create_other (row : Auth) (user : User) (same : user.id = row.id)
    (other : ¬ (row.provider = .phone ∧ row.identifier = phone))
    (exits : CreateExit db clock row user reply after) : view after phone = view db phone := by
  cases exits with
  | clash error taken => rfl
  | unsigned error after apart opened taken =>
      exact view_opened row user opened same apart phone other
  | signed session middle after access refresh apart opened drawn stored =>
      exact (view_signed session stored phone).trans
        (view_opened row user opened same apart phone other)

theorem open_other (existingAuth : Auth) (email : String)
    (exits : OpenExit db clock existingAuth email reply after) :
    view after phone = view db phone := by
  cases exits with
  | signed session after access refresh user profile held drawn stored =>
      exact view_signed session stored phone
  | filledUnsigned error after user profile bare filled => exact view_filled _ email filled phone
  | filledSigned session middle after access refresh user profile bare filled drawn stored =>
      exact (view_signed session stored phone).trans (view_filled _ email filled phone)
  | _ => rfl

theorem amended_other (chosen : Token → Bool) (change : Token → Token)
    (keeps : ∀ row, (change row).authId = row.authId)
    (amended : db.amendTokens chosen change keeps = .ok after) :
    view after phone = view db phone := by
  obtain ⟨-, auth, users, otps⟩ := db.amend_tokens after chosen change keeps amended
  simp only [view, Db.findAuth, Db.findUser, Db.findOtp, auth, users, otps]

theorem toProvider_not_phone (provider : OAuthProvider) : provider.toProvider ≠ .phone := by
  cases provider <;> decide

theorem exits_other (env : Env) (request : Request) (other : phoneOf request ≠ some phone)
    (exits : Exits env db clock request reply after) : view after phone = view db phone := by
  -- Requests for other phones leave by exits that write rows of their own only.
  cases request with
  | requestOTP body =>
      have apart : phone ≠ body.phone := fun same => other (congrArg some same.symm)
      cases exits with
      | sent after settled fits stored =>
          obtain ⟨final, upserted, auth, users, tokens, lookup⟩ := db.upsert_otp (freshRow body
            (clock (if (db.findAuth .phone body.phone).isSome then 3 else 2)))
          obtain rfl : final = after := Except.ok.inj (upserted.symm.trans stored)
          exact view_same ⟨auth, users, tokens⟩ phone ((lookup phone).trans (if_neg apart))
      | _ => rfl
  | phoneSignup body =>
      have apart : phone ≠ body.phone := fun same => other (congrArg some same.symm)
      cases exits with
      | code reply after refused =>
          cases refused with
          | refused after errorCode error fails judged => exact view_judged_other _ _ judged apart
      | known after row user accepted => exact view_judged_other _ _ accepted.judged apart
      | incomplete after row accepted => exact view_judged_other _ _ accepted.judged apart
      | creates middle reply after accepted absent exits =>
          exact (create_other _ _ rfl (fun own => apart own.2.symm) exits).trans
            (view_judged_other _ _ accepted.judged apart)
  | phoneSignIn body =>
      have apart : phone ≠ body.phone := fun same => other (congrArg some same.symm)
      cases exits with
      | code reply after refused =>
          cases refused with
          | refused after errorCode error fails judged => exact view_judged_other _ _ judged apart
      | unknown after accepted => exact view_judged_other _ _ accepted.judged apart
      | incomplete after row accepted => exact view_judged_other _ _ accepted.judged apart
      | unsigned error after row user accepted => exact view_judged_other _ _ accepted.judged apart
      | signed session middle after access refresh row user accepted found profile drawn stored =>
          exact (view_signed session stored phone).trans
            (view_judged_other _ _ accepted.judged apart)
  | oauthSignIn provider body =>
      cases exits with
      | opens providerId email row reply after verified found exits =>
          exact open_other row email exits
      | _ => rfl
  | oauthSignup body =>
      cases exits with
      | opens row reply after found exits => exact open_other row body.email exits
      | conflict => rfl
      | creates reply after absent apart exits =>
          exact create_other _ _ rfl (fun own => toProvider_not_phone _ own.1) exits
  | refreshTokens body =>
      cases exits with
      | rotated token access expiresAt lastUsedAt after found stored =>
          exact amended_other _ _ _ stored
      | _ => rfl
  | logout body =>
      cases exits with
      | revoked token revokedAt after found stored => exact amended_other _ _ _ stored
      | invalid => rfl
  | background job => cases exits

end Others

/-- Every id and every refresh token was there before or drawn by the request. -/
structure Stems (db : Db) (clock : Nat → Tick) (after : Db) : Prop where
  ids : ∀ row ∈ after.auth.rows,
    (∃ old ∈ db.auth.rows, old.id = row.id) ∨ ∃ n, row.id = (clock n).id
  sessions : ∀ row ∈ after.tokens.rows,
    (∃ old ∈ db.tokens.rows, old.id = row.id) ∨ ∃ n, row.id = (clock n).id
  tokens : ∀ row ∈ after.tokens.rows,
    (∃ old ∈ db.tokens.rows, old.token = row.token) ∨ ∃ n, row.token = (clock n).refreshToken

section Stems
variable {db middle after : Db} {clock : Nat → Tick} {reply : Reply}

theorem stems_same (tables : SameTables after db) : Stems db clock after := by
  constructor
  · exact fun row member => Or.inl ⟨row, tables.auth ▸ member, rfl⟩
  · exact fun row member => Or.inl ⟨row, tables.tokens ▸ member, rfl⟩
  · exact fun row member => Or.inl ⟨row, tables.tokens ▸ member, rfl⟩

theorem stems_trans (left : Stems db clock middle) (right : Stems middle clock after) :
    Stems db clock after := by
  constructor
  · intro row member
    rcases right.ids row member with ⟨old, present, same⟩ | drawn
    · rw [← same]
      exact left.ids old present
    · exact Or.inr drawn
  · intro row member
    rcases right.sessions row member with ⟨old, present, same⟩ | drawn
    · rw [← same]
      exact left.sessions old present
    · exact Or.inr drawn
  · intro row member
    rcases right.tokens row member with ⟨old, present, same⟩ | drawn
    · rw [← same]
      exact left.tokens old present
    · exact Or.inr drawn

theorem stems_later (spent : Nat) (stems : Stems db (fun n => clock (n + spent)) after) :
    Stems db clock after := by
  constructor
  · exact fun row member => (stems.ids row member).imp_right fun ⟨n, same⟩ => ⟨n + spent, same⟩
  · exact fun row member => (stems.sessions row member).imp_right fun ⟨n, same⟩ => ⟨n + spent, same⟩
  · exact fun row member => (stems.tokens row member).imp_right fun ⟨n, same⟩ => ⟨n + spent, same⟩

theorem stems_signed (session : Token) (authId : String) (n : Nat)
    (drawn : Drawn (clock n) authId session) (stored : Signed session db after) :
    Stems db clock after := by
  have members : ∀ row ∈ after.tokens.rows, row ∈ db.tokens.rows ∨ row = session := by
    intro row member
    rw [stored.tokens, List.mem_append, List.mem_singleton] at member
    exact member
  constructor
  · exact fun row member => Or.inl ⟨row, stored.auth ▸ member, rfl⟩
  · intro row member
    rcases members row member with old | rfl
    · exact Or.inl ⟨row, old, rfl⟩
    · exact Or.inr ⟨n, drawn.id⟩
  · intro row member
    rcases members row member with old | rfl
    · exact Or.inl ⟨row, old, rfl⟩
    · exact Or.inr ⟨n, drawn.token⟩

theorem stems_opened (row : Auth) (user : User) (n : Nat) (drawn : row.id = (clock n).id)
    (opened : Opened row user db after) : Stems db clock after := by
  constructor
  · intro other member
    rw [opened.auth, List.mem_append, List.mem_singleton] at member
    rcases member with old | rfl
    · exact Or.inl ⟨other, old, rfl⟩
    · exact Or.inr ⟨n, drawn⟩
  · exact fun row member => Or.inl ⟨row, opened.tokens ▸ member, rfl⟩
  · exact fun row member => Or.inl ⟨row, opened.tokens ▸ member, rfl⟩

theorem stems_filled (id email : String) (filled : db.updateAuthEmail id email = .ok after) :
    Stems db clock after := by
  obtain ⟨rows, -, -, tokens⟩ := db.update_auth_email after id email filled
  constructor
  · intro row member
    rw [rows] at member
    obtain ⟨old, present, rfl⟩ := List.mem_map.mp member
    refine Or.inl ⟨old, present, ?_⟩
    unfold Table.rewrite
    split <;> rfl
  · exact fun row member => Or.inl ⟨row, tokens ▸ member, rfl⟩
  · exact fun row member => Or.inl ⟨row, tokens ▸ member, rfl⟩

theorem stems_amended (chosen : Token → Bool) (change : Token → Token)
    (keeps : ∀ row, (change row).authId = row.authId)
    (amended : db.amendTokens chosen change keeps = .ok after)
    (ids : ∀ row, (change row).id = row.id)
    (tokens : ∀ row, (change row).token = row.token ∨
      ∃ n, (change row).token = (clock n).refreshToken) : Stems db clock after := by
  obtain ⟨rows, auth, -, -⟩ := db.amend_tokens after chosen change keeps amended
  constructor
  · exact fun row member => Or.inl ⟨row, auth ▸ member, rfl⟩
  · intro row member
    rw [rows] at member
    obtain ⟨old, present, rfl⟩ := List.mem_map.mp member
    refine Or.inl ⟨old, present, ?_⟩
    unfold Table.rewrite
    split
    · exact (ids old).symm
    · rfl
  · intro row member
    rw [rows] at member
    obtain ⟨old, present, rfl⟩ := List.mem_map.mp member
    unfold Table.rewrite
    split
    · exact (tokens old).imp_left fun same => ⟨old, present, same.symm⟩
    · exact Or.inl ⟨old, present, rfl⟩

theorem create_stems (row : Auth) (user : User) (drawn : row.id = (clock 0).id)
    (exits : CreateExit db clock row user reply after) : Stems db clock after := by
  cases exits with
  | clash error taken => exact stems_same (.refl db)
  | unsigned error after apart opened taken => exact stems_opened row user 0 drawn opened
  | signed session middle after access refresh apart opened own stored =>
      exact stems_trans (stems_opened row user 0 drawn opened)
        (stems_signed session row.id 2 own stored)

theorem open_stems (existingAuth : Auth) (email : String)
    (exits : OpenExit db clock existingAuth email reply after) : Stems db clock after := by
  cases exits with
  | signed session after access refresh user profile held drawn stored =>
      exact stems_signed session existingAuth.id 1 drawn stored
  | filledUnsigned error after user profile bare filled => exact stems_filled _ email filled
  | filledSigned session middle after access refresh user profile bare filled drawn stored =>
      exact stems_trans (stems_filled _ email filled)
        (stems_signed session existingAuth.id 2 drawn stored)
  | _ => exact stems_same (.refl db)

theorem code_stems (phone code : String) (exits : CodeExit db clock phone code reply after) :
    Stems db clock after := by
  cases exits with
  | refused after errorCode error fails judged => exact stems_same judged.tables

theorem exits_stem (env : Env) (request : Request)
    (exits : Exits env db clock request reply after) :
    Stems db clock after := by
  cases request with
  | requestOTP body =>
      cases exits with
      | sent after settled fits stored =>
          obtain ⟨final, upserted, auth, users, tokens, -⟩ := db.upsert_otp (freshRow body
            (clock (if (db.findAuth .phone body.phone).isSome then 3 else 2)))
          obtain rfl : final = after := Except.ok.inj (upserted.symm.trans stored)
          exact stems_same ⟨auth, users, tokens⟩
      | _ => exact stems_same (.refl db)
  | phoneSignup body =>
      cases exits with
      | code reply after refused => exact code_stems _ _ refused
      | known after row user accepted => exact stems_same accepted.judged.tables
      | incomplete after row accepted => exact stems_same accepted.judged.tables
      | creates middle reply after accepted absent exits =>
          exact stems_trans (stems_same accepted.judged.tables)
            (stems_later 3 (create_stems _ _ rfl exits))
  | phoneSignIn body =>
      cases exits with
      | code reply after refused => exact code_stems _ _ refused
      | unknown after accepted => exact stems_same accepted.judged.tables
      | incomplete after row accepted => exact stems_same accepted.judged.tables
      | unsigned error after row user accepted => exact stems_same accepted.judged.tables
      | signed session middle after access refresh row user accepted found profile drawn stored =>
          exact stems_trans (stems_same accepted.judged.tables)
            (stems_signed session row.id 4 drawn stored)
  | oauthSignIn provider body =>
      cases exits with
      | opens providerId email row reply after verified found exits =>
          exact stems_later 1 (open_stems row email exits)
      | _ => exact stems_same (.refl db)
  | oauthSignup body =>
      cases exits with
      | opens row reply after found exits => exact stems_later 1 (open_stems row body.email exits)
      | conflict => exact stems_same (.refl db)
      | creates reply after absent apart exits => exact stems_later 2 (create_stems _ _ rfl exits)
  | refreshTokens body =>
      cases exits with
      | rotated token access expiresAt lastUsedAt after found stored =>
          exact stems_amended _ _ _ stored (fun _ => rfl) fun _ => Or.inr ⟨2, rfl⟩
      | _ => exact stems_same (.refl db)
  | logout body =>
      cases exits with
      | revoked token revokedAt after found stored =>
          exact stems_amended _ _ _ stored (fun _ => rfl) fun _ => Or.inl rfl
      | invalid => exact stems_same (.refl db)
  | background job => cases exits

end Stems

/-! Two runs that agree on the requests for the phone. -/

/-- No value that one turn draws is drawn by the other. -/
def Apart (left right : Turn) : Prop :=
  ∀ n m, (left.clock n).id ≠ (right.clock m).id ∧
    (left.clock n).refreshToken ≠ (right.clock m).refreshToken

structure Fresh (db : Db) (turns : List Turn) : Prop where
  new : ∀ next ∈ turns, New db next.clock
  apart : turns.Pairwise Apart

structure Calm (db : Db) (turns : List Turn) : Prop where
  reliable : ∀ next ∈ turns, Reliable next
  fresh : Fresh db turns

/-- The requests of a run that name the phone, with the times and codes they read. -/
def visitsOf (phone : String) (turns : List Turn) : List (Request × (Nat → Moment)) :=
  turns.filterMap fun next =>
    match next with
    | .visit _ request _ _ =>
        if phoneOf request = some phone then some (request, fun n => momentOf (next.clock n))
          else none
    | .background _ _ => none

def answersOf (phone : String) (served : List Served) : List (Except DbError (Option Response)) :=
  (served.filter fun record => phoneOf record.request = some phone).map fun record =>
    record.result.map (Option.map erase)

def attendAll : View → List (Request × (Nat → Moment)) → List Response
  | _, [] => []
  | seen, (request, moments) :: rest =>
      (attend moments request seen).1 :: attendAll (attend moments request seen).2 rest

theorem new_stems (db after : Db) (clock other : Nat → Tick) (new : New db other)
    (stems : Stems db clock after)
    (apart : ∀ n m, (clock n).id ≠ (other m).id ∧ (clock n).refreshToken ≠ (other m).refreshToken) :
    New after other := by
  constructor
  · intro m row member same
    rcases stems.ids row member with ⟨old, present, own⟩ | ⟨n, own⟩
    · exact new.ids m old present (own.trans same)
    · exact (apart n m).1 (own.symm.trans same)
  · intro m row member
    constructor
    · intro same
      rcases stems.sessions row member with ⟨old, present, own⟩ | ⟨n, own⟩
      · exact (new.sessions m old present).1 (own.trans same)
      · exact (apart n m).1 (own.symm.trans same)
    · intro same
      rcases stems.tokens row member with ⟨old, present, own⟩ | ⟨n, own⟩
      · exact (new.sessions m old present).2 (own.trans same)
      · exact (apart n m).2 (own.symm.trans same)

section Runs
variable (env : Env) (phone : String)

theorem fresh_turn (state : State) (next : Turn) (rest : List Turn) (reliable : Reliable next)
    (harmless : Harmless state.queue) (fresh : Fresh state.world (next :: rest)) :
    Fresh (turn (server env) state next).world rest := by
  have apart := List.pairwise_cons.mp fresh.apart
  have kept : ∀ other ∈ rest, New state.world other.clock := fun other member =>
    fresh.new other (List.mem_cons_of_mem _ member)
  constructor
  · intro other member
    cases next with
    | background tick ticks =>
        rw [(job_kept env state (.background tick ticks) trivial harmless).1]
        exact kept other member
    | visit caller request tick ticks =>
        simp only [turn]
        split
        · next asked =>
          obtain ⟨reply, -, visited⟩ :=
            serve_exits env state caller request tick ticks asked reliable
          exact new_stems _ _ _ _ (kept other member) (exits_stem env request visited.exits)
            (apart.1 other member)
        · exact kept other member
  · exact apart.2

/-- A served request for the phone is answered, and moves the view, as its machine says. -/
theorem visit_attended (state : State) (caller : Nat) (request : Request) (tick : Tick)
    (ticks : Nat → Tick) (reliable : Reliable (.visit caller request tick ticks))
    (new : New state.world (Turn.clock (.visit caller request tick ticks : Turn)))
    (own : phoneOf request = some phone) :
    let next : Turn := .visit caller request tick ticks
    let moments := fun n => momentOf (next.clock n)
    let after : State := turn (server env) state next
    answersOf phone after.served =
        .ok (some (attend moments request (view state.world phone)).1) :: answersOf phone
          state.served ∧
      view after.world phone = (attend moments request (view state.world phone)).2 := by
  intro next moments after
  have asked : external request = true := by
    cases request with
    | background job => cases own
    | _ => rfl
  obtain ⟨reply, result, visited⟩ := serve_exits env state caller request tick ticks asked reliable
  obtain ⟨response, rfl, attended⟩ := exits_attended env new request phone own visited.exits
  have served : after = serve (server env) state (some caller) request tick ticks :=
    if_pos asked
  rw [served, serve_served]
  have answer : erase response = (attend moments request (view state.world phone)).1 :=
    congrArg Prod.fst attended
  constructor
  · have chosen : phoneOf (recordOf env state (some caller) request tick ticks).request =
      some phone :=
      own
    simp only [answersOf, List.filter_cons, chosen, decide_true, if_true, List.map_cons, result]
    rw [← answer]
    rfl
  · exact congrArg Prod.snd attended

theorem turn_other (state : State) (next : Turn) (reliable : Reliable next)
    (harmless : Harmless state.queue)
    (other : ∀ caller request tick ticks, next = .visit caller request tick ticks →
      phoneOf request ≠ some phone) :
    answersOf phone (turn (server env) state next).served = answersOf phone state.served ∧
      view (turn (server env) state next).world phone = view state.world phone := by
  cases next with
  | visit caller request tick ticks =>
      have unnamed := other caller request tick ticks rfl
      simp only [turn]
      split
      · next asked =>
        obtain ⟨reply, -, visited⟩ := serve_exits env state caller request tick ticks asked reliable
        have skipped : ¬ phoneOf (recordOf env state (some caller) request tick ticks).request =
            some phone := unnamed
        constructor
        · rw [serve_served]
          simp only [answersOf, List.filter_cons, skipped, decide_false]
          rfl
        · exact exits_other env request unnamed visited.exits
      · exact ⟨rfl, rfl⟩
  | background tick ticks =>
      constructor
      · simp only [turn]
        cases pending : state.queue with
        | nil => rfl
        | cons request rest =>
            -- The jobs that are waiting are harmless ones, which write nothing that is seen.
            obtain ⟨job, rfl, -⟩ := harmless request (by rw [pending]; exact List.mem_cons_self)
            dsimp only
            rw [serve_served]
            simp [answersOf, recordOf, phoneOf]
      · rw [(job_kept env state (.background tick ticks) trivial harmless).1]

theorem run_attended (state : State) (turns : List Turn) (reliable : ∀ next ∈ turns, Reliable next)
    (fresh : Fresh state.world turns) (harmless : Harmless state.queue) :
    answersOf phone (serveAll (server env) state turns).served =
      ((attendAll (view state.world phone) (visitsOf phone turns)).map fun response =>
        .ok (some response)).reverse ++ answersOf phone state.served := by
  induction turns generalizing state with
  | nil => rfl
  | cons next rest ih =>
      have steady := reliable next List.mem_cons_self
      have onward := ih (turn (server env) state next)
        (fun other member => reliable other (List.mem_cons_of_mem _ member))
        (fresh_turn env state next rest steady harmless fresh)
        (harmless_turn env state next steady harmless)
      show answersOf phone (serveAll (server env) (turn (server env) state next) rest).served = _
      rw [onward]
      by_cases named : ∃ caller request tick ticks, next = .visit caller request tick ticks ∧
          phoneOf request = some phone
      · obtain ⟨caller, request, tick, ticks, rfl, own⟩ := named
        obtain ⟨answers, seen⟩ := visit_attended env phone state caller request tick ticks steady
          (fresh.new _ List.mem_cons_self) own
        rw [answers, seen]
        simp [visitsOf, own, attendAll]
      · have other : ∀ caller request tick ticks, next = .visit caller request tick ticks →
            phoneOf request ≠ some phone := fun caller request tick ticks same own =>
          named ⟨caller, request, tick, ticks, same, own⟩
        obtain ⟨answers, seen⟩ := turn_other env phone state next steady harmless other
        have skipped : visitsOf phone (next :: rest) = visitsOf phone rest := by
          cases next with
          | visit caller request tick ticks =>
              simp [visitsOf, other caller request tick ticks rfl]
          | background tick ticks => rfl
        rw [answers, seen, skipped]

/-- Two runs in which nothing fails and everything drawn is new, with the same
requests for the phone at the same times and with the same codes, answer these
requests alike, whatever else they serve. -/
theorem phones_isolated (db : Db) (full kept : List Turn) (calm : Calm db full)
    (calm' : Calm db kept) (same : visitsOf phone full = visitsOf phone kept) :
    answersOf phone (serveAll (server env) (idle db) full).served =
      answersOf phone (serveAll (server env) (idle db) kept).served := by
  have empty : Harmless (idle db : State).queue := fun request member =>
    absurd member List.not_mem_nil
  have left := run_attended env phone (idle db) full calm.reliable calm.fresh empty
  have right := run_attended env phone (idle db) kept calm'.reliable calm'.fresh empty
  rw [left, right, same]

end Runs
/-! One phone signs up among others, and alone. -/

def joining (phone : String) : Request :=
  .phoneSignup { phone, code := "493021", name := "Ada Lovelace", gender := .female,
                 birthYear := 1985, deviceInfo := none }

def wantsCode (phone : String) : Request := .requestOTP { phone, purpose := .signup }

def crowded : List Visit :=
  [{ caller := 0, request := wantsCode "4155550199", present := 0, draw := "a" },
   { caller := 1, request := wantsCode "2125550123", present := 1000, draw := "b" },
   { caller := 1, request := joining "2125550123", present := 2000, draw := "c" },
   { caller := 0, request := joining "4155550199", present := 3000, draw := "d" },
   { caller := 1, request := .logout { refreshToken := "c" }, present := 4000, draw := "e" },
   { caller := 0, request := wantsCode "4155550199", present := 5000, draw := "f" }]

def alone : List Visit :=
  [{ caller := 0, request := wantsCode "4155550199", present := 0, draw := "u" },
   { caller := 0, request := joining "4155550199", present := 3000, draw := "v" },
   { caller := 0, request := wantsCode "4155550199", present := 5000, draw := "w" }]

theorem calm_visits (visits : List Visit) (distinct : visits.Pairwise fun left right =>
    left.draw ≠ right.draw) : Calm Db.empty (visits.map Visit.turn) := by
  constructor
  · intro next member
    obtain ⟨visit, -, rfl⟩ := List.mem_map.mp member
    intro n
    rw [visit.clock_turn]
    rfl
  · constructor
    · intro next _
      constructor
      · exact fun _ row member => absurd member List.not_mem_nil
      · exact fun _ row member => absurd member List.not_mem_nil
    · rw [List.pairwise_map]
      apply distinct.imp
      intro left right apart n m
      rw [left.clock_turn, right.clock_turn]
      exact ⟨apart, apart⟩

theorem visits_of (phone : String) (visits : List Visit) :
    visitsOf phone (visits.map Visit.turn) = visits.filterMap fun visit =>
      if phoneOf visit.request = some phone then
        some (visit.request, fun _ => { now := visit.present, otpCode := "493021" })
      else none := by
  rw [visitsOf, List.filterMap_map]
  congr 1
  funext visit
  have moments : (fun n => momentOf (visit.turn.clock n)) =
      fun _ => { now := visit.present, otpCode := "493021" } := by
    funext n
    rw [visit.clock_turn]
    rfl
  rw [← moments]
  rfl

theorem same_visits : visitsOf "4155550199" (crowded.map Visit.turn) =
    visitsOf "4155550199" (alone.map Visit.turn) := by
  rw [visits_of, visits_of]
  rfl

theorem phones_isolated_alone :
    (answersOf "4155550199"
        (serveAll (server sampleEnv) (idle Db.empty) (crowded.map Visit.turn)).served).length = 3 ∧
      answersOf "4155550199"
          (serveAll (server sampleEnv) (idle Db.empty) (crowded.map Visit.turn)).served =
        answersOf "4155550199"
          (serveAll (server sampleEnv) (idle Db.empty) (alone.map Visit.turn)).served :=
  ⟨by decide, phones_isolated sampleEnv "4155550199" Db.empty (crowded.map Visit.turn)
    (alone.map Visit.turn) (calm_visits crowded (by decide)) (calm_visits alone (by decide))
    same_visits⟩

end TopInspect.PhoneIsolation
