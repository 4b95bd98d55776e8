import TopInspect.AccountContract
import TopInspect.HandlerExits

/-! What the answer of a request says about the tables. After an error the
accounts are as they were, after a success one account and one of its sessions
may have changed. The one exit apart: an account is written first and its
session refused after, because what was drawn for the session is taken. -/
namespace TopInspect.AnswerEffects

open Resumption AuthSchema AuthStatements AuthHandlers AUTH_CONFIG AuthExecution OtpVerification
open OtpServing SteadyServing HandlerExits RowTable AccountContract
open Serial hiding Run Served State Turn

/-- The tables of the accounts are as before, the codes too but for the own phone. -/
structure Untouched (own : Option String) (before after : Db) : Prop where
  tables : SameTables after before
  otps : ∀ phone, own ≠ some phone → after.findOtp phone = before.findOtp phone

/-- The account of one id and one session of it may differ, and the own phone's code. -/
structure Confined (own : Option String) (authId sessionId : String)
    (before after : Db) : Prop where
  otps : ∀ phone, own ≠ some phone → after.findOtp phone = before.findOtp phone
  auth : ∀ row : Auth, row.id ≠ authId → (row ∈ after.auth.rows ↔ row ∈ before.auth.rows)
  users : ∀ user : User, user.id ≠ authId → (user ∈ after.users.rows ↔ user ∈ before.users.rows)
  tokens : ∀ row : Token, ¬ (row.id = sessionId ∧ row.authId = authId) →
    (row ∈ after.tokens.rows ↔ row ∈ before.tokens.rows)

def isError (response : Response) : Bool :=
  match response.body with
  | .error _ _ => true
  | _ => false

/-- What an answer promises about the tables. A request that throws is answered with an error. -/
def Intact (own : Option String) (before after : Db) : Reply → Prop
  | .error _ => Untouched own before after
  | .ok response =>
      if isError response then Untouched own before after
      else ∃ authId sessionId, Confined own authId sessionId before after

structure Fills (db : Db) (existingAuth : Auth) (email : String) : Prop where
  profile : db.findUser existingAuth.id ≠ none
  bare : (truthy existingAuth.email).isSome = false
  differs : existingAuth.email ≠ some email
  free : ∀ other ∈ db.auth.rows, other.id ≠ existingAuth.id → other.email ≠ some email

/-- An account is written before a session whose id or token is taken. -/
def Collides (env : Env) (db : Db) (clock : Nat → Tick) : Request → Prop
  | .phoneSignup body =>
      judge body.code (clock 1).now (db.findOtp body.phone) = .right ∧
        (∀ old ∈ db.auth.rows, ¬ Auth.Clash old (phoneRow clock body)) ∧ Taken db (clock 5)
  | .oauthSignup body =>
      ((∀ old ∈ db.auth.rows, ¬ Auth.Clash old (oauthRow clock body)) ∧ Taken db (clock 4)) ∨
        ∃ existingAuth, db.findAuth body.provider.toProvider body.providerId = some existingAuth ∧
          Fills db existingAuth body.email ∧ Taken db (clock 3)
  | .oauthSignIn provider body =>
      ∃ providerId email existingAuth, Verified env (clock 0).now provider body providerId email ∧
        db.findAuth provider.toProvider providerId = some existingAuth ∧
        Fills db existingAuth email ∧ Taken db (clock 3)
  | _ => False

section Effects
variable {own : Option String} {before middle after : Db}

theorem Untouched.refl (own : Option String) (db : Db) : Untouched own db db := by
  constructor
  · exact .refl db
  · exact fun _ _ => rfl

theorem untouched_intact (untouched : Untouched own before after) (reply : Reply) :
    Intact own before after reply := by
  have confined : Confined own "" "" before after := by
    constructor
    · exact untouched.otps
    · simp [untouched.tables.auth]
    · simp [untouched.tables.users]
    · simp [untouched.tables.tokens]
  cases reply with
  | error error => exact untouched
  | ok response =>
      by_cases error : isError response = true
      · simpa only [Intact, error, if_true] using untouched
      · simp only [Intact, error]
        exact ⟨"", "", confined⟩

theorem success_intact (response : Response) (success : isError response = false)
    (authId sessionId : String) (confined : Confined own authId sessionId before after) :
    Intact own before after (.ok response) := by
  simp only [Intact, success]
  exact ⟨authId, sessionId, confined⟩

theorem judged_untouched (phone : String) (verdict : Verdict)
    (judged : Judged phone verdict before after) : Untouched (some phone) before after := by
  constructor
  · exact judged.tables
  · intro other apart
    rw [judged.otps other, if_neg]
    rintro rfl
    exact apart rfl

theorem signed_confined (session : Token) (start : Untouched own before middle)
    (stored : Signed session middle after) :
    Confined own session.authId session.id before after := by
  constructor
  · intro phone apart
    rw [Db.findOtp, stored.otps]
    exact start.otps phone apart
  · simp [stored.auth, start.tables.auth]
  · simp [stored.users, start.tables.users]
  · intro row other
    rw [stored.tokens, start.tables.tokens, List.mem_append, List.mem_singleton]
    constructor
    · rintro (old | rfl)
      · exact old
      · exact absurd ⟨rfl, rfl⟩ other
    · exact Or.inl

theorem untaken (session : Token) (tick : Tick) (authId : String)
    (drawn : Drawn tick authId session) (stored : Signed session before after) :
    ¬ Taken before tick := by
  rintro ⟨old, member, same⟩
  have distinct := after.tokens.distinct
  rw [stored.tokens, List.pairwise_append] at distinct
  apply distinct.2.2 old member session (List.mem_singleton_self session)
  rw [Token.Clash, drawn.id, drawn.token]
  exact same

theorem joined_confined (row : Auth) (user : User) (session : Token) (opened : Db)
    (start : Untouched own before middle) (added : Opened row user middle opened)
    (same : user.id = row.id) (owns : session.authId = row.id)
    (stored : Signed session opened after) :
    Confined own row.id session.id before after := by
  constructor
  · intro phone apart
    rw [Db.findOtp, stored.otps, added.otps]
    exact start.otps phone apart
  · intro other apart
    rw [stored.auth, added.auth, start.tables.auth, List.mem_append, List.mem_singleton]
    constructor
    · rintro (old | rfl)
      · exact old
      · exact absurd rfl apart
    · exact Or.inl
  · intro other apart
    rw [stored.users, added.users, start.tables.users, List.mem_append, List.mem_singleton]
    constructor
    · rintro (old | rfl)
      · exact old
      · exact absurd same apart
    · exact Or.inl
  · intro other apart
    rw [stored.tokens, added.tokens, start.tables.tokens, List.mem_append, List.mem_singleton]
    constructor
    · rintro (old | rfl)
      · exact old
      · exact absurd ⟨rfl, owns⟩ apart
    · exact Or.inl

theorem create_intact (clock : Nat → Tick) (row : Auth) (user : User) (reply : Reply)
    (start : Untouched own before middle) (same : user.id = row.id)
    (exits : CreateExit middle clock row user reply after) :
    Intact own before after reply ↔
      ¬ ((∀ old ∈ before.auth.rows, ¬ Auth.Clash old row) ∧ Taken before (clock 2)) := by
  have sessions : Taken middle (clock 2) = Taken before (clock 2) := by
    rw [Taken, Taken, start.tables.tokens]
  -- The account is refused, or it is stored and the session refused, or both are stored.
  cases exits with
  | clash error taken =>
      obtain ⟨old, member, clash⟩ := taken
      rw [start.tables.auth] at member
      constructor
      · exact fun _ both => both.1 old member clash
      · exact fun _ => untouched_intact start _
  | unsigned error after apart opened taken =>
      rw [start.tables.auth] at apart
      constructor
      · intro intact
        have kept := congrArg Table.rows (show Untouched own before after from intact).tables.auth
        rw [opened.auth, start.tables.auth] at kept
        exact absurd kept (by simp)
      · exact fun clear => absurd ⟨apart, sessions ▸ taken⟩ clear
  | signed session opened after access refresh apart added drawn stored =>
      constructor
      · rintro - ⟨-, taken⟩
        apply untaken session (clock 2) row.id drawn stored
        obtain ⟨old, member, clash⟩ := sessions ▸ taken
        exact ⟨old, added.tokens ▸ member, clash⟩
      · exact fun _ => success_intact _ rfl row.id session.id
          (joined_confined row user session opened start added same drawn.authId stored)

theorem filled_confined (row : Auth) (email : String) (session : Token)
    (filled : before.updateAuthEmail row.id email = .ok middle) (owns : session.authId = row.id)
    (stored : Signed session middle after) : Confined own row.id session.id before after := by
  obtain ⟨rows, users, otps, tokens⟩ := before.update_auth_email middle row.id email filled
  constructor
  · intro phone _
    rw [Db.findOtp, stored.otps, otps]
    rfl
  · intro other apart
    rw [stored.auth, rows, List.mem_map]
    constructor
    · rintro ⟨old, member, rfl⟩
      by_cases same : old.id = row.id
      · exact absurd (by simp [Table.rewrite, same]) apart
      · simpa [Table.rewrite, same] using member
    · exact fun member => ⟨other, member, by simp [Table.rewrite, apart]⟩
  · simp [stored.users, users]
  · intro other apart
    rw [stored.tokens, tokens, List.mem_append, List.mem_singleton]
    constructor
    · rintro (old | rfl)
      · exact old
      · exact absurd ⟨rfl, owns⟩ apart
    · exact Or.inl

theorem filled_untouched (row : Auth) (email : String) (stored : row ∈ before.auth.rows)
    (filled : before.updateAuthEmail row.id email = .ok middle) :
    Untouched own before middle ↔ row.email = some email := by
  obtain ⟨rows, users, otps, tokens⟩ := before.update_auth_email middle row.id email filled
  constructor
  · intro untouched
    have own : ({ row with email := some email } : Auth) ∈ middle.auth.rows := by
      rw [rows]
      exact List.mem_map.mpr ⟨row, stored, by simp [Table.rewrite]⟩
    rw [untouched.tables.auth] at own
    have same := before.auth_id_inj row _ stored own rfl
    rw [same]
  · intro same
    have kept : ∀ old ∈ before.auth.rows, Table.rewrite (fun row' => row'.id = row.id)
        (fun row' => { row' with email := some email }) old = old := by
      intro old member
      by_cases key : old.id = row.id
      · obtain rfl := before.auth_id_inj old row member stored key
        simp [Table.rewrite, ← same]
      · simp [Table.rewrite, key]
    constructor
    · exact ⟨Table.ext_rows _ _ (rows.trans ((List.map_congr_left kept).trans (List.map_id _))),
        users, tokens⟩
    · intro phone _
      rw [Db.findOtp, otps]
      rfl

theorem open_intact (clock : Nat → Tick) (row : Auth) (member : row ∈ before.auth.rows)
    (email : String) (reply : Reply) (exits : OpenExit before clock row email reply after) :
    Intact own before after reply ↔ ¬ (Fills before row email ∧ Taken before (clock 2)) := by
  have kept := untouched_intact (Untouched.refl own before)
  -- Only an address that is filled in before the session is refused leaves something behind.
  cases exits with
  | incomplete missing => exact iff_of_true (kept _) fun both => both.1.profile missing
  | unsigned error user profile held taken =>
      apply iff_of_true (kept _)
      rintro ⟨fills, -⟩
      rw [fills.bare] at held
      cases held
  | signed session after access refresh user profile held drawn stored =>
      apply iff_of_true (success_intact _ rfl _ _
        (signed_confined session (Untouched.refl own before) stored))
      rintro ⟨fills, -⟩
      rw [fills.bare] at held
      cases held
  | unfilled error user profile bare refused =>
      apply iff_of_true (kept _)
      rintro ⟨fills, -⟩
      obtain ⟨filled, updated⟩ := before.update_auth_email_ok row.id email fills.free
      rw [refused] at updated
      cases updated
  | filledUnsigned error middle user profile bare filled taken =>
      have free := before.update_auth_email_apart _ row email member filled
      constructor
      · rintro intact ⟨fills, -⟩
        exact fills.differs ((filled_untouched row email member filled).mp intact)
      · intro clear
        apply (filled_untouched row email member filled).mpr
        by_contra differs
        exact clear ⟨⟨by simp [profile], bare, differs, free⟩, taken⟩
  | filledSigned session middle after access refresh user profile bare filled drawn stored =>
      apply iff_of_true (success_intact _ rfl _ _
        (filled_confined row email session filled drawn.authId stored))
      rintro ⟨-, old, present, same⟩
      obtain ⟨-, -, -, tokens⟩ := before.update_auth_email middle row.id email filled
      exact untaken session (clock 2) row.id drawn stored ⟨old, tokens ▸ present, same⟩

theorem amended_confined (token : Token) (change : Token → Token)
    (keeps : ∀ row, (change row).authId = row.authId) (ids : ∀ row, (change row).id = row.id)
    (stored : token ∈ before.tokens.rows)
    (amended : before.amendTokens (fun row => row.token = token.token) change keeps = .ok after) :
    Confined own token.authId token.id before after := by
  obtain ⟨rows, auth, users, otps⟩ := before.amend_tokens after _ change keeps amended
  have only : ∀ old ∈ before.tokens.rows, old.token = token.token → old = token :=
    fun old member same =>
    RowTable.Table.eq_of_key Token.token (fun _ _ equal => Or.inr equal) before.tokens old
      token member stored same
  constructor
  · intro phone _
    rw [Db.findOtp, otps]
    rfl
  · simp [auth]
  · simp [users]
  · intro other apart
    rw [rows, List.mem_map]
    constructor
    · rintro ⟨old, member, rfl⟩
      by_cases same : old.token = token.token
      · obtain rfl := only old member same
        simp [Table.rewrite, ids, keeps] at apart
      · simpa [Table.rewrite, same] using member
    · intro member
      refine ⟨other, member, ?_⟩
      have another : other.token ≠ token.token := by
        intro same
        obtain rfl := only other member same
        exact apart ⟨rfl, rfl⟩
      simp [Table.rewrite, another]

end Effects

section Requests
variable {env : Env} {db after : Db} {clock : Nat → Tick} {reply : Reply}

theorem sent_untouched (body : OtpRequest) (row : Otp) (own : row.phone = body.phone)
    (stored : db.upsertOtp row = .ok after) : Untouched (some body.phone) db after := by
  obtain ⟨other, upserted, auth, users, tokens, lookup⟩ := db.upsert_otp row
  obtain rfl : other = after := Except.ok.inj (upserted.symm.trans stored)
  constructor
  · exact ⟨auth, users, tokens⟩
  · intro phone apart
    rw [lookup, if_neg]
    rintro rfl
    exact apart (congrArg some own.symm)

theorem send_intact (body : OtpRequest) (exits : SendExit db clock body reply after) :
    Intact (some body.phone) db after reply := by
  cases exits with
  | sent after settled fits stored => exact untouched_intact (sent_untouched body _ rfl stored) _
  | _ => exact untouched_intact (.refl _ db) _

theorem refused_wrong (verdict : Verdict) (errorCode : OtpErrorCode) (error : String)
    (fails : resultOf verdict = .failure errorCode error) : verdict ≠ .right := by
  rintro rfl
  cases fails

theorem sign_up_intact (body : PhoneSignupRequest) (exits : SignUpExit db clock body reply after) :
    Intact (some body.phone) db after reply ↔ ¬ Collides env db clock (.phoneSignup body) := by
  -- An account that is there already clashes with the one that would be created.
  have present : ∀ row, db.findAuth .phone body.phone = some row →
      ¬ Collides env db clock (.phoneSignup body) := by
    rintro row found ⟨-, apart, -⟩
    obtain ⟨member, provider, identifier⟩ := db.find_auth_mem _ _ row found
    exact apart row member (Or.inr (Or.inl ⟨provider, identifier⟩))
  cases exits with
  | code reply after refused =>
      cases refused with
      | refused after errorCode error fails judged =>
          apply iff_of_true (untouched_intact (judged_untouched body.phone _ judged) _)
          exact fun collides => refused_wrong _ errorCode error fails collides.1
  | known after row user accepted found profile =>
      exact iff_of_true (untouched_intact (judged_untouched body.phone _ accepted.judged) _)
        (present row found)
  | incomplete after row accepted found missing =>
      exact iff_of_true (untouched_intact (judged_untouched body.phone _ accepted.judged) _)
        (present row found)
  | creates middle reply after accepted absent exits =>
      rw [create_intact _ _ _ reply (judged_untouched body.phone _ accepted.judged) rfl exits,
        not_iff_not]
      constructor
      · rintro ⟨apart, taken⟩
        exact ⟨accepted.right, apart, taken⟩
      · rintro ⟨-, apart, taken⟩
        exact ⟨apart, taken⟩

theorem sign_in_intact (body : PhoneSignInRequest) (exits : SignInExit db clock body reply after) :
    Intact (some body.phone) db after reply := by
  cases exits with
  | code reply after refused =>
      cases refused with
      | refused after errorCode error fails judged =>
          exact untouched_intact (judged_untouched body.phone _ judged) _
  | signed session middle after access refresh row user accepted found profile drawn stored =>
      exact success_intact _ rfl _ _
        (signed_confined session (judged_untouched body.phone _ accepted.judged) stored)
  | unknown after accepted =>
      exact untouched_intact (judged_untouched body.phone _ accepted.judged) _
  | incomplete after row accepted =>
      exact untouched_intact (judged_untouched body.phone _ accepted.judged) _
  | unsigned error after row user accepted =>
      exact untouched_intact (judged_untouched body.phone _ accepted.judged) _

theorem oauth_sign_in_intact (provider : OAuthProvider) (body : OAuthSignInRequest)
    (exits : OAuthSignInExit db clock env provider body reply after) :
    Intact none db after reply ↔ ¬ Collides env db clock (.oauthSignIn provider body) := by
  have kept := untouched_intact (Untouched.refl none db)
  -- An ID token has one subject and one address.
  have only : ∀ first second email other,
      Verified env (clock 0).now provider body first email →
      Verified env (clock 0).now provider body second other → first = second ∧ email = other := by
    rintro first second email other ⟨claims, verified, sub, named⟩ ⟨again, same, sub', named'⟩
    obtain rfl := Except.ok.inj (verified.symm.trans same)
    exact ⟨Option.some.inj (sub.symm.trans sub'), Option.some.inj (named.symm.trans named')⟩
  cases exits with
  | rejected text unverified =>
      apply iff_of_true (kept _)
      rintro ⟨providerId, email, row, verified, -⟩
      exact unverified providerId email verified
  | opens providerId email row reply after verified found exits =>
      rw [open_intact _ row (db.find_auth_mem _ _ row found).1 email reply exits, not_iff_not]
      constructor
      · rintro ⟨fills, taken⟩
        exact ⟨providerId, email, row, verified, found, fills, taken⟩
      · rintro ⟨other, address, owner, verified', found', fills, taken⟩
        obtain ⟨rfl, rfl⟩ := only _ _ _ _ verified verified'
        obtain rfl := Option.some.inj (found.symm.trans found')
        exact ⟨fills, taken⟩
  | conflict providerId email refusal verified absent refuses =>
      apply iff_of_true (kept _)
      rintro ⟨other, address, owner, verified', found', -⟩
      obtain ⟨rfl, rfl⟩ := only _ _ _ _ verified verified'
      rw [absent] at found'
      cases found'
  | invited providerId email verified absent apart =>
      apply iff_of_true (kept _)
      rintro ⟨other, address, owner, verified', found', -⟩
      obtain ⟨rfl, rfl⟩ := only _ _ _ _ verified verified'
      rw [absent] at found'
      cases found'

theorem oauth_sign_up_intact (body : OAuthSignupRequest)
    (exits : OAuthSignUpExit db clock body reply after) :
    Intact none db after reply ↔ ¬ Collides env db clock (.oauthSignup body) := by
  have kept := untouched_intact (Untouched.refl none db)
  cases exits with
  | opens row reply after found exits =>
      obtain ⟨member, provider, identifier⟩ := db.find_auth_mem _ _ row found
      rw [open_intact _ row member body.email reply exits, not_iff_not]
      constructor
      · rintro ⟨fills, taken⟩
        exact Or.inr ⟨row, found, fills, taken⟩
      · rintro (⟨apart, -⟩ | ⟨owner, found', fills, taken⟩)
        · exact absurd (Or.inr (Or.inl ⟨provider, identifier⟩)) (apart row member)
        · obtain rfl := Option.some.inj (found.symm.trans found')
          exact ⟨fills, taken⟩
  | conflict refusal absent refuses =>
      apply iff_of_true (kept _)
      rintro (⟨apart, -⟩ | ⟨owner, found', -⟩)
      · cases holder : db.findAuthByEmail body.email with
        | none =>
            rw [holder] at refuses
            cases refuses
        | some row =>
            obtain ⟨member, own⟩ := db.find_auth_email body.email row holder
            exact apart row member (Or.inr (Or.inr ⟨by simp [own], own⟩))
      · rw [absent] at found'
        cases found'
  | creates reply after absent apart exits =>
      rw [create_intact _ _ _ reply (.refl none db) rfl exits, not_iff_not]
      constructor
      · rintro ⟨apart, taken⟩
        exact Or.inl ⟨apart, taken⟩
      · rintro (⟨apart, taken⟩ | ⟨owner, found', -⟩)
        · exact ⟨apart, taken⟩
        · rw [absent] at found'
          cases found'

theorem refresh_intact (body : RefreshTokensRequest)
    (exits : RefreshExit db clock body reply after) :
    Intact none db after reply := by
  cases exits with
  | rotated token access expiresAt lastUsedAt after found stored =>
      obtain ⟨member, same⟩ := (db.find_token_mem _ _).mp found
      rw [← same] at stored
      exact success_intact _ rfl _ _ (amended_confined token (fun row =>
        { row with token := (clock 2).refreshToken, expiresAt, lastUsedAt }) (fun _ => rfl)
        (fun _ => rfl) member stored)
  | _ => exact untouched_intact (.refl none db) _

theorem logout_intact (body : LogoutRequest) (exits : LogoutExit db body reply after) :
    Intact none db after reply := by
  cases exits with
  | revoked token revokedAt after found stored =>
      obtain ⟨member, same⟩ := (db.find_token_mem _ _).mp found
      rw [← same] at stored
      exact success_intact _ rfl _ _ (amended_confined token (fun row =>
        { row with revokedAt := some revokedAt }) (fun _ => rfl) (fun _ => rfl) member stored)
  | invalid => exact untouched_intact (.refl none db) _

theorem exits_intact (request : Request) (exits : Exits env db clock request reply after) :
    Intact (phoneOf request) db after reply ↔ ¬ Collides env db clock request := by
  cases request with
  | requestOTP body => exact iff_of_true (send_intact body exits) not_false
  | phoneSignup body => exact sign_up_intact body exits
  | phoneSignIn body => exact iff_of_true (sign_in_intact body exits) not_false
  | oauthSignIn provider body => exact oauth_sign_in_intact provider body exits
  | oauthSignup body => exact oauth_sign_up_intact body exits
  | refreshTokens body => exact iff_of_true (refresh_intact body exits) not_false
  | logout body => exact iff_of_true (logout_intact body exits) not_false
  | background job => cases exits

end Requests

section Runs
variable (env : Env)

/-- In every state that requests served one after another reach, a further one
leaves behind what its answer says exactly when it does not collide. -/
theorem answers_intact (db : Db) (turns : List Turn) (reliable : ∀ next ∈ turns, Reliable next)
    (caller : Nat) (request : Request) (tick : Tick) (ticks : Nat → Tick)
    (asked : external request = true) (steady : Reliable (.visit caller request tick ticks))
    (jobs : List Turn) (background : ∀ next ∈ jobs, Background next) :
    let before : State := serveAll (server env) (idle db) turns
    let visited : State := serve (server env) before (some caller) request tick ticks
    let after : State := serveAll (server env) visited jobs
    ∃ reply, (recordOf env before (some caller) request tick ticks).result = reply.map some ∧
      (Intact (phoneOf request) before.world after.world reply ↔
        ¬ Collides env before.world (Turn.clock (.visit caller request tick ticks : Turn))
          request) := by
  intro before visited after
  have harmless : Harmless before.queue :=
    harmless_run env (idle db) turns reliable fun request member => absurd member List.not_mem_nil
  obtain ⟨reply, answers, exits, queue⟩ :=
    serve_exits env before caller request tick ticks asked steady
  have kept : after.world = visited.world := jobs_kept env visited jobs background (queue harmless)
  rw [kept]
  exact ⟨reply, answers, exits_intact request exits⟩

end Runs

/-! Two sign-ups; the second one draws the refresh token of the first again. -/

def joins (providerId email : String) : Request :=
  .oauthSignup { provider := .google, providerId, email, name := "Ada", gender := .female,
                 birthYear := 1990, deviceInfo := none }

def joined : List Turn :=
  [.visit 0 (joins "g1" "ada@example.com") (tickAt 0 "a") fun _ => tickAt 0 "a"]

def drawing (session : String) : Nat → Tick
  | 3 => tickAt 1000 session
  | _ => tickAt 1000 "b"

def before : State := serveAll (server sampleEnv) (idle Db.empty) joined

def jobs : List Turn := List.replicate 2 (.background (tickAt 2000 "c") fun _ => tickAt 2000 "c")

def visited (session : String) : State :=
  serve (server sampleEnv) before (some 1) (joins "g2" "grace@example.com") (tickAt 1000 "b")
    (drawing session)

theorem drawing_reliable (session : String) :
    Reliable (.visit 1 (joins "g2" "grace@example.com") (tickAt 1000 "b") (drawing session)) := by
  intro n
  cases n with
  | zero => rfl
  | succ n =>
      show (drawing session n).outage = .none
      unfold drawing
      split <;> rfl

theorem joined_reliable : ∀ next ∈ joined, Reliable next := by
  intro next member
  obtain rfl := List.mem_singleton.mp member
  intro n
  cases n <;> rfl

theorem answers_intact_fresh :
    ∃ reply, (recordOf sampleEnv before (some 1) (joins "g2" "grace@example.com") (tickAt 1000 "b")
        (drawing "c")).result = reply.map some ∧
      Intact none before.world (serveAll (server sampleEnv) (visited "c") jobs).world reply := by
  obtain ⟨reply, answers, intact⟩ := answers_intact sampleEnv Db.empty joined joined_reliable 1
    (joins "g2" "grace@example.com") (tickAt 1000 "b") (drawing "c") rfl (drawing_reliable "c") jobs
    (by simp [jobs, Background])
  refine ⟨reply, answers, intact.mpr ?_⟩
  rintro (⟨-, taken⟩ | ⟨row, found, -⟩)
  · exact absurd taken (by decide)
  · have absent : before.world.findAuth .google "g2" = none := by decide
    cases found.symm.trans absent

/-- The second sign-up is answered with an error, and its account stays. -/
theorem error_leaves_account :
    Reliable (.visit 1 (joins "g2" "grace@example.com") (tickAt 1000 "b") (drawing "a")) ∧
      ∃ reply, (recordOf sampleEnv before (some 1) (joins "g2" "grace@example.com")
          (tickAt 1000 "b") (drawing "a")).result = reply.map some ∧
        ¬ Intact none before.world (serveAll (server sampleEnv) (visited "a") jobs).world
        reply := by
  constructor
  · exact drawing_reliable "a"
  · refine ⟨.error .duplicateKey, by decide, fun intact => ?_⟩
    have kept : (serveAll (server sampleEnv) (visited "a") jobs).world.auth = before.world.auth :=
      (show Untouched none _ _ from intact).tables.auth
    have grown : ((serveAll (server sampleEnv) (visited "a") jobs).world.auth.rows.map
        Auth.identifier) = ["g1", "g2"] := by decide
    rw [kept] at grown
    exact absurd grown (by decide)

end TopInspect.AnswerEffects
