import TopInspect.AuthExecution
import TopInspect.OtpVerification
import TopInspect.SessionPaths

/-! Sessions served one request at a time without outages: what a sign-in, a
refresh and a logout make of the tokens table, and what they answer. -/
namespace TopInspect.SessionServing

open Resumption AuthSchema AuthStatements AuthHandlers AUTH_CONFIG AuthExecution OtpVerification
open SessionPaths RowTable
open Serial hiding Run Served State Turn

/-- Every tick of the run shows one instant on both clocks. -/
def Instant (present : Time) (run : Run) : Prop :=
  ∀ n, (run.clock n).now = present ∧ (run.clock n).dbNow = present

theorem instant_exec {α : Type} (program : Handler α) (run : Run) (present : Time)
    (instant : Instant present run) : Instant present (exec perform program run).2 := by
  obtain ⟨spent, moves⟩ := finish_clock perform (program run.tick) run
  intro n
  rw [show (exec perform program run).2.clock n = run.clock (n + spent) from moves n]
  exact instant _

def writtenToken : Statement → Option String
  | .insertToken _ _ token _ _ => some token
  | .rotateToken _ newToken _ _ => some newToken
  | _ => none

def generated (log : List Step) : List String := log.filterMap fun event => writtenToken event.query

/-- Statements that change the tokens table, now or by a job. -/
def Disturbs : Statement → Prop
  | .insertToken _ _ _ _ _ => True
  | .rotateToken _ _ _ _ => True
  | .revokeToken _ _ => True
  | .deleteAuth _ => True
  | .waitUntil (.deleteAuth _) => True
  | _ => False

def cleanup : Statement → Option String
  | .waitUntil (.deleteAuth id) => some id
  | _ => none

/-- No job that deletes an auth row is handed over. -/
def Calm (history : List Step) : Prop := ∀ event ∈ history, cleanup event.query = none

structure NewSession (present : Time) (token : String) (row : Token) : Prop where
  token : row.token = token
  live : row.revokedAt = none
  used : row.lastUsedAt = present
  expires : row.expiresAt = present + days REFRESH_TOKEN_EXPIRY_DAYS

/-- What a sign-in program may do: add one session and answer with its token, or
leave the table alone and answer without one. -/
structure Issues (present : Time) (run : Run) (outcome : Except DbError Response × Run) : Prop where
  log : ∃ history, outcome.2.log = run.log ++ history ∧ Calm history ∧
    ((outcome.2.world.tokens.rows = run.world.tokens.rows ∧
      ∀ response access token, outcome.1 = .ok response → response.body ≠ .tokens access token) ∨
    ∃ response access token row, outcome.1 = .ok response ∧ response.body = .tokens access token ∧
      outcome.2.world.tokens.rows = run.world.tokens.rows ++ [row] ∧
      NewSession present token row ∧ token ∈ generated history)

def Issuing (program : Handler Response) : Prop :=
  ∀ present run, Steady run → Instant present run → Issues present run (exec perform program run)

theorem issuing_pure (response : Response)
    (plain : ∀ access token, response.body ≠ .tokens access token) :
    Issuing (pure response) := by
  intro present run _ _
  refine ⟨[], by simp, by simp [Calm], Or.inl ⟨rfl, ?_⟩⟩
  intro other access token same
  obtain rfl : response = other := by simpa using same
  exact plain access token

theorem disturbs_cleanup (statement : Statement) (calm : ¬ Disturbs statement) :
    cleanup statement = none := by
  cases statement with
  | waitUntil job =>
      cases job with
      | deleteAuth id => exact absurd trivial calm
      | _ => rfl
  | _ => rfl

theorem disturbs_tokens (tick : Tick) (statement : Statement) (db : Db)
    (calm : ¬ Disturbs statement) :
    (perform tick statement db).2.tokens.rows = db.tokens.rows := by
  rcases perform_tokens tick statement db with same | same
  · exact same
  · rw [same]
    cases statement with
    | insertToken id authId token expiresAt deviceInfo => exact absurd trivial calm
    | rotateToken token newToken expiresAt lastUsedAt => exact absurd trivial calm
    | revokeToken token revokedAt => exact absurd trivial calm
    | deleteAuth id => exact absurd trivial calm
    | _ => rfl

theorem issuing_quiet (program : Handler Response) (quiet : Avoids Disturbs program)
    (plain : Plain program) : Issuing program := by
  intro present run _ _
  obtain ⟨history, grows, silent⟩ := exec_log perform Disturbs program run quiet
  refine ⟨history, grows, fun event member => disturbs_cleanup _ (silent event member),
    Or.inl ⟨?_, plain run⟩⟩
  exact exec_keeps perform (fun db => db.tokens.rows) Disturbs
    (fun tick statement db calm => disturbs_tokens tick statement db calm) program run quiet

theorem generated_append (left right : List Step) :
    generated (left ++ right) = generated left ++ generated right := by
  simp [generated]

theorem issuing_bind {α : Type} (program : Handler α) (next : α → Handler Response)
    (first : Avoids Disturbs program) (second : ∀ value, Issuing (next value)) :
    Issuing (program >>= next) := by
  intro present run steady instant
  obtain ⟨before, grows, silent⟩ := exec_log perform Disturbs program run first
  have kept := exec_keeps perform (fun db => db.tokens.rows) Disturbs
    (fun tick statement db calm => disturbs_tokens tick statement db calm) program run first
  have calm : Calm before := fun event member => disturbs_cleanup _ (silent event member)
  have later := steady_exec program run steady
  have still := instant_exec program run present instant
  rw [exec_bind]
  rcases result : exec perform program run with ⟨error | value, last⟩
  · rw [result] at grows kept
    exact ⟨before, grows, calm, Or.inl ⟨kept, by simp⟩⟩
  · rw [result] at grows kept later still
    obtain ⟨history, extends_, quiet, outcome⟩ := second value present last later still
    refine ⟨before ++ history, by rw [extends_, grows, List.append_assoc], ?_, ?_⟩
    · intro event member
      rcases List.mem_append.mp member with old | new
      · exact calm event old
      · exact quiet event new
    · have rows : last.world.tokens.rows = run.world.tokens.rows := kept
      rw [rows] at outcome
      rcases outcome with plain | ⟨response, access, token, row, answered, body, added, session,
        written⟩
      · exact Or.inl plain
      · refine Or.inr ⟨response, access, token, row, answered, body, added, session, ?_⟩
        rw [generated_append]
        exact List.mem_append_right _ written

def accessFor (authId : String) (present : Time) : AccessToken :=
  { sub := authId, iat := present / 1000, exp := present / 1000 + ACCESS_TOKEN_EXPIRY_MINUTES * 60 }

def issueRow (authId : String) (deviceInfo : Option DeviceInfo) (tick : Tick) : Statement :=
  .insertToken tick.id authId tick.refreshToken
    (tick.now + days REFRESH_TOKEN_EXPIRY_DAYS) deviceInfo

theorem issue_exec (authId : String) (deviceInfo : Option DeviceInfo) (run : Run)
    (steady : Steady run) :
    (∃ error, (exec perform (issueTokens authId deviceInfo) run).1 = .error error ∧
      (run.after perform (issueRow authId deviceInfo run.tick)).world = run.world) ∨
    ∃ row, (exec perform (issueTokens authId deviceInfo) run).1 =
        .ok (accessFor authId run.tick.now, run.tick.refreshToken) ∧
      (run.after perform (issueRow authId deviceInfo run.tick)).world.tokens.rows =
        run.world.tokens.rows ++ [row] ∧
      row.token = run.tick.refreshToken ∧ row.revokedAt = none ∧
      row.lastUsedAt = (run.ticks 0).dbNow ∧
      row.expiresAt = run.tick.now + days REFRESH_TOKEN_EXPIRY_DAYS := by
  have calm : (run.ticks 0).outage = .none := steady 0
  simp only [issueTokens, generateAccessToken, insertToken, exec_bind, exec_now, exec_pure,
    exec_generate_refresh_token, exec_days_from_now, exec_create_id, exec_call]
  cases executed : run.world.insertToken (newToken (run.ticks 0) run.tick.id authId
      run.tick.refreshToken (run.tick.now + days REFRESH_TOKEN_EXPIRY_DAYS) deviceInfo) with
  | error error =>
      have refused : perform (run.ticks 0) (issueRow authId deviceInfo run.tick) run.world =
          (.error error, run.world) :=
        perform_throws _ _ _ _ calm (by simp only [issueRow, execute, executed, Except.map])
      refine Or.inl ⟨error, ?_, congrArg Prod.snd refused⟩
      rw [show (perform (run.ticks 0) (.insertToken _ _ _ _ _) run.world).1 = .error error from
        congrArg Prod.fst refused]
  | ok after =>
      have inserted : perform (run.ticks 0) (issueRow authId deviceInfo run.tick) run.world =
          (.ok (), after) :=
        perform_steady _ (issueRow authId deviceInfo run.tick) _ _ () calm
          (by simp only [issueRow, execute, executed, Except.map])
      refine Or.inr ⟨newToken (run.ticks 0) run.tick.id authId run.tick.refreshToken
        (run.tick.now + days REFRESH_TOKEN_EXPIRY_DAYS) deviceInfo, ?_, ?_, rfl, rfl, rfl, rfl⟩
      · rw [show (perform (run.ticks 0) (.insertToken _ _ _ _ _) run.world).1 = .ok () from
          congrArg Prod.fst inserted]
        rfl
      · rw [show (run.after perform (issueRow authId deviceInfo run.tick)).world = after from
          congrArg Prod.snd inserted]
        exact (run.world.insert_token after _ executed).1

theorem issue_run (authId : String) (deviceInfo : Option DeviceInfo) (run : Run) :
    (exec perform (issueTokens authId deviceInfo) run).2 =
      run.after perform (issueRow authId deviceInfo run.tick) := by
  simp only [issueTokens, generateAccessToken, insertToken, exec_bind, exec_now, exec_pure,
    exec_generate_refresh_token, exec_days_from_now, exec_create_id, exec_call]
  split <;> next same => exact (Prod.mk.inj same).2.symm

theorem issuing_tokens (authId : String) (deviceInfo : Option DeviceInfo)
    (next : AccessToken × String → Handler Response) (quiet : ∀ pair, Avoids Disturbs (next pair))
    (closes : ∀ pair run, ∃ response, (exec perform (next pair) run).1 = .ok response ∧
      response.body = .tokens pair.1 pair.2) :
    Issuing (issueTokens authId deviceInfo >>= next) := by
  intro present run steady instant
  have ran := issue_run authId deviceInfo run
  have stored := issue_exec authId deviceInfo run steady
  rw [exec_bind]
  rcases result : exec perform (issueTokens authId deviceInfo) run with ⟨error | pair, last⟩
  · rw [result] at ran stored
    obtain rfl : last = run.after perform (issueRow authId deviceInfo run.tick) := ran
    refine ⟨[_], rfl, by simp [Calm, issueRow, cleanup], Or.inl ⟨?_, by simp⟩⟩
    rcases stored with ⟨-, -, world⟩ | ⟨row, answered, -⟩
    · exact congrArg (fun db => db.tokens.rows) world
    · cases answered
  · rw [result] at ran stored
    obtain rfl : last = run.after perform (issueRow authId deviceInfo run.tick) := ran
    rcases stored with ⟨error, answered, -⟩ | ⟨row, answered, rows, token, live, used, expires⟩
    · cases answered
    · obtain ⟨response, closed, body⟩ :=
        closes pair (run.after perform (issueRow authId deviceInfo run.tick))
      obtain ⟨history, grows, silent⟩ := exec_log perform Disturbs (next pair)
        (run.after perform (issueRow authId deviceInfo run.tick)) (quiet pair)
      have kept := exec_keeps perform (fun db => db.tokens.rows) Disturbs
        (fun tick statement db calm => disturbs_tokens tick statement db calm) (next pair)
        (run.after perform (issueRow authId deviceInfo run.tick)) (quiet pair)
      have issued : pair = (accessFor authId run.tick.now, run.tick.refreshToken) := by
        simpa using answered
      refine ⟨⟨issueRow authId deviceInfo run.tick, run.ticks 0, run.world⟩ :: history,
        grows.trans (by simp [Run.after]), ?_, Or.inr ⟨response, pair.1, pair.2, row,
          closed, body, kept.trans rows, ⟨?_, live, ?_, ?_⟩, ?_⟩⟩
      · refine List.forall_mem_cons.mpr ⟨rfl, fun event member => ?_⟩
        exact disturbs_cleanup _ (silent event member)
      · rw [issued, token]
      · exact used.trans (instant 1).2
      · exact expires.trans (congrArg (· + days REFRESH_TOKEN_EXPIRY_DAYS) (instant 0).1)
      · simp [generated, issueRow, writtenToken, issued]

theorem issuing_account (row : Auth) (name : String) (gender : Gender) (birthYear : Int)
    (next : Auth → Handler Response) (issuing : Issuing (next row)) :
    Issuing (insertAuth row >>= fun newAuth =>
      createProfile newAuth name gender birthYear >>= fun _ => next newAuth) := by
  intro present run steady instant
  have calm : (run.ticks 0).outage = .none := steady 0
  have later : (run.ticks 1).outage = .none := steady 1
  cases executed : run.world.insertAuth row with
  | error error =>
      have refused : perform (run.ticks 0) (.insertAuth row) run.world =
        (.error error, run.world) :=
        perform_throws _ _ _ _ calm (by simp only [execute, executed, Except.map])
      simp only [insertAuth, exec_bind, exec_call, refused]
      refine ⟨[_], rfl, by simp [Calm, cleanup], Or.inl ⟨?_, by simp⟩⟩
      exact congrArg (fun outcome => outcome.2.tokens.rows) refused
  | ok after =>
      have inserted : perform (run.ticks 0) (.insertAuth row) run.world = (.ok row, after) :=
        perform_steady _ (.insertAuth row) _ _ row calm
          (by simp only [execute, executed, Except.map])
      obtain ⟨final, profile⟩ := run.world.insert_user_ok after row
        { id := row.id, name, gender, birthYear } executed rfl
      have stored : perform (run.ticks 1) (.insertUser { id := row.id, name, gender, birthYear })
          after = (.ok (), final) :=
        perform_steady _ (.insertUser _) _ _ () later (by simp only [execute, profile, Except.map])
      have middle : (run.after perform (.insertAuth row)).world = after :=
        congrArg Prod.snd inserted
      let last := (run.after perform (.insertAuth row)).after perform
        (.insertUser { id := row.id, name, gender, birthYear })
      have world : last.world = final :=
        (congrArg (fun db => (perform (run.ticks 1) _ db).2) middle).trans
          (congrArg Prod.snd stored)
      have same : exec perform (insertAuth row >>= fun newAuth =>
          createProfile newAuth name gender birthYear >>= fun _ => next newAuth) run =
          exec perform (next row) last := by
        simp only [insertAuth, createProfile, insertUser, exec_bind, exec_catch, exec_call,
          inserted,
          middle]
        rw [show ((run.after perform (.insertAuth row)).ticks 0) = run.ticks 1 from rfl, stored]
      obtain ⟨history, grows, quiet, outcome⟩ := issuing present last (fun n => steady (n + 2))
        (fun n => by cases n with
          | zero => exact instant 2
          | succ n => exact instant (n + 3))
      have rows : last.world.tokens.rows = run.world.tokens.rows := by
        rw [world, (after.insert_user final _ profile).2.2.2,
          (run.world.insert_auth after row executed).2.2.2]
      rw [same]
      refine ⟨⟨.insertAuth row, run.ticks 0, run.world⟩ ::
        ⟨.insertUser { id := row.id, name, gender, birthYear }, run.ticks 1, after⟩ :: history,
        grows.trans ?_, ?_, ?_⟩
      · simp only [last, Run.after, inserted, List.append_assoc, List.cons_append, List.nil_append]
      · exact List.forall_mem_cons.mpr ⟨rfl, List.forall_mem_cons.mpr ⟨rfl, quiet⟩⟩
      · rw [rows] at outcome
        simpa [generated, writtenToken] using outcome

section Handlers
variable (env : Env)

theorem verify_quiet (phone code : String) : Avoids Disturbs (verifyOTPCode phone code) :=
  verify_avoids phone code id (fun _ => id) id

theorem issuing_sign_up (body : PhoneSignupRequest) : Issuing (phoneSignup body) := by
  refine issuing_bind _ _ (verify_quiet _ _) fun result => ?_
  cases result with
  | failure errorCode error => exact issuing_pure _ (otp_error_plain errorCode error)
  | success =>
      refine issuing_bind _ _ (avoids_call _ id) fun found => ?_
      cases found with
      | some existingAuth =>
          refine issuing_bind _ _ (avoids_call _ id) fun profile => ?_
          cases profile <;>
            exact issuing_pure _ (by simp [res.userExists, res.profileIncomplete, res.err])
      | none =>
          refine issuing_bind _ _ (fun _ => trivial) fun id => ?_
          refine issuing_account _ _ _ _ _ (issuing_tokens _ _ _ (fun _ => avoids_pure _) ?_)
          exact fun pair run => ⟨_, rfl, rfl⟩

theorem issuing_sign_in (body : PhoneSignInRequest) : Issuing (phoneSignIn body) := by
  refine issuing_bind _ _ (verify_quiet _ _) fun result => ?_
  cases result with
  | failure errorCode error => exact issuing_pure _ (otp_error_plain errorCode error)
  | success =>
      refine issuing_bind _ _ (avoids_call _ id) fun found => ?_
      cases found with
      | none => exact issuing_pure _ (by simp [res.userNotFound, res.err])
      | some existingAuth =>
          refine issuing_bind _ _ (avoids_call _ id) fun profile => ?_
          cases profile with
          | none => exact issuing_pure _ (by simp [res.profileIncomplete, res.err])
          | some user =>
              exact issuing_tokens _ _ _ (fun _ => avoids_pure _) fun pair run => ⟨_, rfl, rfl⟩

theorem issuing_open_session (existingAuth : Auth) (email : String)
    (deviceInfo : Option DeviceInfo) : Issuing (openSession existingAuth email deviceInfo) := by
  refine issuing_bind _ _ (avoids_call _ id) fun profile => ?_
  cases profile with
  | none => exact issuing_pure _ (by simp [res.profileIncomplete, res.err])
  | some user =>
      have fill : Avoids Disturbs (fillEmail existingAuth email) :=
        avoids_ite _ _ _ (avoids_pure _)
          (avoids_bind _ _ (avoids_call _ id) fun _ => avoids_pure _)
      refine issuing_bind _ _ fill fun _ => ?_
      exact issuing_tokens _ _ _ (fun _ => avoids_pure _) fun pair run => ⟨_, rfl, rfl⟩

theorem issuing_oauth_sign_in (provider : OAuthProvider) (body : OAuthSignInRequest) :
    Issuing (createOAuthSignInHandler env provider body) := by
  refine issuing_bind _ _ (fun _ => trivial) fun present => ?_
  cases verifyOAuthJWT env present body.idToken (OAUTH_VERIFIER_CONFIGS provider) with
  | error thrown => exact issuing_pure _ (by simp [res.unauthorized, res.err])
  | ok claims =>
      dsimp only
      cases truthy claims.email with
      | none => exact issuing_pure _ (by simp [res.unauthorized, res.err])
      | some email =>
          cases truthy claims.sub with
          | none => exact issuing_pure _ (by simp [res.unauthorized, res.err])
          | some providerId =>
              refine issuing_bind _ _ (avoids_call _ id) fun found => ?_
              cases found with
              | some existingAuth => exact issuing_open_session existingAuth email body.deviceInfo
              | none =>
                  refine issuing_bind _ _ (avoids_call _ id) fun holder => ?_
                  cases refuses : emailConflict provider holder with
                  | none => exact issuing_pure _ (by simp [res.ok])
                  | some refusal =>
                      exact issuing_pure _ (conflict_plain provider holder refusal refuses)

theorem issuing_oauth_sign_up (body : OAuthSignupRequest) : Issuing (oauthSignup env body) := by
  refine issuing_bind _ _ (avoids_call _ id) fun found => ?_
  cases found with
  | some existingAuth => exact issuing_open_session existingAuth body.email body.deviceInfo
  | none =>
      refine issuing_bind _ _ (avoids_call _ id) fun holder => ?_
      cases refuses : emailConflict body.provider holder with
      | some refusal =>
          exact issuing_pure _ (conflict_plain body.provider holder refusal refuses)
      | none =>
          refine issuing_bind _ _ (fun _ => trivial) fun id => ?_
          refine issuing_account _ _ _ _ _ (issuing_tokens _ _ _ (fun _ => ?_) ?_)
          · exact avoids_bind _ _ (avoids_call _ not_false) fun _ => avoids_pure _
          · exact fun pair run => ⟨_, rfl, rfl⟩

theorem send_quiet (body : OtpRequest) : Avoids Disturbs (requestOTP body) := by
  refine avoids_mono (fun statement disturbs => ?_) _ (request_otp_avoids body)
  cases statement with
  | waitUntil job => cases job <;> simp_all [Disturbs, OfSend]
  | _ => simp_all [Disturbs, OfSend]

theorem issuing_send (body : OtpRequest) : Issuing (requestOTP body) :=
  issuing_quiet _ (send_quiet body) (send_plain body)

end Handlers

/-! A refresh and a logout are decided by the row they find, and only the one
that is admitted writes. -/
section Sessions
variable (run : Run) (steady : Steady run)

def Admits (row : Token) (present : Time) : Prop := Usable row present ∧ Cooled row present

structure Refuses (outcome : Except DbError Response × Run) : Prop where
  answer : ∃ error status code, outcome.1 = .ok (res.err error status code) ∧ status ≠ 200
  world : outcome.2.world = run.world
  log : ∃ history, outcome.2.log = run.log ++ history ∧ Calm history ∧ generated history = []

def reading (statement : Statement) : Run :=
  { world := run.world, tick := run.ticks 0, ticks := fun n => run.ticks (n + 1),
    log := run.log ++ [⟨statement, run.ticks 0, run.world⟩] }

include steady in
theorem select_token_exec (token : String) :
    exec perform (selectToken token) run =
      (.ok (run.world.findToken token), reading run (.selectToken token)) := by
  have read : perform (run.ticks 0) (.selectToken token) run.world =
      (.ok (run.world.findToken token), run.world) :=
    perform_steady _ (.selectToken token) _ _ _ (steady 0) rfl
  simp [selectToken, exec_call, Run.after, read, reading]

include steady in
theorem select_owner_exec (row : Token) (stored : row ∈ run.world.tokens.rows) :
    ∃ owner, exec perform (selectAuthById row.authId) run =
      (.ok (some owner), reading run (.selectAuthById row.authId)) := by
  obtain ⟨owner, present, same⟩ := run.world.tokens_auth row stored
  have found := (run.world.find_auth_id row.authId owner).mpr ⟨present, same⟩
  have read : perform (run.ticks 0) (.selectAuthById row.authId) run.world =
      (.ok (run.world.findAuthById row.authId), run.world) :=
    perform_steady _ (.selectAuthById row.authId) _ _ _ (steady 0) rfl
  exact ⟨owner, by simp [selectAuthById, exec_call, Run.after, read, found, reading]⟩

variable (present : Time) (instant : Instant present run)

include steady instant in
theorem refresh_refused (body : RefreshTokensRequest)
    (refused : ∀ row, run.world.findToken body.refreshToken = some row → ¬ Admits row present) :
    Refuses run (exec perform (refreshTokens body) run) := by
  unfold refreshTokens
  rw [exec_bind, select_token_exec run steady]
  dsimp only
  cases found : run.world.findToken body.refreshToken with
  | none =>
      exact ⟨⟨_, _, _, rfl, by decide⟩, rfl, [_], rfl, by simp [Calm, cleanup],
        by simp [generated, writtenToken]⟩
  | some row =>
      have read : (run.ticks 0).now = present := (instant 1).1
      have owned : (run.ticks 1).now = present := (instant 2).1
      have stored := ((run.world.find_token_mem _ row).mp found).1
      simp only [exec_bind, exec_now]
      rw [exec_ite]
      split
      · exact ⟨⟨_, _, _, rfl, by decide⟩, rfl, [_], rfl, by simp [Calm, cleanup],
          by simp [generated, writtenToken]⟩
      · next usable =>
          have fine : Usable row present := by
            simpa [Usable, reading, read, not_or] using usable
          have recent : present - row.lastUsedAt < minutes REFRESH_COOLDOWN_MINUTES :=
            by_contra fun cooled => refused row found ⟨fine, cooled⟩
          obtain ⟨owner, lookup⟩ := select_owner_exec
            (reading run (.selectToken body.refreshToken)) (fun n => steady (n + 1)) row stored
          simp only [exec_bind, lookup, exec_recently_refreshed]
          rw [exec_ite, if_pos (by simpa [reading, owned] using recent)]
          exact ⟨⟨_, _, _, rfl, by decide⟩, rfl,
            [⟨.selectToken body.refreshToken, run.ticks 0, run.world⟩,
              ⟨.selectAuthById row.authId, run.ticks 1, run.world⟩],
            by simp [reading], by simp [Calm, cleanup], by simp [generated, writtenToken]⟩

def rotation (body : RefreshTokensRequest) : Statement :=
  .rotateToken body.refreshToken (run.ticks 1).refreshToken
    ((run.ticks 1).now + days REFRESH_TOKEN_EXPIRY_DAYS) (run.ticks 1).now

include steady instant in
theorem refresh_rotates (body : RefreshTokensRequest) (row : Token)
    (found : run.world.findToken body.refreshToken = some row) (admits : Admits row present) :
    exec perform (refreshTokens body) run =
      ((perform (run.ticks 2) (rotation run body) run.world).1.map fun _ =>
          res.ok (.tokens (accessFor row.authId (run.ticks 2).now) (run.ticks 1).refreshToken),
        (reading (reading run (.selectToken body.refreshToken))
          (.selectAuthById row.authId)).after perform (rotation run body)) := by
  have read : (run.ticks 0).now = present := (instant 1).1
  have owned : (run.ticks 1).now = present := (instant 2).1
  have stored := ((run.world.find_token_mem _ row).mp found).1
  obtain ⟨⟨live, timely⟩, cooled⟩ := admits
  unfold refreshTokens
  rw [exec_bind, select_token_exec run steady, found]
  simp only [exec_bind, exec_now]
  rw [exec_ite, if_neg (by simp [reading, read, live, timely])]
  obtain ⟨owner, lookup⟩ := select_owner_exec
    (reading run (.selectToken body.refreshToken)) (fun n => steady (n + 1)) row stored
  simp only [exec_bind, lookup, exec_recently_refreshed]
  rw [exec_ite, if_neg (by simpa [reading, owned, Cooled] using cooled)]
  let last := reading (reading run (.selectToken body.refreshToken)) (.selectAuthById row.authId)
  change exec perform (call (rotation run body) >>= fun _ => generateAccessToken row.authId >>=
    fun access => pure (res.ok (.tokens access (run.ticks 1).refreshToken))) last = _
  rw [exec_bind, exec_call]
  cases answered : (perform (run.ticks 2) (rotation run body) run.world).1 with
  | error error =>
      rw [show (perform (last.ticks 0) (rotation run body) last.world).1 = .error error from
        answered]
      rfl
  | ok count =>
      rw [show (perform (last.ticks 0) (rotation run body) last.world).1 = .ok count from answered]
      rfl

include steady instant in
theorem refresh_admitted (body : RefreshTokensRequest) (row : Token)
    (found : run.world.findToken body.refreshToken = some row) (admits : Admits row present) :
    ∃ history, (exec perform (refreshTokens body) run).2.log = run.log ++ history ∧
      Calm history ∧ generated history = [(run.ticks 1).refreshToken] ∧
      ((∀ other ∈ run.world.tokens.rows, other.token ≠ (run.ticks 1).refreshToken) →
        (∃ access, (exec perform (refreshTokens body) run).1 =
          .ok (res.ok (.tokens access (run.ticks 1).refreshToken))) ∧
        (exec perform (refreshTokens body) run).2.world.tokens.rows =
          run.world.tokens.rows.map (Table.rewrite (fun row => row.token = body.refreshToken)
            fun row => { row with token := (run.ticks 1).refreshToken,
                                  expiresAt := present + days REFRESH_TOKEN_EXPIRY_DAYS,
                                  lastUsedAt := present })) := by
  rw [refresh_rotates run steady present instant body row found admits]
  refine ⟨[⟨.selectToken body.refreshToken, run.ticks 0, run.world⟩,
    ⟨.selectAuthById row.authId, run.ticks 1, run.world⟩,
    ⟨rotation run body, run.ticks 2, run.world⟩], by simp [reading, Run.after],
    by simp [Calm, cleanup, rotation], by simp [generated, writtenToken, rotation], ?_⟩
  intro fresh
  obtain ⟨after, rotated⟩ := run.world.rotate_token_ok body.refreshToken
    (run.ticks 1).refreshToken ((run.ticks 1).now + days REFRESH_TOKEN_EXPIRY_DAYS)
    (run.ticks 1).now fresh
  have written : perform (run.ticks 2) (rotation run body) run.world =
      (.ok (run.world.tokens.count fun row => row.token = body.refreshToken), after) :=
    perform_steady _ (rotation run body) _ _ _ (steady 2)
      (by simp only [rotation, execute, rotated, Except.map])
  refine ⟨⟨accessFor row.authId (run.ticks 2).now, by rw [written]; rfl⟩, ?_⟩
  rw [show ((reading (reading run (.selectToken body.refreshToken))
    (.selectAuthById row.authId)).after perform (rotation run body)).world = after from
      congrArg Prod.snd written, ← show (run.ticks 1).now = present from (instant 2).1]
  exact (run.world.amend_tokens after _ _ _ rotated).1

include steady in
theorem logout_refused (body : LogoutRequest)
    (refused : ∀ row, run.world.findToken body.refreshToken = some row → row.revokedAt ≠ none) :
    Refuses run (exec perform (logout body) run) := by
  unfold logout
  rw [exec_bind, select_token_exec run steady]
  dsimp only
  cases found : run.world.findToken body.refreshToken with
  | none =>
      exact ⟨⟨_, _, _, rfl, by decide⟩, rfl, [_], rfl, by simp [Calm, cleanup],
        by simp [generated, writtenToken]⟩
  | some row =>
      dsimp only
      rw [exec_ite, if_pos (Option.isSome_iff_ne_none.mpr (refused row found))]
      exact ⟨⟨_, _, _, rfl, by decide⟩, rfl, [_], rfl, by simp [Calm, cleanup],
        by simp [generated, writtenToken]⟩

include steady in
theorem logout_admitted (body : LogoutRequest) (row : Token)
    (found : run.world.findToken body.refreshToken = some row) (live : row.revokedAt = none) :
    (exec perform (logout body) run).1 = .ok (res.ok (.message "Logged out")) ∧
      (∃ history, (exec perform (logout body) run).2.log = run.log ++ history ∧ Calm history ∧
        generated history = []) ∧
      (exec perform (logout body) run).2.world.tokens.rows =
        run.world.tokens.rows.map (Table.rewrite (fun row => row.token = body.refreshToken)
          fun row => { row with revokedAt := some (run.ticks 0).now }) := by
  obtain ⟨after, revoked⟩ := run.world.revoke_token_ok body.refreshToken (run.ticks 0).now
  have written : perform (run.ticks 1) (.revokeToken body.refreshToken (run.ticks 0).now)
      run.world = (.ok (run.world.tokens.count fun row => row.token = body.refreshToken), after) :=
    perform_steady _ (.revokeToken _ _) _ _ _ (steady 1)
      (by simp only [execute, revoked, Except.map])
  let read := reading run (.selectToken body.refreshToken)
  have same : exec perform (logout body) run = (.ok (res.ok (.message "Logged out")),
      read.after perform (.revokeToken body.refreshToken (run.ticks 0).now)) := by
    unfold logout
    rw [exec_bind, select_token_exec run steady, found]
    dsimp only
    rw [exec_ite, if_neg (by simp [live])]
    change exec perform (call (.revokeToken body.refreshToken (run.ticks 0).now) >>= fun _ =>
      pure (res.ok (.message "Logged out"))) read = _
    rw [exec_bind, exec_call, show (perform (read.ticks 0)
      (.revokeToken body.refreshToken (run.ticks 0).now) read.world).1 = .ok _ from
        congrArg Prod.fst written]
    rfl
  rw [same]
  refine ⟨rfl, ⟨[⟨.selectToken body.refreshToken, run.ticks 0, run.world⟩,
    ⟨.revokeToken body.refreshToken (run.ticks 0).now, run.ticks 1, run.world⟩],
    by simp [read, reading, Run.after], by simp [Calm, cleanup],
    by simp [generated, writtenToken]⟩, ?_⟩
  rw [show (read.after perform (.revokeToken body.refreshToken (run.ticks 0).now)).world = after
    from congrArg Prod.snd written]
  exact (run.world.amend_tokens after _ _ _ revoked).1

end Sessions

end TopInspect.SessionServing
