import TopInspect.SteadyServing

/-! The exits of every handler while the database answers every statement: what
it met when it took one, what it answers there and what it leaves behind. -/
namespace TopInspect.HandlerExits

open Resumption AuthSchema AuthStatements AuthHandlers AUTH_CONFIG AuthExecution OtpVerification
open OtpServing SessionServing SteadyServing RowTable
open Serial hiding Run Served State Turn

abbrev Reply : Type := Except DbError Response

def userExists (db : Db) (phone : String) : Bool :=
  (db.findAuth .phone phone).any fun row => (db.findUser row.id).isSome

def recentlySent (db : Db) (phone : String) (present : Time) : Bool :=
  (db.findOtp phone).any fun otp => otp.createdAt > present - minutes OTP_COOLDOWN_MINUTES

/-- A session drawn at this tick meets its id or its token among the stored ones. -/
def Taken (db : Db) (tick : Tick) : Prop :=
  ∃ row ∈ db.tokens.rows, row.id = tick.id ∨ row.token = tick.refreshToken

instance (db : Db) (tick : Tick) : Decidable (Taken db tick) :=
  inferInstanceAs
    (Decidable (∃ row ∈ db.tokens.rows, row.id = tick.id ∨ row.token = tick.refreshToken))

structure Drawn (tick : Tick) (authId : String) (row : Token) : Prop where
  id : row.id = tick.id
  token : row.token = tick.refreshToken
  authId : row.authId = authId

section Exits
variable (db : Db) (clock : Nat → Tick)

inductive SendExit (body : OtpRequest) : Reply → Db → Prop
  | limited (recent : recentlySent db body.phone (clock 1).now = true) :
      SendExit body (.ok res.otpRateLimited) db
  | unknown (settled : recentlySent db body.phone (clock 1).now = false)
      (purpose : body.purpose = .login) (missing : userExists db body.phone = false) :
      SendExit body (.ok (res.ok (.otp false))) db
  | known (settled : recentlySent db body.phone (clock 1).now = false)
      (purpose : body.purpose = .signup) (known : userExists db body.phone = true) :
      SendExit body (.ok (res.userExists "User already exists. Please login instead.")) db
  | sent (after : Db) (settled : recentlySent db body.phone (clock 1).now = false)
      (fits : purposeRefuses body db = false)
      (stored : db.upsertOtp (freshRow body
        (clock (if (db.findAuth .phone body.phone).isSome then 3 else 2))) = .ok after) :
      SendExit body (.ok (res.ok (.otp (userExists db body.phone)))) after

inductive CodeExit (phone code : String) : Reply → Db → Prop
  | refused (after : Db) (errorCode : OtpErrorCode) (error : String)
      (fails : resultOf (judge code (clock 1).now (db.findOtp phone)) = .failure errorCode error)
      (judged : Judged phone (judge code (clock 1).now (db.findOtp phone)) db after) :
      CodeExit phone code (.ok (handleOtpError errorCode error)) after

/-- A code that is accepted, and what that leaves of the database. -/
structure Accepted (phone code : String) (middle : Db) : Prop where
  right : judge code (clock 1).now (db.findOtp phone) = .right
  judged : Judged phone .right db middle

def phoneRow (body : PhoneSignupRequest) : Auth :=
  { id := (clock 3).id, provider := .phone, identifier := body.phone, email := none }

def profileOf (id : String) (name : String) (gender : Gender) (birthYear : Int) : User :=
  { id, name, gender, birthYear }

/-- The exits of a sign-up from the insert of its auth row on. `clock` starts at
the segment that draws the id. -/
inductive CreateExit (row : Auth) (user : User) : Reply → Db → Prop
  | clash (error : DbError) (taken : ∃ old ∈ db.auth.rows, Auth.Clash old row) :
      CreateExit row user (.error error) db
  | unsigned (error : DbError) (after : Db) (apart : ∀ old ∈ db.auth.rows, ¬ Auth.Clash old row)
      (opened : Opened row user db after) (taken : Taken db (clock 2)) :
      CreateExit row user (.error error) after
  | signed (session : Token) (middle after : Db) (access : AccessToken) (refresh : String)
      (apart : ∀ old ∈ db.auth.rows, ¬ Auth.Clash old row) (opened : Opened row user db middle)
      (drawn : Drawn (clock 2) row.id session) (stored : Signed session middle after) :
      CreateExit row user (.ok (res.created (.tokens access refresh))) after

inductive SignUpExit (body : PhoneSignupRequest) : Reply → Db → Prop
  | code (reply : Reply) (after : Db)
      (refused : CodeExit db clock body.phone body.code reply after) :
      SignUpExit body reply after
  | known (after : Db) (row : Auth) (user : User)
      (accepted : Accepted db clock body.phone body.code after)
      (found : db.findAuth .phone body.phone = some row)
      (profile : db.findUser row.id = some user) :
      SignUpExit body (.ok (res.userExists "User already exists. Please login instead.")) after
  | incomplete (after : Db) (row : Auth) (accepted : Accepted db clock body.phone body.code after)
      (found : db.findAuth .phone body.phone = some row) (missing : db.findUser row.id = none) :
      SignUpExit body
        (.ok (res.profileIncomplete "Account setup incomplete. Please contact support.")) after
  | creates (middle : Db) (reply : Reply) (after : Db)
      (accepted : Accepted db clock body.phone body.code middle)
      (absent : db.findAuth .phone body.phone = none)
      (exits : CreateExit middle (fun n => clock (n + 3)) (phoneRow clock body)
        (profileOf (clock 3).id body.name body.gender body.birthYear) reply after) :
      SignUpExit body reply after

inductive SignInExit (body : PhoneSignInRequest) : Reply → Db → Prop
  | code (reply : Reply) (after : Db)
      (refused : CodeExit db clock body.phone body.code reply after) :
      SignInExit body reply after
  | unknown (after : Db) (accepted : Accepted db clock body.phone body.code after)
      (absent : db.findAuth .phone body.phone = none) :
      SignInExit body (.ok (res.userNotFound "User not found. Please sign up first.")) after
  | incomplete (after : Db) (row : Auth) (accepted : Accepted db clock body.phone body.code after)
      (found : db.findAuth .phone body.phone = some row) (missing : db.findUser row.id = none) :
      SignInExit body
        (.ok (res.profileIncomplete "User profile incomplete. Please sign up again.")) after
  | unsigned (error : DbError) (after : Db) (row : Auth) (user : User)
      (accepted : Accepted db clock body.phone body.code after)
      (found : db.findAuth .phone body.phone = some row) (profile : db.findUser row.id = some user)
      (taken : Taken db (clock 4)) : SignInExit body (.error error) after
  | signed (session : Token) (middle after : Db) (access : AccessToken) (refresh : String)
      (row : Auth) (user : User) (accepted : Accepted db clock body.phone body.code middle)
      (found : db.findAuth .phone body.phone = some row) (profile : db.findUser row.id = some user)
      (drawn : Drawn (clock 4) row.id session) (stored : Signed session middle after) :
      SignInExit body (.ok (res.ok (.tokens access refresh))) after

/-- The exits of the session of an account that an OAuth handler has found. -/
inductive OpenExit (existingAuth : Auth) (email : String) : Reply → Db → Prop
  | incomplete (missing : db.findUser existingAuth.id = none) :
      OpenExit existingAuth email
        (.ok (res.profileIncomplete "User profile incomplete. Please contact support.")) db
  | unsigned (error : DbError) (user : User) (profile : db.findUser existingAuth.id = some user)
      (held : (truthy existingAuth.email).isSome = true) (taken : Taken db (clock 1)) :
      OpenExit existingAuth email (.error error) db
  | signed (session : Token) (after : Db) (access : AccessToken) (refresh : String) (user : User)
      (profile : db.findUser existingAuth.id = some user)
      (held : (truthy existingAuth.email).isSome = true)
      (drawn : Drawn (clock 1) existingAuth.id session) (stored : Signed session db after) :
      OpenExit existingAuth email (.ok (res.ok (.tokens access refresh))) after
  | unfilled (error : DbError) (user : User) (profile : db.findUser existingAuth.id = some user)
      (bare : (truthy existingAuth.email).isSome = false)
      (refused : db.updateAuthEmail existingAuth.id email = .error error) :
      OpenExit existingAuth email (.error error) db
  | filledUnsigned (error : DbError) (middle : Db) (user : User)
      (profile : db.findUser existingAuth.id = some user)
      (bare : (truthy existingAuth.email).isSome = false)
      (filled : db.updateAuthEmail existingAuth.id email = .ok middle)
      (taken : Taken db (clock 2)) :
      OpenExit existingAuth email (.error error) middle
  | filledSigned (session : Token) (middle after : Db) (access : AccessToken) (refresh : String)
      (user : User) (profile : db.findUser existingAuth.id = some user)
      (bare : (truthy existingAuth.email).isSome = false)
      (filled : db.updateAuthEmail existingAuth.id email = .ok middle)
      (drawn : Drawn (clock 2) existingAuth.id session) (stored : Signed session middle after) :
      OpenExit existingAuth email (.ok (res.ok (.tokens access refresh))) after

/-- An accepted ID token names an account and an address. -/
def Verified (env : Env) (present : Time) (provider : OAuthProvider) (body : OAuthSignInRequest)
    (providerId email : String) : Prop :=
  ∃ claims, verifyOAuthJWT env present body.idToken (OAUTH_VERIFIER_CONFIGS provider) = .ok claims ∧
    truthy claims.sub = some providerId ∧ truthy claims.email = some email

inductive OAuthSignInExit (env : Env) (provider : OAuthProvider) (body : OAuthSignInRequest) :
    Reply → Db → Prop
  | rejected (text : String)
      (unverified : ∀ providerId email,
        ¬ Verified env (clock 0).now provider body providerId email) :
      OAuthSignInExit env provider body (.ok (res.unauthorized text)) db
  | opens (providerId email : String) (existingAuth : Auth) (reply : Reply) (after : Db)
      (verified : Verified env (clock 0).now provider body providerId email)
      (found : db.findAuth provider.toProvider providerId = some existingAuth)
      (exits : OpenExit db (fun n => clock (n + 1)) existingAuth email reply after) :
      OAuthSignInExit env provider body reply after
  | conflict (providerId email : String) (refusal : Response)
      (verified : Verified env (clock 0).now provider body providerId email)
      (absent : db.findAuth provider.toProvider providerId = none)
      (refuses : emailConflict provider (db.findAuthByEmail email) = some refusal) :
      OAuthSignInExit env provider body (.ok refusal) db
  | invited (providerId email : String)
      (verified : Verified env (clock 0).now provider body providerId email)
      (absent : db.findAuth provider.toProvider providerId = none)
      (apart : emailConflict provider (db.findAuthByEmail email) = none) :
      OAuthSignInExit env provider body
        (.ok (res.ok (.needsSignup provider.toProvider providerId email))) db

def oauthRow (body : OAuthSignupRequest) : Auth :=
  { id := (clock 2).id, provider := body.provider.toProvider, identifier := body.providerId,
    email := some body.email }

inductive OAuthSignUpExit (body : OAuthSignupRequest) : Reply → Db → Prop
  | opens (existingAuth : Auth) (reply : Reply) (after : Db)
      (found : db.findAuth body.provider.toProvider body.providerId = some existingAuth)
      (exits : OpenExit db (fun n => clock (n + 1)) existingAuth body.email reply after) :
      OAuthSignUpExit body reply after
  | conflict (refusal : Response)
      (absent : db.findAuth body.provider.toProvider body.providerId = none)
      (refuses : emailConflict body.provider (db.findAuthByEmail body.email) = some refusal) :
      OAuthSignUpExit body (.ok refusal) db
  | creates (reply : Reply) (after : Db)
      (absent : db.findAuth body.provider.toProvider body.providerId = none)
      (apart : emailConflict body.provider (db.findAuthByEmail body.email) = none)
      (exits : CreateExit db (fun n => clock (n + 2)) (oauthRow clock body)
        (profileOf (clock 2).id body.name body.gender body.birthYear) reply after) :
      OAuthSignUpExit body reply after

inductive RefreshExit (body : RefreshTokensRequest) : Reply → Db → Prop
  | invalid : RefreshExit body (.ok res.invalidRefreshToken) db
  | ownerless : RefreshExit body (.ok (res.unauthorized "User not found")) db
  | limited : RefreshExit body (.ok res.rateLimited) db
  | unrotated (error : DbError) : RefreshExit body (.error error) db
  | rotated (token : Token) (access : AccessToken) (expiresAt lastUsedAt : Time) (after : Db)
      (found : db.findToken body.refreshToken = some token)
      (stored : db.rotateToken body.refreshToken (clock 2).refreshToken expiresAt lastUsedAt =
        .ok after) :
      RefreshExit body (.ok (res.ok (.tokens access (clock 2).refreshToken))) after

inductive LogoutExit (body : LogoutRequest) : Reply → Db → Prop
  | invalid : LogoutExit body (.ok (res.unauthorized "Invalid refresh token")) db
  | revoked (token : Token) (revokedAt : Time) (after : Db)
      (found : db.findToken body.refreshToken = some token)
      (stored : db.revokeToken body.refreshToken revokedAt = .ok after) :
      LogoutExit body (.ok (res.ok (.message "Logged out"))) after

end Exits

/-- An exit has been taken, and no cleanup handed over on the way. -/
def Leaves (exits : Reply → Db → Prop) (run : Run) (reply : Reply) (last : Run) : Prop :=
  exits reply last.world ∧ Quiet run last

theorem leaves_after {exits : Reply → Db → Prop} {first run last : Run} {reply : Reply}
    (quiet : Quiet first run) (leaves : Leaves exits run reply last) :
    Leaves exits first reply last := ⟨leaves.1, quiet.trans leaves.2⟩

theorem taken_refused (run : Run) (authId : String) (deviceInfo : Option DeviceInfo)
    (error : DbError) (owned : ∃ owner ∈ run.world.auth.rows, owner.id = authId)
    (refused : run.world.insertToken (sessionRow run authId deviceInfo) = .error error) :
    Taken run.world run.tick := by
  by_contra free
  obtain ⟨after, stored⟩ := run.world.insert_token_ok (sessionRow run authId deviceInfo)
    (fun old member clash => free ⟨old, member, clash⟩) owned
  rw [refused] at stored
  cases stored

section Building
variable {run : Run}

theorem ends_profile {α : Type} {post : Except DbError α → Run → Prop} (steady : Steady run)
    (existingAuth : Option Auth) (next : Bool → Handler α)
    (rest : ∀ last known, Onward run (if existingAuth.isSome then 1 else 0) last →
      last.world = run.world →
      known = existingAuth.any (fun row => (run.world.findUser row.id).isSome) →
      Ends perform (next known) last post) :
    Ends perform (profileExists existingAuth >>= next) run post := by
  cases existingAuth with
  | none =>
      apply ends_bind
      apply ends_pure
      exact rest run false (onward_refl run steady) rfl rfl
  | some row =>
      show Ends perform ((selectUser row.id >>= fun profile => pure profile.isSome) >>= next)
        run post
      rw [bind_assoc]
      apply ends_step steady (.selectUser row.id) _ _ run.world rfl
      apply ends_bind
      apply ends_pure
      exact rest _ _ ((onward_refl run steady).moves (.selectUser row.id) _ not_false) rfl rfl

theorem session_exits {exits : Reply → Db → Prop} (steady : Steady run) (authId : String)
    (deviceInfo : Option DeviceInfo) (next : AccessToken × String → Handler Response)
    (owned : ∃ owner ∈ run.world.auth.rows, owner.id = authId)
    (refused : ∀ error, Taken run.world run.tick → exits (.error error) run.world)
    (rest : ∀ (last : Run) session, Onward run 1 last → Drawn run.tick authId session →
      Signed session run.world last.world →
      Ends perform (next (accessFor authId run.tick.now, run.tick.refreshToken)) last
        (Leaves exits last)) :
    Ends perform (issueTokens authId deviceInfo >>= next) run (Leaves exits run) := by
  have onward := (onward_refl run steady).moves (issueRow authId deviceInfo run.tick)
  apply ends_issue steady
  · intro error clash
    exact ⟨refused error (taken_refused run authId deviceInfo error owned clash),
      (onward run.world not_false).quiet⟩
  · intro after inserted
    obtain ⟨tokens, auth, users, otps⟩ := run.world.insert_token after _ inserted
    apply ends_mono (rest (moved run (issueRow authId deviceInfo run.tick) after)
      (sessionRow run authId deviceInfo) (onward after not_false) ⟨rfl, rfl, rfl⟩
      ⟨tokens, auth, users, otps⟩)
    exact fun reply last leaves => leaves_after (onward after not_false).quiet leaves

theorem create_exits (steady : Steady run) (row : Auth) (name : String) (gender : Gender)
    (birthYear : Int) (deviceInfo : Option DeviceInfo)
    (next : AccessToken × String → Handler Response)
    (rest : ∀ last session, Steady last → Ends perform (next session) last
      (Leaves (fun reply after => reply = .ok (res.created (.tokens session.1 session.2)) ∧
        after = last.world) last)) :
    Ends perform (insertAuth row >>= fun newAuth =>
      createProfile newAuth name gender birthYear >>= fun _ =>
        issueTokens newAuth.id deviceInfo >>= next) run
      (Leaves (CreateExit run.world run.clock row (profileOf row.id name gender birthYear))
        run) := by
  -- Either the insert is refused, or the session decides between the other two exits.
  apply ends_create steady
  · intro error refused
    constructor
    · apply CreateExit.clash
      by_contra free
      obtain ⟨after, inserted⟩ := run.world.insert_auth_ok row fun old member clash =>
        free ⟨old, member, clash⟩
      rw [refused] at inserted
      cases inserted
    · exact ((onward_refl run steady).moves (.insertAuth row) run.world not_false).quiet
  · intro middle onward apart opened
    have present : middle.tick = run.clock 2 := onward.clock 0
    have sessions : Taken middle.world middle.tick → Taken run.world (run.clock 2) := by
      rintro ⟨old, member, same⟩
      exact ⟨old, opened.tokens ▸ member, present ▸ same⟩
    apply ends_mono (session_exits onward.steady row.id deviceInfo next _ _ _)
    · exact fun reply last leaves => leaves_after onward.quiet leaves
    · exact ⟨row, by rw [opened.auth]; exact List.mem_append_right _ (List.mem_singleton_self _),
        rfl⟩
    · exact fun error taken => .unsigned error _ apart opened (sessions taken)
    · intro last session settled drawn stored
      apply ends_mono (rest last _ settled.steady)
      rintro reply final ⟨⟨rfl, kept⟩, quiet⟩
      exact ⟨.signed session _ _ _ _ apart opened (present ▸ drawn) (kept ▸ stored), quiet⟩

theorem send_exits (steady : Steady run) (body : OtpRequest) :
    Ends perform (requestOTP body) run (Leaves (SendExit run.world run.clock body) run) := by
  have first := (onward_refl run steady).moves (.selectOtp body.phone) run.world not_false
  apply ends_step steady (.selectOtp body.phone) _ _ run.world rfl
  apply ends_reading (minutesAgo OTP_COOLDOWN_MINUTES)
    (fun tick => tick.now - minutes OTP_COOLDOWN_MINUTES) fun _ => rfl
  apply ends_ite
  · exact fun recent => ends_pure _ ⟨.limited recent, first.quiet⟩
  · intro apart
    have settled : recentlySent run.world body.phone (run.clock 1).now = false :=
      Bool.eq_false_iff.mpr apart
    have second := first.moves (.selectAuth .phone body.phone) run.world not_false
    apply ends_step first.steady (.selectAuth .phone body.phone) _ _ run.world rfl
    apply ends_profile second.steady
    intro last known spent kept same
    have third := second.trans spent
    rw [moved_world] at kept
    replace same : known = userExists run.world body.phone := same
    apply ends_ite
    · rintro ⟨purpose, missing⟩
      apply ends_pure
      constructor
      · rw [kept, missing]
        exact .unknown settled purpose (same ▸ missing)
      · exact third.quiet
    · intro login
      apply ends_ite
      · rintro ⟨purpose, present⟩
        apply ends_pure
        constructor
        · rw [kept]
          exact .known settled purpose (same ▸ present)
        · exact third.quiet
      · intro signup
        rw [same] at login signup
        have fits : purposeRefuses body run.world = false := by
          simp only [purposeRefuses, Bool.or_eq_false_iff, decide_eq_false_iff_not]
          exact ⟨login, signup⟩
        have drawn : last.tick =
            run.clock (if (run.world.findAuth .phone body.phone).isSome then 3 else 2) := by
          apply (third.clock 0).trans
          rw [moved_world]
          cases (run.world.findAuth .phone body.phone).isSome <;> rfl
        obtain ⟨after, upserted, -⟩ := run.world.upsert_otp (freshRow body last.tick)
        show Ends perform (tryCatch (call (.upsertOtp (freshRow body last.tick)) >>= _) _) last _
        apply ends_catch
        have fourth := third.moves (.upsertOtp (freshRow body last.tick)) after not_false
        apply ends_step third.steady (.upsertOtp (freshRow body last.tick)) _ () after
          (by rw [kept]; simp only [execute, upserted, Except.map])
        have fifth := fourth.moves (.waitUntil (.sendOTP body.phone last.tick.otpCode)) after
          not_false
        apply ends_step fourth.steady (.waitUntil (.sendOTP body.phone last.tick.otpCode)) _
          () after
          rfl
        apply ends_pure
        rw [drawn] at upserted
        rw [same]
        exact ⟨.sent after settled fits upserted, fifth.quiet⟩

theorem code_exits (steady : Steady run) (phone code : String) (complete : Handler Response)
    (exits : Reply → Db → Prop)
    (refused : ∀ reply after, CodeExit run.world run.clock phone code reply after →
      exits reply after)
    (rest : ∀ middle, Onward run 2 middle → Accepted run.world run.clock phone code middle.world →
      Ends perform complete middle (Leaves exits middle)) :
    Ends perform (verifyOTPCode phone code >>= fun result =>
      match result with
      | .failure errorCode error => pure (handleOtpError errorCode error)
      | .success => complete) run (Leaves exits run) := by
  apply ends_verify steady
  intro last spent onward judged exact_
  cases result : resultOf (judge code (run.ticks 0).now (run.world.findOtp phone)) with
  | failure errorCode error =>
      apply ends_pure
      exact ⟨refused _ _ (.refused last.world errorCode error result judged), onward.quiet⟩
  | success =>
      have right : judge code (run.ticks 0).now (run.world.findOtp phone) = .right := by
        cases verdict : judge code (run.ticks 0).now (run.world.findOtp phone) with
        | right => rfl
        | wrong newAttempts =>
            rw [verdict, resultOf] at result
            split at result <;> cases result
        | _ => rw [verdict] at result; cases result
      obtain rfl := exact_ right
      rw [right] at judged
      apply ends_mono (rest last onward ⟨right, judged⟩)
      exact fun reply final leaves => leaves_after onward.quiet leaves

theorem sign_up_exits (steady : Steady run) (body : PhoneSignupRequest) :
    Ends perform (phoneSignup body) run (Leaves (SignUpExit run.world run.clock body) run) := by
  apply code_exits steady
  · exact fun reply after refused => .code reply after refused
  · intro middle onward accepted
    have tables := accepted.judged.tables
    have lookup : middle.world.findAuth .phone body.phone = run.world.findAuth .phone
      body.phone := by
      simp only [Db.findAuth, tables.auth]
    have first := (onward_refl middle onward.steady).moves (.selectAuth .phone body.phone)
      middle.world not_false
    apply ends_step onward.steady (.selectAuth .phone body.phone) _ _ middle.world rfl
    rw [lookup]
    cases found : run.world.findAuth .phone body.phone with
    | some row =>
        have profile : middle.world.findUser row.id = run.world.findUser row.id := by
          simp only [Db.findUser, tables.users]
        have second := first.moves (.selectUser row.id) middle.world not_false
        apply ends_step first.steady (.selectUser row.id) _ _ middle.world rfl
        rw [moved_world, profile]
        cases known : run.world.findUser row.id with
        | some user =>
            apply ends_pure
            exact ⟨.known middle.world row user accepted found known, second.quiet⟩
        | none =>
            apply ends_pure
            exact ⟨.incomplete middle.world row accepted found known, second.quiet⟩
    | none =>
        have drawn : middle.ticks 0 = run.clock 3 := onward.clock 1
        have clock : (moved middle (.selectAuth .phone body.phone) middle.world).clock =
            fun n => run.clock (n + 3) := by
          funext n
          exact (first.clock n).trans (onward.clock (n + 1))
        apply ends_reading createId Tick.id fun _ => rfl
        apply ends_mono (create_exits first.steady
          { id := (middle.ticks 0).id, provider := .phone, identifier := body.phone, email := none }
          body.name body.gender body.birthYear body.deviceInfo _ _)
        · rintro reply last ⟨exits, quiet⟩
          rw [clock, moved_world, drawn] at exits
          exact ⟨.creates middle.world reply last.world accepted found exits,
            first.quiet.trans quiet⟩
        · intro last session settled
          apply ends_pure
          exact ⟨⟨rfl, rfl⟩, (onward_refl last settled).quiet⟩

theorem sign_in_exits (steady : Steady run) (body : PhoneSignInRequest) :
    Ends perform (phoneSignIn body) run (Leaves (SignInExit run.world run.clock body) run) := by
  apply code_exits steady
  · exact fun reply after refused => .code reply after refused
  · intro middle onward accepted
    have tables := accepted.judged.tables
    have lookup : middle.world.findAuth .phone body.phone = run.world.findAuth .phone
      body.phone := by
      simp only [Db.findAuth, tables.auth]
    have first := (onward_refl middle onward.steady).moves (.selectAuth .phone body.phone)
      middle.world not_false
    apply ends_step onward.steady (.selectAuth .phone body.phone) _ _ middle.world rfl
    rw [lookup]
    cases found : run.world.findAuth .phone body.phone with
    | none =>
        apply ends_pure
        exact ⟨.unknown middle.world accepted found, first.quiet⟩
    | some row =>
        have profile : middle.world.findUser row.id = run.world.findUser row.id := by
          simp only [Db.findUser, tables.users]
        have second := first.moves (.selectUser row.id) middle.world not_false
        apply ends_step first.steady (.selectUser row.id) _ _ middle.world rfl
        rw [moved_world, profile]
        cases known : run.world.findUser row.id with
        | none =>
            apply ends_pure
            exact ⟨.incomplete middle.world row accepted found known, second.quiet⟩
        | some user =>
            have drawn : middle.ticks 1 = run.clock 4 := onward.clock 2
            apply ends_mono (session_exits second.steady row.id body.deviceInfo _ _ _ _)
            · exact fun reply last leaves => leaves_after second.quiet leaves
            · refine ⟨row, ?_, rfl⟩
              rw [moved_world, tables.auth]
              exact (run.world.find_auth_mem _ _ row found).1
            · intro error taken
              apply SignInExit.unsigned error middle.world row user accepted found known
              obtain ⟨old, member, same⟩ := taken
              rw [moved_world, tables.tokens] at member
              exact ⟨old, member, drawn ▸ same⟩
            · intro last session settled own stored
              apply ends_pure
              exact ⟨.signed session middle.world last.world _ _ row user accepted found known
                (drawn ▸ own) stored, (onward_refl last settled.steady).quiet⟩

theorem filled_owner (db middle : Db) (id email : String) (row : Auth)
    (filled : db.updateAuthEmail id email = .ok middle) (stored : row ∈ db.auth.rows) :
    ∃ owner ∈ middle.auth.rows, owner.id = row.id := by
  obtain ⟨rows, -⟩ := db.update_auth_email middle id email filled
  rw [rows]
  refine ⟨_, List.mem_map_of_mem stored, ?_⟩
  unfold Table.rewrite
  split <;> rfl

theorem open_exits (steady : Steady run) (existingAuth : Auth)
    (stored : existingAuth ∈ run.world.auth.rows) (email : String)
    (deviceInfo : Option DeviceInfo) :
    Ends perform (openSession existingAuth email deviceInfo) run
      (Leaves (OpenExit run.world run.clock existingAuth email) run) := by
  have first := (onward_refl run steady).moves (.selectUser existingAuth.id) run.world not_false
  apply ends_step steady (.selectUser existingAuth.id) _ _ run.world rfl
  cases profile : run.world.findUser existingAuth.id with
  | none =>
      apply ends_pure
      exact ⟨.incomplete profile, first.quiet⟩
  | some user =>
      -- An account that has an address already is not touched.
      by_cases held : (truthy existingAuth.email).isSome = true
      · have skips : fillEmail existingAuth email = pure () := by rw [fillEmail, if_pos held]
        dsimp only
        rw [skips, pure_bind]
        apply ends_mono (session_exits first.steady existingAuth.id deviceInfo _ _ _ _)
        · exact fun reply last leaves => leaves_after first.quiet leaves
        · exact ⟨existingAuth, stored, rfl⟩
        · exact fun error taken => .unsigned error user profile held taken
        · intro last session settled own signed
          apply ends_pure
          exact ⟨.signed session last.world _ _ user profile held own signed,
            (onward_refl last settled.steady).quiet⟩
      · have fills : fillEmail existingAuth email =
            (updateAuthEmail existingAuth.id email >>= fun _ => pure ()) := by
          rw [fillEmail, if_neg held]
        have bare : (truthy existingAuth.email).isSome = false := Bool.eq_false_iff.mpr held
        dsimp only
        rw [fills, bind_assoc]
        have second := fun world =>
          first.moves (.updateAuthEmail existingAuth.id email) world not_false
        cases executed : run.world.updateAuthEmail existingAuth.id email with
        | error error =>
            apply ends_refused first.steady (.updateAuthEmail existingAuth.id email) _ error
            · rw [moved_world]
              simp only [execute, executed, Except.map]
            · exact ⟨.unfilled error user profile bare executed, (second run.world).quiet⟩
        | ok middle =>
            apply ends_step first.steady (.updateAuthEmail existingAuth.id email) _ _ middle
              (by rw [moved_world]; simp only [execute, executed, Except.map]; rfl)
            rw [pure_bind]
            have sessions : Taken middle (run.clock 2) = Taken run.world (run.clock 2) := by
              obtain ⟨-, -, -, tokens⟩ := run.world.update_auth_email middle _ _ executed
              rw [Taken, Taken, tokens]
            apply ends_mono
              (session_exits (second middle).steady existingAuth.id deviceInfo _ _ _ _)
            · exact fun reply last leaves => leaves_after (second middle).quiet leaves
            · exact filled_owner run.world middle _ email existingAuth executed stored
            · exact fun error taken =>
                .filledUnsigned error middle user profile bare executed (sessions.mp taken)
            · intro last session settled own signed
              apply ends_pure
              exact ⟨.filledSigned session middle last.world _ _ user profile bare executed own
                signed,
                (onward_refl last settled.steady).quiet⟩

theorem oauth_sign_in_exits (env : Env) (steady : Steady run) (provider : OAuthProvider)
    (body : OAuthSignInRequest) :
    Ends perform (createOAuthSignInHandler env provider body) run
      (Leaves (OAuthSignInExit run.world run.clock env provider body) run) := by
  apply ends_reading now (·.now) fun _ => rfl
  cases accepted : verifyOAuthJWT env run.tick.now body.idToken
    (OAUTH_VERIFIER_CONFIGS provider) with
  | error thrown =>
      apply ends_pure
      refine ⟨.rejected _ ?_, (onward_refl run steady).quiet⟩
      rintro providerId email ⟨claims, verified, -⟩
      rw [show verifyOAuthJWT env (run.clock 0).now body.idToken _ = _ from accepted] at verified
      cases verified
  | ok claims =>
      have only : ∀ providerId email,
        Verified env (run.clock 0).now provider body providerId email →
          truthy claims.sub = some providerId ∧ truthy claims.email = some email := by
        rintro providerId email ⟨other, verified, named⟩
        rw [show verifyOAuthJWT env (run.clock 0).now body.idToken _ = _ from accepted] at verified
        obtain rfl := Except.ok.inj verified
        exact named
      dsimp only
      split
      · next email providerId address named =>
        have verified : Verified env (run.clock 0).now provider body providerId email :=
          ⟨claims, accepted, named, address⟩
        have first := (onward_refl run steady).moves (.selectAuth provider.toProvider providerId)
          run.world not_false
        have clock : (moved run (.selectAuth provider.toProvider providerId) run.world).clock =
            fun n => run.clock (n + 1) := by
          funext n
          exact first.clock n
        apply ends_step steady (.selectAuth provider.toProvider providerId) _ _ run.world rfl
        cases found : run.world.findAuth provider.toProvider providerId with
        | some existingAuth =>
            apply ends_mono (open_exits first.steady existingAuth
              (run.world.find_auth_mem _ _ existingAuth found).1 email body.deviceInfo)
            rintro reply last ⟨exits, quiet⟩
            rw [clock] at exits
            exact ⟨.opens providerId email existingAuth reply last.world verified found exits,
              first.quiet.trans quiet⟩
        | none =>
            have second := first.moves (.selectAuthByEmail email) run.world not_false
            apply ends_step first.steady (.selectAuthByEmail email) _ _ run.world rfl
            rw [moved_world]
            cases refuses : emailConflict provider (run.world.findAuthByEmail email) with
            | some refusal =>
                apply ends_pure
                exact ⟨.conflict providerId email refusal verified found refuses, second.quiet⟩
            | none =>
                apply ends_pure
                exact ⟨.invited providerId email verified found refuses, second.quiet⟩
      · next unnamed =>
        apply ends_pure
        refine ⟨.rejected _ ?_, (onward_refl run steady).quiet⟩
        intro providerId email verified
        obtain ⟨sub, address⟩ := only providerId email verified
        exact unnamed email providerId address sub

theorem oauth_sign_up_exits (env : Env) (steady : Steady run) (body : OAuthSignupRequest) :
    Ends perform (oauthSignup env body) run
      (Leaves (OAuthSignUpExit run.world run.clock body) run) := by
  have first := (onward_refl run steady).moves
    (.selectAuth body.provider.toProvider body.providerId) run.world not_false
  have clock : (moved run (.selectAuth body.provider.toProvider body.providerId) run.world).clock =
      fun n => run.clock (n + 1) := by
    funext n
    exact first.clock n
  apply ends_step steady (.selectAuth body.provider.toProvider body.providerId) _ _ run.world rfl
  cases found : run.world.findAuth body.provider.toProvider body.providerId with
  | some existingAuth =>
      apply ends_mono (open_exits first.steady existingAuth
        (run.world.find_auth_mem _ _ existingAuth found).1 body.email body.deviceInfo)
      rintro reply last ⟨exits, quiet⟩
      rw [clock] at exits
      exact ⟨.opens existingAuth reply last.world found exits, first.quiet.trans quiet⟩
  | none =>
      have second := first.moves (.selectAuthByEmail body.email) run.world not_false
      apply ends_step first.steady (.selectAuthByEmail body.email) _ _ run.world rfl
      rw [moved_world]
      cases refuses : emailConflict body.provider (run.world.findAuthByEmail body.email) with
      | some refusal =>
          apply ends_pure
          exact ⟨.conflict refusal found refuses, second.quiet⟩
      | none =>
          have later : (moved (moved run (.selectAuth body.provider.toProvider body.providerId)
              run.world) (.selectAuthByEmail body.email) run.world).clock =
              fun n => run.clock (n + 2) := by
            funext n
            exact second.clock n
          apply ends_reading createId Tick.id fun _ => rfl
          apply ends_mono
            (create_exits second.steady (oauthRow run.clock body) body.name body.gender
            body.birthYear body.deviceInfo _ _)
          · rintro reply last ⟨exits, quiet⟩
            rw [later] at exits
            exact ⟨.creates reply last.world found refuses exits, second.quiet.trans quiet⟩
          · intro last session settled
            have third := (onward_refl last settled).moves
              (.waitUntil (welcome env body.name body.email))
              last.world not_false
            apply ends_step settled (.waitUntil (welcome env body.name body.email)) _ () last.world
              rfl
            apply ends_pure
            exact ⟨⟨rfl, rfl⟩, third.quiet⟩

theorem refresh_exits (steady : Steady run) (body : RefreshTokensRequest) :
    Ends perform (refreshTokens body) run (Leaves (RefreshExit run.world run.clock body) run) := by
  have first := (onward_refl run steady).moves (.selectToken body.refreshToken) run.world not_false
  apply ends_step steady (.selectToken body.refreshToken) _ _ run.world rfl
  cases found : run.world.findToken body.refreshToken with
  | none =>
      apply ends_pure
      exact ⟨.invalid, first.quiet⟩
  | some token =>
      apply ends_reading now (·.now) fun _ => rfl
      apply ends_ite
      · exact fun _ => ends_pure _ ⟨.invalid, first.quiet⟩
      · intro _
        have second := first.moves (.selectAuthById token.authId) run.world not_false
        apply ends_step first.steady (.selectAuthById token.authId) _ _ run.world rfl
        cases (moved run (.selectToken body.refreshToken) run.world).world.findAuthById
          token.authId with
        | none =>
            apply ends_pure
            exact ⟨.ownerless, second.quiet⟩
        | some owner =>
            apply ends_reading (recentlyRefreshed token.lastUsedAt) (fun tick =>
              decide (tick.now - token.lastUsedAt < minutes REFRESH_COOLDOWN_MINUTES)) fun _ => rfl
            apply ends_ite
            · exact fun _ => ends_pure _ ⟨.limited, second.quiet⟩
            · intro _
              apply ends_reading generateRefreshToken Tick.refreshToken fun _ => rfl
              apply ends_reading (daysFromNow REFRESH_TOKEN_EXPIRY_DAYS)
                (fun tick => tick.now + days REFRESH_TOKEN_EXPIRY_DAYS) fun _ => rfl
              apply ends_reading now (·.now) fun _ => rfl
              have third := fun world => second.moves (.rotateToken body.refreshToken
                (run.ticks 1).refreshToken ((run.ticks 1).now + days REFRESH_TOKEN_EXPIRY_DAYS)
                (run.ticks 1).now) world not_false
              cases executed : run.world.rotateToken body.refreshToken (run.ticks 1).refreshToken
                  ((run.ticks 1).now + days REFRESH_TOKEN_EXPIRY_DAYS) (run.ticks 1).now with
              | error error =>
                  apply ends_refused second.steady (.rotateToken body.refreshToken
                    (run.ticks 1).refreshToken ((run.ticks 1).now + days REFRESH_TOKEN_EXPIRY_DAYS)
                    (run.ticks 1).now) _ error
                  · rw [moved_world]
                    simp only [execute, executed, Except.map]
                  · exact ⟨.unrotated error, (third run.world).quiet⟩
              | ok after =>
                  apply ends_step second.steady (.rotateToken body.refreshToken
                    (run.ticks 1).refreshToken ((run.ticks 1).now + days REFRESH_TOKEN_EXPIRY_DAYS)
                    (run.ticks 1).now) _ _ after
                    (by rw [moved_world]; simp only [execute, executed, Except.map]; rfl)
                  apply ends_reading (generateAccessToken token.authId)
                    (fun tick => accessFor token.authId tick.now) fun _ => rfl
                  apply ends_pure
                  exact ⟨.rotated token _ _ _ after found executed, (third after).quiet⟩

theorem logout_exits (steady : Steady run) (body : LogoutRequest) :
    Ends perform (logout body) run (Leaves (LogoutExit run.world body) run) := by
  have first := (onward_refl run steady).moves (.selectToken body.refreshToken) run.world not_false
  apply ends_step steady (.selectToken body.refreshToken) _ _ run.world rfl
  cases found : run.world.findToken body.refreshToken with
  | none =>
      apply ends_pure
      exact ⟨.invalid, first.quiet⟩
  | some token =>
      apply ends_ite
      · exact fun _ => ends_pure _ ⟨.invalid, first.quiet⟩
      · intro _
        apply ends_reading now (·.now) fun _ => rfl
        obtain ⟨after, revoked⟩ := run.world.revoke_token_ok body.refreshToken (run.ticks 0).now
        have second := first.moves (.revokeToken body.refreshToken (run.ticks 0).now) after
          not_false
        apply ends_step first.steady (.revokeToken body.refreshToken (run.ticks 0).now) _ _ after
          (by rw [moved_world]; simp only [execute, revoked, Except.map]; rfl)
        apply ends_pure
        exact ⟨.revoked token _ after found revoked, second.quiet⟩

end Building

/-- The exits of a request. A background job answers nobody. -/
def Exits (env : Env) (db : Db) (clock : Nat → Tick) : Request → Reply → Db → Prop
  | .requestOTP body => SendExit db clock body
  | .phoneSignup body => SignUpExit db clock body
  | .phoneSignIn body => SignInExit db clock body
  | .oauthSignIn provider body => OAuthSignInExit db clock env provider body
  | .oauthSignup body => OAuthSignUpExit db clock body
  | .refreshTokens body => RefreshExit db clock body
  | .logout body => LogoutExit db body
  | .background _ => fun _ _ => False

theorem handler_exits (env : Env) (run : Run) (steady : Steady run) (request : Request)
    (asked : external request = true) :
    Ends perform (handler env request) run fun result last => ∃ reply, result = reply.map some ∧
      Leaves (Exits env run.world run.clock request) run reply last := by
  have wraps : ∀ (program : Handler Response) (exits : Reply → Db → Prop),
      Ends perform program run (Leaves exits run) →
      Ends perform (some <$> program) run fun result last => ∃ reply, result = reply.map some ∧
        Leaves exits run reply last :=
    fun program exits ends => ends_map some program
      (ends_mono ends fun reply last leaves => ⟨reply, rfl, leaves⟩)
  cases request with
  | requestOTP body => exact wraps _ _ (send_exits steady body)
  | phoneSignup body => exact wraps _ _ (sign_up_exits steady body)
  | phoneSignIn body => exact wraps _ _ (sign_in_exits steady body)
  | oauthSignIn provider body => exact wraps _ _ (oauth_sign_in_exits env steady provider body)
  | oauthSignup body => exact wraps _ _ (oauth_sign_up_exits env steady body)
  | refreshTokens body => exact wraps _ _ (refresh_exits steady body)
  | logout body => exact wraps _ _ (logout_exits steady body)
  | background job => cases asked

/-! Served one after another, the requests leave no cleanup to the background. -/
section Serving
variable (env : Env)

def Harmless (queue : List Request) : Prop :=
  ∀ request ∈ queue, ∃ job, request = .background job ∧ ∀ id, job ≠ .deleteAuth id

theorem harmless_quiet (queue : List Request) (log : List Step) (harmless : Harmless queue)
    (quiet : ∀ event ∈ log, ¬ Cleans event.query) :
    Harmless (queue ++ log.flatMap fun event => spawned event.tick event.query event.before) := by
  intro request member
  rcases List.mem_append.mp member with old | new
  · exact harmless request old
  · obtain ⟨event, logged, spawns⟩ := List.mem_flatMap.mp new
    unfold spawned at spawns
    split at spawns
    · next job asked =>
      refine ⟨job, List.mem_singleton.mp spawns, ?_⟩
      rintro id rfl
      exact quiet event logged (asked ▸ trivial)
    · exact absurd spawns List.not_mem_nil

structure Visited (state : State) (request : Request) (clock : Nat → Tick) (reply : Reply)
    (after : State) : Prop where
  exits : Exits env state.world clock request reply after.world
  queue : Harmless state.queue → Harmless after.queue

theorem serve_exits (state : State) (caller : Nat) (request : Request) (tick : Tick)
    (ticks : Nat → Tick) (asked : external request = true)
    (reliable : Reliable (.visit caller request tick ticks)) :
    ∃ reply, (recordOf env state (some caller) request tick ticks).result = reply.map some ∧
      Visited env state request (Turn.clock (.visit caller request tick ticks : Turn)) reply
        (serve (server env) state (some caller) request tick ticks) := by
  let opening : Run := { world := state.world, tick, ticks, log := [] }
  have ends := handler_exits env opening (fun n => reliable (n + 1)) request asked
  have clock : opening.clock = Turn.clock (.visit caller request tick ticks : Turn) := by
    funext n
    cases n <;> rfl
  rw [clock] at ends
  obtain ⟨reply, same, exits, history, grows, quiet⟩ := ends
  refine ⟨reply, same, exits, fun harmless => ?_⟩
  have logged : (execution (server env) request tick ticks state.world).2.log = history := grows
  apply harmless_quiet state.queue _ harmless
  rw [logged]
  exact quiet

theorem serve_job (state : State) (job : Job) (rest : List Request) (tick : Tick)
    (ticks : Nat → Tick) (harmless : ∀ id, job ≠ .deleteAuth id) :
    (serve (server env) { state with queue := rest } none (.background job) tick ticks).world =
        state.world ∧
      (serve (server env) { state with queue := rest } none (.background job) tick ticks).queue =
        rest := by
  cases job with
  | deleteAuth id => exact absurd rfl (harmless id)
  | sendOTP phone otp => exact ⟨rfl, List.append_nil rest⟩
  | sendEmail recipient subject template => exact ⟨rfl, List.append_nil rest⟩

theorem harmless_turn (state : State) (next : Turn) (reliable : Reliable next)
    (harmless : Harmless state.queue) : Harmless (turn (server env) state next).queue := by
  cases next with
  | visit caller request tick ticks =>
      simp only [turn]
      split
      · next asked =>
        obtain ⟨reply, -, visited⟩ := serve_exits env state caller request tick ticks asked reliable
        exact visited.queue harmless
      · exact harmless
  | background tick ticks =>
      simp only [turn]
      cases pending : state.queue with
      | nil =>
          intro request member
          rw [pending] at member
          cases member
      | cons request rest =>
          obtain ⟨job, rfl, spares⟩ := harmless request (by rw [pending]; exact List.mem_cons_self)
          dsimp only
          rw [(serve_job env state job rest tick ticks spares).2]
          exact fun other member =>
            harmless other (by rw [pending]; exact List.mem_cons_of_mem _ member)

theorem harmless_run (state : State) (turns : List Turn) (reliable : ∀ next ∈ turns, Reliable next)
    (harmless : Harmless state.queue) : Harmless (serveAll (server env) state turns).queue := by
  induction turns generalizing state with
  | nil => exact harmless
  | cons next rest ih =>
      apply ih
      · exact fun other member => reliable other (List.mem_cons_of_mem _ member)
      · exact harmless_turn env state next (reliable next List.mem_cons_self) harmless

def Background : Turn → Prop
  | .background _ _ => True
  | .visit _ _ _ _ => False

theorem job_kept (state : State) (next : Turn) (background : Background next)
    (harmless : Harmless state.queue) :
    (turn (server env) state next).world = state.world ∧
      Harmless (turn (server env) state next).queue := by
  cases next with
  | visit caller request tick ticks => cases background
  | background tick ticks =>
      simp only [turn]
      cases pending : state.queue with
      | nil => exact ⟨rfl, harmless⟩
      | cons request rest =>
          obtain ⟨job, rfl, spares⟩ := harmless request (by rw [pending]; exact List.mem_cons_self)
          obtain ⟨kept, left⟩ := serve_job env state job rest tick ticks spares
          refine ⟨kept, fun other member => ?_⟩
          dsimp only at member
          rw [left] at member
          exact harmless other (by rw [pending]; exact List.mem_cons_of_mem _ member)

theorem jobs_kept (state : State) (jobs : List Turn) (background : ∀ next ∈ jobs, Background next)
    (harmless : Harmless state.queue) : (serveAll (server env) state jobs).world = state.world := by
  induction jobs generalizing state with
  | nil => rfl
  | cons next rest ih =>
      obtain ⟨kept, spares⟩ := job_kept env state next (background next List.mem_cons_self) harmless
      apply (ih _ (fun other member => background other (List.mem_cons_of_mem _ member))
        spares).trans
      exact kept

end Serving
end TopInspect.HandlerExits
