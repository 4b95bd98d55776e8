import TopInspect.OtpServing
import TopInspect.SessionPaths

/-! What an answer with tokens rests on. Every handler but oauthSignup asks for a
proof before it hands tokens out: the code stored for a phone, the refresh token
of a session, or an ID token that was accepted. oauthSignup trusts the provider
id in its body, so it is sound only where the client has shown that id before. -/
namespace TopInspect.SignInSoundness

open Resumption AuthSchema AuthStatements AuthHandlers AUTH_CONFIG AuthExecution OtpVerification
open OtpServing SessionPaths RowTable
open Serial hiding Run Served State Turn

section Accounts

/-- An auth row with this key and this identity. -/
def Account (db : Db) (id : String) (provider : Provider) (identifier : String) : Prop :=
  ∃ row ∈ db.auth.rows, row.id = id ∧ row.provider = provider ∧ row.identifier = identifier

theorem account_performed (tick : Tick) (statement : Statement) (db : Db)
    (inside : ¬ OutsideAccounts statement) (id : String) (provider : Provider)
    (identifier : String) (account : Account db id provider identifier) :
    Account (perform tick statement db).2 id provider identifier := by
  rcases perform_effect tick statement db with same | ⟨answer, executed⟩
  · rwa [same]
  · generalize (perform tick statement db).2 = after at executed
    obtain ⟨row, member, key, identity⟩ := account
    cases statement with
    | insertAuth other =>
        obtain ⟨source, inserted, same⟩ := (map_ok _ _ _).mp executed
        cases same
        exact ⟨row, by simp [(db.insert_auth after other inserted).1, member], key, identity⟩
    | updateAuthEmail other email =>
        obtain ⟨source, updated, same⟩ := (map_ok _ _ _).mp executed
        cases same
        refine ⟨_, (db.update_auth_email after other email updated).1 ▸ List.mem_map_of_mem member,
          ?_⟩
        unfold Table.rewrite
        split <;> exact ⟨key, identity⟩
    | insertUser user =>
        obtain ⟨source, inserted, same⟩ := (map_ok _ _ _).mp executed
        cases same
        exact ⟨row, (db.insert_user after user inserted).2.1 ▸ member, key, identity⟩
    | insertToken own authId token expiresAt deviceInfo =>
        obtain ⟨source, inserted, same⟩ := (map_ok _ _ _).mp executed
        cases same
        exact ⟨row, (db.insert_token after _ inserted).2.1 ▸ member, key, identity⟩
    | rotateToken token newToken expiresAt lastUsedAt =>
        obtain ⟨source, rotated, same⟩ := (map_ok _ _ _).mp executed
        cases same
        exact ⟨row, (db.amend_tokens after _ _ _ rotated).2.1 ▸ member, key, identity⟩
    | revokeToken token revokedAt =>
        obtain ⟨source, revoked, same⟩ := (map_ok _ _ _).mp executed
        cases same
        exact ⟨row, (db.amend_tokens after _ _ _ revoked).2.1 ▸ member, key, identity⟩
    | selectAuth provider identifier =>
        cases executed
        exact ⟨row, member, key, identity⟩
    | selectAuthById id =>
        cases executed
        exact ⟨row, member, key, identity⟩
    | selectAuthByEmail email =>
        cases executed
        exact ⟨row, member, key, identity⟩
    | selectUser id =>
        cases executed
        exact ⟨row, member, key, identity⟩
    | selectToken token =>
        cases executed
        exact ⟨row, member, key, identity⟩
    | waitUntil job =>
        cases executed
        exact ⟨row, member, key, identity⟩
    | selectOtp phone => exact absurd trivial inside
    | upsertOtp row => exact absurd trivial inside
    | updateOtpAttempts phone attempts => exact absurd trivial inside
    | deleteOtp phone => exact absurd trivial inside
    | deleteAuth id => exact absurd trivial inside

theorem account_kept {α : Type} (program : Handler α) (inside : Avoids OutsideAccounts program)
    (run : Run) (id : String) (provider : Provider) (identifier : String)
    (account : Account run.world id provider identifier) :
    Account (exec perform program run).2.world id provider identifier :=
  exec_relates perform
    (fun before after => Account before id provider identifier →
      Account after id provider identifier)
    OutsideAccounts (fun _ account => account)
    (fun _ _ _ first second account => second (first account))
    (fun tick statement db inside => account_performed tick statement db inside id provider
      identifier)
    program run inside account

end Accounts

section Grants

def Grants (outcome : Except DbError Response × Run) (access : AccessToken) : Prop :=
  ∃ response refresh, outcome.1 = .ok response ∧ response.body = .tokens access refresh

theorem grants_bind {α : Type} (program : Handler α) (next : α → Handler Response) (run : Run)
    (access : AccessToken) (grants : Grants (exec perform (program >>= next) run) access) :
    ∃ middle, (exec perform program run).1 = .ok middle ∧
      (exec perform (program >>= next) run).2 =
        (exec perform (next middle) (exec perform program run).2).2 ∧
      Grants (exec perform (next middle) (exec perform program run).2) access := by
  obtain ⟨response, refresh, answered, body⟩ := grants
  obtain ⟨middle, first, second, same⟩ := exec_bind_ok perform program next run response answered
  exact ⟨middle, first, by rw [same], response, refresh, second, body⟩

theorem plain_grants (program : Handler Response) (plain : Plain program) (run : Run)
    (access : AccessToken) : ¬ Grants (exec perform program run) access := by
  rintro ⟨response, refresh, answered, body⟩
  exact plain run response access refresh answered body

theorem issue_sub (authId : String) (deviceInfo : Option DeviceInfo) (run : Run)
    (pair : AccessToken × String)
    (issued : (exec perform (issueTokens authId deviceInfo) run).1 = .ok pair) :
    pair.1.sub = authId := by
  obtain ⟨access, signed, issued, -⟩ := exec_bind_ok perform _ _ run _ issued
  obtain ⟨refresh, -, issued, -⟩ := exec_bind_ok perform _ _ _ _ issued
  obtain ⟨expiresAt, -, issued, -⟩ := exec_bind_ok perform _ _ _ _ issued
  obtain ⟨id, -, issued, -⟩ := exec_bind_ok perform _ _ _ _ issued
  obtain ⟨_, -, issued, -⟩ := exec_bind_ok perform _ _ _ _ issued
  obtain rfl := Except.ok.inj issued
  obtain rfl := Except.ok.inj signed
  rfl

theorem open_session_grants (existingAuth : Auth) (email : String)
    (deviceInfo : Option DeviceInfo) (run : Run) (access : AccessToken)
    (grants : Grants (exec perform (openSession existingAuth email deviceInfo) run) access) :
    access.sub = existingAuth.id ∧ run.world.findUser existingAuth.id ≠ none := by
  obtain ⟨profile, read, -, grants⟩ := grants_bind _ _ run access grants
  obtain ⟨rfl, -⟩ := read_exec (.selectUser existingAuth.id) (·.findUser existingAuth.id)
    (fun _ _ => rfl) run _ read
  cases found : run.world.findUser existingAuth.id with
  | none =>
      rw [found] at grants
      exact absurd grants (plain_grants _ (plain_pure _ (by simp [res.profileIncomplete, res.err]))
        _ access)
  | some user =>
      rw [found] at grants
      obtain ⟨_, -, -, grants⟩ := grants_bind _ _ _ access grants
      obtain ⟨pair, issued, -, grants⟩ := grants_bind _ _ _ access grants
      obtain ⟨response, refresh, answered, body⟩ := grants
      obtain rfl := Except.ok.inj answered
      have same : pair.1 = access := by simpa [res.ok] using (Body.tokens.inj body).1
      exact ⟨same ▸ issue_sub _ _ _ pair issued, by simp⟩

theorem conclude_success (phone : String) (verdict : Verdict) (run : Run)
    (success : (exec perform (conclude phone verdict) run).1 = .ok .success) :
    verdict = .right := by
  have dropped : ∀ result last, (exec perform (dropRow phone result) last).1 = .ok .success →
      result = .success := by
    intro result last success
    obtain ⟨_, -, success, -⟩ := exec_bind_ok perform _ _ last _ success
    exact Except.ok.inj success
  cases verdict with
  | missing => cases success
  | expired => cases dropped _ run success
  | exhausted => cases dropped _ run success
  | right => rfl
  | wrong newAttempts =>
      obtain ⟨_, -, success, -⟩ := exec_bind_ok perform _ _ run _ success
      rw [exec_ite] at success
      split at success
      · cases dropped _ _ success
      · cases success

theorem verify_grounds (phone code : String) (run : Run)
    (success : (exec perform (verifyOTPCode phone code) run).1 = .ok .success) :
    ∃ otp, run.world.findOtp phone = some otp ∧ otp.code = code ∧
      (run.ticks 0).now ≤ otp.expiresAt := by
  rw [verify_judges] at success
  obtain ⟨stored, read, success, -⟩ := exec_bind_ok perform _ _ run _ success
  obtain ⟨rfl, -, clock⟩ := select_exec phone run stored read
  obtain ⟨present, now, success, -⟩ := exec_bind_ok perform _ _ _ _ success
  obtain rfl := Except.ok.inj now
  obtain ⟨otp, found, timely, -, same⟩ :=
    (judge_right _ _ _).mp (conclude_success phone _ _ success)
  exact ⟨otp, found, same, clock ▸ Int.not_lt.mp timely⟩

theorem created_account (row : Auth) (next : Auth → Handler Response) (run : Run)
    (access : AccessToken) (rest : ∀ newAuth, Avoids OutsideAccounts (next newAuth))
    (grants : Grants (exec perform (insertAuth row >>= next) run) access) :
    Account (exec perform (insertAuth row >>= next) run).2.world row.id row.provider
    row.identifier ∧
      Grants (exec perform (next row) (run.after perform (.insertAuth row))) access ∧
      ∀ old ∈ run.world.auth.rows, ¬ Auth.Clash old row := by
  obtain ⟨newAuth, stored, same, grants⟩ := grants_bind _ _ run access grants
  rw [same]
  rw [insertAuth, exec_call] at stored grants ⊢
  have executed := perform_ok _ _ _ _ stored
  obtain ⟨after, inserted, equal⟩ := (map_ok _ _ _).mp executed
  obtain ⟨rfl, world⟩ := Prod.mk.inj equal
  refine ⟨account_kept _ (rest row) _ _ _ _ ⟨row, ?_, rfl, rfl, rfl⟩, grants,
    run.world.insert_auth_apart after row inserted⟩
  rw [show (run.after perform (.insertAuth row)).world = after from world.symm,
    (run.world.insert_auth after row inserted).1]
  exact List.mem_append_right _ (List.mem_singleton.mpr rfl)

theorem finish_sign_up (newAuth : Auth) (name : String) (gender : Gender) (birthYear : Int)
    (deviceInfo : Option DeviceInfo) (last : AccessToken × String → Handler Response)
    (answers : ∀ pair run response, (exec perform (last pair) run).1 = .ok response →
      response.body = .tokens pair.1 pair.2) (run : Run) (access : AccessToken)
    (grants : Grants (exec perform (createProfile newAuth name gender birthYear >>= fun _ =>
      issueTokens newAuth.id deviceInfo >>= last) run) access) : access.sub = newAuth.id := by
  obtain ⟨_, -, -, grants⟩ := grants_bind _ _ run access grants
  obtain ⟨pair, issued, -, response, refresh, answered, body⟩ := grants_bind _ _ _ access grants
  have same : pair.1 = access :=
    (Body.tokens.inj ((answers pair _ response answered).symm.trans body)).1
  exact same ▸ issue_sub _ _ _ pair issued

theorem complete_sign_up_grants (body : PhoneSignupRequest) (run : Run) (access : AccessToken)
    (grants : Grants (exec perform (completeSignup body) run) access) :
    Account (exec perform (completeSignup body) run).2.world access.sub .phone body.phone := by
  unfold completeSignup at grants ⊢
  obtain ⟨found, -, same, grants⟩ := grants_bind _ _ run access grants
  rw [same]
  cases found with
  | some existingAuth =>
      obtain ⟨profile, -, -, grants⟩ := grants_bind _ _ _ access grants
      cases profile with
      | none =>
          exact absurd grants (plain_grants _
            (plain_pure _ (by simp [res.profileIncomplete, res.err])) _ access)
      | some user =>
          exact absurd grants (plain_grants _ (plain_pure _ (by simp [res.userExists, res.err]))
            _ access)
  | none =>
      obtain ⟨id, -, same, grants⟩ := grants_bind _ _ _ access grants
      rw [same]
      obtain ⟨account, grants, -⟩ := created_account _ _ _ access (by
        intro newAuth
        refine avoids_bind _ _ (create_profile_avoids _ _ _ _ (fun _ => not_false)
          fun _ => not_false) fun _ => ?_
        exact avoids_bind _ _ (issue_tokens_avoids _ _ fun _ _ _ => not_false) fun _ =>
          avoids_pure _) grants
      have sub := finish_sign_up _ _ _ _ _ _ (fun pair run response answered => by
        obtain rfl := Except.ok.inj answered
        rfl) _ access grants
      exact sub ▸ account

theorem complete_sign_in_grants (body : PhoneSignInRequest) (run : Run) (access : AccessToken)
    (grants : Grants (exec perform (completeSignIn body) run) access) :
    Account (exec perform (completeSignIn body) run).2.world access.sub .phone body.phone := by
  obtain ⟨found, read, -, passed⟩ := grants_bind _ _ run access grants
  obtain ⟨rfl, -⟩ := account_exec .phone body.phone run found read
  cases holder : run.world.findAuth .phone body.phone with
  | none =>
      rw [holder] at passed
      exact absurd passed (plain_grants _ (plain_pure _ (by simp [res.userNotFound, res.err]))
        _ access)
  | some existingAuth =>
      rw [holder] at passed
      obtain ⟨member, provider, identifier⟩ := run.world.find_auth_mem _ _ existingAuth holder
      obtain ⟨profile, -, -, passed⟩ := grants_bind _ _ _ access passed
      cases profile with
      | none =>
          exact absurd passed (plain_grants _
            (plain_pure _ (by simp [res.profileIncomplete, res.err])) _ access)
      | some user =>
          obtain ⟨pair, issued, -, response, refresh, answered, tokens⟩ :=
            grants_bind _ _ _ access passed
          obtain rfl := Except.ok.inj answered
          obtain rfl : pair.1 = access := (Body.tokens.inj tokens).1
          exact account_kept _ (complete_sign_in_avoids body) run _ _ _
            ⟨existingAuth, member, (issue_sub _ _ _ pair issued).symm, provider, identifier⟩

theorem verified_grants (phone code : String) (complete : Handler Response) (run : Run)
    (access : AccessToken)
    (grants : Grants (exec perform (verifyOTPCode phone code >>= fun result =>
      match result with
      | .failure errorCode error => pure (handleOtpError errorCode error)
      | .success => complete) run) access) :
    (∃ otp, run.world.findOtp phone = some otp ∧ otp.code = code ∧
      (run.ticks 0).now ≤ otp.expiresAt) ∧
    ∃ last, Grants (exec perform complete last) access ∧
      (exec perform (verifyOTPCode phone code >>= fun result =>
        match result with
        | .failure errorCode error => pure (handleOtpError errorCode error)
        | .success => complete) run).2 = (exec perform complete last).2 := by
  obtain ⟨result, verified, same, grants⟩ := grants_bind _ _ run access grants
  cases result with
  | failure errorCode error =>
      exact absurd grants (plain_grants _ (plain_pure _ (otp_error_plain errorCode error)) _ access)
  | success => exact ⟨verify_grounds phone code run verified, _, grants, same⟩

theorem sign_up_grants (body : PhoneSignupRequest) (run : Run) (access : AccessToken)
    (grants : Grants (exec perform (phoneSignup body) run) access) :
    (∃ otp, run.world.findOtp body.phone = some otp ∧ otp.code = body.code ∧
      (run.ticks 0).now ≤ otp.expiresAt) ∧
    Account (exec perform (phoneSignup body) run).2.world access.sub .phone body.phone := by
  obtain ⟨grounds, last, grants, same⟩ := verified_grants body.phone body.code _ run access grants
  refine ⟨grounds, ?_⟩
  rw [show (exec perform (phoneSignup body) run).2 = _ from same]
  exact complete_sign_up_grants body last access grants

theorem sign_in_grants (body : PhoneSignInRequest) (run : Run) (access : AccessToken)
    (grants : Grants (exec perform (phoneSignIn body) run) access) :
    (∃ otp, run.world.findOtp body.phone = some otp ∧ otp.code = body.code ∧
      (run.ticks 0).now ≤ otp.expiresAt) ∧
    Account (exec perform (phoneSignIn body) run).2.world access.sub .phone body.phone := by
  obtain ⟨grounds, last, grants, same⟩ := verified_grants body.phone body.code _ run access grants
  refine ⟨grounds, ?_⟩
  rw [show (exec perform (phoneSignIn body) run).2 = _ from same]
  exact complete_sign_in_grants body last access grants

theorem oauth_sign_in_grants (env : Env) (provider : OAuthProvider) (body : OAuthSignInRequest)
    (run : Run) (access : AccessToken)
    (grants : Grants (exec perform (createOAuthSignInHandler env provider body) run) access) :
    ∃ claims providerId, verifyOAuthJWT env run.tick.now body.idToken
        (OAUTH_VERIFIER_CONFIGS provider) = .ok claims ∧ claims.sub = some providerId ∧
      Account (exec perform (createOAuthSignInHandler env provider body) run).2.world access.sub
        provider.toProvider providerId := by
  obtain ⟨present, clock, -, passed⟩ := grants_bind _ _ run access grants
  obtain rfl := Except.ok.inj clock
  -- Every way through the handler but one ends in a refusal without tokens.
  cases verified : verifyOAuthJWT env run.tick.now body.idToken
    (OAUTH_VERIFIER_CONFIGS provider) with
  | error thrown =>
      rw [verified] at passed
      exact absurd passed (plain_grants _ (plain_pure _ (by simp [res.unauthorized, res.err]))
        _ access)
  | ok claims =>
      rw [verified] at passed
      dsimp only at passed
      cases email : truthy claims.email with
      | none =>
          rw [email] at passed
          exact absurd passed (plain_grants _ (plain_pure _ (by simp [res.unauthorized, res.err]))
            _ access)
      | some address =>
          cases sub : truthy claims.sub with
          | none =>
              rw [email, sub] at passed
              exact absurd passed (plain_grants _
                (plain_pure _ (by simp [res.unauthorized, res.err])) _ access)
          | some providerId =>
              rw [email, sub] at passed
              refine ⟨claims, providerId, rfl, truthy_some _ _ sub, ?_⟩
              refine account_kept _ (oauth_sign_in_avoids env provider body) run _ _ _ ?_
              obtain ⟨found, read, -, passed⟩ := grants_bind _ _ run access passed
              obtain ⟨rfl, -⟩ := account_exec provider.toProvider providerId run found read
              cases holder : run.world.findAuth provider.toProvider providerId with
              | some existingAuth =>
                  rw [holder] at passed
                  obtain ⟨member, own, identifier⟩ :=
                    run.world.find_auth_mem _ _ existingAuth holder
                  obtain ⟨same, -⟩ :=
                    open_session_grants existingAuth address body.deviceInfo _ access
                    passed
                  exact ⟨existingAuth, member, same.symm, own, identifier⟩
              | none =>
                  rw [holder] at passed
                  obtain ⟨other, -, -, passed⟩ := grants_bind _ _ _ access passed
                  cases refuses : emailConflict provider other with
                  | none =>
                      rw [refuses] at passed
                      exact absurd passed (plain_grants _ (plain_pure _ (by simp [res.ok]))
                        _ access)
                  | some refusal =>
                      rw [refuses] at passed
                      exact absurd passed (plain_grants _
                        (plain_pure _ (conflict_plain provider other refusal refuses)) _ access)

/-- An OAuth sign-up refused by what is stored: the account lacks its profile,
or the address of a new one is taken. -/
def blocked (db : Db) (body : OAuthSignupRequest) : Bool :=
  match db.findAuth body.provider.toProvider body.providerId with
  | some existingAuth => (db.findUser existingAuth.id).isNone
  | none => (db.findAuthByEmail body.email).isSome

theorem oauth_sign_up_grants (env : Env) (body : OAuthSignupRequest) (run : Run)
    (access : AccessToken) (grants : Grants (exec perform (oauthSignup env body) run) access) :
    blocked run.world body = false ∧
    Account (exec perform (oauthSignup env body) run).2.world access.sub
      body.provider.toProvider body.providerId := by
  obtain ⟨found, read, same, passed⟩ := grants_bind _ _ run access grants
  obtain ⟨rfl, kept⟩ := account_exec body.provider.toProvider body.providerId run found read
  unfold blocked
  cases holder : run.world.findAuth body.provider.toProvider body.providerId with
  | some existingAuth =>
      rw [holder] at passed
      obtain ⟨member, own, identifier⟩ := run.world.find_auth_mem _ _ existingAuth holder
      obtain ⟨sub, profile⟩ := open_session_grants existingAuth body.email body.deviceInfo _ access
        passed
      rw [kept] at profile
      refine ⟨by simpa [Option.isSome_iff_ne_none] using profile, ?_⟩
      exact account_kept _ (oauth_signup_avoids env body) run _ _ _
        ⟨existingAuth, member, sub.symm, own, identifier⟩
  | none =>
      rw [holder] at passed
      rw [show (exec perform (oauthSignup env body) run).2 = _ from same, holder]
      obtain ⟨other, read, same, passed⟩ := grants_bind _ _ _ access passed
      rw [same]
      obtain ⟨rfl, still, -⟩ := read_exec (.selectAuthByEmail body.email)
        (·.findAuthByEmail body.email) (fun _ _ => rfl) _ _ read
      rw [kept] at passed still ⊢
      cases refuses : emailConflict body.provider (run.world.findAuthByEmail body.email) with
      | some refusal =>
          rw [refuses] at passed
          exact absurd passed (plain_grants _
            (plain_pure _ (conflict_plain body.provider _ refusal refuses)) _ access)
      | none =>
          rw [refuses] at passed
          obtain ⟨id, -, same, passed⟩ := grants_bind _ _ _ access passed
          rw [same]
          obtain ⟨account, grants, apart⟩ := created_account _ _ _ access (by
            intro newAuth
            refine avoids_bind _ _ (create_profile_avoids _ _ _ _ (fun _ => not_false)
              fun _ => not_false) fun _ => ?_
            refine avoids_bind _ _ (issue_tokens_avoids _ _ fun _ _ _ => not_false) fun _ => ?_
            exact avoids_bind _ _ (avoids_call _ not_false) fun _ => avoids_pure _) passed
          have sub := finish_sign_up _ _ _ _ _ _ (fun pair run response answered => by
            obtain ⟨_, -, answered, -⟩ := exec_bind_ok perform _ _ run _ answered
            obtain rfl := Except.ok.inj answered
            rfl) _ access grants
          refine ⟨Bool.eq_false_iff.mpr fun taken => ?_, sub ▸ account⟩
          -- A holder under the same provider passes the check and fails the insert.
          obtain ⟨old, found⟩ := Option.isSome_iff_exists.mp taken
          obtain ⟨member, address⟩ := run.world.find_auth_email body.email old found
          rw [← still] at member
          exact apart old member (Or.inr (Or.inr ⟨by simp [address], address⟩))

theorem refresh_grants (body : RefreshTokensRequest) (run : Run) (access : AccessToken)
    (grants : Grants (exec perform (refreshTokens body) run) access) :
    ∃ (token : Token) (owner : Auth), run.world.findToken body.refreshToken = some token ∧
      Usable token (run.ticks 0).now ∧ token.authId = access.sub ∧
      Account (exec perform (refreshTokens body) run).2.world access.sub owner.provider
        owner.identifier := by
  obtain ⟨found, read, -, passed⟩ := grants_bind _ _ run access grants
  obtain ⟨rfl, kept, clock⟩ := read_exec (.selectToken body.refreshToken)
    (·.findToken body.refreshToken) (fun _ _ => rfl) run found read
  cases stored : run.world.findToken body.refreshToken with
  | none =>
      rw [stored] at passed
      exact absurd passed (plain_grants _
        (plain_pure _ (by simp [res.invalidRefreshToken, res.err])) _ access)
  | some token =>
      rw [stored] at passed
      obtain ⟨present, now, -, passed⟩ := grants_bind _ _ _ access passed
      obtain rfl := Except.ok.inj now
      rw [exec_ite] at passed
      split at passed
      · exact absurd passed (plain_grants _
          (plain_pure _ (by simp [res.invalidRefreshToken, res.err])) _ access)
      · next refused =>
          have usable : Usable token (run.ticks 0).now := by
            rw [← clock]
            simpa [Usable, not_or, selectToken] using refused
          obtain ⟨owner, held, -, passed⟩ := grants_bind _ _ _ access passed
          obtain ⟨same, -⟩ := read_exec (.selectAuthById token.authId) (·.findAuthById token.authId)
            (fun _ _ => rfl) _ owner held
          cases owner with
          | none =>
              exact absurd passed
                (plain_grants _ (plain_pure _ (by simp [res.unauthorized, res.err]))
                _ access)
          | some row =>
              have holder : run.world.findAuthById token.authId = some row := by
                rw [← kept]
                exact same.symm
              obtain ⟨member, key⟩ := (run.world.find_auth_id token.authId row).mp holder
              obtain ⟨recent, -, -, passed⟩ := grants_bind _ _ _ access passed
              rw [exec_ite] at passed
              split at passed
              · exact absurd passed
                  (plain_grants _ (plain_pure _ (by simp [res.rateLimited, res.err]))
                  _ access)
              · obtain ⟨newRefreshToken, -, -, passed⟩ := grants_bind _ _ _ access passed
                obtain ⟨expiresAt, -, -, passed⟩ := grants_bind _ _ _ access passed
                obtain ⟨lastUsedAt, -, -, passed⟩ := grants_bind _ _ _ access passed
                obtain ⟨_, -, -, passed⟩ := grants_bind _ _ _ access passed
                obtain ⟨signed, signs, -, response, refresh, answered, tokens⟩ :=
                  grants_bind _ _ _ access passed
                obtain rfl := Except.ok.inj answered
                obtain rfl : signed = access := (Body.tokens.inj tokens).1
                obtain rfl := Except.ok.inj signs
                exact ⟨token, row, rfl, usable, rfl, account_kept _ (refresh_tokens_avoids body) run
                  _ _ _ ⟨row, member, key, rfl, rfl⟩⟩

end Grants

section Runs
variable (env : Env)

/-- The request carried an accepted ID token with this subject. -/
def presents (provider : OAuthProvider) (identifier : String) (record : Served) : Bool :=
  match record.request with
  | .oauthSignIn shown body =>
      match verifyOAuthJWT env record.tick.now body.idToken (OAUTH_VERIFIER_CONFIGS shown) with
      | .ok claims => shown = provider ∧ claims.sub = some identifier
      | .error _ => false
  | _ => false

def Presented (client : Nat) (provider : OAuthProvider) (identifier : String)
    (served : List Served) : Prop :=
  ∃ record ∈ served, record.caller = some client ∧ presents env provider identifier record = true

instance (client : Nat) (provider : OAuthProvider) (identifier : String) (served : List Served) :
    Decidable (Presented env client provider identifier served) :=
  inferInstanceAs (Decidable (∃ record ∈ served, _ ∧ _))

/-- The access token that the answer to a request handed out. -/
def granted (record : Served) : Option AccessToken :=
  match record.result with
  | .ok (some { body := .tokens access _, .. }) => some access
  | _ => none

/-- What entitles a client to the tokens of an account. -/
inductive Entitled (client : Nat) (record : Served) (earlier : List Served)
    (row : Auth) : Prop where
  | code (code : String) (otp : Otp) (provider : row.provider = .phone)
      (carries : verification record.request = some (row.identifier, code))
      (stored : record.before.findOtp row.identifier = some otp) (same : otp.code = code)
      (timely : record.readAt ≤ otp.expiresAt) : Entitled client record earlier row
  | session (body : RefreshTokensRequest) (token : Token)
      (carries : record.request = .refreshTokens body)
      (stored : record.before.findToken body.refreshToken = some token)
      (usable : Usable token record.readAt) (owner : token.authId = row.id) :
      Entitled client record earlier row
  | identity (provider : OAuthProvider) (same : row.provider = provider.toProvider)
      (shown : Presented env client provider row.identifier (record :: earlier)) :
      Entitled client record earlier row

/-- Tokens in the answer are for an account that the client is entitled to. -/
def Sound (record : Served) (earlier : List Served) : Prop :=
  ∀ client access, record.caller = some client → granted record = some access →
    ∃ row ∈ (exec perform (handler env record.request) record.opening).2.world.auth.rows,
      row.id = access.sub ∧ Entitled env client record earlier row

def signUpOf : Turn → Option (Nat × OAuthSignupRequest)
  | .visit client (.oauthSignup body) _ _ => some (client, body)
  | _ => none

/-- An OAuth sign-up comes from a client that has shown the identity before, or
is refused by what is stored. -/
def Vouched (state : State) (turn : Turn) : Prop :=
  ∀ signUp ∈ signUpOf turn,
    Presented env signUp.1 signUp.2.provider signUp.2.providerId state.served ∨
      blocked state.world signUp.2 = true

instance (state : State) (turn : Turn) : Decidable (Vouched env state turn) :=
  inferInstanceAs (Decidable (∀ signUp ∈ signUpOf turn, _ ∨ _))

section Serving
variable (state : State) (caller : Option Nat) (tick : Tick) (ticks : Nat → Tick)

theorem granted_grants (request : Request) (program : Handler Response)
    (wraps : handler env request = some <$> program) (access : AccessToken)
    (hands : granted (recordOf env state caller request tick ticks) = some access) :
    Grants (exec perform program (recordOf env state caller request tick ticks).opening)
    access := by
  obtain ⟨result, -, -⟩ := record_map env state caller request tick ticks some program wraps
  cases answered : (exec perform program
      (recordOf env state caller request tick ticks).opening).1 with
  | error error => simp [granted, result, answered, Except.map] at hands
  | ok response =>
      obtain ⟨status, body⟩ := response
      cases body with
      | tokens own refresh =>
          obtain rfl : own = access := by
            simpa [granted, result, answered, Except.map] using hands
          exact ⟨_, refresh, answered, rfl⟩
      | _ => simp [granted, result, answered, Except.map] at hands

theorem entitled_account (request : Request) (program : Handler Response)
    (wraps : handler env request = some <$> program) (client : Nat) (access : AccessToken)
    (provider : Provider) (identifier : String)
    (account : Account (exec perform program
      (recordOf env state caller request tick ticks).opening).2.world access.sub provider
      identifier)
    (entitled : ∀ row : Auth, row.id = access.sub → row.provider = provider →
      row.identifier = identifier →
      Entitled env client (recordOf env state caller request tick ticks) state.served row) :
    ∃ row ∈ (exec perform (handler env request)
        (recordOf env state caller request tick ticks).opening).2.world.auth.rows,
      row.id = access.sub ∧
        Entitled env client (recordOf env state caller request tick ticks) state.served row := by
  rw [wraps, exec_map]
  obtain ⟨row, member, key, own, same⟩ := account
  exact ⟨row, member, key, entitled row key own same⟩

theorem sound_served (request : Request)
    (vouched : ∀ client body, caller = some client → request = .oauthSignup body →
      Presented env client body.provider body.providerId state.served ∨
      blocked state.world body = true) :
    Sound env (recordOf env state caller request tick ticks) state.served := by
  intro client access visitor hands
  -- Three requests hand out no tokens; each of the others shows what entitles its client.
  cases request with
  | requestOTP body =>
      exact absurd (granted_grants env state caller tick ticks _ _ rfl access hands)
        (plain_grants _ (send_plain body) _ access)
  | logout body =>
      exact absurd (granted_grants env state caller tick ticks _ _ rfl access hands)
        (plain_grants _ (logout_plain body) _ access)
  | background job =>
      obtain ⟨result, -, -⟩ := record_map env state caller (.background job) tick ticks
        (fun _ => none) (runJob job) rfl
      cases ran : (exec perform (runJob job)
          (recordOf env state caller (.background job) tick ticks).opening).1 <;>
        simp [granted, result, ran, Except.map] at hands
  | phoneSignup body =>
      obtain ⟨⟨otp, stored, same, timely⟩, account⟩ := sign_up_grants body _ access
        (granted_grants env state caller tick ticks _ _ rfl access hands)
      refine entitled_account env state caller tick ticks _ _ rfl client access _ _ account ?_
      intro row key own identifier
      exact .code body.code otp own (identifier ▸ rfl) (identifier ▸ stored) same timely
  | phoneSignIn body =>
      obtain ⟨⟨otp, stored, same, timely⟩, account⟩ := sign_in_grants body _ access
        (granted_grants env state caller tick ticks _ _ rfl access hands)
      refine entitled_account env state caller tick ticks _ _ rfl client access _ _ account ?_
      intro row key own identifier
      exact .code body.code otp own (identifier ▸ rfl) (identifier ▸ stored) same timely
  | refreshTokens body =>
      obtain ⟨token, owner, stored, usable, owned, account⟩ := refresh_grants body _ access
        (granted_grants env state caller tick ticks _ _ rfl access hands)
      refine entitled_account env state caller tick ticks _ _ rfl client access _ _ account ?_
      intro row key own identifier
      exact .session body token rfl stored usable (owned.trans key.symm)
  | oauthSignIn provider body =>
      obtain ⟨claims, providerId, verified, sub, account⟩ :=
        oauth_sign_in_grants env provider body _
        access (granted_grants env state caller tick ticks _ _ rfl access hands)
      refine entitled_account env state caller tick ticks _ _ rfl client access _ _ account ?_
      intro row key own identifier
      refine .identity provider own ⟨_, List.mem_cons_self, visitor, ?_⟩
      simp only [presents, recordOf]
      rw [show verifyOAuthJWT env tick.now body.idToken (OAUTH_VERIFIER_CONFIGS provider) =
        .ok claims
        from verified]
      simp [sub, identifier]
  | oauthSignup body =>
      obtain ⟨unblocked, account⟩ := oauth_sign_up_grants env body _ access
        (granted_grants env state caller tick ticks _ _ rfl access hands)
      refine entitled_account env state caller tick ticks _ _ rfl client access _ _ account ?_
      intro row key own identifier
      obtain ⟨record, member, shown⟩ := (vouched client body visitor rfl).resolve_right
        (by rw [show blocked state.world body = false from unblocked]; exact Bool.false_ne_true)
      exact .identity body.provider own ⟨record, List.mem_cons_of_mem _ member, identifier ▸ shown⟩

end Serving

/-- In every run whose OAuth sign-ups are all vouched for, tokens go to clients
that are entitled to the account. -/
theorem sign_ins_sound (db : Db) (turns : List Turn)
    (guarded : Guarded (server env) (Vouched env) (idle db) turns) (later : List Served)
    (record : Served) (earlier : List Served)
    (split : (serveAll (server env) (idle db) turns).served = later ++ record :: earlier) :
    Sound env record earlier := by
  have sound := guarded_serve (server env) (Vouched env)
    (fun state => ∀ later record earlier, state.served = later ++ record :: earlier →
      Sound env record earlier)
    (fun state caller request tick ticks before _ vouched later record earlier split => by
      cases later with
      | cons first rest => exact before rest record earlier (List.cons.inj split).2
      | nil =>
          obtain ⟨rfl, rfl⟩ := List.cons.inj split
          refine sound_served env state (some caller) tick ticks request
            fun client body same asks => ?_
          cases same
          cases asks
          exact vouched _ rfl)
    (fun state request rest tick ticks before pending vouched later record earlier split => by
      cases later with
      | cons first others => exact before others record earlier (List.cons.inj split).2
      | nil =>
          obtain ⟨rfl, rfl⟩ := List.cons.inj split
          exact sound_served env { state with queue := rest } none tick ticks request
            fun client body same => by cases same)
    (idle db) turns (fun later record earlier split => by cases later <;> cases split) guarded
  exact sound later record earlier split

end Runs

/-! One Google account, and two clients. -/
section Takeover

def subject : String := "110169484474386276334"

def idTokenOfAda : String := "eyJhbGciOiJSUzI1NiJ9.eyJzdWIiOiIxMTAxNjk0ODQ0NzQifQ.c2lnbmVk"

def googleEnv : Env :=
  { sampleEnv with
    jwtVerify := fun _ token _ _ =>
      if token = idTokenOfAda then
        .ok { iss := some "https://accounts.google.com", exp := some 3600, sub := some subject,
              email := some "ada@example.com" }
      else .error (some "signature verification failed") }

def signUpAs (name email : String) : Request :=
  .oauthSignup { provider := .google, providerId := subject, email, name, gender := .female,
                 birthYear := 1990, deviceInfo := none }

-- The owner shows her ID token, is asked to sign up, and does.
def ownSignUp : List Visit :=
  [{ caller := 0, request := .oauthSignIn .google { idToken := idTokenOfAda, deviceInfo := none },
     present := 1000, draw := "c7q0a4x0000qzrmn831i7rn9" },
   { caller := 0, request := signUpAs "Ada" "ada@example.com", present := 2000,
     draw := "tz4a98xxat96iws9zmbrgj3a" }]

def ownRow : Auth where
  id := "tz4a98xxat96iws9zmbrgj3a"
  provider := .google
  identifier := subject
  email := some "ada@example.com"

theorem own_sign_up_sound :
    ∃ record earlier,
      (serveAll (server googleEnv) (idle Db.empty) (ownSignUp.map Visit.turn)).served =
        record :: earlier ∧ granted record ≠ none ∧ Sound googleEnv record earlier :=
  ⟨_, _, rfl, by decide, sign_ins_sound googleEnv Db.empty (ownSignUp.map Visit.turn)
    (by decide) [] _ _ rfl⟩

-- Then another client names the same identity in the body of its own sign-up.
def takeover : List Visit :=
  ownSignUp ++ [{ caller := 1, request := signUpAs "Eve" "eve@example.com", present := 3000,
                  draw := "n8v2e6k0qj5w3ypl7d1ruxsb" }]

def takenOver : State := serveAll (server googleEnv) (idle Db.empty) (takeover.map Visit.turn)

theorem sign_ins_unsound :
    ∃ record earlier, takenOver.served = record :: earlier ∧ ¬ Sound googleEnv record earlier := by
  refine ⟨_, _, rfl, fun sound => ?_⟩
  obtain ⟨row, member, -, entitled⟩ := sound 1 _ rfl rfl
  obtain rfl : row = ownRow := List.mem_singleton.mp member
  cases entitled with
  | code code otp provider carries stored same timely => cases provider
  | session body token carries stored usable owner => cases carries
  | identity provider same shown =>
      obtain rfl : OAuthProvider.google = provider := by cases provider <;> first | rfl | cases same
      exact absurd shown (by decide)

end Takeover

end TopInspect.SignInSoundness
