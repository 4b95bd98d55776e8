import TopInspect.AuthHandlers

/-! The statements of refreshTokens and logout in order. Both read the row of a
refresh token and later write by the same token value, so what they have read
is told by the statement they await. -/
namespace TopInspect.SessionPaths

open Resumption AuthSchema AuthStatements AuthHandlers AUTH_CONFIG

structure Found (token : String) (event : Step) (row : Token) : Prop where
  query : event.query = .selectToken token
  steady : event.tick.outage = .none
  row : event.before.findToken token = some row

/-- The row admits a refresh at the time it is read. -/
def Usable (row : Token) (present : Time) : Prop :=
  row.revokedAt = none ∧ ¬ row.expiresAt < present

def Cooled (row : Token) (present : Time) : Prop :=
  ¬ present - row.lastUsedAt < minutes REFRESH_COOLDOWN_MINUTES

theorem select_token_ok (tick : Tick) (token : String) (db : Db) (row : Option Token)
    (answered : (perform tick (.selectToken token) db).1 = .ok row) :
    tick.outage = .none ∧ row = db.findToken token := by
  have executed := perform_ok tick (.selectToken token) db row answered
  simp only [execute, Except.ok.injEq, Prod.mk.injEq] at executed
  exact ⟨answered_steady _ _ _ _ (by simp) answered, executed.1.symm⟩

/-! A refresh cut at its awaits. -/

def reissue (authId newToken : String) : Handler Response := do
  let accessToken ← generateAccessToken authId
  return res.ok (.tokens accessToken newToken)

def afterOwner (body : RefreshTokensRequest) (row : Token) (owner : Option Auth) :
    Handler Response := fun tick =>
  match owner with
  | none => .done (res.unauthorized "User not found")
  | some _ =>
      if tick.now - row.lastUsedAt < minutes REFRESH_COOLDOWN_MINUTES then .done res.rateLimited
      else (rotateToken body.refreshToken tick.refreshToken
        (tick.now + days REFRESH_TOKEN_EXPIRY_DAYS) tick.now >>=
          fun _ => reissue row.authId tick.refreshToken) tick

def afterToken (body : RefreshTokensRequest) (found : Option Token) :
    Handler Response := fun tick =>
  match found with
  | none => .done res.invalidRefreshToken
  | some row =>
      if row.revokedAt.isSome ∨ row.expiresAt < tick.now then .done res.invalidRefreshToken
      else (selectAuthById row.authId >>= afterOwner body row) tick

theorem refresh_stages (body : RefreshTokensRequest) :
    refreshTokens body = selectToken body.refreshToken >>= afterToken body := by
  unfold refreshTokens
  congr 1
  funext found tick
  cases found with
  | none => rfl
  | some row =>
      change (if row.revokedAt.isSome = true ∨ row.expiresAt < tick.now then _ else _ :
        Handler Response) tick =
          if row.revokedAt.isSome = true ∨ row.expiresAt < tick.now then _ else _
      by_cases refused : row.revokedAt.isSome = true ∨ row.expiresAt < tick.now
      · rw [if_pos refused, if_pos refused]
        rfl
      · rw [if_neg refused, if_neg refused]
        refine congrArg (fun next => (selectAuthById row.authId >>= next) tick) ?_
        funext owner present
        cases owner with
        | none => rfl
        | some holder =>
            change (if decide (present.now - row.lastUsedAt < minutes REFRESH_COOLDOWN_MINUTES) =
              true
              then _ else _ : Handler Response) present =
                if present.now - row.lastUsedAt < minutes REFRESH_COOLDOWN_MINUTES then _ else _
            by_cases recent : present.now - row.lastUsedAt < minutes REFRESH_COOLDOWN_MINUTES
            · rw [if_pos (decide_eq_true recent), if_pos recent]
              rfl
            · rw [if_neg (by simpa using recent), if_neg recent]
              rfl

def afterRevocation (_ : Nat) : Handler Response := pure (res.ok (.message "Logged out"))

def afterLookup (body : LogoutRequest) (found : Option Token) : Handler Response := fun tick =>
  match found with
  | none => .done (res.unauthorized "Invalid refresh token")
  | some row =>
      if row.revokedAt.isSome then .done (res.unauthorized "Invalid refresh token")
      else (revokeToken body.refreshToken tick.now >>= afterRevocation) tick

theorem logout_stages (body : LogoutRequest) :
    logout body = selectToken body.refreshToken >>= afterLookup body := by
  unfold logout
  congr 1
  funext found tick
  cases found with
  | none => rfl
  | some row =>
      cases revoked : row.revokedAt.isSome with
      | true => simp [afterLookup, revoked, pure]
      | false => simp [afterLookup, revoked]; rfl

/-- The statement a refresh awaits, and what it has read by then. -/
inductive RefreshAwaits (token : String) : List Step → Statement → Prop where
  | read : RefreshAwaits token [] (.selectToken token)
  | owner (select : Step) (row : Token) (found : Found token select row)
      (usable : Usable row select.tick.now) :
      RefreshAwaits token [select] (.selectAuthById row.authId)
  | rotate (select owner : Step) (row : Token) (found : Found token select row)
      (usable : Usable row select.tick.now) (cooled : Cooled row owner.tick.now) :
      RefreshAwaits token [select, owner]
        (.rotateToken token owner.tick.refreshToken
          (owner.tick.now + days REFRESH_TOKEN_EXPIRY_DAYS) owner.tick.now)

/-- A refresh that answers with tokens of an account has read a usable row of it, and its
rotation was answered. -/
inductive Refreshed (token newToken account : String) : List Step → Prop where
  | rotated (select owner rotate : Step) (row : Token) (found : Found token select row)
      (usable : Usable row select.tick.now) (cooled : Cooled row owner.tick.now)
      (holder : row.authId = account)
      (query : rotate.query = .rotateToken token newToken
        (owner.tick.now + days REFRESH_TOKEN_EXPIRY_DAYS) owner.tick.now)
      (answered : ∃ count, (perform rotate.tick rotate.query rotate.before).1 = .ok count) :
      Refreshed token newToken account [select, owner, rotate]

theorem refresh_owner (body : RefreshTokensRequest) (select : Step) (rest : List Step) (row : Token)
    (last : Residual Statement Statement.Answer DbError Tick Response)
    (found : Found body.refreshToken select row) (usable : Usable row select.tick.now)
    (follows : Follows perform ((selectAuthById row.authId >>= afterOwner body row) select.tick)
      rest last) :
    (∃ statement, last.awaiting = some statement ∧
      RefreshAwaits body.refreshToken (select :: rest) statement) ∨
    (∃ error, last = .throw error) ∨
    (∃ error status code, last = .done (res.err error status code)) ∨
    ∃ accessToken newToken, last = .done (res.ok (.tokens accessToken newToken)) ∧
      Refreshed body.refreshToken newToken accessToken.sub (select :: rest) := by
  rcases follows_call perform (.selectAuthById row.authId) _ select.tick rest last follows with
    ⟨rfl, awaits⟩ | ⟨owner, later, rfl, -, ⟨error, -, -, rfl⟩ | ⟨holder, -, follows⟩⟩
  · exact Or.inl ⟨_, awaits, .owner select row found usable⟩
  · exact Or.inr (Or.inl ⟨error, rfl⟩)
  · cases holder with
    | none =>
        obtain ⟨-, rfl⟩ := follows_settled perform _ last later rfl follows
        exact Or.inr (Or.inr (Or.inl ⟨_, _, _, rfl⟩))
    | some holder =>
        simp only [afterOwner] at follows
        split at follows
        · obtain ⟨-, rfl⟩ := follows_settled perform _ last later rfl follows
          exact Or.inr (Or.inr (Or.inl ⟨_, _, _, rfl⟩))
        · next cooled =>
            rcases follows_call perform (.rotateToken body.refreshToken owner.tick.refreshToken _ _)
              _ owner.tick later last follows with
              ⟨rfl, awaits⟩ | ⟨rotate, others, rfl, asked, ⟨error, -, -, rfl⟩ | ⟨count, answered,
                follows⟩⟩
            · exact Or.inl ⟨_, awaits, .rotate select owner row found usable cooled⟩
            · exact Or.inr (Or.inl ⟨error, rfl⟩)
            · obtain ⟨rfl, rfl⟩ := follows_settled perform _ last others rfl follows
              refine Or.inr (Or.inr (Or.inr ⟨_, _, rfl, ?_⟩))
              exact .rotated select owner rotate row found usable cooled rfl asked (by
                rw [asked]
                exact ⟨count, answered⟩)

/-- Every way a refresh can stand or end. -/
theorem refresh_follows (body : RefreshTokensRequest) (tick : Tick) (history : List Step)
    (last : Residual Statement Statement.Answer DbError Tick Response)
    (follows : Follows perform (refreshTokens body tick) history last) :
    (∃ statement, last.awaiting = some statement ∧
      RefreshAwaits body.refreshToken history statement) ∨
    (∃ error, last = .throw error) ∨
    (∃ error status code, last = .done (res.err error status code)) ∨
    ∃ accessToken newToken, last = .done (res.ok (.tokens accessToken newToken)) ∧
      Refreshed body.refreshToken newToken accessToken.sub history := by
  rw [refresh_stages] at follows
  rcases follows_call perform (.selectToken body.refreshToken) _ tick history last follows with
    ⟨rfl, awaits⟩ | ⟨select, rest, rfl, asked, ⟨error, -, -, rfl⟩ | ⟨found, answered, follows⟩⟩
  · exact Or.inl ⟨_, awaits, .read⟩
  · exact Or.inr (Or.inl ⟨error, rfl⟩)
  · obtain ⟨steady, same⟩ := select_token_ok _ _ _ _ answered
    cases found with
    | none =>
        obtain ⟨-, rfl⟩ := follows_settled perform _ last rest rfl follows
        exact Or.inr (Or.inr (Or.inl ⟨_, _, _, rfl⟩))
    | some row =>
        have reads : Found body.refreshToken select row := ⟨asked, steady, same.symm⟩
        simp only [afterToken] at follows
        split at follows
        · obtain ⟨-, rfl⟩ := follows_settled perform _ last rest rfl follows
          exact Or.inr (Or.inr (Or.inl ⟨_, _, _, rfl⟩))
        · next refused =>
            have usable : Usable row select.tick.now := by simpa [Usable, not_or] using refused
            exact refresh_owner body select rest row last reads usable follows

/-- The statement a logout awaits, and what it has read by then. -/
inductive LogoutAwaits (token : String) : List Step → Statement → Prop where
  | read : LogoutAwaits token [] (.selectToken token)
  | revoke (select : Step) (row : Token) (found : Found token select row)
      (live : row.revokedAt = none) :
      LogoutAwaits token [select] (.revokeToken token select.tick.now)

/-- A logout that succeeds has read a live row, and its revocation was answered. -/
inductive LoggedOut (token : String) : List Step → Prop where
  | revoked (select revoke : Step) (row : Token) (found : Found token select row)
      (live : row.revokedAt = none) (query : revoke.query = .revokeToken token select.tick.now)
      (answered : ∃ count, (perform revoke.tick revoke.query revoke.before).1 = .ok count) :
      LoggedOut token [select, revoke]

theorem logout_follows (body : LogoutRequest) (tick : Tick) (history : List Step)
    (last : Residual Statement Statement.Answer DbError Tick Response)
    (follows : Follows perform (logout body tick) history last) :
    (∃ statement, last.awaiting = some statement ∧
      LogoutAwaits body.refreshToken history statement) ∨
    (∃ error, last = .throw error) ∨
    (∃ error status code, last = .done (res.err error status code)) ∨
    (last = .done (res.ok (.message "Logged out")) ∧ LoggedOut body.refreshToken history) := by
  rw [logout_stages] at follows
  rcases follows_call perform (.selectToken body.refreshToken) _ tick history last follows with
    ⟨rfl, awaits⟩ | ⟨select, rest, rfl, asked, ⟨error, -, -, rfl⟩ | ⟨found, answered, follows⟩⟩
  · exact Or.inl ⟨_, awaits, .read⟩
  · exact Or.inr (Or.inl ⟨error, rfl⟩)
  · obtain ⟨steady, same⟩ := select_token_ok _ _ _ _ answered
    cases found with
    | none =>
        obtain ⟨-, rfl⟩ := follows_settled perform _ last rest rfl follows
        exact Or.inr (Or.inr (Or.inl ⟨_, _, _, rfl⟩))
    | some row =>
        have reads : Found body.refreshToken select row := ⟨asked, steady, same.symm⟩
        simp only [afterLookup] at follows
        split at follows
        · obtain ⟨-, rfl⟩ := follows_settled perform _ last rest rfl follows
          exact Or.inr (Or.inr (Or.inl ⟨_, _, _, rfl⟩))
        · next revoked =>
            have live : row.revokedAt = none := by simpa using revoked
            rcases follows_call perform (.revokeToken body.refreshToken select.tick.now) _
              select.tick rest last follows with
              ⟨rfl, awaits⟩ | ⟨revoke, later, rfl, query, ⟨error, -, -, rfl⟩ | ⟨count, written,
                follows⟩⟩
            · exact Or.inl ⟨_, awaits, .revoke select row reads live⟩
            · exact Or.inr (Or.inl ⟨error, rfl⟩)
            · obtain ⟨rfl, rfl⟩ := follows_settled perform _ last later rfl follows
              refine Or.inr (Or.inr (Or.inr ⟨rfl, ?_⟩))
              exact .revoked select revoke row reads live query (by
                rw [query]
                exact ⟨count, written⟩)

end TopInspect.SessionPaths
