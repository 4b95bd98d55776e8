import TopInspect.ClientFailures

/-! The answers of the auth routes as the API client receives them. -/
namespace TopInspect.ServerAnswers

open Resumption
open AuthHandlers hiding Request Handler handler external spawned now minutes days
open ClientStore ClientApi

abbrev ServerRequest := AuthHandlers.Request

abbrev Signer := AccessToken → String

section Answers
variable (env : Env) (sign : Signer)

def noData : ResponseData where
  accessToken := none
  refreshToken := none
  userExists := none
  needsSignup := false
  provider := none
  providerId := none
  email := none

/-- What the client reads of a 2xx answer. -/
def dataOf : Body → ResponseData
  | .otp userExists => { noData with userExists := some userExists }
  | .tokens accessToken refreshToken =>
      { noData with accessToken := some (sign accessToken), refreshToken := some refreshToken }
  | .needsSignup provider providerId email =>
      { noData with
        needsSignup := true
        provider := some (Provider.text provider)
        providerId := some providerId
        email := some email }
  | .message _ => noData
  | .error _ _ => noData

def replyOf (response : Response) : Reply :=
  match response.body with
  | .error error code =>
      .response response.status
        (some { error := some error, code := some code, message := none, data := none })
  | body => .success (some (dataOf sign body))

/-- A way for a handler to answer, whatever the database does meanwhile. -/
def Answers (request : ServerRequest) (response : Response) : Prop :=
  ∃ tick history, Follows AuthStatements.perform (AuthHandlers.handler env request tick) history
    (.done (some response))

/-- How a request to an auth route can end: unanswered, answered by its handler, refused by
a middleware or the error handler, or answered by a gateway without a body of the app. -/
inductive Served (request : ServerRequest) : Reply → Prop where
  | unanswered (code : Option String) : Served request (.failure code)
  | answered (response : Response) (answers : Answers env request response) :
      Served request (replyOf sign response)
  | refused (status : Nat) (body : ErrorBody) (coded : truthy body.code ≠ none) :
      Served request (.response status (some body))
  | gateway (status : Nat) : Served request (.response status none)

theorem replied_answers (state : Live.State) (coherent : (server env).Coherent state) (index : Nat)
    (request : ServerRequest) (response : Response)
    (replied : Live.Replied state index request response) : Answers env request response := by
  obtain ⟨task, present, rfl, done⟩ := replied
  obtain ⟨tick, follows⟩ := coherent.follows index task present
  exact ⟨tick, _, done ▸ follows⟩

end Answers

/-! Which bodies a handler can answer with. -/
section Shapes

def isError : Body → Prop
  | .error _ _ => True
  | _ => False

def lasts (accessToken : AccessToken) : Prop :=
  accessToken.exp = accessToken.iat + AUTH_CONFIG.ACCESS_TOKEN_EXPIRY_MINUTES * 60

def givesTokens : Body → Prop
  | .tokens accessToken _ => lasts accessToken
  | .error _ _ => True
  | _ => False

/-- Tokens, a request to sign up that says for what, or an error. -/
def givesSession : Body → Prop
  | .needsSignup _ providerId _ => providerId ≠ ""
  | body => givesTokens body

abbrev Gives (kind : Body → Prop) (program : AuthHandlers.Handler Response) : Prop :=
  Returns (fun response => kind response.body) program

theorem otp_refused (errorCode : OtpErrorCode) (error : String) :
    givesTokens (handleOtpError errorCode error).body := by
  cases errorCode <;> trivial

theorem access_lasts (userId : String) : Returns lasts (generateAccessToken userId) := by
  apply returns_bind
  intro present
  exact returns_pure _ rfl

theorem issue_lasts (authId : String) (deviceInfo : Option AuthSchema.DeviceInfo) :
    Returns (fun issued => lasts issued.1) (issueTokens authId deviceInfo) := by
  apply returns_after _ _ (access_lasts authId)
  intro accessToken granted
  apply returns_bind
  intro refreshToken
  apply returns_bind
  intro expiresAt
  apply returns_bind
  intro id
  apply returns_bind
  intro _
  exact returns_pure _ granted

theorem sign_up_gives (body : PhoneSignupRequest) : Gives givesTokens (phoneSignup body) := by
  apply returns_bind
  intro result
  cases result with
  | failure errorCode error => exact returns_pure _ (otp_refused errorCode error)
  | success =>
      apply returns_bind
      intro existing
      cases existing with
      | some existingAuth =>
          apply returns_bind
          intro user
          cases user with
          | some user => exact returns_pure _ trivial
          | none => exact returns_pure _ trivial
      | none =>
          apply returns_bind
          intro id
          apply returns_bind
          intro newAuth
          apply returns_bind
          intro _
          apply returns_after _ _ (issue_lasts _ _)
          intro issued granted
          exact returns_pure _ granted

theorem sign_in_gives (body : PhoneSignInRequest) : Gives givesTokens (phoneSignIn body) := by
  apply returns_bind
  intro result
  cases result with
  | failure errorCode error => exact returns_pure _ (otp_refused errorCode error)
  | success =>
      apply returns_bind
      intro existing
      cases existing with
      | none => exact returns_pure _ trivial
      | some existingAuth =>
          apply returns_bind
          intro user
          cases user with
          | none => exact returns_pure _ trivial
          | some user =>
              apply returns_after _ _ (issue_lasts _ _)
              intro issued granted
              exact returns_pure _ granted

theorem session_gives (existingAuth : AuthSchema.Auth) (email : String)
    (deviceInfo : Option AuthSchema.DeviceInfo) :
    Gives givesTokens (openSession existingAuth email deviceInfo) := by
  apply returns_bind
  intro user
  cases user with
  | none => exact returns_pure _ trivial
  | some user =>
      apply returns_bind
      intro _
      apply returns_after _ _ (issue_lasts _ _)
      intro issued granted
      exact returns_pure _ granted

theorem refusal_gives (provider : OAuthProvider) (holder : Option AuthSchema.Auth)
    (refusal : Response) (refused : emailConflict provider holder = some refusal) :
    givesTokens refusal.body := by
  unfold emailConflict at refused
  split at refused
  · cases refused
  · split at refused
    · obtain rfl := Option.some.inj refused
      trivial
    · cases refused

theorem oauth_sign_up_gives (env : Env) (body : OAuthSignupRequest) :
    Gives givesTokens (oauthSignup env body) := by
  apply returns_bind
  intro existing
  cases existing with
  | some existingAuth => exact session_gives existingAuth body.email body.deviceInfo
  | none =>
      apply returns_bind
      intro holder
      cases refused : emailConflict body.provider holder with
      | some refusal =>
          exact returns_pure _ (refusal_gives body.provider holder refusal refused)
      | none =>
          apply returns_bind
          intro id
          apply returns_bind
          intro newAuth
          apply returns_bind
          intro _
          apply returns_after _ _ (issue_lasts _ _)
          intro issued granted
          apply returns_bind
          intro _
          exact returns_pure _ granted

theorem refresh_gives (body : RefreshTokensRequest) :
    Gives givesTokens (AuthHandlers.refreshTokens body) := by
  apply returns_bind
  intro row
  cases row with
  | none => exact returns_pure _ trivial
  | some token =>
      apply returns_bind
      intro present
      split
      · exact returns_pure _ trivial
      · apply returns_bind
        intro owner
        cases owner with
        | none => exact returns_pure _ trivial
        | some auth =>
            apply returns_bind
            intro recent
            split
            · exact returns_pure _ trivial
            · apply returns_bind
              intro newRefreshToken
              apply returns_bind
              intro expiresAt
              apply returns_bind
              intro lastUsedAt
              apply returns_bind
              intro _
              apply returns_after _ _ (access_lasts _)
              intro accessToken granted
              exact returns_pure _ granted

theorem tokens_session (body : Body) (gives : givesTokens body) : givesSession body := by
  cases body with
  | needsSignup provider providerId email => cases gives
  | _ => exact gives

theorem truthy_present (text : Option String) (value : String) (holds : truthy text = some value) :
    value ≠ "" := by
  simpa using (Option.filter_eq_some_iff.mp holds).2

theorem oauth_sign_in_gives (env : Env) (provider : OAuthProvider) (body : OAuthSignInRequest) :
    Gives givesSession (createOAuthSignInHandler env provider body) := by
  apply returns_bind
  intro present
  cases verified : verifyOAuthJWT env present body.idToken (OAUTH_VERIFIER_CONFIGS provider) with
  | error thrown => exact returns_pure _ trivial
  | ok claims =>
      cases email : truthy claims.email with
      | none =>
          simp only [email]
          exact returns_pure _ trivial
      | some address =>
          cases sub : truthy claims.sub with
          | none =>
              simp only [email, sub]
              exact returns_pure _ trivial
          | some providerId =>
              simp only [email, sub]
              apply returns_bind
              intro existing
              cases existing with
              | some existingAuth =>
                  exact returns_mono (fun (response : Response) => tokens_session response.body)
                    (session_gives existingAuth address body.deviceInfo)
              | none =>
                  apply returns_bind
                  intro holder
                  cases refused : emailConflict provider holder with
                  | some refusal =>
                      exact returns_pure _
                        (tokens_session _ (refusal_gives provider holder refusal refused))
                  | none => exact returns_pure _ (truthy_present claims.sub providerId sub)

def kindOf : ServerRequest → Body → Prop
  | .phoneSignup _ => givesTokens
  | .phoneSignIn _ => givesTokens
  | .oauthSignup _ => givesTokens
  | .refreshTokens _ => givesTokens
  | .oauthSignIn _ _ => givesSession
  | _ => fun _ => True

theorem answers_kind (env : Env) (request : ServerRequest) (response : Response)
    (answers : Answers env request response) : kindOf request response.body := by
  have of_program (program : AuthHandlers.Handler Response) (kind : Body → Prop)
      (gives : Gives kind program)
      (same : AuthHandlers.handler env request = some <$> program) : kind response.body := by
    obtain ⟨tick, history, follows⟩ := answers
    rw [same] at follows
    have returns : Returns (fun answer => ∀ response, answer = some response → kind response.body)
        (some <$> program) := by
      apply returns_map
      apply returns_mono _ gives
      rintro answer holds other same
      obtain rfl := Option.some.inj same
      exact holds
    exact returns_follows AuthStatements.perform _ history _ (returns tick) follows response rfl
  cases request with
  | phoneSignup body => exact of_program _ _ (sign_up_gives body) rfl
  | phoneSignIn body => exact of_program _ _ (sign_in_gives body) rfl
  | oauthSignup body => exact of_program _ _ (oauth_sign_up_gives env body) rfl
  | refreshTokens body => exact of_program _ _ (refresh_gives body) rfl
  | oauthSignIn provider body => exact of_program _ _ (oauth_sign_in_gives env provider body) rfl
  | requestOTP body => trivial
  | logout body => trivial
  | background job => trivial

end Shapes
end TopInspect.ServerAnswers
