import TopInspect.Interleaving
import TopInspect.AuthStatements

/-! The handlers of modules/auth/handlers.ts. A body is what the validator
passes on; a handler awaits statements and reads the clock and the generators
of its running segment. Signing an access token, or verifying an ID token, is
no statement and needs no step of its own. -/
namespace TopInspect.AuthHandlers

open Resumption Interleaving AuthSchema AuthStatements

abbrev Handler : Type → Type := Async Statement Statement.Answer DbError Tick

namespace AUTH_CONFIG
def ACCESS_TOKEN_EXPIRY_MINUTES : Int := 30
def REFRESH_TOKEN_EXPIRY_DAYS : Int := 30
def REFRESH_COOLDOWN_MINUTES : Int := 5
def OTP_EXPIRY_MINUTES : Int := 5
def OTP_COOLDOWN_MINUTES : Int := 1
def OTP_MAX_ATTEMPTS : Nat := 3
end AUTH_CONFIG

open AUTH_CONFIG

-- utils/date.ts
def now : Handler Time := do return (← currentTick).now

def minutes (count : Int) : Time := count * 60 * 1000
def days (count : Int) : Time := count * 24 * 60 * 60 * 1000

def minutesAgo (count : Int) : Handler Time := do return (← now) - minutes count
def minutesFromNow (count : Int) : Handler Time := do return (← now) + minutes count
def daysFromNow (count : Int) : Handler Time := do return (← now) + days count

section Awaits
def selectOtp (phone : String) : Handler (Option Otp) := call (Statement.selectOtp phone)
def upsertOtp (row : Otp) : Handler Unit := call (Statement.upsertOtp row)
def updateOtpAttempts (phone : String) (attempts : Nat) : Handler Nat :=
  call (Statement.updateOtpAttempts phone attempts)
def deleteOtp (phone : String) : Handler Nat := call (Statement.deleteOtp phone)
def selectAuth (provider : Provider) (identifier : String) : Handler (Option Auth) :=
  call (Statement.selectAuth provider identifier)
def selectAuthById (id : String) : Handler (Option Auth) := call (Statement.selectAuthById id)
def selectAuthByEmail (email : String) : Handler (Option Auth) :=
    call (Statement.selectAuthByEmail email)
def insertAuth (row : Auth) : Handler Auth := call (Statement.insertAuth row)
def updateAuthEmail (id email : String) : Handler Nat := call (Statement.updateAuthEmail id email)
def deleteAuth (id : String) : Handler Nat := call (Statement.deleteAuth id)
def selectUser (id : String) : Handler (Option User) := call (Statement.selectUser id)
def insertUser (row : User) : Handler Unit := call (Statement.insertUser row)
def selectToken (token : String) : Handler (Option Token) := call (Statement.selectToken token)
def insertToken (id authId token : String) (expiresAt : Time)
    (deviceInfo : Option DeviceInfo) : Handler Unit :=
  call (Statement.insertToken id authId token expiresAt deviceInfo)
def rotateToken (token newToken : String) (expiresAt lastUsedAt : Time) : Handler Nat :=
  call (Statement.rotateToken token newToken expiresAt lastUsedAt)
def revokeToken (token : String) (revokedAt : Time) : Handler Nat :=
  call (Statement.revokeToken token revokedAt)
def waitUntil (job : Job) : Handler Unit := call (Statement.waitUntil job)
end Awaits

structure AccessToken where
  sub : String
  iat : Int
  exp : Int
  deriving DecidableEq

inductive Body where
  | otp (userExists : Bool)
  | tokens (accessToken : AccessToken) (refreshToken : String)
  | needsSignup (provider : Provider) (providerId email : String)
  | message (text : String)
  | error (error code : String)
  deriving DecidableEq

structure Response where
  status : Nat
  body : Body
  deriving DecidableEq

namespace res
def ok (body : Body) : Response := { status := 200, body }
def created (body : Body) : Response := { status := 201, body }
def err (error : String) (status : Nat) (code : String) : Response :=
  { status, body := .error error code }
def unauthorized (error : String) : Response := err error 401 "UNAUTHORIZED"
def invalidRefreshToken : Response :=
  err "Invalid or expired refresh token" 401 "INVALID_REFRESH_TOKEN"
def invalidOtp : Response := err "Invalid OTP! Please check and try again." 401 "OTP_INVALID"
def expiredOtp : Response := err "OTP has expired" 401 "EXPIRED_OTP"
def tooManyOtpAttempts : Response :=
  err "Too many failed attempts. Please request a new OTP." 401 "OTP_MAX_ATTEMPTS"
def rateLimited : Response := err "Too many requests, try again later" 429 "RATE_LIMITED"
def otpRateLimited : Response :=
  err "Too many OTP requests, try again later" 429 "OTP_RATE_LIMITED"
def conflict (error : String) : Response := err error 409 "CONFLICT"
def databaseError (error : String) : Response := err error 500 "DATABASE_ERROR"
def userNotFound (error : String) : Response := err error 404 "USER_NOT_FOUND"
def userExists (error : String) : Response := err error 409 "USER_EXISTS"
def profileIncomplete (error : String) : Response := err error 409 "PROFILE_INCOMPLETE"
end res

inductive OtpRequestPurpose where
  | login
  | signup
  deriving DecidableEq

structure OtpRequest where
  phone : String
  purpose : OtpRequestPurpose

structure PhoneSignupRequest where
  phone : String
  code : String
  name : String
  gender : Gender
  birthYear : Int
  deviceInfo : Option DeviceInfo

structure PhoneSignInRequest where
  phone : String
  code : String
  deviceInfo : Option DeviceInfo

inductive OAuthProvider where
  | google
  | apple
  deriving DecidableEq

structure OAuthSignInRequest where
  idToken : String
  deviceInfo : Option DeviceInfo

structure OAuthSignupRequest where
  provider : OAuthProvider
  providerId : String
  email : String
  name : String
  gender : Gender
  birthYear : Int
  deviceInfo : Option DeviceInfo

structure RefreshTokensRequest where
  refreshToken : String

structure LogoutRequest where
  refreshToken : String

-- The generators of the segment: six digits, and 24 characters of base36.
def generateOTP : Handler String := do return (← currentTick).otpCode
def generateRefreshToken : Handler String := do return (← currentTick).refreshToken
def createId : Handler String := do return (← currentTick).id

def generateAccessToken (userId : String) : Handler AccessToken := do
  let issuedAt := (← now) / 1000
  return { sub := userId, iat := issuedAt, exp := issuedAt + ACCESS_TOKEN_EXPIRY_MINUTES * 60 }

def recentlyRefreshed (lastUsedAt : Time) : Handler Bool := do
  let timeSinceLastUse := (← now) - lastUsedAt
  return decide (timeSinceLastUse < minutes REFRESH_COOLDOWN_MINUTES)

def profileExists : Option Auth → Handler Bool
  | none => pure false
  | some existingAuth => do return (← selectUser existingAuth.id).isSome

def requestOTP (body : OtpRequest) : Handler Response := do
  let recentOTP ← selectOtp body.phone
  let threshold ← minutesAgo OTP_COOLDOWN_MINUTES
  if recentOTP.any fun otp => otp.createdAt > threshold then
    return res.otpRateLimited
  let existingAuth ← selectAuth .phone body.phone
  let userExists ← profileExists existingAuth
  if body.purpose = .login ∧ userExists = false then
    return res.ok (.otp userExists)
  if body.purpose = .signup ∧ userExists = true then
    return res.userExists "User already exists. Please login instead."
  let otpCode ← generateOTP
  let expiresAt ← minutesFromNow OTP_EXPIRY_MINUTES
  let createdAt ← now
  try
    upsertOtp { phone := body.phone, code := otpCode, attempts := 0, expiresAt, createdAt }
    waitUntil (.sendOTP body.phone otpCode)
    pure (res.ok (.otp userExists))
  catch _ => pure (res.databaseError "Failed to process OTP request")

inductive OtpErrorCode where
  | OTP_NOT_FOUND
  | OTP_EXPIRED
  | OTP_MAX_ATTEMPTS
  | OTP_INVALID
  deriving DecidableEq

inductive OtpVerificationResult where
  | success
  | failure (errorCode : OtpErrorCode) (error : String)
  deriving DecidableEq

def verifyOTPCode (phone code : String) : Handler OtpVerificationResult := do
  match ← selectOtp phone with
  | none => return .failure .OTP_NOT_FOUND "No OTP found for this phone number"
  | some otp =>
    let present ← now
    if otp.expiresAt < present then
      let _ ← deleteOtp phone
      return .failure .OTP_EXPIRED "OTP has expired"
    if OTP_MAX_ATTEMPTS ≤ otp.attempts then
      let _ ← deleteOtp phone
      return .failure .OTP_MAX_ATTEMPTS "Too many failed attempts. Please request a new OTP."
    if otp.code ≠ code then
      let newAttempts := otp.attempts + 1
      let _ ← updateOtpAttempts phone newAttempts
      if OTP_MAX_ATTEMPTS ≤ newAttempts then
        let _ ← deleteOtp phone
        return .failure .OTP_MAX_ATTEMPTS "Too many failed attempts. Please request a new OTP."
      return .failure .OTP_INVALID "Invalid OTP! Please check and try again."
    let _ ← deleteOtp phone
    return .success

def handleOtpError (errorCode : OtpErrorCode) (error : String) : Response :=
  match errorCode with
  | .OTP_EXPIRED => res.expiredOtp
  | .OTP_MAX_ATTEMPTS => res.tooManyOtpAttempts
  | .OTP_INVALID => res.invalidOtp
  | .OTP_NOT_FOUND => res.unauthorized (if error = "" then "OTP verification failed" else error)

def issueTokens (authId : String) (deviceInfo : Option DeviceInfo) :
    Handler (AccessToken × String) := do
  let accessToken ← generateAccessToken authId
  let refreshToken ← generateRefreshToken
  let expiresAt ← daysFromNow REFRESH_TOKEN_EXPIRY_DAYS
  insertToken (← createId) authId refreshToken expiresAt deviceInfo
  return (accessToken, refreshToken)

/-- The profile of a fresh auth row. When it cannot be stored, the row is left
to a background job and the error goes on to the caller. -/
def createProfile (newAuth : Auth) (name : String) (gender : Gender) (birthYear : Int) :
    Handler Unit :=
  try insertUser { id := newAuth.id, name, gender, birthYear }
  catch error => do
    waitUntil (.deleteAuth newAuth.id)
    throw error

/-- The part of phoneSignup that follows a successful verification. -/
def completeSignup (body : PhoneSignupRequest) : Handler Response := do
  match ← selectAuth .phone body.phone with
  | some existingAuth =>
    match ← selectUser existingAuth.id with
    | some _ => return res.userExists "User already exists. Please login instead."
    | none =>
      return res.profileIncomplete "Account setup incomplete. Please contact support."
  | none =>
    let newAuth ← insertAuth
      { id := ← createId, provider := .phone, identifier := body.phone, email := none }
    createProfile newAuth body.name body.gender body.birthYear
    let (accessToken, refreshToken) ← issueTokens newAuth.id body.deviceInfo
    return res.created (.tokens accessToken refreshToken)

def phoneSignup (body : PhoneSignupRequest) : Handler Response := do
  match ← verifyOTPCode body.phone body.code with
  | .failure errorCode error => return handleOtpError errorCode error
  | .success => completeSignup body

/-- The part of phoneSignIn that follows a successful verification. -/
def completeSignIn (body : PhoneSignInRequest) : Handler Response := do
  match ← selectAuth .phone body.phone with
  | none => return res.userNotFound "User not found. Please sign up first."
  | some existingAuth =>
    match ← selectUser existingAuth.id with
    | none => return res.profileIncomplete "User profile incomplete. Please sign up again."
    | some _ =>
      let (accessToken, refreshToken) ← issueTokens existingAuth.id body.deviceInfo
      return res.ok (.tokens accessToken refreshToken)

def phoneSignIn (body : PhoneSignInRequest) : Handler Response := do
  match ← verifyOTPCode body.phone body.code with
  | .failure errorCode error => return handleOtpError errorCode error
  | .success => completeSignIn body

def refreshTokens (body : RefreshTokensRequest) : Handler Response := do
  match ← selectToken body.refreshToken with
  | none => return res.invalidRefreshToken
  | some token =>
    let present ← now
    if token.revokedAt.isSome ∨ token.expiresAt < present then
      return res.invalidRefreshToken
    match ← selectAuthById token.authId with
    | none => return res.unauthorized "User not found"
    | some _ =>
      if ← recentlyRefreshed token.lastUsedAt then
        return res.rateLimited
      let newRefreshToken ← generateRefreshToken
      let expiresAt ← daysFromNow REFRESH_TOKEN_EXPIRY_DAYS
      let _ ← rotateToken body.refreshToken newRefreshToken expiresAt (← now)
      let accessToken ← generateAccessToken token.authId
      return res.ok (.tokens accessToken newRefreshToken)

def logout (body : LogoutRequest) : Handler Response := do
  match ← selectToken body.refreshToken with
  | none => return res.unauthorized "Invalid refresh token"
  | some token =>
    if token.revokedAt.isSome then
      return res.unauthorized "Invalid refresh token"
    let _ ← revokeToken body.refreshToken (← now)
    return res.ok (.message "Logged out")

/-! Sign-in with an ID token. -/

structure Claims where
  iss : Option String
  exp : Option Int
  sub : Option String
  email : Option String

structure OAuthVerifierConfig where
  jwks : String
  issuer : List String
  providerName : String

def OAUTH_VERIFIER_CONFIGS : OAuthProvider → OAuthVerifierConfig
  | .google =>
      { jwks := "https://www.googleapis.com/oauth2/v3/certs"
        issuer := ["https://accounts.google.com", "accounts.google.com"]
        providerName := "Google" }
  | .apple =>
      { jwks := "https://appleid.apple.com/auth/keys"
        issuer := ["https://appleid.apple.com"]
        providerName := "Apple" }

/-- The deployment and the library that reads ID tokens. A rejection carries
the message of the error thrown, when it was an `Error`. -/
structure Env where
  ENV : Option String
  APP_NAME : String
  APP_URL : String
  decodeJwt : String → Except (Option String) Claims
  jwtVerify : Time → String → (jwks : String) → (issuer : List String) →
    Except (Option String) Claims

def OAuthProvider.toProvider : OAuthProvider → Provider
  | .google => .google
  | .apple => .apple

def Provider.text : Provider → String
  | .phone => "phone"
  | .google => "google"
  | .apple => "apple"

def capitalizeFirst (text : String) : String :=
  match text.toList with
  | [] => text
  | first :: rest => String.ofList (first.toUpper :: rest)

def getArticle (word : String) : String :=
  match word.toList with
  | [] => "a"
  | first :: _ => if first.toLower ∈ ['a', 'e', 'i', 'o', 'u'] then "an" else "a"

def conflictText (provider : Provider) : String :=
  let providerName := capitalizeFirst (Provider.text provider)
  "This email is already associated with " ++ getArticle (Provider.text provider) ++ " " ++
    providerName ++ " account. Please sign in with " ++ providerName ++ " instead."

section OAuth
variable (env : Env)

-- In development an Apple token is decoded without any check of its signature.
def verifyOAuthJWT (present : Time) (token : String) (config : OAuthVerifierConfig) :
    Except (Option String) Claims :=
  if env.ENV.getD "production" = "development" ∧ config.providerName = "Apple" then do
    let payload ← env.decodeJwt token
    if ¬ payload.iss.any fun iss => iss ∈ config.issuer then
      throw (some "Invalid issuer")
    if payload.exp.any fun exp => exp ≠ 0 ∧ exp < present / 1000 then
      throw (some "Token expired")
    return payload
  else env.jwtVerify present token config.jwks config.issuer

-- A JavaScript string is falsy when it is absent or empty.
def truthy (text : Option String) : Option String := text.filter fun text => text ≠ ""

theorem truthy_some (text : Option String) (value : String) (holds : truthy text = some value) :
    text = some value := by
  cases text with
  | none => cases holds
  | some inner =>
      simp only [truthy, Option.filter_some] at holds
      split at holds
      · exact holds
      · cases holds

def fillEmail (existingAuth : Auth) (email : String) : Handler Unit := do
  if (truthy existingAuth.email).isSome then
    return ()
  let _ ← updateAuthEmail existingAuth.id email
  return ()

/-- What both OAuth handlers do once they have found the account. -/
def openSession (existingAuth : Auth) (email : String) (deviceInfo : Option DeviceInfo) :
    Handler Response := do
  match ← selectUser existingAuth.id with
  | none => return res.profileIncomplete "User profile incomplete. Please contact support."
  | some _ =>
    fillEmail existingAuth email
    let (accessToken, refreshToken) ← issueTokens existingAuth.id deviceInfo
    return res.ok (.tokens accessToken refreshToken)

/-- The refusal of an address that another provider's account holds. -/
def emailConflict (provider : OAuthProvider) (holder : Option Auth) : Option Response :=
  match holder with
  | none => none
  | some row =>
    if row.provider ≠ provider.toProvider then some (res.conflict (conflictText row.provider))
    else none

def createOAuthSignInHandler (provider : OAuthProvider) (body : OAuthSignInRequest) :
    Handler Response := do
  let invalidTokenMessage :=
    "Invalid " ++ capitalizeFirst (Provider.text provider.toProvider) ++ " ID token"
  match verifyOAuthJWT env (← now) body.idToken (OAUTH_VERIFIER_CONFIGS provider) with
  | .error thrown => return res.unauthorized (thrown.getD invalidTokenMessage)
  | .ok claims =>
    match truthy claims.email, truthy claims.sub with
    | some email, some providerId =>
      match ← selectAuth provider.toProvider providerId with
      | some existingAuth => openSession existingAuth email body.deviceInfo
      | none =>
        match emailConflict provider (← selectAuthByEmail email) with
        | some refusal => return refusal
        | none => return res.ok (.needsSignup provider.toProvider providerId email)
    | _, _ => return res.unauthorized invalidTokenMessage

def welcome (name email : String) : Job :=
  .sendEmail email ("Welcome to " ++ env.APP_NAME)
    { appName := env.APP_NAME
      username := String.ofList (name.toList.takeWhile fun letter => letter ≠ ' ')
      dashboardUrl := env.APP_URL ++ "/dashboard"
      supportUrl := env.APP_URL ++ "/support" }

def oauthSignup (body : OAuthSignupRequest) : Handler Response := do
  match ← selectAuth body.provider.toProvider body.providerId with
  | some existingAuth => openSession existingAuth body.email body.deviceInfo
  | none =>
    match emailConflict body.provider (← selectAuthByEmail body.email) with
    | some refusal => return refusal
    | none =>
      let newAuth ← insertAuth
        { id := ← createId, provider := body.provider.toProvider,
          identifier := body.providerId, email := some body.email }
      createProfile newAuth body.name body.gender body.birthYear
      let (accessToken, refreshToken) ← issueTokens newAuth.id body.deviceInfo
      waitUntil (welcome env body.name body.email)
      return res.created (.tokens accessToken refreshToken)

end OAuth

inductive Request where
  | requestOTP (body : OtpRequest)
  | phoneSignup (body : PhoneSignupRequest)
  | phoneSignIn (body : PhoneSignInRequest)
  | oauthSignIn (provider : OAuthProvider) (body : OAuthSignInRequest)
  | oauthSignup (body : OAuthSignupRequest)
  | refreshTokens (body : RefreshTokensRequest)
  | logout (body : LogoutRequest)
  | background (job : Job)

-- Sending a message or a mail touches no table.
def runJob : Job → Handler Unit
  | .deleteAuth id => do
      let _ ← deleteAuth id
      return ()
  | .sendOTP _ _ => pure ()
  | .sendEmail _ _ _ => pure ()

/-- Background jobs answer nobody. -/
def handler (env : Env) : Request → Handler (Option Response)
  | .requestOTP body => some <$> requestOTP body
  | .phoneSignup body => some <$> phoneSignup body
  | .phoneSignIn body => some <$> phoneSignIn body
  | .oauthSignIn provider body => some <$> createOAuthSignInHandler env provider body
  | .oauthSignup body => some <$> oauthSignup env body
  | .refreshTokens body => some <$> refreshTokens body
  | .logout body => some <$> logout body
  | .background job => (fun _ => none) <$> runJob job

def external : Request → Bool
  | .background _ => false
  | _ => true

def spawned (_ : Tick) : Statement → Db → List Request
  | .waitUntil job, _ => [.background job]
  | _, _ => []

def server (env : Env) :
    Machine Request Statement Statement.Answer DbError Tick Db (Option Response) where
  program := handler env
  external := external
  ready := fun _ _ => true
  perform := perform
  spawned := spawned

/-! The server's tasks under interleaving. -/
namespace Live

abbrev Entry : Type := Interleaving.Entry Request Statement Tick Db
abbrev Action : Type := Interleaving.Action Request Tick
abbrev Task : Type :=
  Interleaving.Task Request Statement Statement.Answer DbError Tick (Option Response)
abbrev State : Type :=
  Interleaving.State Request Statement Statement.Answer DbError Tick Db (Option Response)

abbrev entryOf (state : State) (index : Nat) (tick : Tick) (task : Task) (query : Statement) :
    Entry :=
  { query, tick, before := state.world, task := index, request := task.request, born := task.born }

def Replied (state : State) (index : Nat) (request : Request) (response : Response) : Prop :=
  ∃ task : Task, state.tasks[index]? = some task ∧ task.request = request ∧
    task.residual = .done (some response)

end Live

/-! A deployment and a clock for runs on concrete input. -/

def sampleEnv : Env where
  ENV := some "production"
  APP_NAME := "Prism"
  APP_URL := "https://app.example"
  decodeJwt := fun _ => .error none
  jwtVerify := fun _ _ _ _ => .error none

/-- A segment at one instant on both clocks with nothing out of order. -/
def tickAt (present : Time) (draw : String) : Tick :=
  { outage := .none, dbNow := present, now := present, otpCode := "493021",
    refreshToken := draw, id := draw }

end TopInspect.AuthHandlers
