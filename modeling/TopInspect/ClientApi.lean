import TopInspect.Interleaving
import TopInspect.ClientStore

/-! The API client of packages/auth/expo (api.ts, service.ts). JavaScript runs
one segment at a time, from the end of an await to the next await, so a query is
an await together with the segment it resumes, and `segmentOf` is what that piece
of the code does. The server's answers come with the ticks. -/
namespace TopInspect.ClientApi

open Resumption Interleaving ClientStore
open AuthHandlers hiding Request Handler handler external spawned now minutes days

structure JwtPayload where
  iat : Option Int
  exp : Option Int

/-- The device, and the library that decodes access tokens (it throws on
malformed ones). `typeError` is the engine's text for a missing object. -/
structure Device where
  jwtDecode : String → Option JwtPayload
  deviceInfo : AuthSchema.DeviceInfo
  typeError : String

inductive Payload where
  | auth (request : AuthHandlers.Request)
  | app (data : String)

/-- An axios request; `retry` is the mark handleError leaves on it. -/
structure Config where
  url : String
  payload : Payload
  authorization : Option String
  retry : Bool

def Config.post (url : String) (payload : Payload) : Config :=
  { url, payload, authorization := none, retry := false }

/-- How a request sent to the server ends. -/
inductive Reply where
  | success (data : Option ResponseData)
  | response (status : Nat) (data : Option ErrorBody)
  | failure (code : Option String)

structure Tick where
  now : Int
  reply : Reply

inductive Settlement where
  | pending
  | resolved
  | rejected (error : ErrorResponse)
  deriving DecidableEq

/-- `promises` holds one promise for each call of refreshTokens, by its index. -/
structure World where
  store : AuthStore
  refreshPromise : Option Nat
  promises : List Settlement
  deriving DecidableEq

inductive Request where
  | call (config : Config)
  | refreshTokens
  | logOut
  | sendOtp (req : OtpRequest)
  | signUpWithPhone (req : PhoneSignupRequest)
  | signInWithPhone (req : PhoneSignInRequest)
  | signInWithGoogle (idToken : String)
  | signInWithApple (idToken : String)
  | signUpWithOAuth (req : OAuthSignupRequest)
  | refreshCall (promise : Nat) (refreshToken : String)

inductive Query where
  | intercept (config : Config)
  | resumeRequest (promise : Nat) (config : Config)
  | receive (config : Config)
  | resumeResponse (promise : Nat) (config : Config)
  | receiveAgain (config : Config)
  | callRefresh
  | settled (promise : Nat)
  | finishRefresh (promise : Nat) (outcome : Except ErrorResponse (Option ResponseData))
  | startLogOut
  | googleSignedOut (refreshToken : Option String)
  | clearAll
  | beginLoading
  | storeSession (asksSignup : Bool) (data : Option ResponseData)
  | storeOtp (data : Option ResponseData)
  | setErrorState (thrown : ErrorResponse)

/-- A request to send, or to send once the refresh it waits for is over. -/
inductive Intercepted where
  | proceed (config : Config)
  | wait (promise : Nat) (config : Config)

/-- An answered request, or one to retry once the refresh it waits for is over. -/
inductive Received where
  | resolved (data : Option ResponseData)
  | expired (promise : Nat) (config : Config)

inductive Result where
  | data (data : Option ResponseData)
  | otp (userExists : Option Bool)
  | needsSignup (provider providerId email : Option String)
  | done
  deriving DecidableEq

abbrev Query.Answer : Query → Type
  | .intercept _ => Intercepted
  | .resumeRequest _ _ => Config
  | .receive _ => Received
  | .resumeResponse _ _ => Config
  | .receiveAgain _ => Option ResponseData
  | .callRefresh => Nat
  | .settled _ => Unit
  | .finishRefresh _ _ => Unit
  | .startLogOut => Option String
  | .googleSignedOut _ => Option Config
  | .clearAll => Unit
  | .beginLoading => Unit
  | .storeSession _ _ => Result
  | .storeOtp _ => Result
  | .setErrorState _ => ErrorResponse

section Errors

def err (errorCode : String) : ErrorResponse :=
  match errorCode with
  | "NETWORK_ERROR" => .coded "Network error. Please check your connection." errorCode
  | "TIMEOUT_ERROR" => .coded "Request timed out. Please try again." errorCode
  | "INVALID_RESPONSE" => .coded "An unexpected error occurred." errorCode
  | "UNKNOWN_ERROR" => .coded "An unexpected error occurred." errorCode
  | _ => UNKNOWN_ERROR

/-- The part of handleError for an error without an answer. -/
def noResponse (code : Option String) : ErrorResponse :=
  match truthy code with
  | none => UNKNOWN_ERROR
  | some code =>
      if code = "ERR_NETWORK" then err "NETWORK_ERROR"
      else if code = "ECONNABORTED" ∨ code = "ETIMEDOUT" then err "TIMEOUT_ERROR"
      else UNKNOWN_ERROR

/-- What the response interceptor makes of handleError's result: an object with
a code rejects the request, one without is delivered as an answer. -/
def deliver (body : ErrorBody) : Except ErrorResponse (Option ResponseData) :=
  if (truthy body.code).isSome then .error body.toErrorResponse else .ok body.data

end Errors

section Segments
variable (device : Device)

def needsTokenRefresh (now : Int) (accessToken : String) : Bool :=
  match device.jwtDecode accessToken with
  | none => true
  | some { iat := some iat, exp := some exp } => 10 * (exp - now / 1000) ≤ exp - iat
  | some _ => false

def bearer (accessToken : Option String) : String := "Bearer " ++ accessToken.getD "null"

def refreshConfig (refreshToken : String) : Config :=
  .post "/auth/token/refresh" (.auth (.refreshTokens { refreshToken }))

/-- A segment: its outcome, the world it leaves and the tasks it starts. -/
structure Segment (α : Type) where
  outcome : Except ErrorResponse α
  world : World
  started : List Request

/-- refreshTokens() up to its request: the promise it returns. -/
def startRefresh (world : World) : Segment Nat :=
  match truthy world.store.refreshToken with
  | none =>
      -- The timer that logs out runs on its own.
      let failed := ClientStore.setErrorState world.store
        (.plain "No refresh token found, logging out")
      { outcome := .ok world.promises.length
        world := { world with
          store := failed.1, promises := world.promises ++ [.rejected failed.2] }
        started := [.logOut] }
  | some refreshToken =>
      { outcome := .ok world.promises.length
        world := { world with store := world.store.beginLoading,
                              promises := world.promises ++ [.pending] }
        started := [.refreshCall world.promises.length refreshToken] }

/-- `if (!refreshPromise) refreshPromise = refreshTokens()`, with the promise. -/
def takeLock (world : World) : Segment Nat :=
  match world.refreshPromise with
  | some promise => { outcome := .ok promise, world, started := [] }
  | none =>
      let begun := startRefresh world
      { begun with world := { begun.world with refreshPromise := some world.promises.length } }

def Segment.map {α β : Type} (change : α → β) (segment : Segment α) : Segment β :=
  { outcome := segment.outcome.map change, world := segment.world, started := segment.started }

/-- The private part of a url, which is marked by a leading `~`. -/
def privateUrl (url : String) : Option String :=
  match url.toList with
  | '~' :: rest => some (String.ofList rest)
  | _ => none

def intercept (now : Int) (config : Config) (world : World) : Segment Intercepted :=
  match privateUrl config.url with
  | none => { outcome := .ok (.proceed config), world, started := [] }
  | some url =>
      let config := { config with url }
      match truthy world.store.accessToken with
      | none => { outcome := .ok (.proceed config), world, started := [.logOut] }
      | some accessToken =>
          if needsTokenRefresh device now accessToken then
            (takeLock world).map fun promise => .wait promise config
          else
            let authorization := some (bearer accessToken)
            { outcome := .ok (.proceed { config with authorization }), world, started := [] }

/-- What follows `await refreshPromise` at both places it is taken. -/
def resume (promise : Nat) (config : Config) (world : World) : Segment Config :=
  match world.promises[promise]? with
  | some (.rejected refreshError) => { outcome := .error refreshError, world, started := [] }
  | _ =>
      let authorization := some (bearer world.store.accessToken)
      { outcome := .ok { config with authorization }
        world := { world with refreshPromise := none }
        started := [] }

/-- handleError for an answer with a body, when no refresh is tried. -/
def refuse (status : Nat) (body : ErrorBody) (world : World) : Segment (Option ResponseData) :=
  let errorCode := body.code.getD "UNKNOWN_ERROR"
  { outcome := deliver body
    world
    started :=
      if status = 401 ∧ (errorCode = "INVALID_TOKEN" ∨ errorCode = "INVALID_REFRESH_TOKEN") then
        [.logOut]
      else [] }

def receiveAgain (reply : Reply) (world : World) : Segment (Option ResponseData) :=
  match reply with
  | .success data => { outcome := .ok data, world, started := [] }
  | .failure code => { outcome := .error (noResponse code), world, started := [] }
  | .response _ none => { outcome := .error (err "INVALID_RESPONSE"), world, started := [] }
  | .response status (some body) => refuse status body world

/-- A 401 answer whose access token has expired. -/
def isExpired : Reply → Bool
  | .response status (some body) => status = 401 ∧ body.code = some "EXPIRED_TOKEN"
  | _ => false

def receive (reply : Reply) (config : Config) (world : World) : Segment Received :=
  if isExpired reply ∧ config.retry = false then
    (takeLock world).map fun promise => .expired promise { config with retry := true }
  else (receiveAgain reply world).map .resolved

def finishRefresh (promise : Nat) (outcome : Except ErrorResponse (Option ResponseData))
    (world : World) : Segment Unit :=
  let rejected (thrown : ErrorResponse) : Segment Unit :=
    let failed := ClientStore.setErrorState world.store thrown
    { outcome := .ok ()
      world := { world with store := failed.1,
                            promises := world.promises.set promise (.rejected failed.2) }
      started := [] }
  match outcome with
  | .error thrown => rejected thrown
  | .ok none => rejected (.plain device.typeError)
  | .ok (some data) =>
      { outcome := .ok ()
        world := { world with
          store := { world.store with accessToken := data.accessToken,
                                      refreshToken := data.refreshToken }
          promises := world.promises.set promise .resolved }
        started := [] }

/-- logOut() after the Google session is cleaned up. Without a refresh token it
is over at once. -/
def googleSignedOut (refreshToken : Option String) (world : World) : Segment (Option Config) :=
  match truthy refreshToken with
  | none =>
      { outcome := .ok none, world := { world with store := world.store.clearAll }, started := [] }
  | some refreshToken =>
      { outcome := .ok (some (.post "/auth/logout" (.auth (.logout { refreshToken }))))
        world := { world with store := world.store.beginLoading }
        started := [] }

def wantsSignup (data : ResponseData) : Bool :=
  data.needsSignup && (truthy data.provider).isSome && (truthy data.providerId).isSome

def storeSession (asksSignup : Bool) (data : Option ResponseData) (world : World) :
    Segment Result :=
  match data with
  | none => { outcome := .error (.plain device.typeError), world, started := [] }
  | some data =>
      if asksSignup ∧ wantsSignup data then
        { outcome := .ok (.needsSignup data.provider data.providerId data.email)
          world := { world with store := { world.store with isLoading := false } }
          started := [] }
      else
        let store := { world.store with accessToken := data.accessToken,
                                        refreshToken := data.refreshToken, isAuthenticated := true }
        { outcome := .ok .done, world := { world with store := store.clearUI }, started := [] }

def storeOtp (data : Option ResponseData) (world : World) : Segment Result :=
  { outcome := match data with
      | none => .error (.plain device.typeError)
      | some data => .ok (.otp data.userExists)
    world := { world with store := { world.store with isLoading := false } }
    started := [] }

def segmentOf (tick : Tick) : (query : Query) → World → Segment query.Answer
  | .intercept config, world => intercept device tick.now config world
  | .resumeRequest promise config, world => resume promise config world
  | .receive config, world => receive tick.reply config world
  | .resumeResponse promise config, world => resume promise config world
  | .receiveAgain _, world => receiveAgain tick.reply world
  | .callRefresh, world => startRefresh world
  | .settled promise, world =>
      { outcome := match world.promises[promise]? with
          | some (.rejected error) => .error error
          | _ => .ok ()
        world, started := [] }
  | .finishRefresh promise outcome, world => finishRefresh device promise outcome world
  | .startLogOut, world => { outcome := .ok world.store.refreshToken, world, started := [] }
  | .googleSignedOut refreshToken, world => googleSignedOut refreshToken world
  | .clearAll, world =>
      { outcome := .ok (), world := { world with store := world.store.clearAll }, started := [] }
  | .beginLoading, world =>
      { outcome := .ok (), world := { world with store := world.store.beginLoading },
        started := [] }
  | .storeSession asksSignup data, world => storeSession device asksSignup data world
  | .storeOtp data, world => storeOtp device data world
  | .setErrorState thrown, world =>
      let failed := ClientStore.setErrorState world.store thrown
      { outcome := .ok failed.2, world := { world with store := failed.1 }, started := [] }

def perform : Perform Query Query.Answer ErrorResponse Tick World := fun tick query world =>
  ((segmentOf device tick query world).outcome, (segmentOf device tick query world).world)

/-- An await of a promise waits for it to settle. -/
def ready : Query → World → Bool
  | .resumeRequest promise _, world => world.promises[promise]? ≠ some .pending
  | .resumeResponse promise _, world => world.promises[promise]? ≠ some .pending
  | .settled promise, world => world.promises[promise]? ≠ some .pending
  | _, _ => true

def spawned (tick : Tick) (query : Query) (world : World) : List Request :=
  (segmentOf device tick query world).started

end Segments

abbrev Client : Type → Type := Async Query Query.Answer ErrorResponse Tick

section Programs

def intercepted (config : Config) : Client Config := do
  match ← call (Query.intercept config) with
  | .proceed config => pure config
  | .wait promise config => call (Query.resumeRequest promise config)

-- Axios hands a request interceptor's rejection to the response interceptor.
def sent (config : Config) : Client Config :=
  tryCatch (intercepted config) fun refreshError => throw (noResponse refreshError.code)

/-- `api(originalRequest)`, the one retry. -/
def retried (config : Config) : Client (Option ResponseData) := do
  let config ← sent config
  call (Query.receiveAgain config)

def api (config : Config) : Client (Option ResponseData) := do
  let config ← sent config
  match ← call (Query.receive config) with
  | .resolved data => pure data
  | .expired promise config => do
      let config ← call (Query.resumeResponse promise config)
      retried config

def outcomeOf (config : Config) : Client (Except ErrorResponse (Option ResponseData)) :=
  tryCatch (Except.ok <$> api config) fun error => pure (.error error)

/-- refreshTokens() from its request on; what it settles is its promise. -/
def refreshCall (promise : Nat) (refreshToken : String) : Client Unit := do
  let outcome ← outcomeOf (refreshConfig refreshToken)
  call (Query.finishRefresh promise outcome)

def refreshTokens : Client Unit := do
  let promise ← call Query.callRefresh
  call (Query.settled promise)

def logOut : Client Unit := do
  let refreshToken ← call Query.startLogOut
  match ← call (Query.googleSignedOut refreshToken) with
  | none => pure ()
  | some config =>
      let _ ← outcomeOf config
      call Query.clearAll

/-- An operation of service.ts: a request whose answer goes into the store. -/
def operation (config : Config) (store : Option ResponseData → Client Result) :
    Client Result := do
  call Query.beginLoading
  tryCatch (api config >>= store) fun thrown => do
    let error ← call (Query.setErrorState thrown)
    throw error

def keepOtp (data : Option ResponseData) : Client Result := call (Query.storeOtp data)

def keepSession (asksSignup : Bool) (data : Option ResponseData) : Client Result :=
  call (Query.storeSession asksSignup data)

def sendOtp (req : OtpRequest) : Client Result :=
  operation (.post "/auth/phone/otp" (.auth (.requestOTP req))) keepOtp

variable (device : Device)

def signUpWithPhone (req : PhoneSignupRequest) : Client Result :=
  let req := { req with deviceInfo := some device.deviceInfo }
  operation (.post "/auth/phone/signup" (.auth (.phoneSignup req))) (keepSession false)

def signInWithPhone (req : PhoneSignInRequest) : Client Result :=
  let req := { req with deviceInfo := some device.deviceInfo }
  operation (.post "/auth/phone/login" (.auth (.phoneSignIn req))) (keepSession false)

def signInWithGoogle (idToken : String) : Client Result :=
  let req := { idToken, deviceInfo := some device.deviceInfo }
  operation (.post "/auth/google" (.auth (.oauthSignIn .google req))) (keepSession true)

def signInWithApple (idToken : String) : Client Result :=
  let req := { idToken, deviceInfo := some device.deviceInfo }
  operation (.post "/auth/apple" (.auth (.oauthSignIn .apple req))) (keepSession true)

def signUpWithOAuth (req : OAuthSignupRequest) : Client Result :=
  let req := { req with deviceInfo := some device.deviceInfo }
  operation (.post "/auth/oauth/signup" (.auth (.oauthSignup req))) (keepSession false)

def program : Request → Client Result
  | .call config => Result.data <$> api config
  | .refreshTokens => (fun _ => .done) <$> refreshTokens
  | .logOut => (fun _ => .done) <$> logOut
  | .sendOtp req => sendOtp req
  | .signUpWithPhone req => signUpWithPhone device req
  | .signInWithPhone req => signInWithPhone device req
  | .signInWithGoogle idToken => signInWithGoogle device idToken
  | .signInWithApple idToken => signInWithApple device idToken
  | .signUpWithOAuth req => signUpWithOAuth device req
  | .refreshCall promise refreshToken => (fun _ => .done) <$> refreshCall promise refreshToken

/-- Every request but the inside of refreshTokens comes from the app. -/
def external : Request → Bool
  | .refreshCall _ _ => false
  | _ => true

def client : Machine Request Query Query.Answer ErrorResponse Tick World Result where
  program := program device
  external
  ready
  perform := perform device
  spawned := spawned device

end Programs

/-! Which request can ask a query. -/
section Owners

def ofInterceptors : Query → Bool
  | .intercept _ => true
  | .resumeRequest _ _ => true
  | .receive _ => true
  | .resumeResponse _ _ => true
  | .receiveAgain _ => true
  | _ => false

theorem avoids_sent (config : Config) :
    Avoids (fun query => ofInterceptors query = false) (sent config) := by
  refine avoids_catch _ _ ?_ fun _ => avoids_throw _
  refine avoids_bind _ _ (avoids_call _ nofun) fun answer => ?_
  cases answer with
  | proceed config => exact avoids_pure _
  | wait promise config => exact avoids_call _ nofun

theorem avoids_api (config : Config) :
    Avoids (fun query => ofInterceptors query = false) (api config) := by
  refine avoids_bind _ _ (avoids_sent config) fun _ => ?_
  refine avoids_bind _ _ (avoids_call _ nofun) fun answer => ?_
  cases answer with
  | resolved data => exact avoids_pure _
  | expired promise config =>
      refine avoids_bind _ _ (avoids_call _ nofun) fun _ => ?_
      exact avoids_bind _ _ (avoids_sent _) fun _ => avoids_call _ nofun

theorem avoids_outcome (config : Config) :
    Avoids (fun query => ofInterceptors query = false) (outcomeOf config) :=
  avoids_catch _ _ (avoids_map _ (avoids_api config)) fun _ => avoids_pure _

def Belongs (request : Request) : Query → Prop
  | .callRefresh => request = .refreshTokens
  | .settled _ => request = .refreshTokens
  | .finishRefresh promise _ => ∃ refreshToken, request = .refreshCall promise refreshToken
  | .startLogOut => request = .logOut
  | .googleSignedOut _ => request = .logOut
  | .clearAll => request = .logOut
  | _ => True

variable {request : Request}

theorem shared_belongs (query : Query) (alien : ¬ Belongs request query) :
    ofInterceptors query = false := by
  cases query with
  | intercept config => exact absurd trivial alien
  | resumeRequest promise config => exact absurd trivial alien
  | receive config => exact absurd trivial alien
  | resumeResponse promise config => exact absurd trivial alien
  | receiveAgain config => exact absurd trivial alien
  | _ => rfl

theorem api_belongs (config : Config) :
    Avoids (fun query => ¬ Belongs request query) (api config) :=
  avoids_mono shared_belongs _ (avoids_api config)

theorem outcome_belongs (config : Config) :
    Avoids (fun query => ¬ Belongs request query) (outcomeOf config) :=
  avoids_mono shared_belongs _ (avoids_outcome config)

theorem operation_belongs (config : Config) (store : Option ResponseData → Client Result)
    (stores : ∀ data, Avoids (fun query => ¬ Belongs request query) (store data)) :
    Avoids (fun query => ¬ Belongs request query) (operation config store) := by
  refine avoids_bind _ _ (avoids_call _ (not_not.mpr trivial)) fun _ => ?_
  refine avoids_catch _ _ (avoids_bind _ _ (api_belongs config) stores) fun thrown => ?_
  exact avoids_bind _ _ (avoids_call _ (not_not.mpr trivial)) fun _ => avoids_throw _

theorem log_out_belongs : Avoids (fun query => ¬ Belongs .logOut query) logOut := by
  refine avoids_bind _ _ (avoids_call _ (not_not.mpr rfl)) fun refreshToken => ?_
  refine avoids_bind _ _ (avoids_call _ (not_not.mpr rfl)) fun config => ?_
  cases config with
  | none => exact avoids_pure _
  | some config =>
      exact avoids_bind _ _ (outcome_belongs config) fun _ => avoids_call _ (not_not.mpr rfl)

theorem program_belongs (device : Device) (request : Request) :
    Avoids (fun query => ¬ Belongs request query) (program device request) := by
  have otp : ∀ data, Avoids (fun query => ¬ Belongs request query) (keepOtp data) :=
    fun data => avoids_call _ (not_not.mpr trivial)
  have session : ∀ asks data,
    Avoids (fun query => ¬ Belongs request query) (keepSession asks data) :=
    fun asks data => avoids_call _ (not_not.mpr trivial)
  cases request with
  | call config => exact avoids_map _ (api_belongs config)
  | refreshTokens =>
      exact avoids_map _ (avoids_bind _ _ (avoids_call _ (not_not.mpr rfl)) fun _ =>
        avoids_call _ (not_not.mpr rfl))
  | logOut => exact avoids_map _ log_out_belongs
  | sendOtp req => exact operation_belongs _ _ otp
  | signUpWithPhone req => exact operation_belongs _ _ (session _)
  | signInWithPhone req => exact operation_belongs _ _ (session _)
  | signInWithGoogle idToken => exact operation_belongs _ _ (session _)
  | signInWithApple idToken => exact operation_belongs _ _ (session _)
  | signUpWithOAuth req => exact operation_belongs _ _ (session _)
  | refreshCall promise refreshToken =>
      exact avoids_map _ (avoids_bind _ _ (outcome_belongs _) fun _ =>
        avoids_call _ (not_not.mpr ⟨refreshToken, rfl⟩))

end Owners

def opened (store : AuthStore) : World := { store, refreshPromise := none, promises := [] }

abbrev Entry := Interleaving.Entry Request Query Tick World
abbrev Action := Interleaving.Action Request Tick
abbrev Task := Interleaving.Task Request Query Query.Answer ErrorResponse Tick Result
abbrev State := Interleaving.State Request Query Query.Answer ErrorResponse Tick World Result

theorem task_belongs (device : Device) (state : State) (coherent : (client device).Coherent state)
    (index : Nat) (task : Task) (query : Query) (present : state.tasks[index]? = some task)
    (awaits : task.residual.awaiting = some query) : Belongs task.request query :=
  not_not.mp (Machine.awaits_outside (fun request query => ¬ Belongs request query)
    (program_belongs device) state coherent index task query present awaits)

/-! A phone with a session whose access token is stale. -/
section Sample

def phone : Device where
  jwtDecode token := if token = "fresh" then some { iat := some 0, exp := some 1800 } else none
  deviceInfo :=
    { os := .ios, osVersion := "18.0", model := "iPhone", brand := "Apple", deviceYearClass := none,
      appVersion := "1.0.0", buildNumber := "1" }
  typeError := "Cannot read property 'accessToken' of undefined"

def signedIn : AuthStore where
  accessToken := some "stale"
  refreshToken := some "refresh"
  isAuthenticated := true
  isAuthLoading := false
  isLoading := false
  error := none

def renewed : ResponseData where
  accessToken := some "fresh"
  refreshToken := some "rotated"
  userExists := none
  needsSignup := false
  provider := none
  providerId := none
  email := none

def at0 (reply : Reply) : Tick := { now := 0, reply }

end Sample
end TopInspect.ClientApi
