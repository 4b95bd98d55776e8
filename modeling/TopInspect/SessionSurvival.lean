import TopInspect.ClientSegments
import TopInspect.ProtectedRoutes

/-! The API client against the protected routes. requireAuth looks the user up in
the try block of its token check, so a lookup that throws is answered like a bad
token, and the client takes that answer for the end of its session. -/
namespace TopInspect.SessionSurvival

open AuthHandlers (truthy)
open ClientStore ClientApi ClientSegments ProtectedRoutes
open Interleaving hiding Entry State Action Task

/-- How a request to a protected route fares: nothing comes back, or a gateway
answers without a body of the app, or the server answers. -/
inductive Fate where
  | unanswered (code : Option String)
  | gateway (status : Nat)
  | answered (visit : Visit)

/-- An action of the client and what the server makes of the request it ends. -/
structure Move where
  action : Action
  fate : Fate

def routeOf (url : String) : Option ProtectedRoutes.Route :=
  match splitFirst '?' url with
  | "/upload/presigned-url" => some .presignedUrl
  | "/upload/direct" => some .directUpload
  | _ => none

def awaited : Query → Option (ProtectedRoutes.Route × Config)
  | .receive config => (routeOf config.url).map fun route => (route, config)
  | .receiveAgain config => (routeOf config.url).map fun route => (route, config)
  | _ => none

-- An upload's answer has none of the fields that the client's own readers look at.
def uploaded : ResponseData where
  accessToken := none
  refreshToken := none
  userExists := none
  needsSignup := false
  provider := none
  providerId := none
  email := none

def replyOf (response : Response) : Reply :=
  match response.body with
  | .upload _ _ => .success (some uploaded)
  | .error error code =>
      .response response.status
        (some { error := some error, code := some code, message := none, data := none })

section Runs
variable (deployment : Deployment) (device : Device)

def answer (route : ProtectedRoutes.Route) (config : Config) : Fate → Reply
  | .unanswered code => .failure code
  | .gateway status => .response status none
  | .answered visit => replyOf (serve deployment visit route config.authorization)

/-- A request to a protected route is answered by the server; all else is free. -/
def answered (state : State) (move : Move) : Action :=
  match move.action with
  | .arrive request tick => .arrive request tick
  | .advance index tick =>
      match (state.tasks[index]?.bind fun task => task.residual.awaiting).bind awaited with
      | none => .advance index tick
      | some (route, config) =>
          .advance index { tick with reply := answer deployment route config move.fate }

def joined (store : AuthStore) (moves : List Move) : State :=
  (client device).run (start (opened store))
    ((client device).actions (answered deployment) (start (opened store)) moves)

def visited (query : Query) (fate : Fate) : Option (Config × Visit) :=
  match awaited query, fate with
  | some (_, config), .answered visit => some (config, visit)
  | _, _ => none

/-- Every access token presented is a genuine one of a user there is. -/
def Genuine (state : State) (move : Move) : Prop :=
  ∀ entry ∈ (client device).upcoming state (answered deployment state move),
    ∀ met ∈ visited entry.query move.fate,
      presentsUser deployment met.2 met.1.authorization = true

/-- The answer to an entry does not start a log-out. -/
def Survived (entry : Entry) : Prop :=
  (awaited entry.query).isSome = true →
    Request.logOut ∉ spawned device entry.tick entry.query entry.before

/-- No answer of a protected route has started a log-out. -/
def SessionKept (state : State) : Prop := ∀ entry ∈ state.trace, Survived device entry

/-- With nothing to refresh by, an answer about an expired token ends the session. -/
def stranded : Query → World → Bool
  | .receive config, world =>
      !config.retry && world.refreshPromise.isNone && (truthy world.store.refreshToken).isNone
  | _, _ => false

/-- A lookup that throws this ends the session: it passes for a bad token, or for an
expired one that cannot be refreshed. -/
def EndsSession (query : Query) (world : World) (message : String) : Prop :=
  includes message "expired" = false ∨ stranded query world = true

/-- No users lookup throws what ends the session. -/
def LookupsHold (state : State) (move : Move) : Prop :=
  ∀ entry ∈ (client device).upcoming state (answered deployment state move),
    ∀ met ∈ visited entry.query move.fate,
      ∀ message ∈ lookupThrown deployment met.2 met.1.authorization,
        ¬ EndsSession entry.query entry.before message

instance (query : Query) (world : World) (message : String) :
    Decidable (EndsSession query world message) :=
  inferInstanceAs (Decidable (includes message "expired" = false ∨ stranded query world = true))

instance (state : State) (move : Move) : Decidable (Genuine deployment device state move) :=
  inferInstanceAs (Decidable (∀ entry ∈ (client device).upcoming state _, ∀ met ∈ _, _ = true))

instance (state : State) (move : Move) : Decidable (LookupsHold deployment device state move) :=
  inferInstanceAs (Decidable (∀ entry ∈ (client device).upcoming state _,
    ∀ met ∈ _, ∀ message ∈ _, ¬ EndsSession entry.query entry.before message))

end Runs

section Answers
variable (deployment : Deployment) (device : Device)

theorem lock_logs_out (world : World) :
    Request.logOut ∈ (takeLock world).started ↔
      world.refreshPromise = none ∧ truthy world.store.refreshToken = none := by
  unfold takeLock startRefresh
  cases held : world.refreshPromise with
  | some promise => simp
  | none => cases token : truthy world.store.refreshToken <;> simp

def condemns : Reply → Bool
  | .response status (some body) =>
      status = 401 ∧ (body.code = some "INVALID_TOKEN" ∨ body.code = some "INVALID_REFRESH_TOKEN")
  | _ => false

theorem answer_logs_out (reply : Reply) (world : World) :
    Request.logOut ∈ (receiveAgain reply world).started ↔ condemns reply = true := by
  rcases reply with data | ⟨status, body | body⟩ | code
  · simp [receiveAgain, condemns]
  · simp [receiveAgain, condemns]
  · cases code : body.code with
    | none => simp [receiveAgain, refuse, condemns, code]
    | some code => simp [receiveAgain, refuse, condemns, code]
  · simp [receiveAgain, condemns]

theorem expired_spares (reply : Reply) (expired : isExpired reply = true) :
    condemns reply = false := by
  rcases reply with data | ⟨status, body | body⟩ | code
  · cases expired
  · cases expired
  · obtain ⟨-, code⟩ : status = 401 ∧ body.code = some "EXPIRED_TOKEN" := by
      simpa [isExpired] using expired
    simp [condemns, code]
  · cases expired

theorem awaited_logs_out (tick : Tick) (query : Query) (world : World)
    (awaits : (awaited query).isSome = true) :
    Request.logOut ∈ spawned device tick query world ↔
      condemns tick.reply = true ∨
        (isExpired tick.reply = true ∧ stranded query world = true) := by
  cases query with
  | receive config =>
      by_cases refreshes : isExpired tick.reply = true ∧ config.retry = false
      · have spared := expired_spares tick.reply refreshes.1
        simp [spawned, segmentOf, receive, refreshes, Segment.map, lock_logs_out, spared, stranded]
      · have apart : ¬ (isExpired tick.reply = true ∧ stranded (.receive config) world = true) := by
          simp only [stranded, Bool.and_eq_true, Bool.not_eq_true']
          exact fun both => refreshes ⟨both.1, both.2.1.1⟩
        simp only [spawned, segmentOf, receive, refreshes, if_false, Segment.map, apart, or_false]
        exact answer_logs_out tick.reply world
  | receiveAgain config =>
      simp only [stranded, Bool.false_eq_true, and_false, or_false]
      exact answer_logs_out tick.reply world
  | _ => cases awaits

theorem unrelated_spares (response : Response) (unrelated : Unrelated response) :
    condemns (replyOf response) = false ∧ isExpired (replyOf response) = false := by
  cases told : response.body with
  | upload imageId fields => simp [replyOf, told, condemns, isExpired]
  | error error code =>
      rcases unrelated with other | ⟨missing, same⟩
      · simp [replyOf, told, condemns, isExpired, other]
      · obtain ⟨-, rfl⟩ := Body.error.inj (told.symm.trans same)
        simp [replyOf, told, condemns, isExpired]

theorem upcoming_reply (state : State) (move : Move) (entry : Entry)
    (route : ProtectedRoutes.Route) (config : Config)
    (comes : (client device).upcoming state (answered deployment state move) = some entry)
    (awaits : awaited entry.query = some (route, config)) :
    entry.tick.reply = answer deployment route config move.fate := by
  unfold answered at comes
  split at comes
  · cases comes
  · next index tick acts =>
      cases present : state.tasks[index]? with
      | none => simp [present, Interleaving.Machine.upcoming] at comes
      | some task =>
          cases stands : task.residual.awaiting with
          | none => simp [present, stands, Interleaving.Machine.upcoming] at comes
          | some query =>
              cases route' : awaited query with
              | none =>
                  simp only [present, stands, Option.bind_some, route',
                    Interleaving.Machine.upcoming]
                    at comes
                  split at comes
                  · obtain rfl := Option.some.inj comes
                    simp [route'] at awaits
                  · cases comes
              | some found =>
                  simp only [present, stands, Option.bind_some, route',
                    Interleaving.Machine.upcoming]
                    at comes
                  split at comes
                  · obtain rfl := Option.some.inj comes
                    obtain rfl := Option.some.inj (route'.symm.trans awaits)
                    rfl
                  · cases comes

theorem survived_iff (state : State) (move : Move)
    (genuine : Genuine deployment device state move) :
    (∀ entry ∈ (client device).upcoming state (answered deployment state move),
      Survived device entry) ↔ LookupsHold deployment device state move := by
  apply forall_congr'
  intro entry
  apply forall_congr'
  intro comes
  cases awaits : awaited entry.query with
  | none => simp [Survived, visited, awaits]
  | some met =>
      obtain ⟨route, config⟩ := met
      have replied := upcoming_reply deployment device state move entry route config comes awaits
      have logsOut := awaited_logs_out device entry.tick entry.query entry.before (by simp [awaits])
      have user := genuine entry comes
      unfold Survived
      rw [logsOut, replied]
      -- Only what the route says of the token condemns a session; the network does not.
      cases fate : move.fate with
      | unanswered code => simp [answer, visited, awaits, condemns, isExpired]
      | gateway status => simp [answer, visited, awaits, condemns, isExpired]
      | answered visit =>
          have told := serve_cases deployment visit route config.authorization
            (by simpa [visited, awaits, fate] using user)
          cases thrown : lookupThrown deployment visit config.authorization with
          | none =>
              rw [thrown] at told
              obtain ⟨spares, fresh⟩ := unrelated_spares _ told
              simp [answer, visited, awaits, spares, fresh, thrown]
          | some message =>
              rw [thrown] at told
              cases late : includes message "expired" with
              | true =>
                  simp [answer, visited, awaits, told, thrown, late, EndsSession, replyOf,
                    res.expiredToken, res.err, condemns, isExpired]
              | false =>
                  simp [answer, visited, awaits, told, thrown, late, EndsSession, replyOf,
                    res.invalidToken, res.err, condemns]

/-- With genuine tokens of users, the answers of the protected routes leave the session
alone exactly in the runs whose users lookups throw nothing that ends it. -/
theorem session_survives (store : AuthStore) (moves : List Move)
    (genuine : (client device).Along (answered deployment) (Genuine deployment device)
      (start (opened store)) moves) :
    SessionKept device (joined deployment device store moves) ↔
      (client device).Along (answered deployment) (LookupsHold deployment device)
        (start (opened store)) moves := by
  unfold SessionKept joined
  rw [Machine.entries_along]
  have initial : ∀ entry ∈ (start (opened store) : State).trace, Survived device entry := by
    simp [start]
  rw [and_iff_right initial]
  exact Machine.along_congr (survived_iff deployment device) _ moves genuine

end Answers

/-! An upload with a good token, whose user is looked up while the database is away. -/
section Uploads

def production : Deployment where
  env :=
    { ENV := some "production", DATABASE_URL := some "postgres://db.example/app",
      R2_ACCESS_KEY_ID := some "key", R2_SECRET_ACCESS_KEY := some "secret",
      R2_BUCKET_NAME := some "images", R2_PUBLIC_URL := some "https://images.example",
      R2_ENDPOINT := some "https://r2.cloudflarestorage.com" }
  isJson := fun _ => true
  verify := fun _ token =>
    if token = "fresh" then .ok { sub := "ada", iat := 0, exp := 1800 }
    else .error "invalid JWT token"

def owner : AuthSchema.Auth :=
  { id := "ada", provider := .phone, identifier := "2125550123", email := none }

def profile : AuthSchema.User :=
    { id := "ada", name := "Ada", gender := .female, birthYear := 1815 }

def inhabited : AuthSchema.Db where
  auth := { rows := [owner], distinct := by decide }
  users := { rows := [profile], distinct := by decide }
  otps := RowTable.Table.empty
  tokens := RowTable.Table.empty
  users_auth := by decide
  tokens_auth := by decide

def uploadVisit (outage : Option String) : Visit where
  now := 0
  connect := .ok ()
  outage
  db := inhabited
  rawBody := some "upload"
  presigned := some { contentType := "image/png", fileName := "face.png" }
  query := none
  arrayBuffer := .ok ()
  signature := .ok ()
  fetch := .error "fetch failed"

def uploading (outage : Option String) : List Move :=
  let fate := Fate.answered (uploadVisit outage)
  let quiet := at0 (.success none)
  [{ action := .arrive (.call (.post "~/upload/presigned-url" (.app "upload"))) quiet, fate },
    { action := .advance 0 quiet, fate }, { action := .advance 0 quiet, fate }]

def freshlySignedIn : AuthStore := { signedIn with accessToken := some "fresh" }

theorem session_survives_upload :
    SessionKept phone (joined production phone freshlySignedIn (uploading none)) :=
  (session_survives production phone freshlySignedIn (uploading none) (by decide)).mpr (by decide)

theorem session_lost : ¬ ∀ (deployment : Deployment) (device : Device) (store : AuthStore)
    (moves : List Move),
    (client device).Along (answered deployment) (Genuine deployment device)
      (start (opened store)) moves →
    SessionKept device (joined deployment device store moves) := by
  intro survives
  let moves := uploading (some "Error connecting to database: fetch failed")
  have genuine : (client phone).Along (answered production) (Genuine production phone)
      (start (opened freshlySignedIn)) moves := by decide
  have survived := survives production phone freshlySignedIn moves genuine
  rw [session_survives production phone freshlySignedIn moves genuine] at survived
  exact absurd survived (by decide)

end Uploads
end TopInspect.SessionSurvival
