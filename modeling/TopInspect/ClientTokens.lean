import TopInspect.ClientSessions
import TopInspect.ServerAnswers

/-! The tokens in the client store come in pairs. Whatever the operations and the
re-hydration of a saved state interleave like, what is stored is what a handler has
answered with, and a handler answers with both tokens or asks for a sign-up. -/
namespace TopInspect.ClientTokens

open Resumption
open AuthHandlers (truthy Env Body Response)
open ClientStore ClientApi ClientSegments ServerAnswers
open ClientSessions (signsIn clears renews saved_kept)
open ClientFailures (answerOf receive_outcome)
open Interleaving hiding Entry State Action Task

/-! Data on its way from an answer to the operation that sent the request. -/
section Deliveries
variable (delivered : Payload → Option ResponseData → Prop)

/-- The interceptors keep the payload, and deliver what was answered to it. -/
def Tells : (query : Query) → Except ErrorResponse query.Answer → Prop
  | .intercept config, .ok (.proceed sending) => sending.payload = config.payload
  | .intercept config, .ok (.wait _ sending) => sending.payload = config.payload
  | .resumeRequest _ config, .ok sending => sending.payload = config.payload
  | .receive config, .ok (.resolved data) => delivered config.payload data
  | .receive config, .ok (.expired _ sending) => sending.payload = config.payload
  | .resumeResponse _ config, .ok sending => sending.payload = config.payload
  | .receiveAgain config, .ok data => delivered config.payload data
  | _, _ => True

def Concerns (payload : Payload) : Query → Prop
  | .intercept config => config.payload = payload
  | .resumeRequest _ config => config.payload = payload
  | .receive config => config.payload = payload
  | .resumeResponse _ config => config.payload = payload
  | .receiveAgain config => config.payload = payload
  | _ => False

variable {delivered} {asks : Query → Prop}

theorem tells_mono {wider : Payload → Option ResponseData → Prop}
    (more : ∀ payload data, delivered payload data → wider payload data) (query : Query)
    (result : Except ErrorResponse query.Answer) (told : Tells delivered query result) :
    Tells wider query result := by
  cases query with
  | intercept config => rcases result with error | (sending | ⟨promise, sending⟩) <;> exact told
  | resumeRequest promise config => cases result <;> exact told
  | resumeResponse promise config => cases result <;> exact told
  | receive config =>
      rcases result with error | (data | ⟨promise, sending⟩)
      · exact told
      · exact more _ _ told
      · exact told
  | receiveAgain config =>
      cases result with
      | error error => exact told
      | ok data => exact more _ _ told
  | _ => exact told

theorem tells_sent (config : Config)
    (shared : ∀ query, Concerns config.payload query → asks query) :
    Ensures (Tells delivered) asks (sent config)
      fun result => ∀ sending, result = .ok sending → sending.payload = config.payload := by
  apply ensures_catch
  refine ensures_bind _ _ (ensures_call _ (shared _ rfl) fun result told => ?_)
  rcases result with error | (sending | ⟨promise, sending⟩)
  · exact ensures_throw _ (by simp)
  · apply ensures_pure
    intro other same
    obtain rfl := Except.ok.inj same
    exact told
  · refine ensures_call _ (shared _ told) fun result resumed => ?_
    rcases result with error | other
    · exact ensures_throw _ (by simp)
    · intro last same
      obtain rfl := Except.ok.inj same
      exact Eq.trans resumed told

theorem tells_retried (config : Config)
    (shared : ∀ query, Concerns config.payload query → asks query) :
    Ensures (Tells delivered) asks (retried config)
      fun result => ∀ data, result = .ok data → delivered config.payload data := by
  refine ensures_bind _ _ (ensures_mono (tells_sent config shared) ?_)
  rintro (error | sending) kept
  · intro data impossible
    cases impossible
  · refine ensures_call _ (shared _ (kept sending rfl)) fun result told data same => ?_
    subst same
    rw [← kept sending rfl]
    exact told

theorem tells_api (config : Config) (shared : ∀ query, Concerns config.payload query → asks query) :
    Ensures (Tells delivered) asks (api config)
      fun result => ∀ data, result = .ok data → delivered config.payload data := by
  refine ensures_bind _ _ (ensures_mono (tells_sent config shared) ?_)
  rintro (error | sending) kept
  · intro data impossible
    cases impossible
  have kept := kept sending rfl
  refine ensures_bind _ _ (ensures_call _ (shared _ kept) fun result told => ?_)
  rcases result with error | (data | ⟨promise, again⟩)
  · intro data impossible
    cases impossible
  · apply ensures_pure
    intro other same
    obtain rfl := Except.ok.inj same
    rw [← kept]
    exact told
  · refine ensures_bind _ _
      (ensures_call _ (shared _ (Eq.trans told kept)) fun result resumed => ?_)
    rcases result with error | last
    · intro data impossible
      cases impossible
    · have same : last.payload = config.payload := (Eq.trans resumed told).trans kept
      rw [← same] at shared ⊢
      exact tells_retried last shared

theorem tells_outcome (config : Config)
    (shared : ∀ query, Concerns config.payload query → asks query) :
    Ensures (Tells delivered) asks (outcomeOf config) fun result =>
      ∀ data, result = .ok (.ok data) → delivered config.payload data := by
  refine ensures_catch _ _ (ensures_map _ (ensures_mono (tells_api config shared) ?_))
  rintro (error | data) holds
  · exact ensures_pure _ (by simp)
  · intro other same
    obtain rfl := Except.ok.inj (Except.ok.inj same)
    exact holds data rfl

theorem tells_operation (config : Config)
    (shared : ∀ query, Concerns config.payload query → asks query)
    (store : Option ResponseData → Client Result)
    (begins : asks .beginLoading) (fails : ∀ thrown, asks (.setErrorState thrown))
    (stores : ∀ data, delivered config.payload data →
      Ensures (Tells delivered) asks (store data) fun _ => True) :
    Ensures (Tells delivered) asks (operation config store) fun _ => True := by
  refine ensures_then _ _ (ensures_call _ begins fun _ _ => trivial) fun _ => ?_
  apply ensures_catch
  refine ensures_bind _ _ (ensures_mono (tells_api config shared) ?_)
  rintro (thrown | data) holds
  · exact ensures_then _ _ (ensures_call _ (fails thrown) fun _ _ => trivial)
      fun _ => ensures_throw _ trivial
  · refine ensures_mono (stores data (holds data rfl)) ?_
    rintro (thrown | result) -
    · exact ensures_then _ _ (ensures_call _ (fails thrown) fun _ _ => trivial)
        fun _ => ensures_throw _ trivial
    · trivial

end Deliveries

/-! What the auth routes are answered with comes to tokens in pairs. `given` says
which bodies a request may be answered with. -/
section Programs
variable (given : ServerRequest → Body → Prop) (sign : Signer)

/-- What a request to an auth route is delivered: nothing, or what its handler answered. -/
def Delivered (payload : Payload) (data : Option ResponseData) : Prop :=
  ∀ request, payload = .auth request → ∀ answer, data = some answer →
    ∃ body, given request body ∧ kindOf request body ∧ ¬ isError body ∧ answer = dataOf sign body

def Issued (data : ResponseData) : Prop :=
  ∃ request accessToken refreshToken, given request (.tokens accessToken refreshToken) ∧
    lasts accessToken ∧ data = dataOf sign (.tokens accessToken refreshToken)

def Sound : Query → Prop
  | .storeSession asksSignup (some data) =>
      Issued given sign data ∨ (asksSignup = true ∧ wantsSignup data = true)
  | .finishRefresh _ (.ok (some data)) => Issued given sign data
  | _ => True

variable {given sign}

theorem tokens_given (request : ServerRequest) (body : Body) (answered : given request body)
    (gives : givesTokens body) (sound : ¬ isError body) : Issued given sign (dataOf sign body) := by
  cases body with
  | tokens accessToken refreshToken =>
      exact ⟨request, accessToken, refreshToken, answered, gives, rfl⟩
  | error error code => exact absurd trivial sound
  | _ => cases gives

theorem text_truthy (text : String) (filled : text ≠ "") : (truthy (some text)).isSome = true := by
  simp [truthy, filled]

theorem session_given (request : ServerRequest) (body : Body) (answered : given request body)
    (gives : givesSession body) (sound : ¬ isError body) :
    Issued given sign (dataOf sign body) ∨ wantsSignup (dataOf sign body) = true := by
  cases body with
  | needsSignup provider providerId email =>
      have named : AuthHandlers.Provider.text provider ≠ "" := by cases provider <;> decide
      exact Or.inr (by simp [dataOf, wantsSignup, text_truthy _ named, text_truthy _ gives])
  | tokens accessToken refreshToken => exact Or.inl (tokens_given request _ answered gives sound)
  | error error code => exact absurd trivial sound
  | _ => cases gives

theorem shared_sound (payload : Payload) (query : Query) (concerns : Concerns payload query) :
    Sound given sign query := by
  cases query with
  | storeSession asksSignup data => cases concerns
  | finishRefresh promise outcome => cases concerns
  | _ => trivial

theorem program_tells (device : Device) (request : Request) :
    Ensures (Tells (Delivered given sign)) (Sound given sign) (program device request)
    fun _ => True := by
  have tokens (request : ServerRequest) (kind : kindOf request = givesTokens)
      (data : Option ResponseData) (delivered : Delivered given sign (.auth request) data) :
      Ensures (Tells (Delivered given sign)) (Sound given sign) (keepSession false data)
        fun _ => True := by
    refine ensures_call _ ?_ fun _ _ => trivial
    cases data with
    | none => trivial
    | some answer =>
        obtain ⟨body, answered, gives, sound, rfl⟩ := delivered request rfl answer rfl
        rw [kind] at gives
        exact Or.inl (tokens_given request body answered gives sound)
  have session (provider : AuthHandlers.OAuthProvider) (body : AuthHandlers.OAuthSignInRequest)
      (data : Option ResponseData)
      (delivered : Delivered given sign (.auth (.oauthSignIn provider body)) data) :
      Ensures (Tells (Delivered given sign)) (Sound given sign) (keepSession true data)
        fun _ => True := by
    refine ensures_call _ ?_ fun _ _ => trivial
    cases data with
    | none => trivial
    | some answer =>
        obtain ⟨body, answered, gives, sound, rfl⟩ := delivered _ rfl answer rfl
        exact (session_given _ body answered gives sound).imp_right fun wants => ⟨rfl, wants⟩
  cases request with
  | call config =>
      exact ensures_map _ (ensures_mono (tells_api config (shared_sound _)) fun _ _ => trivial)
  | refreshTokens =>
      refine ensures_map _ (ensures_mono ?_ fun _ (_ : True) => trivial)
      exact ensures_then _ _ (ensures_call _ trivial fun _ _ => trivial) fun _ =>
        ensures_call _ trivial fun _ _ => trivial
  | logOut =>
      refine ensures_map _
        (ensures_then _ _ (ensures_call _ trivial fun _ _ => trivial) fun _ => ?_)
      refine ensures_then _ _ (ensures_call _ trivial fun _ _ => trivial) fun config => ?_
      cases config with
      | none => exact ensures_pure _ trivial
      | some config =>
          exact ensures_then _ _ (tells_outcome config (shared_sound _)) fun _ =>
            ensures_call _ trivial fun _ _ => trivial
  | sendOtp req =>
      exact tells_operation _ (shared_sound _) _ trivial (fun _ => trivial) fun data _ =>
        ensures_call _ trivial fun _ _ => trivial
  | signUpWithPhone req =>
      exact tells_operation _ (shared_sound _) _ trivial (fun _ => trivial) (tokens _ rfl)
  | signInWithPhone req =>
      exact tells_operation _ (shared_sound _) _ trivial (fun _ => trivial) (tokens _ rfl)
  | signInWithGoogle idToken =>
      exact tells_operation _ (shared_sound _) _ trivial (fun _ => trivial) (session _ _)
  | signInWithApple idToken =>
      exact tells_operation _ (shared_sound _) _ trivial (fun _ => trivial) (session _ _)
  | signUpWithOAuth req =>
      exact tells_operation _ (shared_sound _) _ trivial (fun _ => trivial) (tokens _ rfl)
  | refreshCall promise refreshToken =>
      refine ensures_map _ (ensures_bind _ _ (ensures_mono (tells_outcome _ (shared_sound _)) ?_))
      rintro (error | outcome) delivered
      · trivial
      · refine ensures_call _ ?_ fun _ _ => trivial
        rcases outcome with error | (none | data)
        · trivial
        · trivial
        · obtain ⟨body, answered, gives, sound, rfl⟩ := delivered _ rfl _ rfl data rfl
          exact tokens_given _ body answered gives sound

end Programs

section Runs
variable (env : Env) (sign : Signer) (device : Device)

def authRequest : Payload → Option ServerRequest
  | .auth request => some request
  | .app _ => none

def awaited : Query → Option ServerRequest
  | .receive config => authRequest config.payload
  | .receiveAgain config => authRequest config.payload
  | _ => none

/-- The requests to auth routes are answered as the server can answer them. -/
def AnswersServed (state : State) (action : Action) : Prop :=
  ∀ entry ∈ (client device).upcoming state action, ∀ request ∈ awaited entry.query,
    Served env sign request entry.tick.reply

/-- The app with what an earlier state had saved read back. -/
def rehydrated (state earlier : State) : State :=
  { state with world :=
    { state.world with store := state.world.store.rehydrate earlier.world.store.partialize } }

/-- The states of the app since its first launch. -/
inductive Reachable : State → Prop where
  | launched : Reachable (start (opened AuthStore.initial))
  | stepped (state : State) (action : Action) (reached : Reachable state)
      (served : AnswersServed env sign device state action) :
      Reachable ((client device).step state action)
  | rehydrated (state earlier : State) (reached : Reachable state) (saved : Reachable earlier) :
      Reachable (rehydrated state earlier)

end Runs

section Answers
variable (given : ServerRequest → Body → Prop) (sign : Signer) (device : Device)

def Answered (request : ServerRequest) (reply : Reply) : Prop :=
  ∀ answer, answerOf reply = .ok (some answer) →
    ∃ body, given request body ∧ kindOf request body ∧ ¬ isError body ∧ answer = dataOf sign body

/-- The requests to auth routes are answered with bodies that they may be answered with. -/
def AnswersGiven (state : State) (action : Action) : Prop :=
  ∀ entry ∈ (client device).upcoming state action, ∀ request ∈ awaited entry.query,
    Answered given sign request entry.tick.reply

/-- Issued tokens or none, and tokens behind an authenticated session. -/
structure Paired (saved : AuthStore.Persisted) : Prop where
  together : saved.accessToken = none ↔ saved.refreshToken = none
  behind : saved.isAuthenticated = true → saved.accessToken ≠ none ∧ saved.refreshToken ≠ none
  issued : ∀ text, saved.accessToken = some text → ∃ request accessToken refreshToken,
    given request (.tokens accessToken refreshToken) ∧ lasts accessToken ∧
      text = sign accessToken ∧ saved.refreshToken = some refreshToken

variable {given sign device}

theorem response_delivered (response : Response) (answer : ResponseData)
    (resolved : answerOf (replyOf sign response) = .ok (some answer)) :
    ¬ isError response.body ∧ answer = dataOf sign response.body := by
  cases shape : response.body with
  | error error code =>
      simp only [answerOf, receiveAgain, ServerAnswers.replyOf, shape, refuse, deliver] at resolved
      split at resolved
      · cases resolved
      · cases resolved
  | _ =>
      simp only [answerOf, receiveAgain, ServerAnswers.replyOf, shape] at resolved
      cases resolved
      exact ⟨id, rfl⟩

theorem response_answered (request : ServerRequest) (response : Response)
    (answered : given request response.body) (kind : kindOf request response.body) :
    Answered given sign request (replyOf sign response) := by
  intro answer resolved
  obtain ⟨sound, same⟩ := response_delivered response answer resolved
  exact ⟨response.body, answered, kind, sound, same⟩

theorem refusal_answered (request : ServerRequest) (status : Nat) (body : ErrorBody)
    (coded : truthy body.code ≠ none) :
    Answered given sign request (.response status (some body)) := by
  intro answer resolved
  have told : (truthy body.code).isSome = true := Option.isSome_iff_ne_none.mpr coded
  simp [answerOf, receiveAgain, refuse, deliver, told] at resolved

theorem served_answered (env : Env) (request : ServerRequest) (reply : Reply)
    (served : Served env sign request reply) : Answered (fun _ _ => True) sign request reply := by
  cases served with
  | unanswered code => exact fun answer resolved => by cases resolved
  | gateway status => exact fun answer resolved => by cases resolved
  | refused status body coded => exact refusal_answered request status body coded
  | answered response answers =>
      exact response_answered request response trivial (answers_kind env request response answers)

theorem intercept_tells (tick : Tick) (config : Config) (world : World) :
    Tells (Delivered given sign) (.intercept config)
      (perform device tick (.intercept config) world).1 := by
  simp only [perform, segmentOf, intercept]
  split
  · rfl
  · split
    · rfl
    · split
      · obtain ⟨promise, taken⟩ := lock_promise world
        simp only [Segment.map, taken]
        rfl
      · rfl

theorem served_tells (tick : Tick) (query : Query) (world : World)
    (served : ∀ request ∈ awaited query, Answered given sign request tick.reply) :
    Tells (Delivered given sign) query (perform device tick query world).1 := by
  have resumes (promise : Nat) (config sending : Config)
      (resumed : (resume promise config world).outcome = .ok sending) :
      sending.payload = config.payload := by
    unfold resume at resumed
    split at resumed
    · cases resumed
    · cases resumed
      rfl
  cases query with
  | intercept config => exact intercept_tells tick config world
  | resumeRequest promise config =>
      cases resumed : (resume promise config world).outcome with
      | error error => simp [perform, segmentOf, resumed, Tells]
      | ok sending =>
          simp only [perform, segmentOf, resumed, Tells]
          exact resumes promise config sending resumed
  | resumeResponse promise config =>
      cases resumed : (resume promise config world).outcome with
      | error error => simp [perform, segmentOf, resumed, Tells]
      | ok sending =>
          simp only [perform, segmentOf, resumed, Tells]
          exact resumes promise config sending resumed
  | receive config =>
      by_cases expired : isExpired tick.reply = true ∧ config.retry = false
      · obtain ⟨promise, taken⟩ := lock_promise world
        simp only [perform, segmentOf, receive, if_pos expired, Segment.map, taken]
        rfl
      · simp only [perform, segmentOf, receive, if_neg expired, Segment.map, receive_outcome]
        cases resolved : answerOf tick.reply with
        | error error => trivial
        | ok data =>
            rintro request same answer rfl
            exact served request (by simp [awaited, authRequest, same]) answer resolved
  | receiveAgain config =>
      simp only [perform, segmentOf, receive_outcome]
      cases resolved : answerOf tick.reply with
      | error error => trivial
      | ok data =>
          rintro request same answer rfl
          exact served request (by simp [awaited, authRequest, same]) answer resolved
  | _ => trivial

theorem issued_paired (data : ResponseData) (isAuthenticated : Bool)
    (issued : Issued given sign data) :
    Paired given sign
      { accessToken := data.accessToken, refreshToken := data.refreshToken, isAuthenticated } := by
  obtain ⟨request, accessToken, refreshToken, answered, granted, rfl⟩ := issued
  refine ⟨iff_of_false nofun nofun, fun _ => ⟨nofun, nofun⟩, fun text stored => ?_⟩
  obtain rfl := Option.some.inj stored
  exact ⟨request, accessToken, refreshToken, answered, granted, rfl, rfl⟩

theorem paired_any (saved : AuthStore.Persisted) (paired : Paired given sign saved) :
    Paired (fun _ _ => True) sign saved := by
  refine ⟨paired.together, paired.behind, fun text stored => ?_⟩
  obtain ⟨request, accessToken, refreshToken, -, rest⟩ := paired.issued text stored
  exact ⟨request, accessToken, refreshToken, trivial, rest⟩

theorem empty_paired :
    Paired given sign { accessToken := none, refreshToken := none, isAuthenticated := false } :=
  ⟨Iff.rfl, nofun, nofun⟩

theorem sound_paired (tick : Tick) (query : Query) (world : World) (sound : Sound given sign query)
    (paired : Paired given sign world.store.partialize) :
    Paired given sign (perform device tick query world).2.store.partialize := by
  by_cases signing : signsIn query = true
  · cases query with
    | storeSession asksSignup data =>
        cases data with
        | none => cases signing
        | some data =>
            have kept : ¬ (asksSignup = true ∧ wantsSignup data = true) := fun asks => by
              simp [signsIn, asks] at signing
            simp only [perform, segmentOf, storeSession, if_neg kept]
            exact issued_paired data true (Or.resolve_right sound kept)
    | _ => cases signing
  by_cases clearing : clears query = true
  · cases query with
    | clearAll => exact empty_paired
    | googleSignedOut refreshToken =>
        have absent : truthy refreshToken = none := Option.isNone_iff_eq_none.mp clearing
        simp only [perform, segmentOf, googleSignedOut, absent]
        exact empty_paired
    | _ => cases clearing
  by_cases renewing : renews query = true
  · cases query with
    | finishRefresh promise outcome =>
        rcases outcome with error | (none | data)
        · cases renewing
        · cases renewing
        · exact issued_paired data world.store.isAuthenticated sound
    | _ => cases renewing
  rw [saved_kept device tick query world (by simpa using signing) (by simpa using clearing)
    (by simpa using renewing)]
  exact paired

structure Kept (given : ServerRequest → Body → Prop) (sign : Signer) (device : Device)
    (state : State) : Prop where
  coherent : (client device).Coherent state
  told : ∀ entry ∈ state.trace,
    Tells (Delivered given sign) entry.query (perform device entry.tick entry.query entry.before).1
  paired : Paired given sign state.world.store.partialize

theorem kept_sound (state : State) (kept : Kept given sign device state) (index : Nat) (task : Task)
    (query : Query) (present : state.tasks[index]? = some task)
    (awaits : task.residual.awaiting = some query) : Sound given sign query :=
  Machine.awaits_ensured (Tells (Delivered given sign)) _ _ state kept.coherent index task query
    (program_tells device task.request) (fun entry member _ _ => kept.told entry member)
      present awaits

theorem kept_start : Kept given sign device (start (opened AuthStore.initial)) :=
  ⟨(client device).coherent_start _, fun _ member => absurd member List.not_mem_nil, empty_paired⟩

theorem kept_rehydrated (state : State) (saved : AuthStore.Persisted)
    (kept : Kept given sign device state) (paired : Paired given sign saved) :
    Kept given sign device
      { state with world := { state.world with store := state.world.store.rehydrate saved } } :=
  ⟨⟨kept.coherent.follows, kept.coherent.owner, kept.coherent.born⟩, kept.told, paired⟩

theorem kept_step (state : State) (action : Action) (kept : Kept given sign device state)
    (served : AnswersGiven given sign device state action) :
    Kept given sign device ((client device).step state action) := by
  have coherent := Machine.coherent_step state action kept.coherent
  have transition := (client device).step_transition state action
  generalize (client device).step state action = after at transition coherent ⊢
  cases transition with
  | idle => exact kept
  | arrived request tick => exact ⟨coherent, kept.told, kept.paired⟩
  | answered index tick task query resume present awaits ready =>
      have comes := Machine.upcoming_answered (client device) state index tick task query resume
        present awaits ready
      refine ⟨coherent, ?_, ?_⟩
      · intro entry member
        rcases List.mem_cons.mp member with rfl | old
        · exact served_tells tick query state.world (served _ comes)
        · exact kept.told entry old
      · have sound := kept_sound state kept index task query present (by rw [awaits]; rfl)
        exact sound_paired tick query state.world sound kept.paired

variable {env : Env}

theorem kept_reachable (state : State) (reachable : Reachable env sign device state) :
    Kept (fun _ _ => True) sign device state := by
  induction reachable with
  | launched => exact kept_start
  | stepped state action reached served kept =>
      exact kept_step state action kept fun entry comes request awaits =>
        served_answered env request entry.tick.reply (served entry comes request awaits)
  | rehydrated state earlier reached saved kept savedKept =>
      exact kept_rehydrated state _ kept savedKept.paired

theorem reachable_run (state : State) (schedule : List Action)
    (reached : Reachable env sign device state)
    (served : (client device).Guarded (AnswersServed env sign device) state schedule) :
    Reachable env sign device ((client device).run state schedule) :=
  (client device).guarded_run _ _
    (fun state action reached served => .stepped state action reached served)
    state schedule reached served

end Answers

theorem tokens_paired (env : Env) (sign : Signer) (device : Device) (state : State)
    (reachable : Reachable env sign device state) :
    (state.world.store.accessToken = none ↔ state.world.store.refreshToken = none) ∧
      (state.world.store.isAuthenticated = true →
        state.world.store.accessToken ≠ none ∧ state.world.store.refreshToken ≠ none) :=
  have paired := (kept_reachable state reachable).paired
  ⟨paired.together, paired.behind⟩

/-! A sign-up with a Google account, from the first launch on. -/
section SignUp
open AuthHandlers (OAuthSignupRequest sampleEnv server tickAt)

def signUp : OAuthSignupRequest :=
  { provider := .google, providerId := "110169484474386276334", email := "ada@example.com",
    name := "Ada Lovelace", gender := .female, birthYear := 1985,
    deviceInfo := some phone.deviceInfo }

def signingUp : List AuthHandlers.Live.Action :=
  .arrive (.oauthSignup signUp) (tickAt 0 "f0") ::
    (List.range 6).map fun n => .advance 0 (tickAt 0 ("f" ++ toString (n + 1)))

def created : Response :=
  AuthHandlers.res.created (.tokens { sub := "f2", iat := 0, exp := 1800 } "f4")

theorem sign_up_answers : Answers sampleEnv (.oauthSignup signUp) created :=
  replied_answers sampleEnv _
    (Machine.coherent_run _ signingUp ((server sampleEnv).coherent_start AuthSchema.Db.empty)) 0 _ _
    ⟨_, rfl, rfl, by rfl⟩

-- The library that signs, at the one instant of this run.
def signedNow : Signer := fun _ => "fresh"

def lost : Tick := at0 (.failure none)

def sending : List Action :=
    [.arrive (.signUpWithOAuth signUp) lost, .advance 0 lost, .advance 0 lost]

def answered : List Action := [.advance 0 (at0 (replyOf signedNow created)), .advance 0 lost]

def signedUp : State :=
  (client phone).run (start (opened AuthStore.initial)) (sending ++ answered)

/-- An action that brings no answer of the server. -/
def Quiet : Action → Prop
  | .arrive _ _ => True
  | .advance _ tick => tick = lost

theorem quiet_served (state : State) (schedule : List Action)
    (quiet : ∀ action ∈ schedule, Quiet action) :
    (client phone).Guarded (AnswersServed sampleEnv signedNow phone) state schedule := by
  refine Machine.guarded_mono ?_ state schedule (Machine.guarded_actions Quiet state schedule quiet)
  intro state action quiet entry comes request awaits
  cases action with
  | arrive request tick => cases comes
  | advance index tick =>
      rw [Machine.upcoming_tick (client phone) state index tick entry comes,
        show tick = lost from quiet]
      exact .unanswered none

theorem signed_up_reachable : Reachable sampleEnv signedNow phone signedUp := by
  refine reachable_run _ _ .launched ((Machine.guarded_append _ sending answered).mpr ⟨?_, ?_, ?_⟩)
  · exact quiet_served _ _ (by simp [sending, Quiet])
  · intro entry comes request awaits
    obtain rfl := Option.some.inj comes
    obtain rfl := Option.some.inj awaits
    exact .answered created sign_up_answers
  · exact quiet_served _ _ (by simp [Quiet])

theorem tokens_paired_signed_up :
    signedUp.world.store.tokens = (some "fresh", some "f4") ∧
      (signedUp.world.store.accessToken = none ↔ signedUp.world.store.refreshToken = none) ∧
      (signedUp.world.store.isAuthenticated = true →
        signedUp.world.store.accessToken ≠ none ∧ signedUp.world.store.refreshToken ≠ none) :=
  ⟨by decide, tokens_paired sampleEnv signedNow phone signedUp signed_up_reachable⟩

end SignUp

end TopInspect.ClientTokens
