import TopInspect.ClientLoading
import TopInspect.Network

/-! How the refresh token gets into the store of the phone, and which requests are refreshes. -/
namespace TopInspect.TokenStoring

open Resumption
open AuthHandlers (Body truthy truthy_some)
open ClientStore ClientApi ServerAnswers ClientTokens Network
open ClientSessions (signsIn clears renews saved_kept)
open ClientLoading (thrownOn)
open ClientFailures (ending)
open ClientPromises (promise_step)
open Interleaving hiding Entry State Action Task

def storedBy : Query → Option String
  | .storeSession asksSignup (some data) =>
      if asksSignup && wantsSignup data then none else data.refreshToken
  | .finishRefresh _ (.ok (some data)) => data.refreshToken
  | _ => none

/-- The refresh token that a refresh of the phone sends. -/
def refreshOf : Request → Option String
  | .refreshCall _ refreshToken => some refreshToken
  | _ => none

def refreshAt : ServerRequest → Option String
  | .refreshTokens body => some body.refreshToken
  | _ => none

/-- A request has been sent and not been answered. -/
def hears : Query → Bool
  | .receive _ => true
  | .receiveAgain _ => true
  | _ => false

def succeeds : Reply → Bool
  | .success (some _) => true
  | _ => false

/-! A token is stored by the last segment of a task. -/
section Programs

def Stores (query : Query) : Prop := storedBy query ≠ none

/-- Nothing follows a query that has stored a token. -/
def closing (query : Query) (result : Except ErrorResponse query.Answer) (_ : Query) : Prop :=
  Stores query → ∃ error, result = .error error

theorem shared_plain (query : Query) (stores : Stores query) : ofInterceptors query = false := by
  cases query with
  | storeSession asksSignup data => rfl
  | finishRefresh promise outcome => rfl
  | _ => exact absurd rfl stores

theorem closing_plain (query : Query) (result : Except ErrorResponse query.Answer)
    (follower : Query) (plain : ¬ Stores query) :
    closing query result follower := fun stores => absurd stores plain

theorem chains_plain {α : Type} (program : Client α) (avoids : Avoids Stores program) :
    Chains closing program := avoids_chains Stores closing_plain program avoids

theorem api_plain (config : Config) : Avoids Stores (api config) :=
  avoids_mono shared_plain _ (avoids_api config)

theorem outcome_plain (config : Config) : Avoids Stores (outcomeOf config) :=
  avoids_mono shared_plain _ (avoids_outcome config)

theorem thrown_plain (thrown : ErrorResponse) : Avoids Stores (thrownOn thrown) :=
  avoids_bind _ _ (avoids_call _ (not_not.mpr rfl)) fun error => avoids_throw error

theorem operation_closes (config : Config) (store : Option ResponseData → Client Result)
    (stores : ∀ data tick, ((store data tick).catchAt thrownOn tick).Chains closing) :
    Chains closing (operation config store) := by
  refine chains_call_bind Query.beginLoading _ (fun _ _ _ _ stores => absurd rfl stores)
    fun _ tick => ?_
  exact chains_wrapped Stores closing_plain
    (fun residual now => (residual.bindAt store now).catchAt thrownOn now)
    (fun _ _ _ => rfl) stores (fun error now => chains_plain _ (thrown_plain error) now) _ tick
    (api_plain config tick)

theorem log_out_plain : Avoids Stores logOut := by
  refine avoids_bind _ _ (avoids_call _ (not_not.mpr rfl)) fun refreshToken => ?_
  refine avoids_bind _ _ (avoids_call _ (not_not.mpr rfl)) fun config => ?_
  cases config with
  | none => exact avoids_pure _
  | some config =>
      exact avoids_bind _ _ (outcome_plain config) fun _ => avoids_call _ (not_not.mpr rfl)

theorem program_closes (device : Device) (request : Request) :
    Chains closing (program device request) := by
  have thrown (error : ErrorResponse) : Chains closing (thrownOn error) :=
    chains_plain _ (thrown_plain error)
  have otp (data : Option ResponseData) (tick : Tick) :
      ((keepOtp data tick).catchAt thrownOn tick).Chains closing :=
    chains_tried (Query.storeOtp data) thrownOn (fun error _ _ => ⟨error, rfl⟩) thrown tick
  have session (asks : Bool) (data : Option ResponseData) (tick : Tick) :
      ((keepSession asks data tick).catchAt thrownOn tick).Chains closing :=
    chains_tried (Query.storeSession asks data) thrownOn (fun error _ _ => ⟨error, rfl⟩) thrown tick
  cases request with
  | call config => exact chains_plain _ (avoids_map _ (api_plain config))
  | refreshTokens =>
      exact chains_plain _ (avoids_map _ (avoids_bind _ _ (avoids_call _ (not_not.mpr rfl)) fun _ =>
        avoids_call _ (not_not.mpr rfl)))
  | logOut => exact chains_plain _ (avoids_map _ log_out_plain)
  | sendOtp req => exact operation_closes _ _ otp
  | signUpWithPhone req => exact operation_closes _ _ (session _)
  | signInWithPhone req => exact operation_closes _ _ (session _)
  | signInWithGoogle idToken => exact operation_closes _ _ (session _)
  | signInWithApple idToken => exact operation_closes _ _ (session _)
  | signUpWithOAuth req => exact operation_closes _ _ (session _)
  | refreshCall promise refreshToken =>
      refine chains_map _ fun tick => ?_
      exact chains_wrapped Stores closing_plain (fun residual now => residual.bindAt (fun outcome =>
          call (Query.finishRefresh promise outcome)) now) (fun _ _ _ => rfl)
        (fun outcome now => chains_call (Query.finishRefresh promise outcome) now)
        (fun _ _ => trivial) _ tick (outcome_plain _ tick)

end Programs

/-! What a segment makes of the stored token. -/
section Segments
variable (device : Device) (tick : Tick) (query : Query) (world : World) (token : String)

theorem stores_ok (stores : Stores query) :
    ∃ answer, (perform device tick query world).1 = .ok answer := by
  cases query with
  | storeSession asksSignup data =>
      cases data with
      | none => exact absurd rfl stores
      | some data =>
          simp only [perform, segmentOf, storeSession]
          split
          · exact ⟨_, rfl⟩
          · exact ⟨_, rfl⟩
  | finishRefresh promise outcome =>
      rcases outcome with error | (none | data)
      · exact ⟨_, rfl⟩
      · exact ⟨_, rfl⟩
      · exact ⟨_, rfl⟩
  | _ => exact absurd rfl stores

theorem held_origin (held : (perform device tick query world).2.store.refreshToken = some token) :
    storedBy query = some token ∨ world.store.refreshToken = some token := by
  -- Only three kinds of queries touch the stored tokens.
  by_cases clearing : clears query = true
  · cases query with
    | clearAll => cases held
    | googleSignedOut refreshToken =>
        have absent : truthy refreshToken = none := Option.isNone_iff_eq_none.mp clearing
        simp only [perform, segmentOf, googleSignedOut, absent] at held
        cases held
    | _ => cases clearing
  by_cases signing : signsIn query = true
  · cases query with
    | storeSession asksSignup data =>
        cases data with
        | none => cases signing
        | some data =>
            have kept : ¬ (asksSignup = true ∧ wantsSignup data = true) := fun asks => by
              simp [signsIn, asks] at signing
            simp only [perform, segmentOf, storeSession, if_neg kept] at held
            refine Or.inl ?_
            simpa [storedBy, kept, AuthStore.clearUI] using held
    | _ => cases signing
  by_cases renewing : renews query = true
  · cases query with
    | finishRefresh promise outcome =>
        rcases outcome with error | (none | data)
        · cases renewing
        · cases renewing
        · exact Or.inl held
    | _ => cases renewing
  have same := saved_kept device tick query world (by simpa using signing) (by simpa using clearing)
    (by simpa using renewing)
  exact Or.inr ((congrArg AuthStore.Persisted.refreshToken same).symm.trans held)

theorem renewal_stores (promise : Nat) (data : ResponseData)
    (finishes : query = .finishRefresh promise (.ok (some data)))
    (held : (perform device tick query world).2.store.refreshToken = some token) :
    storedBy query = some token := by
  subst finishes
  exact held

theorem success_ends (hearing : hears query = true) (success : succeeds tick.reply = true) :
    ∃ data, ending query (perform device tick query world).1 = some (.ok (some data)) := by
  cases heard : tick.reply with
  | success data =>
      cases data with
      | none =>
          rw [heard] at success
          cases success
      | some data =>
          refine ⟨data, ?_⟩
          cases query with
          | receive config =>
              simp [perform, segmentOf, heard, receive, receiveAgain, isExpired, Segment.map,
                ending, Except.map]
          | receiveAgain config => simp [perform, segmentOf, heard, receiveAgain, ending]
          | _ => cases hearing
  | _ =>
      rw [heard] at success
      cases success

theorem spawned_held (request : Request) (started : request ∈ spawned device tick query world)
    (asks : refreshOf request = some token) : world.store.refreshToken = some token := by
  cases promise_step device tick query world with
  | kept same starts =>
      rw [starts request started] at asks
      cases asks
  | started refreshToken held grown starts =>
      rw [starts] at started
      rw [List.mem_singleton.mp started] at asks
      obtain rfl := Option.some.inj asks
      exact truthy_some _ _ held
  | refused held grown starts =>
      rw [starts] at started
      rw [List.mem_singleton.mp started] at asks
      cases asks
  | settled promise outcome finishes settles starts =>
      rw [starts] at started
      cases started

end Segments

/-! Only a refresh sends a refresh token to be renewed. -/
section Payloads
variable {device : Device} {given : ServerRequest → Body → Prop} {sign : Signer}

theorem refresh_request (request : ServerRequest) (token : String)
    (asks : refreshAt request = some token) :
    request = .refreshTokens { refreshToken := token } := by
  cases request with
  | refreshTokens body =>
      obtain rfl := Option.some.inj asks
      rfl
  | _ => cases asks

/-- The app's own requests do not go to the auth routes, and nobody logs out. -/
def usual : Request → Bool
  | .call config => (authRequest config.payload).isNone
  | .logOut => false
  | _ => true

def Unrefreshing (query : Query) : Prop :=
  ∀ token, ¬ Concerns (refreshPayload token) query

theorem shared_unrefreshing (payload : Payload) (other : ∀ token, payload ≠ refreshPayload token)
    (query : Query) (concerns : Concerns payload query) : Unrefreshing query := by
  intro token refreshes
  cases query with
  | intercept config => exact other token (concerns.symm.trans refreshes)
  | resumeRequest promise config => exact other token (concerns.symm.trans refreshes)
  | receive config => exact other token (concerns.symm.trans refreshes)
  | resumeResponse promise config => exact other token (concerns.symm.trans refreshes)
  | receiveAgain config => exact other token (concerns.symm.trans refreshes)
  | _ => exact concerns

theorem departing_concerns (query : Query)
    (result : Except ErrorResponse query.Answer) (sending : Config)
    (told : Tells (Delivered given sign) query result)
    (departs : departing query result = some sending) :
    Concerns sending.payload query := by
  cases query with
  | intercept config =>
      exact (departing_payload _ result sending config.payload told departs rfl).symm
  | resumeRequest promise config =>
      exact (departing_payload _ result sending config.payload told departs rfl).symm
  | _ => cases departs

theorem program_unrefreshing (request : Request)
    (ordinary : usual request = true) (other : refreshOf request = none) :
    Ensures (Tells (Delivered given sign)) Unrefreshing (program device request) fun _ => True := by
  have operates (url : String) (sends : ServerRequest) (apart : refreshAt sends = none)
      (store : Option ResponseData → Client Result)
      (stores : ∀ data, Ensures (Tells (Delivered given sign)) Unrefreshing (store data)
        fun _ => True) :
      Ensures (Tells (Delivered given sign)) Unrefreshing
        (operation (.post url (.auth sends)) store)
        fun _ => True := by
    refine tells_operation _ (shared_unrefreshing _ ?_) store (fun _ => id) (fun _ _ => id)
      fun data _ => stores data
    intro token same
    rw [Payload.auth.inj same] at apart
    cases apart
  have otp (data : Option ResponseData) :
      Ensures (Tells (Delivered given sign)) Unrefreshing (keepOtp data) fun _ => True :=
    ensures_call _ (fun _ => id) fun _ _ => trivial
  have session (asks : Bool) (data : Option ResponseData) :
      Ensures (Tells (Delivered given sign)) Unrefreshing (keepSession asks data) fun _ => True :=
    ensures_call _ (fun _ => id) fun _ _ => trivial
  cases request with
  | call config =>
      refine ensures_map _ (ensures_mono (tells_api config (shared_unrefreshing _ ?_))
        fun _ _ => trivial)
      intro token same
      simp [usual, same, refreshPayload, authRequest] at ordinary
  | refreshTokens =>
      refine ensures_map _ (ensures_mono ?_ fun _ (_ : True) => trivial)
      exact ensures_then _ _ (ensures_call _ (fun _ => id) fun _ _ => trivial) fun _ =>
        ensures_call _ (fun _ => id) fun _ _ => trivial
  | logOut => cases ordinary
  | sendOtp req => exact operates _ _ rfl _ otp
  | signUpWithPhone req => exact operates _ _ rfl _ (session _)
  | signInWithPhone req => exact operates _ _ rfl _ (session _)
  | signInWithGoogle idToken => exact operates _ _ rfl _ (session _)
  | signInWithApple idToken => exact operates _ _ rfl _ (session _)
  | signUpWithOAuth req => exact operates _ _ rfl _ (session _)
  | refreshCall promise refreshToken => cases other

end Payloads

end TopInspect.TokenStoring
