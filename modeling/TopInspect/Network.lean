import TopInspect.ClientTokens

/-! One phone and the server, with the requests between them. A request leaves when the
request interceptor lets it through; it may reach the server at any later time or never, and
the phone may give it up in between. -/
namespace TopInspect.Network

open Resumption
open AuthHandlers (Env)
open AuthSchema (Db Time)
open ClientStore ClientApi ServerAnswers ClientTokens
open Interleaving hiding Entry State Action Task

/-- A request that has left the phone: the segment that let it through, what the phone had
done before, and the server's time then. -/
structure Flight where
  entry : Entry
  sending : Config
  past : List Entry
  sentAt : Time

structure Arrival where
  flight : Nat
  task : Nat

/-- Flights are kept in the order they left in, `saved` is what the phone has stored so far,
and `now` is the server's clock. -/
structure State where
  app : ClientApi.State
  server : AuthHandlers.Live.State
  flights : List Flight
  arrivals : List Arrival
  saved : List AuthStore.Persisted
  now : Time

inductive Move where
  | wait (later : Time)
  | act (action : Action)
  | land (flight : Nat) (tick : AuthStatements.Tick)
  | serve (index : Nat) (tick : AuthStatements.Tick)
  | relaunch
  | rehydrate (persisted : AuthStore.Persisted)

def opening (db : Db) (now : Time) : State where
  app := start (opened AuthStore.initial)
  server := start db
  flights := []
  arrivals := []
  saved := []
  now := now

-- Only here does a request get past the request interceptor.
def departing : (query : Query) → Except ErrorResponse query.Answer → Option Config
  | .intercept _, .ok (.proceed sending) => some sending
  | .resumeRequest _ _, .ok sending => some sending
  | _, _ => none

section Moves
variable (device : Device) (env : Env)

/-- The request that an action of the phone sends off. -/
def departures (state : State) (action : Action) : List Flight :=
  match (client device).upcoming state.app action with
  | none => []
  | some entry =>
      match departing entry.query (perform device entry.tick entry.query entry.before).1 with
      | none => []
      | some sending => [{ entry, sending, past := state.app.trace, sentAt := state.now }]

def step (state : State) : Move → State
  | .wait later => { state with now := later }
  | .act action =>
      let app := (client device).step state.app action
      { state with
        app
        flights := state.flights ++ departures device state action
        saved := app.world.store.partialize :: state.saved }
  | .land flight tick =>
      match (state.flights[flight]?).bind fun found => authRequest found.sending.payload with
      | none => state
      | some request =>
          { state with
            server := (AuthHandlers.server env).step state.server (.arrive request tick)
            arrivals := { flight, task := state.server.tasks.length } :: state.arrivals }
  | .serve index tick =>
      { state with server := (AuthHandlers.server env).step state.server (.advance index tick) }
  | .relaunch => { state with app := start (opened AuthStore.initial) }
  | .rehydrate persisted =>
      { state with
        app := { state.app with
          world := { state.app.world with store := state.app.world.store.rehydrate persisted } } }

end Moves

section Runs
variable (device : Device) (env : Env) (sign : Signer)

/-- What a request can be answered with: nothing, what the server has answered to it, or a
refusal of what stands before the handlers. -/
inductive Brought (state : State) (entry : Entry) (request : ServerRequest) : Reply → Prop where
  | unanswered (code : Option String) : Brought state entry request (.failure code)
  | answered (arrival : Arrival) (flight : Flight) (response : AuthHandlers.Response)
      (reached : arrival ∈ state.arrivals) (sent : state.flights[arrival.flight]? = some flight)
      (own : flight.entry.task = entry.task)
      (replied : AuthHandlers.Live.Replied state.server arrival.task request response) :
      Brought state entry request (replyOf sign response)
  | refused (status : Nat) (body : ErrorBody) (coded : AuthHandlers.truthy body.code ≠ none) :
      Brought state entry request (.response status (some body))
  | gateway (status : Nat) : Brought state entry request (.response status none)

def Possible (state : State) : Move → Prop
  | .wait later => state.now ≤ later
  | .act action => ∀ entry ∈ (client device).upcoming state.app action,
      ∀ request ∈ awaited entry.query, Brought sign state entry request entry.tick.reply
  | .land flight _ => (∀ arrival ∈ state.arrivals, arrival.flight ≠ flight) ∧
      ∃ found request, state.flights[flight]? = some found ∧ found.sending.payload = .auth request ∧
        AuthHandlers.external request = true
  | .serve _ _ => True
  | .relaunch => True
  | .rehydrate persisted => persisted ∈ state.saved

inductive Reached (guard : State → Move → Prop) : State → Prop where
  | opened (db : Db) (now : Time) (unsigned : db.tokens.rows = []) : Reached guard (opening db now)
  | moved (state : State) (move : Move) (reached : Reached guard state)
      (possible : Possible device sign state move)
      (guarded : guard state move) : Reached guard (step device env state move)

variable {device env sign} in
theorem reached_mono {guard other : State → Move → Prop}
    (weaker : ∀ state move, guard state move → other state move) (state : State)
    (reached : Reached device env sign guard state) :
    Reached device env sign other state := by
  induction reached with
  | opened db now unsigned => exact .opened db now unsigned
  | moved state move reached possible guarded ih =>
      exact .moved state move ih possible (weaker state move guarded)

end Runs
/-! What a refresh sends. -/
section Refreshes
variable {given : ServerRequest → AuthHandlers.Body → Prop} {sign : Signer} {device : Device}

def refreshPayload (refreshToken : String) : Payload := .auth (.refreshTokens { refreshToken })

def RefreshAsks (promise : Nat) (refreshToken : String) (query : Query) : Prop :=
  Concerns (refreshPayload refreshToken) query ∨ ∃ outcome, query = .finishRefresh promise outcome

variable (device) in
theorem refresh_concerns (promise : Nat) (refreshToken : String) :
    Ensures (Tells (Delivered given sign)) (RefreshAsks promise refreshToken)
      (program device (.refreshCall promise refreshToken)) fun _ => True := by
  refine ensures_map _ (ensures_mono ?_ fun _ (_ : True) => trivial)
  refine ensures_then _ _ (tells_outcome (refreshConfig refreshToken) fun _ concerns =>
    Or.inl concerns) ?_
  exact fun outcome => ensures_call _ (Or.inr ⟨outcome, rfl⟩) fun _ _ => trivial

theorem departing_payload (query : Query) (result : Except ErrorResponse query.Answer)
    (sending : Config)
    (payload : Payload) (told : Tells (Delivered given sign) query result)
    (departs : departing query result = some sending) (concerns : Concerns payload query) :
    sending.payload = payload := by
  cases query with
  | intercept config =>
      rcases result with error | (other | ⟨promise, other⟩)
      · cases departs
      · obtain rfl := Option.some.inj departs
        exact Eq.trans told concerns
      · cases departs
  | resumeRequest promise config =>
      rcases result with error | other
      · cases departs
      · obtain rfl := Option.some.inj departs
        exact Eq.trans told concerns
  | _ => cases departs

theorem refresh_departs (state : ClientApi.State) (kept : Kept given sign device state)
    (action : Action) (entry : Entry) (comes : (client device).upcoming state action = some entry)
    (served : ∀ request ∈ awaited entry.query, Answered given sign request entry.tick.reply)
    (promise : Nat) (refreshToken : String)
    (own : entry.request = .refreshCall promise refreshToken) (sending : Config)
    (departs : departing entry.query (perform device entry.tick entry.query entry.before).1 =
      some sending) :
    sending.payload = refreshPayload refreshToken := by
  obtain ⟨-, task, present, same, awaits⟩ := (client device).upcoming_owner state action entry comes
  have told : Tells (Delivered given sign) entry.query
      (perform device entry.tick entry.query entry.before).1 :=
    served_tells entry.tick entry.query entry.before served
  have ensures : Ensures (Tells (Delivered given sign)) (RefreshAsks promise refreshToken)
      ((client device).program task.request) fun _ => True := by
    rw [same, own]
    exact refresh_concerns device promise refreshToken
  rcases Machine.awaits_ensured _ _ _ state kept.coherent entry.task task entry.query ensures
    (fun earlier member _ _ => kept.told earlier member) present awaits with
      concerns | ⟨outcome, finishes⟩
  · exact departing_payload entry.query _ sending _ told departs concerns
  · rw [finishes] at departs
    cases departs

end Refreshes

end TopInspect.Network
