import TopInspect.TokenStoring
import TopInspect.TokenLedger
import TopInspect.ClockWindows

/-! The refresh token of the phone against the one in the row of its session. The server has
rotated the token before its answer leaves, and the phone takes the new one over when the answer
arrives: they agree again unless the answer to a rotation is lost. -/
namespace TopInspect.TokenAgreement

open Resumption
open AuthHandlers (Env Body)
open AuthSchema (Db)
open ClientStore ClientApi ServerAnswers ClientTokens Network
open TokenStoring
open ClientPromises (leads_refresh)
open SessionRaces (rotatedToken)
open TokenLedger
open Interleaving hiding Entry State Action Task

section Moves

/-- The server's task is at a request that this task of the phone has sent. -/
def Serves (state : Network.State) (index serving : Nat) : Prop :=
  ∃ arrival ∈ state.arrivals, arrival.task = serving ∧
    ∃ flight ∈ state.flights[arrival.flight]?, flight.entry.task = index

instance (state : Network.State) (index serving : Nat) : Decidable (Serves state index serving) :=
  inferInstanceAs (Decidable (∃ arrival ∈ state.arrivals, arrival.task = serving ∧
    ∃ flight ∈ state.flights[arrival.flight]?, flight.entry.task = index))

def Rotated (state : Network.State) (index : Nat) (token : String) : Prop :=
  ∃ later ∈ state.server.trace, Serves state index later.task ∧ Rotates token later

instance (state : Network.State) (index : Nat) (token : String) :
    Decidable (Rotated state index token) :=
  inferInstanceAs
    (Decidable (∃ later ∈ state.server.trace, Serves state index later.task ∧ Rotates token later))

/-- The server has written the token for this task of the phone. -/
def Supplied (state : Network.State) (index : Nat) (token : String) : Prop :=
  ∃ entry ∈ state.server.trace, Serves state index entry.task ∧ Writes token entry

/-- The phone still waits for the answer of this task of the server. -/
def Awaited (state : Network.State) (serving : Nat) : Prop :=
  ∃ arrival ∈ state.arrivals, arrival.task = serving ∧ ∃ flight ∈ state.flights[arrival.flight]?,
    ∃ task ∈ state.app.tasks[flight.entry.task]?, task.residual.awaiting.any hears = true

instance (state : Network.State) (serving : Nat) : Decidable (Awaited state serving) :=
  inferInstanceAs (Decidable (∃ arrival ∈ state.arrivals, arrival.task = serving ∧
    ∃ flight ∈ state.flights[arrival.flight]?, ∃ task ∈ state.app.tasks[flight.entry.task]?,
      task.residual.awaiting.any hears = true))

variable (device : Device) (env : Env)

/-- One life of the app, in which nobody logs out and no session is revoked. -/
def Usual (state : Network.State) : Move → Prop
  | .act action => ∀ entry ∈ (client device).upcoming state.app action, usual entry.request = true
  | .serve index tick => Sparing env state.server (.advance index tick)
  | .relaunch => False
  | .rehydrate _ => False
  | _ => True

instance decidableUsual (state : Network.State) : ∀ move, Decidable (Usual device env state move)
  | .act action => inferInstanceAs (Decidable (∀ entry ∈ (client device).upcoming state.app action,
      usual entry.request = true))
  | .serve index tick =>
      inferInstanceAs (Decidable (Sparing env state.server (.advance index tick)))
  | .relaunch => inferInstanceAs (Decidable False)
  | .rehydrate _ => inferInstanceAs (Decidable False)
  | .wait _ => inferInstanceAs (Decidable True)
  | .land _ _ => inferInstanceAs (Decidable True)

/-- No answer to a rotation is lost: the server rotates the tokens of refreshes that the phone
still waits for, and the phone gets the answer to a refresh whose token has been rotated. -/
def Heard (state : Network.State) : Move → Prop
  | .act action => ∀ entry ∈ (client device).upcoming state.app action,
      ∀ token ∈ refreshOf entry.request, hears entry.query = true → Rotated state entry.task token →
        succeeds entry.tick.reply = true
  | .serve index tick => Finds env state.server (.advance index tick) ∧
      ∀ entry ∈ (AuthHandlers.server env).upcoming state.server (.advance index tick),
        (rotatedToken entry.query).isSome = true → Awaited state entry.task
  | _ => True

instance decidableHeard (state : Network.State) : ∀ move, Decidable (Heard device env state move)
  | .act action => inferInstanceAs (Decidable (∀ entry ∈ (client device).upcoming state.app action,
      ∀ token ∈ refreshOf entry.request, hears entry.query = true → Rotated state entry.task token →
        succeeds entry.tick.reply = true))
  | .serve index tick => inferInstanceAs (Decidable (Finds env state.server (.advance index tick) ∧
      ∀ entry ∈ (AuthHandlers.server env).upcoming state.server (.advance index tick),
        (rotatedToken entry.query).isSome = true → Awaited state entry.task))
  | .wait _ => inferInstanceAs (Decidable True)
  | .land _ _ => inferInstanceAs (Decidable True)
  | .relaunch => inferInstanceAs (Decidable True)
  | .rehydrate _ => inferInstanceAs (Decidable True)

/-- The phone waits for a refresh, or the server is at one. -/
def InFlight (state : Network.State) : Prop :=
  (∃ task ∈ state.app.tasks, (refreshOf task.request).isSome = true ∧
      task.residual.awaiting.isSome = true) ∨
    ∃ task ∈ state.server.tasks, (refreshAt task.request).isSome = true ∧
      task.residual.awaiting.isSome = true

instance (state : Network.State) : Decidable (InFlight state) :=
  inferInstanceAs (Decidable (_ ∨ _))

/-- A token that the phone holds is in a row of the server. -/
def Agree (state : Network.State) : Prop :=
  ∀ token, state.app.world.store.refreshToken = some token → Stored token state.server.world

end Moves

/-! What runs keep. -/
section Invariants
variable (device : Device) (env : Env) (sign : Signer)

/-- The bodies that a task of the phone may be answered with. -/
def supplies (state : Network.State) (index : Nat) (_ : ServerRequest) (body : Body) : Prop :=
  ∀ accessToken refreshToken, body = .tokens accessToken refreshToken →
    Supplied state index refreshToken

def Known (app : ClientApi.State) (token : String) : Prop :=
  ∃ entry ∈ app.trace, storedBy entry.query = some token

/-- A refresh with the token is under way: rotated and waited for, or answered. -/
def Covered (state : Network.State) (token : String) : Prop :=
  ∃ (index : Nat) (task : Task) (promise : Nat), state.app.tasks[index]? = some task ∧
    task.request = .refreshCall promise token ∧
    ((∃ query, task.residual.awaiting = some query ∧ hears query = true ∧
      Rotated state index token) ∨
      ∃ data, task.residual.awaiting = some (.finishRefresh promise (.ok (some data))))

/-- Refreshes at the server come from refreshes of the phone. -/
structure Linked (state : Network.State) : Prop where
  flown : ∀ flight ∈ state.flights, flight.entry ∈ state.app.trace ∧
    ∀ token, flight.sending.payload = refreshPayload token →
      refreshOf flight.entry.request = some token
  landed : ∀ (index : Nat) (task : AuthHandlers.Live.Task), state.server.tasks[index]? = some task →
    ∀ token, refreshAt task.request = some token → ∃ arrival ∈ state.arrivals,
      arrival.task = index ∧
      ∃ flight ∈ state.flights[arrival.flight]?, flight.sending.payload = refreshPayload token
  within : ∀ arrival ∈ state.arrivals, arrival.task < state.server.tasks.length
  apart : ∀ one ∈ state.arrivals, ∀ other ∈ state.arrivals, one.task = other.task →
    one.flight = other.flight

structure Sourced (state : Network.State) : Prop where
  told : ∀ entry ∈ state.app.trace, Tells (Delivered (supplies state entry.task) sign) entry.query
    (perform device entry.tick entry.query entry.before).1
  supplied : ∀ entry ∈ state.app.trace, ∀ token, storedBy entry.query = some token →
    Supplied state entry.task token
  closed : ∀ entry ∈ state.app.trace, Stores entry.query →
    ∃ task, state.app.tasks[entry.task]? = some task ∧ task.residual.awaiting = none
  held : ∀ token, state.app.world.store.refreshToken = some token → Known state.app token
  renewing : ∀ task ∈ state.app.tasks, ∀ token, refreshOf task.request = some token →
    Known state.app token

/-- The token of the phone is in its row, or a refresh that has rotated it is under way. -/
structure Accord (state : Network.State) : Prop where
  ledger : Ledger env state.server
  kept : Kept (fun _ _ => True) sign device state.app
  linked : Linked state
  sourced : Sourced device sign state
  agrees : ∀ token, state.app.world.store.refreshToken = some token →
    Stored token state.server.world ∨ Covered state token

variable {device env sign}

theorem serves_unique (state : Network.State) (linked : Linked state) (first second serving : Nat)
    (one : Serves state first serving) (other : Serves state second serving) : first = second := by
  obtain ⟨arrival, reached, same, flight, sent, rfl⟩ := one
  obtain ⟨arrival', reached', same', flight', sent', rfl⟩ := other
  have together := linked.apart arrival reached arrival' reached' (same.trans same'.symm)
  rw [together] at sent
  rw [Option.some.inj ((Option.mem_def.mp sent).symm.trans sent')]

theorem rotation_origin (state : Network.State) (ledger : Ledger env state.server)
    (linked : Linked state) (coherent : (client device).Coherent state.app)
    (later : AuthHandlers.Live.Entry) (known : later ∈ state.server.trace) (token : String)
    (rotates : Rotates token later) :
    ∃ (index : Nat) (task : Task), Serves state index later.task ∧
      state.app.tasks[index]? = some task ∧
      refreshOf task.request = some token := by
  have own := rotates_own state.server ledger.coherent later known token rotates.1
  obtain ⟨serving, present, same, -⟩ := ledger.coherent.owner later known
  have asks : refreshAt serving.request = some token := by rw [same, own]; rfl
  obtain ⟨arrival, reached, task, flight, sent, payload⟩ :=
    linked.landed _ serving present token asks
  obtain ⟨flown, refreshes⟩ := linked.flown flight (List.mem_of_getElem? (Option.mem_def.mp sent))
  obtain ⟨owner, found, request, -⟩ := coherent.owner flight.entry flown
  exact ⟨_, owner, ⟨arrival, reached, task, flight, sent, rfl⟩, found,
    request ▸ refreshes token payload⟩

theorem rotated_known (state : Network.State) (accord : Accord device env sign state)
    (later : AuthHandlers.Live.Entry) (known : later ∈ state.server.trace) (token : String)
    (rotates : Rotates token later) : Known state.app token := by
  obtain ⟨index, task, -, present, asks⟩ := rotation_origin state accord.ledger accord.linked
    accord.kept.coherent later known token rotates
  exact accord.sourced.renewing task (List.mem_of_getElem? present) token asks

theorem sound_supplied (state : Network.State) (index : Nat) (query : Query) (token : String)
    (sound : Sound (supplies state index) sign query) (stores : storedBy query = some token) :
    Supplied state index token := by
  have issued (data : ResponseData) (issued : Issued (supplies state index) sign data)
      (held : data.refreshToken = some token) : Supplied state index token := by
    obtain ⟨request, accessToken, refreshToken, answered, -, rfl⟩ := issued
    obtain rfl := Option.some.inj held
    exact answered accessToken _ rfl
  cases query with
  | storeSession asksSignup data =>
      cases data with
      | none => cases stores
      | some data =>
          simp only [storedBy] at stores
          split at stores
          · cases stores
          · next kept =>
              refine issued data (Or.resolve_right sound fun asks => kept ?_) stores
              simp [asks]
  | finishRefresh promise outcome =>
      rcases outcome with error | (none | data)
      · cases stores
      · cases stores
      · exact issued data sound stores
  | _ => cases stores

theorem awaited_supplied (state : Network.State) (accord : Accord device env sign state)
    (index : Nat) (task : Task) (query : Query) (present : state.app.tasks[index]? = some task)
    (awaits : task.residual.awaiting = some query) (token : String)
    (stores : storedBy query = some token) :
    Supplied state index token := by
  have sound : Sound (supplies state index) sign query :=
    Machine.awaits_ensured (Tells (Delivered (supplies state index) sign)) _ _ state.app
      accord.kept.coherent index task query (program_tells device task.request)
      (fun entry member own _ => own ▸ accord.sourced.told entry member) present awaits
  exact sound_supplied state index query token sound stores

/-- A token that nobody has stored yet is still in its row. -/
theorem awaited_stored (state : Network.State) (accord : Accord device env sign state) (index : Nat)
    (task : Task) (query : Query) (present : state.app.tasks[index]? = some task)
    (awaits : task.residual.awaiting = some query) (token : String)
    (stores : storedBy query = some token) :
    Stored token state.server.world := by
  obtain ⟨written, member, serves, writes⟩ :=
    awaited_supplied state accord index task query present awaits token stores
  rcases accord.ledger.kept written member token writes with stored | ⟨later, rotated, rotates⟩
  · exact stored
  -- Whoever asked for the rotation had the token from a task that is over by now.
  obtain ⟨entry, known, held⟩ := rotated_known state accord later rotated token rotates
  obtain ⟨other, found, serves', writes'⟩ := accord.sourced.supplied entry known token held
  have single := accord.ledger.single written member other found token writes.1 writes'.1
  obtain rfl := serves_unique state accord.linked _ _ _ serves (single ▸ serves')
  obtain ⟨settled, there, ended⟩ := accord.sourced.closed entry known (by rw [Stores, held]; nofun)
  obtain rfl := Option.some.inj (present.symm.trans there)
  rw [ended] at awaits
  cases awaits

/-! What is never taken back. -/
section Growth
variable {state after : Network.State}

structure Grown (state after : Network.State) : Prop where
  arrivals : state.arrivals ⊆ after.arrivals
  flights : ∀ (index : Nat) (flight : Flight), state.flights[index]? = some flight →
    after.flights[index]? = some flight
  server : state.server.trace ⊆ after.server.trace

variable (device env) in
theorem step_grown (state : Network.State) (move : Move) :
    Grown state (step device env state move) := by
  cases move with
  | act action =>
      refine ⟨List.Subset.refl _, fun index flight found => ?_, List.Subset.refl _⟩
      exact (List.getElem?_append_left (List.getElem?_eq_some_iff.mp found).1).trans found
  | land flight tick =>
      simp only [step]
      split
      · exact ⟨List.Subset.refl _, fun _ _ found => found, List.Subset.refl _⟩
      · exact ⟨List.subset_cons_self _ _, fun _ _ found => found, (Machine.step_trace _ _).subset⟩
  | serve index tick =>
      exact ⟨List.Subset.refl _, fun _ _ found => found, (Machine.step_trace _ _).subset⟩
  | _ => exact ⟨List.Subset.refl _, fun _ _ found => found, List.Subset.refl _⟩

variable (grown : Grown state after)
include grown

theorem serves_grown (index serving : Nat) (serves : Serves state index serving) :
    Serves after index serving := by
  obtain ⟨arrival, reached, task, flight, sent, own⟩ := serves
  exact ⟨arrival, grown.arrivals reached, task, flight, grown.flights _ _ sent, own⟩

theorem supplied_grown (index : Nat) (token : String) (supplied : Supplied state index token) :
    Supplied after index token := by
  obtain ⟨entry, member, serves, writes⟩ := supplied
  exact ⟨entry, grown.server member, serves_grown grown index entry.task serves, writes⟩

theorem rotated_grown (index : Nat) (token : String) (rotated : Rotated state index token) :
    Rotated after index token := by
  obtain ⟨later, member, serves, rotates⟩ := rotated
  exact ⟨later, grown.server member, serves_grown grown index later.task serves, rotates⟩

theorem told_grown (index : Nat) (query : Query) (result : Except ErrorResponse query.Answer)
    (told : Tells (Delivered (supplies state index) sign) query result) :
    Tells (Delivered (supplies after index) sign) query result := by
  refine tells_mono (fun payload data delivered request same answer given => ?_) query result told
  obtain ⟨body, supplied, rest⟩ := delivered request same answer given
  refine ⟨body, fun accessToken refreshToken issued => ?_, rest⟩
  exact supplied_grown grown index refreshToken (supplied accessToken refreshToken issued)

theorem sourced_grown (same : after.app = state.app) (sourced : Sourced device sign state) :
    Sourced device sign after := by
  constructor
  · rw [same]
    exact fun entry member => told_grown grown entry.task entry.query _ (sourced.told entry member)
  · rw [same]
    exact fun entry member token stores =>
      supplied_grown grown entry.task token (sourced.supplied entry member token stores)
  · rw [same]
    exact sourced.closed
  · rw [same]
    exact sourced.held
  · rw [same]
    exact sourced.renewing

theorem covered_grown (same : after.app = state.app) (token : String)
    (covered : Covered state token) :
    Covered after token := by
  obtain ⟨index, task, promise, present, own, stage⟩ := covered
  refine ⟨index, task, promise, same ▸ present, own, stage.imp_left ?_⟩
  rintro ⟨query, awaits, heard, rotated⟩
  exact ⟨query, awaits, heard, rotated_grown grown index token rotated⟩

end Growth

/-! The moves at the server. -/
section Serving
variable (state : Network.State) (accord : Accord device env sign state)
include accord

theorem land_accord (flight : Nat) (tick : AuthStatements.Tick)
    (possible : Possible device sign state (.land flight tick)) :
    Accord device env sign (step device env state (.land flight tick)) := by
  have grown := step_grown device env state (.land flight tick)
  obtain ⟨-, found, request, sent, payload, counted⟩ := possible
  have asked : (state.flights[flight]?).bind (fun found => authRequest found.sending.payload) =
    some request := by
    simp [sent, payload, authRequest]
  have arrives : (AuthHandlers.server env).step state.server (.arrive request tick) =
      { state.server with
        tasks := state.server.tasks ++
          [(AuthHandlers.server env).launch tick state.server.trace.length request] } := by
    simp only [Machine.step]
    exact if_pos counted
  simp only [step, asked, arrives] at grown ⊢
  have ledger := ledger_step state.server (.arrive request tick) accord.ledger
    ⟨fun entry comes => (by cases comes),
      fun entry comes => (by cases comes)⟩ fun entry comes => by cases comes
  rw [arrives] at ledger
  refine ⟨ledger, accord.kept, ⟨accord.linked.flown, ?_, ?_, ?_⟩,
    sourced_grown grown rfl accord.sourced, ?_⟩
  · intro index task present token asks
    rw [List.getElem?_append] at present
    split at present
    · obtain ⟨arrival, reached, own, rest⟩ := accord.linked.landed index task present token asks
      exact ⟨arrival, List.mem_cons_of_mem _ reached, own, rest⟩
    -- The new task is at the request of this flight.
    · next outside =>
        obtain ⟨inside, rfl⟩ := List.getElem?_eq_some_iff.mp present
        simp only [List.length_singleton] at inside
        simp only [List.getElem_singleton, Machine.launch] at asks
        obtain rfl := refresh_request request token asks
        exact ⟨_, List.mem_cons_self, by simp only; omega, found, sent, payload⟩
  · intro arrival member
    rw [List.length_append, List.length_singleton]
    rcases List.mem_cons.mp member with rfl | old
    · exact Nat.lt_succ_self _
    · exact Nat.lt_succ_of_lt (accord.linked.within arrival old)
  · intro one first other second same
    rcases List.mem_cons.mp first with rfl | left <;> rcases List.mem_cons.mp second with
      rfl | right
    · rfl
    · exact absurd same (Nat.ne_of_gt (accord.linked.within other right))
    · exact absurd same (Nat.ne_of_lt (accord.linked.within one left))
    · exact accord.linked.apart one left other right same
  · exact fun token held => (accord.agrees token held).imp_right (covered_grown grown rfl token)

theorem serve_linked (index : Nat) (tick : AuthStatements.Tick) :
    Linked (step device env state (.serve index tick)) := by
  refine ⟨accord.linked.flown, ?_, ?_, accord.linked.apart⟩
  · intro other task present token asks
    rcases Machine.step_origin state.server (.advance index tick) other task present with
      ⟨earlier, stood, same⟩ | ⟨now, arrives, -⟩ | ⟨entry, comes, spawns⟩
    · exact accord.linked.landed other earlier stood token (same ▸ asks)
    · cases arrives
    · cases query : entry.query with
      | waitUntil job =>
          rw [query] at spawns
          rw [List.mem_singleton.mp spawns] at asks
          cases asks
      | _ =>
          rw [query] at spawns
          cases spawns
  · intro arrival reached
    have inside := accord.linked.within arrival reached
    obtain ⟨later, present, -⟩ :=
      Machine.step_task state.server (.advance index tick) arrival.task _
      (List.getElem?_eq_getElem inside)
    exact (List.getElem?_eq_some_iff.mp present).1

theorem serve_accord (index : Nat) (tick : AuthStatements.Tick)
    (usual : Usual device env state (.serve index tick))
    (heard : Heard device env state (.serve index tick)) :
    Accord device env sign (step device env state (.serve index tick)) := by
  have grown := step_grown device env state (.serve index tick)
  have ledger := ledger_step state.server (.advance index tick) accord.ledger usual heard.1
  have linked := serve_linked state accord index tick
  refine ⟨ledger, accord.kept, linked, sourced_grown grown rfl accord.sourced, fun token held => ?_⟩
  rcases accord.agrees token held with stored | covered
  · rcases stored_step state.server (.advance index tick) usual token stored with
      still | ⟨entry, comes, rotates⟩
    · exact Or.inl still
    -- The server takes the token away from under a refresh that still waits.
    have known : entry ∈
      ((AuthHandlers.server env).step state.server (.advance index tick)).trace := by
      rw [Machine.step_entries]
      exact List.mem_append_left _ (Option.mem_toList.mpr comes)
    obtain ⟨owner, task, serves, present, asks⟩ :=
      rotation_origin (step device env state (.serve index tick))
      ledger linked accord.kept.coherent entry known token rotates
    obtain ⟨arrival, reached, own, flight, sent, waiting, found, hearing⟩ :=
      heard.2 entry comes (by rw [rotates.1]; rfl)
    obtain rfl := serves_unique _ linked owner flight.entry.task entry.task serves
      ⟨arrival, reached, own, flight, sent, rfl⟩
    obtain rfl := Option.some.inj (present.symm.trans found)
    obtain ⟨query, awaits, hears⟩ := (Option.any_eq_true _ _).mp hearing
    refine Or.inr ?_
    cases request : task.request with
    | refreshCall promise refreshToken =>
        rw [request] at asks
        obtain rfl := Option.some.inj asks
        exact ⟨_, task, promise, present, request,
          Or.inl ⟨query, awaits, hears, entry, known, serves, rotates⟩⟩
    | _ =>
        rw [request] at asks
        cases asks
  · exact Or.inr (covered_grown grown rfl token covered)

end Serving

/-! The moves of the phone. -/
section Acting
variable (state : Network.State) (accord : Accord device env sign state) (action : Action)

include accord

theorem brought_supplied (entry : Entry) (request : ServerRequest) (reply : Reply)
    (brought : Brought sign state entry request reply) :
    Answered (supplies state entry.task) sign request reply := by
  cases brought with
  | unanswered code => exact fun answer resolved => by cases resolved
  | gateway status => exact fun answer resolved => by cases resolved
  | refused status body coded => exact refusal_answered request status body coded
  | answered arrival flight response reached sent own replied =>
      have coherent := accord.ledger.coherent
      refine response_answered request response ?_ (answers_kind env request response
        (replied_answers env state.server coherent arrival.task request response replied))
      intro accessToken refreshToken same
      obtain ⟨written, member, task, writes⟩ :=
        replied_writes state.server coherent arrival.task request
        response replied accessToken refreshToken same
      exact ⟨written, member, ⟨arrival, reached, task.symm, flight, sent, own⟩, writes⟩

theorem answered_any (entry : Entry)
    (possible : ∀ request ∈ awaited entry.query,
      Brought sign state entry request entry.tick.reply) :
    ∀ request ∈ awaited entry.query, Answered (fun _ _ => True) sign request entry.tick.reply := by
  intro request awaits answer resolved
  obtain ⟨body, -, rest⟩ := brought_supplied state accord entry request _ (possible request awaits)
    answer resolved
  exact ⟨body, trivial, rest⟩

/-- What a refresh of the phone sends is its token, and nobody else sends one. -/
theorem departs_refresh (entry : Entry)
    (comes : (client device).upcoming state.app action = some entry)
    (ordinary : usual entry.request = true)
    (served : ∀ request ∈ awaited entry.query,
      Answered (fun _ _ => True) sign request entry.tick.reply)
    (sending : Config) (token : String)
    (departs : departing entry.query (perform device entry.tick entry.query entry.before).1 =
      some sending)
    (payload : sending.payload = refreshPayload token) : refreshOf entry.request = some token := by
  cases asks : refreshOf entry.request with
  | some refreshToken =>
      cases request : entry.request with
      | refreshCall promise other =>
          rw [request] at asks
          obtain rfl := Option.some.inj asks
          have sent := refresh_departs state.app accord.kept action entry comes served promise _
            request sending departs
          cases payload.symm.trans sent
          rfl
      | _ =>
          rw [request] at asks
          cases asks
  -- All other requests send no refresh token as a refresh does.
  | none =>
      obtain ⟨-, task, present, same, awaits⟩ :=
        (client device).upcoming_owner state.app action entry comes
      have told : Tells (Delivered (fun _ _ => True) sign) entry.query
          (perform device entry.tick entry.query entry.before).1 :=
        served_tells entry.tick entry.query entry.before served
      have plain := Machine.awaits_ensured _ _ _ state.app accord.kept.coherent entry.task task
        entry.query (same ▸ program_unrefreshing entry.request ordinary asks)
        (fun earlier member _ _ => accord.kept.told earlier member) present awaits
      exact absurd (payload ▸ departing_concerns entry.query _ sending told departs) (plain token)

theorem act_linked (possible : Possible device sign state (.act action))
    (ordinary : Usual device env state (.act action)) :
    Linked (step device env state (.act action)) := by
  have grows : state.app.trace ⊆ ((client device).step state.app action).trace :=
    (Machine.step_trace state.app action).subset
  refine ⟨?_, ?_, accord.linked.within, accord.linked.apart⟩
  · intro flight member
    rcases List.mem_append.mp member with old | new
    · obtain ⟨flown, refreshes⟩ := accord.linked.flown flight old
      exact ⟨grows flown, refreshes⟩
    · unfold departures at new
      cases comes : (client device).upcoming state.app action with
      | none => simp [comes] at new
      | some entry =>
          simp only [comes] at new
          split at new
          · cases new
          · next sending departs =>
              obtain rfl := List.mem_singleton.mp new
              refine ⟨?_, fun token payload => ?_⟩
              · simp only [step, (client device).step_entries, comes]
                exact List.mem_cons_self
              · have served := answered_any state accord entry (possible entry comes)
                exact departs_refresh state accord action entry comes (ordinary entry comes) served
                  sending token departs payload
  · intro index task present token asks
    obtain ⟨arrival, reached, own, flight, sent, payload⟩ :=
      accord.linked.landed index task present token asks
    exact ⟨arrival, reached, own, flight,
      (List.getElem?_append_left (List.getElem?_eq_some_iff.mp sent).1).trans sent, payload⟩

omit accord in
theorem known_grown (app : ClientApi.State) (token : String) (known : Known app token) :
    Known ((client device).step app action) token := by
  obtain ⟨entry, member, stores⟩ := known
  exact ⟨entry, (Machine.step_trace app action).subset member, stores⟩

theorem act_closes (entry : Entry) (comes : (client device).upcoming state.app action = some entry)
    (stores : Stores entry.query) :
    ∃ task, ((client device).step state.app action).tasks[entry.task]? = some task ∧
      task.residual.awaiting = none := by
  obtain ⟨task, resume, present, awaits, before, after⟩ :=
    (client device).upcoming_step state.app action entry comes
  have own := (client device).answer_task_own state.app entry.task task entry.query resume
    entry.tick present
  rw [after]
  refine ⟨_, own, ?_⟩
  obtain ⟨answer, answered⟩ := stores_ok device entry.tick entry.query state.app.world stores
  refine Option.eq_none_iff_forall_ne_some.mpr fun follower next => ?_
  obtain ⟨error, thrown⟩ :=
    Machine.answer_chains closing state.app accord.kept.coherent entry.task entry.tick
    task entry.query follower resume (program_closes device task.request) present awaits next stores
  rw [show (client device).perform = perform device from rfl, answered] at thrown
  cases thrown

theorem act_sourced (possible : Possible device sign state (.act action)) :
    Sourced device sign (step device env state (.act action)) := by
  have grown := step_grown device env state (.act action)
  have entries := (client device).step_entries state.app action
  have known : ∀ token, Known state.app token →
    Known ((client device).step state.app action) token :=
    known_grown action state.app
  -- The parts are those of Sourced: what segments are told, the tokens they store, the refreshes
  -- that are over, the token held, and those that refreshes send.
  constructor
  · intro entry member
    simp only [step, entries] at member
    rcases List.mem_append.mp member with new | old
    · have comes : (client device).upcoming state.app action = some entry :=
        Option.mem_toList.mp new
      exact told_grown grown entry.task entry.query _
        (served_tells entry.tick entry.query entry.before
        fun request awaits =>
          brought_supplied state accord entry request _ (possible entry comes request awaits))
    · exact told_grown grown entry.task entry.query _ (accord.sourced.told entry old)
  · intro entry member token stores
    simp only [step, entries] at member
    rcases List.mem_append.mp member with new | old
    · have comes : (client device).upcoming state.app action = some entry :=
        Option.mem_toList.mp new
      obtain ⟨-, task, present, -, awaits⟩ :=
        (client device).upcoming_owner state.app action entry comes
      exact supplied_grown grown entry.task token
        (awaited_supplied state accord entry.task task entry.query present awaits token stores)
    · exact supplied_grown grown entry.task token (accord.sourced.supplied entry old token stores)
  · intro entry member stores
    simp only [step, entries] at member
    rcases List.mem_append.mp member with new | old
    · exact act_closes state accord action entry (Option.mem_toList.mp new) stores
    · obtain ⟨task, present, ended⟩ := accord.sourced.closed entry old stores
      obtain ⟨later, found, -, same⟩ := Machine.step_task state.app action entry.task task present
      exact ⟨later, found, same ended ▸ ended⟩
  · intro token held
    cases comes : (client device).upcoming state.app action with
    | none =>
        have same := ((client device).quiet_step state.app action comes).1
        exact known token (accord.sourced.held token (same ▸ held))
    | some entry =>
        obtain ⟨task, resume, -, -, -, after⟩ :=
          (client device).upcoming_step state.app action entry comes
        simp only [step, after] at held
        rcases held_origin device entry.tick entry.query state.app.world token held with
          stores | before
        · exact ⟨entry, by simp only [step, entries, comes]; exact List.mem_cons_self, stores⟩
        · exact known token (accord.sourced.held token before)
  · intro task member token asks
    obtain ⟨index, inside, same⟩ := List.getElem_of_mem member
    rcases Machine.step_origin state.app action index task
        ((List.getElem?_eq_getElem inside).trans (congrArg some same)) with
      ⟨earlier, stood, same⟩ | ⟨tick, -, external⟩ | ⟨entry, comes, spawns⟩
    · exact known token
        (accord.sourced.renewing earlier (List.mem_of_getElem? stood) token (same ▸ asks))
    · cases request : task.request with
      | refreshCall promise refreshToken =>
          rw [request] at external
          cases external
      | _ =>
          rw [request] at asks
          cases asks
    · obtain ⟨-, -, -, -, before, -⟩ := (client device).upcoming_step state.app action entry comes
      refine known token (accord.sourced.held token ?_)
      rw [← before]
      exact spawned_held device entry.tick entry.query entry.before token task.request spawns asks

theorem act_agrees (heard : Heard device env state (.act action)) (token : String)
    (held : (step device env state (.act action)).app.world.store.refreshToken = some token) :
    Stored token state.server.world ∨ Covered (step device env state (.act action)) token := by
  have grown := step_grown device env state (.act action)
  cases comes : (client device).upcoming state.app action with
  | none =>
      refine (accord.agrees token
        (((client device).quiet_step state.app action comes).1 ▸ held)).imp_right ?_
      rintro ⟨index, task, promise, present, request, stage⟩
      refine ⟨index, task, promise, ((client device).quiet_step state.app action comes).2 index task
        present, request,
        stage.imp_left ?_⟩
      rintro ⟨query, awaits, hearing, rotated⟩
      exact ⟨query, awaits, hearing, rotated_grown grown index token rotated⟩
  | some entry =>
      obtain ⟨task, resume, present, awaits, -, after⟩ :=
        (client device).upcoming_step state.app action entry comes
      have awaiting : task.residual.awaiting = some entry.query := by rw [awaits]; rfl
      simp only [step, after] at held
      -- A token that is stored just now was nobody's until now.
      by_cases stores : storedBy entry.query = some token
      · exact Or.inl (awaited_stored state accord entry.task task entry.query present awaiting
          token stores)
      have before := Or.resolve_left
        (held_origin device entry.tick entry.query state.app.world token held) stores
      rcases accord.agrees token before with stored | ⟨index, owner, promise, found, request, stage⟩
      · exact Or.inl stored
      refine Or.inr ?_
      -- The refresh that has the token is either heard now or goes on as it was.
      by_cases own : index = entry.task
      · subst own
        obtain rfl : owner = task := Option.some.inj (found.symm.trans present)
        rcases stage with ⟨query, waits, hearing, rotated⟩ | ⟨data, finishes⟩
        · obtain rfl := Option.some.inj (waits.symm.trans awaiting)
          obtain ⟨-, other, there, same, -⟩ :=
            (client device).upcoming_owner state.app action entry comes
          obtain rfl := Option.some.inj (there.symm.trans present)
          have asks : refreshOf entry.request = some token := by rw [← same, request]; rfl
          obtain ⟨data, ends⟩ := success_ends device entry.tick entry.query state.app.world hearing
            (heard entry comes token asks hearing rotated)
          have led := (client device).answer_leads _ state.app accord.kept.coherent entry.task
            entry.tick other entry.query (.finishRefresh promise (.ok (some data))) resume
            (request ▸ leads_refresh device promise token) present awaits
            (by simp only [show (client device).perform = perform device from rfl]; rw [ends]; rfl)
          have moved := (client device).answer_task_own state.app entry.task other entry.query
            resume entry.tick present
          rw [← after] at moved
          exact ⟨entry.task, _, promise, moved, request, Or.inr ⟨data, led⟩⟩
        · exact absurd (renewal_stores device entry.tick entry.query state.app.world token
            promise data (Option.some.inj (awaiting.symm.trans finishes)) held) stores
      · refine ⟨index, owner, promise, ?_, request, stage.imp_left ?_⟩
        · simp only [step, after]
          exact (client device).answer_task_other state.app entry.task task entry.query resume
            entry.tick index owner found own
        · rintro ⟨query, awaits, hearing, rotated⟩
          exact ⟨query, awaits, hearing, rotated_grown grown index token rotated⟩

theorem act_accord (possible : Possible device sign state (.act action))
    (ordinary : Usual device env state (.act action))
    (heard : Heard device env state (.act action)) :
    Accord device env sign (step device env state (.act action)) :=
  ⟨accord.ledger,
    kept_step state.app action accord.kept fun entry comes =>
      answered_any state accord entry (possible entry comes),
    act_linked state accord action possible ordinary, act_sourced state accord action possible,
    act_agrees state accord action heard⟩

end Acting

theorem accord_reached (state : Network.State) (reached : Reached device env sign
    (fun state move => Usual device env state move ∧ Heard device env state move) state) :
    Accord device env sign state := by
  induction reached with
  | opened db now unsigned =>
      refine ⟨ledger_start db, kept_start, ⟨?_, ?_, ?_, ?_⟩, ⟨?_, ?_, ?_, ?_, ?_⟩, ?_⟩
      all_goals simp [opening, start, opened, AuthStore.initial]
  | moved state move reached possible guarded accord =>
      obtain ⟨ordinary, heard⟩ := guarded
      cases move with
      | wait later =>
          have grown := step_grown device env state (.wait later)
          exact ⟨accord.ledger, accord.kept,
            ⟨accord.linked.flown, accord.linked.landed, accord.linked.within,
            accord.linked.apart⟩, sourced_grown grown rfl accord.sourced,
            fun token held => (accord.agrees token held).imp_right (covered_grown grown rfl token)⟩
      | act action => exact act_accord state accord action possible ordinary heard
      | land flight tick => exact land_accord state accord flight tick possible
      | serve index tick => exact serve_accord state accord index tick ordinary heard
      | relaunch => cases ordinary
      | rehydrate persisted => cases ordinary

end Invariants

/-- As long as no answer to a rotation is lost, the token of the phone is in its row whenever no
refresh is in flight. -/
theorem tokens_agree (device : Device) (env : Env) (sign : Signer) (state : Network.State)
    (reached : Reached device env sign
      (fun state move => Usual device env state move ∧ Heard device env state move) state)
    (quiet : ¬ InFlight state) : Agree state := by
  intro token held
  rcases (accord_reached state reached).agrees token held with
    stored | ⟨index, task, promise, present, own, stage⟩
  · exact stored
  · refine absurd (Or.inl ⟨task, List.mem_of_getElem? present, by rw [own]; rfl, ?_⟩) quiet
    rcases stage with ⟨query, awaits, -⟩ | ⟨data, awaits⟩
    · rw [awaits]
      rfl
    · rw [awaits]
      rfl

/-! The refresh of the phone whose token is 28 minutes old: its answer arrives, or is lost. -/
section Sample
open AuthHandlers (sampleEnv tickAt)
open BearerTokens (counting written)
open ClockWindows

abbrev Fits (state : Network.State) (move : Move) : Prop :=
  Usual counting sampleEnv state move ∧ Heard counting sampleEnv state move

def Plays (guard : Network.State → Move → Prop) : Network.State → List Move → Prop
  | _, [] => True
  | state, move :: rest => guard state move ∧ Plays guard (step counting sampleEnv state move) rest

instance decidablePlays (guard : Network.State → Move → Prop)
    [∀ state move, Decidable (guard state move)] :
    ∀ state moves, Decidable (Plays guard state moves)
  | _, [] => inferInstanceAs (Decidable True)
  | state, move :: rest =>
      have := decidablePlays guard (step counting sampleEnv state move) rest
      inferInstanceAs
        (Decidable (guard state move ∧ Plays guard (step counting sampleEnv state move) rest))

variable {guard : Network.State → Move → Prop}

theorem played (state : Network.State) (moves : List Move)
    (reached : Reached counting sampleEnv written guard state)
    (possible : ∀ state, ∀ move ∈ moves, Possible counting written state move)
    (plays : Plays guard state moves) :
    Reached counting sampleEnv written guard (moves.foldl (step counting sampleEnv) state) := by
  induction moves generalizing state with
  | nil => exact reached
  | cons move rest ih =>
      exact ih _ (.moved state move reached (possible state move List.mem_cons_self) plays.1)
        (fun other later member => possible other later (List.mem_cons_of_mem move member)) plays.2

theorem acted_played (state : Network.State) (actions : List Action) (now : AuthSchema.Time)
    (reached : Reached counting sampleEnv written guard state)
    (quiet : ∀ action ∈ actions, tickOf action = silence now)
    (plays : Plays guard state (actions.map Move.act)) :
    Reached counting sampleEnv written guard (acted state actions) := by
  refine played state _ reached (fun other move member => ?_) plays
  obtain ⟨action, listed, rfl⟩ := List.mem_map.mp member
  intro entry comes request awaits
  obtain ⟨rfl, -⟩ := (client counting).upcoming_owner other.app action entry comes
  rw [show entry.tick = _ from quiet _ listed]
  exact .unanswered none

theorem served_played (state : Network.State) (index count : Nat) (tick : AuthStatements.Tick)
    (reached : Reached counting sampleEnv written guard state)
    (plays : Plays guard state (List.replicate count (.serve index tick))) :
    Reached counting sampleEnv written guard (served state index count tick) := by
  refine played state _ reached (fun other move member => ?_) plays
  obtain rfl := List.eq_of_mem_replicate member
  trivial

theorem welcomed_fits : Reached counting sampleEnv written Fits welcomed := by
  have joins : Reached counting sampleEnv written Fits joining :=
    acted_played _ _ 0 (.opened Db.empty 0 rfl) (by simp [tickOf]) (by decide)
  refine served_played _ 0 6 _
    (.moved joining (.land 0 (tickAt 0 "refresh")) joins ?_ (by decide)) (by decide)
  exact ⟨fun arrival member => absurd member List.not_mem_nil, _, _, rfl, rfl, rfl⟩

theorem calling_fits : Reached counting sampleEnv written Fits calling := by
  have signs : Reached counting sampleEnv written Fits signedIn := by
    refine acted_played _ _ 0 (.moved welcomed (.act (.advance 0
      { now := 0, reply := replyOf written admission })) welcomed_fits ?_
        (by decide)) (by simp [tickOf]) (by decide)
    intro entry comes request awaits
    obtain rfl := Option.some.inj comes
    obtain rfl := Option.some.inj awaits
    exact .answered ⟨0, 0⟩ _ admission List.mem_cons_self rfl rfl welcomed_replied
  refine acted_played _ _ 1700000 (acted_played _ _ 1580000
    (.moved signedIn (.wait 1700000) signs ?_
      (by decide)) (by simp [tickOf]) (by decide)) (by simp [tickOf]) (by decide)
  show signedIn.now ≤ 1700000
  decide

theorem renewed_fits : Reached counting sampleEnv written Fits renewed := by
  refine served_played _ 2 3 _
    (.moved calling (.land 2 (tickAt 1700000 "rotated")) calling_fits ?_ (by decide))
    (by decide)
  refine ⟨fun arrival member => ?_, _, _, rfl, rfl, rfl⟩
  obtain rfl := List.mem_singleton.mp member
  decide

def renewal : AuthHandlers.Response :=
  AuthHandlers.res.ok (.tokens { sub := "refresh", iat := 1700, exp := 3500 } "rotated")

def delivered : Network.State :=
  acted (step counting sampleEnv renewed
    (.act (.advance 3 { now := 1700000, reply := replyOf written renewal })))
      [.advance 3 (silence 1700000)]

def lost : Network.State :=
  acted renewed [.advance 3 (silence 1700000), .advance 3 (silence 1700000)]

theorem delivered_fits : Reached counting sampleEnv written Fits delivered := by
  refine acted_played _ _ 1700000 (.moved renewed (.act (.advance 3
    { now := 1700000, reply := replyOf written renewal })) renewed_fits ?_
      (by decide)) (by simp [tickOf]) (by decide)
  intro entry comes request awaits
  obtain rfl := Option.some.inj comes
  obtain rfl := Option.some.inj awaits
  exact .answered ⟨2, 2⟩ _ renewal List.mem_cons_self rfl rfl ⟨_, rfl, rfl, rfl⟩

theorem tokens_agree_delivered :
    ¬ InFlight delivered ∧ delivered.app.world.store.refreshToken = some "rotated" ∧
    Agree delivered :=
  ⟨by decide, by decide,
    tokens_agree counting sampleEnv written delivered delivered_fits (by decide)⟩

/-- A lost answer leaves the phone with a token that no row has. -/
theorem tokens_part : ∃ state, Reached counting sampleEnv written (Usual counting sampleEnv) state ∧
    ¬ InFlight state ∧ ¬ Agree state := by
  have renews : Reached counting sampleEnv written (Usual counting sampleEnv) renewed :=
    reached_mono (fun state move fits => fits.1) renewed renewed_fits
  refine ⟨lost, acted_played _ _ 1700000 renews (by simp [tickOf]) (by decide), by decide,
    fun agree => ?_⟩
  exact absurd (agree "refresh" (by decide)) (by decide)

end Sample
end TopInspect.TokenAgreement
