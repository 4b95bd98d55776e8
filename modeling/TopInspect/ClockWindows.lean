import TopInspect.ServerTerms
import TopInspect.Network
import TopInspect.BearerTokens

/-! The thresholds of the phone and the windows of the server. An access token that a request
takes along is still valid when it arrives, and a refresh that is started early enough for the
old token comes late enough for the server, whichever way the two clocks differ. -/
namespace TopInspect.ClockWindows

open Resumption
open AuthHandlers (Env AccessToken truthy truthy_some minutes external)
open AuthSchema (Db Time)
open ClientStore ClientApi ServerAnswers ClientTokens Network ServerTerms
open BearerTokens (Decodes Lives passed intercept_passes)
open Interleaving hiding Entry State Action Task

-- The timeout of the axios instance, and how far apart the clocks may be.
def timeout : Time := 5000
def skew : Time := 120 * 1000

/-- When the requests reach the server, when its refresh tokens are drawn, and how long it
takes over a request. No token is drawn at two times. -/
structure Timing where
  arrivedAt : Nat → Time
  drawnAt : String → Time
  service : Time
  brief : 0 ≤ service ∧ service ≤ minutes 9

namespace Timing
variable (timing : Timing)

def During (index : Nat) (time : Time) : Prop :=
  timing.arrivedAt index ≤ time ∧ time ≤ timing.arrivedAt index + timing.service

def Used (token : String) (lastUsedAt : Time) : Prop :=
  lastUsedAt ≤ timing.drawnAt token + timing.service

/-- A segment of the server, and the statement before it, at one time of its clock. -/
def Shows (present : Time) (tick : AuthStatements.Tick) : Prop :=
  tick.now = present ∧ tick.dbNow = present ∧ timing.drawnAt tick.refreshToken = present

def terms (index : Nat) : Terms timing.Used where
  fair tick := ∃ present, timing.During index present ∧ timing.Shows present tick
  spent _ := True
  stored _ := True
  token text := timing.During index (timing.drawnAt text)
  code _ := True
  access accessToken := timing.arrivedAt index < 1000 * (accessToken.iat + 1)
  time present := timing.During index present
  draws_token := by
    rintro tick ⟨present, during, -, -, drawn⟩
    rw [drawn]
    exact during
  draws_code _ _ := trivial
  clock := by
    rintro tick ⟨present, during, now, -⟩
    rw [now]
    exact during
  signs := by
    rintro tick userId ⟨present, ⟨reached, -⟩, now, -⟩
    simp only [now, Time] at *
    omega
  inserts := by
    rintro tick text ⟨present, ⟨-, served⟩, -, stored, -⟩ ⟨drawn, -⟩
    simp only [Used, stored, Time] at *
    omega
  rotates := by
    rintro text present ⟨drawn, -⟩ ⟨-, served⟩
    simp only [Used, Time] at *
    omega

theorem lenient : Lenient timing.terms := fun _ _ => ⟨trivial, trivial⟩

end Timing

section Runs
variable (device : Device) (env : Env) (sign : Signer) (timing : Timing)

def tickOf : Action → ClientApi.Tick
  | .arrive _ tick => tick
  | .advance _ tick => tick

/-- The clocks stay close, and requests arrive in time. -/
def OnTime (state : Network.State) : Move → Prop
  | .act action => state.now - skew ≤ (tickOf action).now ∧ (tickOf action).now ≤ state.now + skew
  | .land flight tick => timing.arrivedAt state.server.tasks.length = state.now ∧
      timing.Shows state.now tick ∧ ∀ found ∈ state.flights[flight]?,
      state.now ≤ found.sentAt + timeout
  | .serve index tick => timing.Shows state.now tick ∧
      ∀ task ∈ state.server.tasks[index]?, external task.request = true →
        timing.During index state.now
  | _ => True

def Together (_ : ServerRequest) (body : AuthHandlers.Body) : Prop :=
  ∀ accessToken refreshToken, body = .tokens accessToken refreshToken →
    timing.drawnAt refreshToken < 1000 * (accessToken.iat + 1) + timing.service

/-- The request interceptor attached this token as it found it. -/
def Attaches (flight : Flight) (token : String) : Prop :=
  ∃ config, flight.entry.query = .intercept config ∧ (privateUrl config.url).isSome = true ∧
    truthy flight.entry.before.store.accessToken = some token

/-- needsTokenRefresh has started a refresh here. -/
def Starts (entry : Entry) (promise : Nat) (refreshToken : String) : Prop :=
  (∃ config, entry.query = .intercept config) ∧
    Request.refreshCall promise refreshToken ∈ spawned device entry.tick entry.query entry.before

/-- Whatever refresh was started here, its row has been left alone for long. -/
def Due (present : Time) (entry : Entry) : Prop :=
  ∀ promise refreshToken, Starts device entry promise refreshToken →
    timing.drawnAt refreshToken + 1499000 < present + timing.service

structure Carried (present : Time) (flight : Flight) : Prop where
  sent : flight.sentAt ≤ present
  due : ∀ entry ∈ flight.past, Due device timing flight.sentAt entry
  attached : ∀ token, Attaches flight token →
    flight.sending.authorization = some ("Bearer " ++ token) ∧
    ∃ accessToken : AccessToken, token = sign accessToken ∧
      flight.sentAt + 60000 < 1000 * accessToken.exp
  refresh : ∀ promise refreshToken, flight.entry.request = .refreshCall promise refreshToken →
    flight.sending.payload = refreshPayload refreshToken

structure Windows (state : Network.State) : Prop where
  upheld : Upheld timing.terms env state.server
  kept : Kept (Together timing) sign device state.app
  saved : ∀ persisted ∈ state.saved, Paired (Together timing) sign persisted
  due : ∀ entry ∈ state.app.trace, Due device timing state.now entry
  carried : ∀ flight ∈ state.flights, Carried device sign timing state.now flight
  arrived : ∀ arrival ∈ state.arrivals, ∃ flight request,
    state.flights[arrival.flight]? = some flight ∧
    flight.sending.payload = .auth request ∧ flight.sentAt ≤ timing.arrivedAt arrival.task ∧
    (state.server.tasks[arrival.task]?).map Interleaving.Task.request = some request

variable {device env sign timing}

theorem due_later (present later : Time) (entry : Entry) (due : Due device timing present entry)
    (waits : present ≤ later) : Due device timing later entry := by
  intro promise refreshToken starts
  have early := due promise refreshToken starts
  simp only [Time] at *
  omega

theorem carried_later (present later : Time) (flight : Flight)
    (carried : Carried device sign timing present flight) (waits : present ≤ later) :
    Carried device sign timing later flight :=
  ⟨Int.le_trans carried.sent waits, carried.due, carried.attached, carried.refresh⟩

/-- What needsTokenRefresh finds too old was issued some 27 minutes ago. -/
theorem stale_old (decodes : Decodes sign device) (accessToken : AccessToken)
    (granted : lasts accessToken) (now : Int)
    (stale : needsTokenRefresh device now (sign accessToken) = true) :
    1000 * (accessToken.iat + 1620) ≤ now := by
  have span : accessToken.exp = accessToken.iat + 1800 := granted
  simp only [needsTokenRefresh, decodes accessToken, decide_eq_true_eq] at stale
  omega

theorem starts_old (decodes : Decodes sign device) (tick : ClientApi.Tick) (config : Config)
    (world : World) (paired : Paired (Together timing) sign world.store.partialize) (promise : Nat)
    (refreshToken : String)
    (started : .refreshCall promise refreshToken ∈ spawned device tick (.intercept config) world) :
    timing.drawnAt refreshToken + 1619000 < tick.now + timing.service := by
  simp only [spawned, segmentOf, intercept] at started
  split at started
  · cases started
  · split at started
    · simp at started
    · next text token =>
        split at started
        · next stale =>
            obtain ⟨request, accessToken, other, issued, granted, rfl, stored⟩ :=
              paired.issued text (truthy_some _ _ token)
            rcases ClientSegments.lock_started world _ started with out | ⟨-, found, same, held⟩
            · cases out
            · cases same
              obtain rfl : other = refreshToken :=
                Option.some.inj (stored.symm.trans (truthy_some _ _ held))
              have together := issued accessToken other rfl
              have old := stale_old decodes accessToken granted tick.now stale
              simp only [Time] at *
              omega
        · cases started

/-- A token that is attached as it is has three minutes left. -/
theorem attached_lives (decodes : Decodes sign device) (tick : ClientApi.Tick)
    (config sending : Config) (world : World)
    (paired : Paired (Together timing) sign world.store.partialize) (token : String)
    (hidden : (privateUrl config.url).isSome = true)
    (stored : truthy world.store.accessToken = some token)
    (departs : departing (.intercept config) (perform device tick (.intercept config) world).1 =
      some sending) :
    sending.authorization = some ("Bearer " ++ token) ∧
      ∃ accessToken : AccessToken, token = sign accessToken ∧
        tick.now + 180000 < 1000 * accessToken.exp := by
  have leaves : passed (.intercept config) (perform device tick (.intercept config) world).1 =
    some sending := by
    rcases result : (perform device tick (.intercept config) world).1 with
      error | (other | ⟨promise, other⟩)
    · rw [result] at departs
      cases departs
    · rw [result] at departs
      simpa [passed, departing, hidden] using departs
    · rw [result] at departs
      cases departs
  rcases intercept_passes decodes tick config sending world (paired_any _ paired) leaves with
    ⟨text, held, header, iat, exp, decoded, lives⟩ | ⟨missing, -⟩
  · obtain rfl : text = token := Option.some.inj (held.symm.trans (truthy_some _ _ stored))
    obtain ⟨request, accessToken, refreshToken, -, granted, rfl, -⟩ := paired.issued text held
    rw [decodes accessToken] at decoded
    cases decoded
    have span : accessToken.exp = accessToken.iat + 1800 := granted
    exact ⟨header, accessToken, rfl, by omega⟩
  · rw [stored] at missing
    cases missing

theorem brought_answered (state : Network.State) (windows : Windows device env sign timing state)
    (entry : Entry) (request : ServerRequest) (reply : Reply)
    (brought : Brought sign state entry request reply) :
    Answered (Together timing) sign request reply := by
  cases brought with
  | unanswered code => exact fun answer resolved => by cases resolved
  | gateway status => exact fun answer resolved => by cases resolved
  | refused status body coded => exact refusal_answered request status body coded
  | answered arrival flight response reached sent own replied =>
      have promised :=
        upheld_replied state.server windows.upheld arrival.task request response replied
      refine response_answered request response ?_
        (answers_kind env request response
          (replied_answers env state.server windows.upheld.coherent arrival.task request response
            replied))
      intro accessToken refreshToken same
      obtain ⟨access, drawn, -⟩ := promised.1 accessToken refreshToken same
      have before : timing.arrivedAt arrival.task < 1000 * (accessToken.iat + 1) := access
      have within := drawn.2
      simp only [Time] at *
      omega

theorem answers_given (state : Network.State) (windows : Windows device env sign timing state)
    (action : Action) (possible : Possible device sign state (.act action)) :
    AnswersGiven (Together timing) sign device state.app action :=
  fun entry comes request awaits =>
    brought_answered state windows entry request entry.tick.reply
      (possible entry comes request awaits)

theorem departures_carried (decodes : Decodes sign device) (state : Network.State)
    (windows : Windows device env sign timing state) (action : Action)
    (possible : Possible device sign state (.act action))
    (onTime : OnTime timing state (.act action)) :
    ∀ flight ∈ departures device state action, Carried device sign timing state.now flight := by
  intro flight member
  unfold departures at member
  cases comes : (client device).upcoming state.app action with
  | none => simp [comes] at member
  | some entry =>
      simp only [comes] at member
      split at member
      · cases member
      · next sending departs =>
          obtain rfl := List.mem_singleton.mp member
          obtain ⟨-, -, -, -, before, -⟩ :=
            (client device).upcoming_step state.app action entry comes
          obtain ⟨rfl, -⟩ := (client device).upcoming_owner state.app action entry comes
          refine ⟨Int.le_refl _, windows.due, ?_, ?_⟩
          · rintro token ⟨config, asks, hidden, stored⟩
            simp only at asks stored
            rw [asks] at departs
            obtain ⟨header, accessToken, same, lives⟩ :=
              attached_lives decodes entry.tick config sending
              entry.before (before ▸ windows.kept.paired) token hidden stored departs
            refine ⟨header, accessToken, same, ?_⟩
            have close := onTime.1
            simp only [tickOf, Time, skew] at *
            omega
          · intro promise refreshToken own
            exact refresh_departs state.app windows.kept _ entry comes
              (answers_given state windows _ possible entry comes) promise refreshToken own sending
                departs

theorem act_windows (decodes : Decodes sign device) (state : Network.State)
    (windows : Windows device env sign timing state) (action : Action)
    (possible : Possible device sign state (.act action))
    (onTime : OnTime timing state (.act action)) :
    Windows device env sign timing (step device env state (.act action)) := by
  have kept := kept_step state.app action windows.kept (answers_given state windows action possible)
  refine ⟨windows.upheld, kept, ?_, ?_, ?_, ?_⟩
  · intro persisted member
    rcases List.mem_cons.mp member with rfl | old
    · exact kept.paired
    · exact windows.saved persisted old
  · intro entry member
    simp only [step, Machine.step_entries] at member
    rcases List.mem_append.mp member with new | old
    · have comes : (client device).upcoming state.app action = some entry :=
        Option.mem_toList.mp new
      obtain ⟨-, -, -, -, before, -⟩ := (client device).upcoming_step state.app action entry comes
      obtain ⟨rfl, -⟩ := (client device).upcoming_owner state.app action entry comes
      rintro promise refreshToken ⟨⟨config, asks⟩, started⟩
      rw [asks] at started
      -- A refresh starts only when the access token is nearly over, long after the last one.
      have old := starts_old decodes entry.tick config entry.before
        (before ▸ windows.kept.paired) promise refreshToken started
      have close := onTime.2
      simp only [step, tickOf, Time, skew] at *
      omega
    · exact windows.due entry old
  · intro flight member
    rcases List.mem_append.mp member with old | new
    · exact windows.carried flight old
    · exact departures_carried decodes state windows action possible onTime flight new
  · intro arrival member
    obtain ⟨flight, request, sent, rest⟩ := windows.arrived arrival member
    refine ⟨flight, request, ?_, rest⟩
    exact (List.getElem?_append_left (List.getElem?_eq_some_iff.mp sent).1).trans sent

theorem requests_kept (server : AuthHandlers.Live.State) (action : AuthHandlers.Live.Action)
    (index : Nat) (request : ServerRequest)
    (found : (server.tasks[index]?).map Interleaving.Task.request = some request) :
    (((AuthHandlers.server env).step server action).tasks[index]?).map Interleaving.Task.request =
      some request := by
  obtain ⟨task, present, rfl⟩ := Option.map_eq_some_iff.mp found
  obtain ⟨later, after, same, -⟩ := Machine.step_task server action index task present
  exact Option.map_eq_some_iff.mpr ⟨later, after, same⟩

theorem land_windows (state : Network.State) (windows : Windows device env sign timing state)
    (flight : Nat) (tick : AuthStatements.Tick)
    (possible : Possible device sign state (.land flight tick))
    (onTime : OnTime timing state (.land flight tick)) :
    Windows device env sign timing (step device env state (.land flight tick)) := by
  obtain ⟨-, found, request, sent, payload, counted⟩ := possible
  obtain ⟨reached, shows, -⟩ := onTime
  have asked : (state.flights[flight]?).bind (fun found => authRequest found.sending.payload) =
    some request := by
    simp [sent, payload, authRequest]
  -- The request was sent within the last seconds, so the clock has moved but little.
  have fair : OnTerms timing.terms env state.server (.arrive request tick) := by
    refine ⟨?_, fun entry comes => by cases comes⟩
    intro other now same
    cases same
    have long := timing.brief.1
    refine ⟨state.now, ⟨Int.le_of_eq reached, ?_⟩, shows⟩
    simp only [reached, Time] at *
    omega
  have arrives : (AuthHandlers.server env).step state.server (.arrive request tick) =
      { state.server with
        tasks := state.server.tasks ++
          [(AuthHandlers.server env).launch tick state.server.trace.length request] } := by
    simp only [Machine.step]
    exact if_pos counted
  simp only [step, asked]
  refine ⟨upheld_step timing.lenient state.server _ windows.upheld fair, windows.kept,
    windows.saved, windows.due, windows.carried, ?_⟩
  intro arrival member
  rcases List.mem_cons.mp member with rfl | old
  · refine ⟨found, request, sent, payload, ?_, ?_⟩
    · rw [reached]
      exact (windows.carried found (List.mem_of_getElem? sent)).sent
    · rw [arrives]
      simp [Machine.launch]
  · obtain ⟨other, body, left, same, early, task⟩ := windows.arrived arrival old
    exact ⟨other, body, left, same, early, requests_kept state.server _ arrival.task body task⟩

theorem serve_windows (state : Network.State) (windows : Windows device env sign timing state)
    (index : Nat) (tick : AuthStatements.Tick) (onTime : OnTime timing state (.serve index tick)) :
    Windows device env sign timing (step device env state (.serve index tick)) := by
  obtain ⟨shows, during⟩ := onTime
  have fair : OnTerms timing.terms env state.server (.advance index tick) := by
    refine ⟨fun request other same => (by cases same), ?_⟩
    intro entry comes counted
    obtain ⟨own, task, present, same, -⟩ := (AuthHandlers.server env).upcoming_owner _ _ entry comes
    cases own
    exact ⟨state.now, during task present (same ▸ counted), shows⟩
  refine ⟨upheld_step timing.lenient state.server _ windows.upheld fair, windows.kept,
    windows.saved, windows.due, windows.carried, ?_⟩
  intro arrival member
  obtain ⟨other, body, left, same, early, task⟩ := windows.arrived arrival member
  exact ⟨other, body, left, same, early, requests_kept state.server _ arrival.task body task⟩

theorem windows_reached (decodes : Decodes sign device) (state : Network.State)
    (reached : Reached device env sign (OnTime timing) state) :
    Windows device env sign timing state := by
  induction reached with
  | opened db now unsigned =>
      refine ⟨upheld_start db fun row member => ?_, kept_start, ?_, ?_, ?_, ?_⟩
      · rw [unsigned] at member
        cases member
      all_goals exact fun _ member => absurd member List.not_mem_nil
  | moved state move reached possible onTime windows =>
      cases move with
      | wait later =>
          refine ⟨windows.upheld, windows.kept, windows.saved, ?_, ?_, windows.arrived⟩
          · exact fun entry member =>
              due_later state.now later entry (windows.due entry member) possible
          · exact fun flight member =>
              carried_later state.now later flight (windows.carried flight member) possible
      | act action => exact act_windows decodes state windows action possible onTime
      | land flight tick => exact land_windows state windows flight tick possible onTime
      | serve index tick => exact serve_windows state windows index tick onTime
      | relaunch =>
          exact ⟨windows.upheld, kept_start, windows.saved,
            fun _ member => absurd member List.not_mem_nil, windows.carried, windows.arrived⟩
      | rehydrate persisted =>
          exact ⟨windows.upheld, kept_rehydrated state.app persisted windows.kept
            (windows.saved persisted possible), windows.saved, windows.due, windows.carried,
              windows.arrived⟩

end Runs
theorem windows_fit (env : Env) (sign : Signer) (device : Device) (decodes : Decodes sign device)
    (timing : Timing) (state : Network.State)
    (reached : Reached device env sign (OnTime timing) state) :
    (∀ flight ∈ state.flights, ∀ token, Attaches flight token →
      state.now ≤ flight.sentAt + timeout →
      flight.sending.authorization = some ("Bearer " ++ token) ∧
        ∃ accessToken : AccessToken, token = sign accessToken ∧
          ¬ accessToken.exp ≤ state.now / 1000) ∧
    (∀ arrival ∈ state.arrivals, ∀ flight, state.flights[arrival.flight]? = some flight →
      ∀ entry ∈ flight.past, ∀ promise refreshToken, Starts device entry promise refreshToken →
        flight.entry.request = .refreshCall promise refreshToken →
        ∀ request response, AuthHandlers.Live.Replied state.server arrival.task request response →
          ¬ isLimited response) := by
  have windows := windows_reached decodes state reached
  constructor
  · intro flight member token attaches arrives
    obtain ⟨header, accessToken, same, lives⟩ :=
      (windows.carried flight member).attached token attaches
    refine ⟨header, accessToken, same, ?_⟩
    simp only [Time, timeout] at *
    omega
  · intro arrival member flight sent entry started promise refreshToken starts own request response
      replied limited
    obtain ⟨other, body, left, payload, early, task⟩ := windows.arrived arrival member
    obtain rfl : flight = other := Option.some.inj (sent.symm.trans left)
    have carried := windows.carried flight (List.mem_of_getElem? sent)
    have refreshes := (carried.refresh promise refreshToken own).symm.trans payload
    cases refreshes
    obtain ⟨found, present, rfl, done⟩ := id replied
    have same : found.request = .refreshTokens { refreshToken } := by simpa [present] using task
    have promised := upheld_replied state.server windows.upheld arrival.task _ response replied
    -- A refusal as too early tells when the token was used last; the phone has started later.
    obtain ⟨lastUsedAt, now, used, during, within⟩ := promised.2 _ same limited
    have due := carried.due entry started promise refreshToken starts
    have brief := timing.brief.2
    have answered := during.1
    simp only [Timing.Used, minutes, AuthHandlers.AUTH_CONFIG.REFRESH_COOLDOWN_MINUTES, Time] at *
    omega

/-! Somebody signs up, and calls a private route half an hour later: first with a clock that is
two minutes slow, then with the right one. -/
section Sample
open AuthHandlers (sampleEnv tickAt)
open BearerTokens (counting written written_decodes profile)

def acted (state : Network.State) (actions : List Action) : Network.State :=
  (actions.map Move.act).foldl (step counting sampleEnv) state

def served (state : Network.State) (index count : Nat) (tick : AuthStatements.Tick) :
    Network.State :=
  (List.replicate count (Move.serve index tick)).foldl (step counting sampleEnv) state

def silence (now : Time) : ClientApi.Tick := { now, reply := .failure none }

abbrev Fine (timing : Timing) : Network.State → Prop :=
    Reached counting sampleEnv written (OnTime timing)

theorem acted_fine (timing : Timing) (state : Network.State) (actions : List Action) (now : Time)
    (fine : Fine timing state) (silent : ∀ action ∈ actions, tickOf action = silence now)
    (close : state.now - skew ≤ now ∧ now ≤ state.now + skew) :
    Fine timing (acted state actions) := by
  induction actions generalizing state with
  | nil => exact fine
  | cons action rest ih =>
      have first := silent action List.mem_cons_self
      refine ih _ (.moved state (.act action) fine ?_ ?_)
        (fun other member => silent other (List.mem_cons_of_mem action member)) close
      · intro entry comes request awaits
        obtain ⟨rfl, -⟩ := (client counting).upcoming_owner state.app action entry comes
        rw [show entry.tick = _ from first]
        exact .unanswered none
      · show state.now - skew ≤ (tickOf action).now ∧ (tickOf action).now ≤ state.now + skew
        rw [show tickOf action = _ from first]
        exact close

theorem served_fine (timing : Timing) (state : Network.State) (index count : Nat)
    (tick : AuthStatements.Tick) (fine : Fine timing state) (shows : timing.Shows state.now tick)
    (during : timing.During index state.now) : Fine timing (served state index count tick) := by
  induction count generalizing state with
  | zero => exact fine
  | succ count ih =>
      exact ih _ (.moved state (.serve index tick) fine trivial ⟨shows, fun _ _ _ => during⟩)
        shows during

def halfHour : Timing where
  arrivedAt index := if index = 0 then 0 else 1700000
  drawnAt text := if text = "rotated" then 1700000 else 0
  service := 0
  brief := by decide

def joining : Network.State :=
  acted (opening Db.empty 0)
    [.arrive (.signUpWithOAuth signUp) (silence 0), .advance 0 (silence 0), .advance 0 (silence 0)]

theorem joining_fine : Fine halfHour joining :=
  acted_fine halfHour _ _ 0 (.opened Db.empty 0 rfl) (by simp [tickOf]) (by decide)

def welcomed : Network.State :=
  served (step counting sampleEnv joining (.land 0 (tickAt 0 "refresh"))) 0 6 (tickAt 0 "refresh")

theorem welcomed_fine : Fine halfHour welcomed := by
  refine served_fine halfHour _ 0 6 _
    (.moved joining (.land 0 (tickAt 0 "refresh")) joining_fine ?_ ?_)
    ⟨rfl, rfl, by decide⟩ ⟨by decide, by decide⟩
  · exact ⟨fun arrival member => absurd member List.not_mem_nil, _, _, rfl, rfl, rfl⟩
  · refine ⟨rfl, ⟨rfl, rfl, by decide⟩, fun found member => ?_⟩
    obtain rfl := Option.some.inj member
    decide

def admission : AuthHandlers.Response :=
  AuthHandlers.res.created (.tokens { sub := "refresh", iat := 0, exp := 1800 } "refresh")

theorem welcomed_replied :
    AuthHandlers.Live.Replied welcomed.server 0 (.oauthSignup signUp) admission :=
  ⟨_, rfl, rfl, rfl⟩

def signedIn : Network.State :=
  acted (step counting sampleEnv welcomed
    (.act (.advance 0 { now := 0, reply := replyOf written admission })))
    [.advance 0 (silence 0)]

theorem signed_in_fine : Fine halfHour signedIn := by
  refine acted_fine halfHour _ _ 0 (.moved welcomed (.act (.advance 0
    { now := 0, reply := replyOf written admission })) welcomed_fine ?_ ⟨by decide, by decide⟩)
    (by simp [tickOf]) (by decide)
  intro entry comes request awaits
  obtain rfl := Option.some.inj comes
  obtain rfl := Option.some.inj awaits
  exact .answered ⟨0, 0⟩ _ admission List.mem_cons_self rfl rfl welcomed_replied

def calling : Network.State :=
  acted (acted (step counting sampleEnv signedIn (.wait 1700000))
    [.arrive (.call profile) (silence 1580000), .advance 1 (silence 1580000)])
    [.arrive (.call profile) (silence 1700000), .advance 2 (silence 1700000),
      .advance 3 (silence 1700000)]

theorem calling_fine : Fine halfHour calling := by
  refine acted_fine halfHour _ _ 1700000 (acted_fine halfHour _ _ 1580000
    (.moved signedIn (.wait 1700000) signed_in_fine ?_ trivial) (by simp [tickOf]) (by decide))
    (by simp [tickOf]) (by decide)
  show signedIn.now ≤ 1700000
  decide

def renewed : Network.State :=
  served (step counting sampleEnv calling (.land 2 (tickAt 1700000 "rotated"))) 2 3
    (tickAt 1700000 "rotated")

theorem renewed_fine : Fine halfHour renewed := by
  refine served_fine halfHour _ 2 3 _
    (.moved calling (.land 2 (tickAt 1700000 "rotated")) calling_fine ?_ ?_)
    ⟨rfl, rfl, by decide⟩ ⟨by decide, by decide⟩
  · refine ⟨fun arrival member => ?_, _, _, rfl, rfl, rfl⟩
    obtain rfl := List.mem_singleton.mp member
    decide
  · refine ⟨rfl, ⟨rfl, rfl, by decide⟩, fun found member => ?_⟩
    obtain rfl := Option.some.inj member
    decide

theorem windows_fit_renewed :
    (∃ flight ∈ renewed.flights, Attaches flight "t" ∧ renewed.now ≤ flight.sentAt + timeout ∧
      flight.sending.authorization = some ("Bearer " ++ "t") ∧
        ∃ accessToken : AccessToken, "t" = written accessToken ∧
          ¬ accessToken.exp ≤ renewed.now / 1000) ∧
    ∃ arrival ∈ renewed.arrivals, ∃ flight entry response,
      renewed.flights[arrival.flight]? = some flight ∧
      entry ∈ flight.past ∧ Starts counting entry 0 "refresh" ∧
      AuthHandlers.Live.Replied renewed.server arrival.task
        (.refreshTokens { refreshToken := "refresh" }) response ∧ ¬ isLimited response := by
  have fit := windows_fit sampleEnv written counting written_decodes halfHour renewed renewed_fine
  constructor
  · have flies : ∃ flight, renewed.flights[1]? = some flight ∧ Attaches flight "t" ∧
        renewed.now ≤ flight.sentAt + timeout :=
      ⟨_, rfl, ⟨profile, rfl, rfl, rfl⟩, by decide⟩
    obtain ⟨flight, left, attaches, arrives⟩ := flies
    have member := List.mem_of_getElem? left
    exact ⟨flight, member, attaches, arrives, fit.1 flight member "t" attaches arrives⟩
  · have starts : ∃ flight entry response, renewed.flights[2]? = some flight ∧ entry ∈ flight.past ∧
        Starts counting entry 0 "refresh" ∧ flight.entry.request = .refreshCall 0 "refresh" ∧
        AuthHandlers.Live.Replied renewed.server 2 (.refreshTokens { refreshToken := "refresh" })
          response :=
      ⟨_, _, _, rfl, List.mem_cons_self, ⟨⟨_, rfl⟩, List.mem_cons_self⟩, rfl, _, rfl, rfl, rfl⟩
    obtain ⟨flight, entry, response, left, past, starts, own, replied⟩ := starts
    exact ⟨⟨2, 2⟩, List.mem_cons_self, flight, entry, response, left, past, starts, replied,
      fit.2 _ List.mem_cons_self flight left entry past 0 "refresh" starts own _ response replied⟩

end Sample
end TopInspect.ClockWindows
