import TopInspect.ClientSessions
import TopInspect.RefreshTurns

/-! Private requests that are sent with one access token and answered that it has expired. As
long as these answers come before the refresh they trigger is answered, there is one refresh,
and every request is retried once with the new token. -/
namespace TopInspect.SingleRefresh

open Resumption
open AuthHandlers (truthy truthy_some)
open ClientStore ClientApi ClientSegments RefreshTurns
open ClientLock (Waits ownPromise)
open ClientPromises (PromiseStep promise_step Promised promised_step settlementOf)
open ClientSessions (signsIn clears renews saved_kept)
open Interleaving hiding Entry State Action Task

section Setting
variable (device : Device) (token renewed : String)

def isCall : Request → Bool
  | .call _ => true
  | _ => false

def isRefresh : Request → Bool
  | .refreshCall _ _ => true
  | _ => false

def isFirst : Request → Bool
  | .call config => (privateUrl config.url).isSome && !config.retry
  | _ => false

def arriving : Action → Option Request
  | .arrive request _ => some request
  | .advance _ _ => none

def renewsWith : Reply → Bool
  | .success (some data) => data.accessToken = some renewed
  | _ => false

/-- The requests leave with the token and are answered that it has expired; a refresh is
answered with the new one, and a log-out with anything but an expired token. -/
def expected (entry : Entry) : Bool :=
  match entry.query with
  | .intercept config =>
      !isCall entry.request || config.retry ||
        (entry.before.store.accessToken = some token && !needsTokenRefresh device entry.tick.now
          token)
  | .receive _ =>
      match entry.request with
      | .call _ => isExpired entry.tick.reply
      | .refreshCall _ _ => renewsWith renewed entry.tick.reply
      | _ => !isExpired entry.tick.reply
  | _ => true

def Expiring (state : State) (action : Action) : Prop :=
  (∀ request ∈ arriving action, isFirst request = true) ∧
    ∀ entry ∈ (client device).upcoming state action, expected device token renewed entry = true

-- A url keeps what follows its mark, so a retry is private again only behind a second one.
def inTime (entry : Entry) : Bool :=
  match entry.query with
  | .intercept config => !config.retry || (privateUrl config.url).isNone
  | .receive _ => !isCall entry.request || .resolved ∉ entry.before.promises
  | _ => true

/-- No request is answered that its token has expired once a refresh has been answered, and no
url has two marks. -/
def InTime (state : State) (action : Action) : Prop :=
  ∀ entry ∈ (client device).upcoming state action, inTime entry = true

def isRetry : Query → Bool
  | .intercept config => config.retry
  | _ => false

def isSending : Query → Bool
  | .intercept _ => true
  | _ => false

/-- POST /auth/token/refresh, by the refreshes that are under way. -/
def refreshPosts (trace : List Entry) : Nat :=
  trace.countP fun entry => isRefresh entry.request && isSending entry.query

def retries (trace : List Entry) (index : Nat) : Nat :=
  trace.countP fun entry => decide (entry.task = index) && isRetry entry.query

def Meets (request : Request) : (query : Query) → Except ErrorResponse query.Answer → Prop
  | .intercept config, result => ∃ sending, result = .ok (.proceed sending) ∧
      sending.retry = config.retry ∧ (config.retry = true → sending = config)
  | .receive config, result =>
      (isCall request = true → config.retry = false →
        ∃ promise, result = .ok (.expired promise { config with retry := true })) ∧
      (isRefresh request = true → ∃ data, result = .ok (.resolved (some data)) ∧
        data.accessToken = some renewed) ∧
      (isCall request = false → ∀ promise sending, result ≠ .ok (.expired promise sending))
  | .resumeResponse _ config, result =>
      result = .ok { config with authorization := some (bearer (some renewed)) }
  | _, _ => True

end Setting

/-! The course of one request, and of a refresh. -/
section Courses
variable (device : Device) (renewed : String)

theorem follows_await (query : Query)
    (resume : Except ErrorResponse query.Answer → Tick →
      Residual Query Query.Answer ErrorResponse Tick Result)
    (events : List (Event Query Tick World))
    (last : Residual Query Query.Answer ErrorResponse Tick Result)
    (follows : Follows (perform device) (.await query resume) events last) :
    (events = [] ∧ last.awaiting = some query) ∨
      ∃ tick before rest, events = ⟨query, tick, before⟩ :: rest ∧
        Follows (perform device) (resume (perform device tick query before).1 tick) rest last := by
  cases events with
  | nil =>
      obtain rfl := (follows_nil _ _ _).mp follows
      exact Or.inl ⟨rfl, rfl⟩
  | cons event rest =>
      obtain ⟨asked, tick, before⟩ := event
      obtain ⟨rfl, onward⟩ := (follows_await_cons _ _ _ _ _ _).mp follows
      exact Or.inr ⟨tick, before, rest, rfl, onward⟩

structure CallCourse (events : List (Event Query Tick World))
    (last : Residual Query Query.Answer ErrorResponse Tick Result) : Prop where
  once : events.countP (fun event => isRetry event.query) ≤ 1
  carries : ∀ event ∈ events, ∀ config, event.query = .intercept config → config.retry = true →
    config.authorization = some ("Bearer " ++ renewed)
  first : ∀ config, last.awaiting = some (.receive config) → config.retry = false
  again : ∀ config, last.awaiting = some (.receiveAgain config) →
    ∃ event ∈ events, ∃ config, event.query = .receive config
  ended : last.awaiting = none → events.countP (fun event => isRetry event.query) = 1 ∧
    ∃ event ∈ events, ∃ config, event.query = .receive config

theorem call_course (config : Config) (plain : config.retry = false) (tick : Tick)
    (events : List (Event Query Tick World))
    (last : Residual Query Query.Answer ErrorResponse Tick Result)
    (follows : Follows (perform device) (program device (.call config) tick) events last)
    (met : ∀ event ∈ events, Meets renewed (.call config) event.query
      (perform device event.tick event.query event.before).1) :
    CallCourse renewed events last := by
  -- One await after the other; behind each the course may stand still.
  rcases follows_await device (.intercept config) _ events last follows with
    ⟨rfl, awaits⟩ | ⟨tick, world, rest, rfl, sent⟩
  · exact ⟨by simp, by simp, by simp [awaits], by simp [awaits], by simp [awaits]⟩
  obtain ⟨sending, outcome, mark, -⟩ := met _ List.mem_cons_self
  simp only [outcome] at sent
  have unmarked : sending.retry = false := mark.trans plain
  rcases follows_await device (.receive sending) _ rest last sent with
    ⟨rfl, awaits⟩ | ⟨tick, world, rest, rfl, answered⟩
  · refine ⟨by simp [isRetry, plain], by simp [plain], ?_, by simp [awaits], by simp [awaits]⟩
    intro other asked
    rw [awaits] at asked
    cases asked
    exact unmarked
  obtain ⟨promise, outcome⟩ := (met ⟨.receive sending, tick, world⟩ (by simp)).1 rfl unmarked
  simp only [outcome] at answered
  rcases follows_await device (.resumeResponse promise { sending with retry := true }) _ rest
    last answered
    with ⟨rfl, awaits⟩ | ⟨tick, world, rest, rfl, resumed⟩
  · exact ⟨by simp [isRetry, plain], by simp [plain], by simp [awaits], by simp [awaits],
      by simp [awaits]⟩
  have outcome :=
    met ⟨.resumeResponse promise { sending with retry := true }, tick, world⟩ (by simp)
  simp only [Meets] at outcome
  simp only [outcome] at resumed
  let marked : Config :=
    { sending with retry := true, authorization := some (bearer (some renewed)) }
  rcases follows_await device (.intercept marked) _ rest last resumed with
    ⟨rfl, awaits⟩ | ⟨tick, world, rest, rfl, resent⟩
  · exact ⟨by simp [isRetry, plain], by simp [plain], by simp [awaits], by simp [awaits],
      by simp [awaits]⟩
  obtain ⟨final, outcome, -, -⟩ := met ⟨.intercept marked, tick, world⟩ (by simp)
  simp only [outcome] at resent
  rcases follows_await device (.receiveAgain final) _ rest last resent with
    ⟨rfl, awaits⟩ | ⟨tick, world, rest, rfl, ended⟩
  · exact ⟨by simp [isRetry, plain, marked], by simp [plain, marked, bearer],
      by simp [awaits], by simp,
      by simp [awaits]⟩
  · have finished : last.awaiting = none ∧ rest = [] := by
      cases result : (perform device tick (.receiveAgain final) world).1 with
      | error error =>
          simp only [result] at ended
          obtain ⟨rfl, rfl⟩ := follows_settled _ _ _ _ rfl ended
          exact ⟨rfl, rfl⟩
      | ok data =>
          simp only [result] at ended
          obtain ⟨rfl, rfl⟩ := follows_settled _ _ _ _ rfl ended
          exact ⟨rfl, rfl⟩
    obtain ⟨done, rfl⟩ := finished
    exact ⟨by simp [isRetry, plain, marked], by simp [plain, marked, bearer],
      by simp [done], by simp,
      fun _ => ⟨by simp [isRetry, plain, marked], by simp⟩⟩

structure RefreshCourse (events : List (Event Query Tick World))
    (last : Residual Query Query.Answer ErrorResponse Tick Result) : Prop where
  once : events.countP (fun event => isSending event.query) ≤ 1
  finishes : ∀ promise outcome, last.awaiting = some (.finishRefresh promise outcome) →
    ∃ data, outcome = .ok (some data) ∧ data.accessToken = some renewed
  open_url : ∀ config, last.awaiting = some (.intercept config) → privateUrl config.url = none
  ended : last.awaiting = none → events.countP (fun event => isSending event.query) = 1

theorem refresh_course (promise : Nat) (refreshToken : String) (tick : Tick)
    (events : List (Event Query Tick World))
    (last : Residual Query Query.Answer ErrorResponse Tick Result)
    (follows : Follows (perform device) (program device (.refreshCall promise refreshToken) tick)
      events last)
    (met : ∀ event ∈ events, Meets renewed (.refreshCall promise refreshToken) event.query
      (perform device event.tick event.query event.before).1) :
    RefreshCourse renewed events last := by
  -- The request is sent, answered, and its tokens are stored, one after the other.
  rcases follows_await device (.intercept (refreshConfig refreshToken)) _ events last follows with
    ⟨rfl, awaits⟩ | ⟨tick, world, rest, rfl, sent⟩
  · refine ⟨by simp, by simp [awaits], ?_, by simp [awaits]⟩
    intro config asked
    rw [awaits] at asked
    cases asked
    change privateUrl "/auth/token/refresh" = none
    decide
  obtain ⟨sending, outcome, -, -⟩ := met _ List.mem_cons_self
  simp only [outcome] at sent
  rcases follows_await device (.receive sending) _ rest last sent with
    ⟨rfl, awaits⟩ | ⟨tick, world, rest, rfl, answered⟩
  · exact ⟨by simp [isSending], by simp [awaits], by simp [awaits], by simp [awaits]⟩
  obtain ⟨data, outcome, fresh⟩ := (met ⟨.receive sending, tick, world⟩ (by simp)).2.1 rfl
  simp only [outcome] at answered
  rcases follows_await device (.finishRefresh promise (.ok (some data))) _ rest last answered with
    ⟨rfl, awaits⟩ | ⟨tick, world, rest, rfl, ended⟩
  · refine ⟨by simp [isSending], ?_, by simp [awaits], by simp [awaits]⟩
    intro other result asked
    rw [awaits] at asked
    cases asked
    exact ⟨data, rfl, fresh⟩
  · obtain ⟨rfl, same⟩ := follows_settled _ _ _ _ rfl ended
    have done : last.awaiting = none := by
      rw [same]
      rfl
    exact ⟨by simp [isSending], by simp [done], by simp [done], by simp [isSending]⟩

theorem log_out_course (tick : Tick) (events : List (Event Query Tick World))
    (last : Residual Query Query.Answer ErrorResponse Tick Result)
    (follows : Follows (perform device) (program device .logOut tick) events last)
    (met : ∀ event ∈ events, Meets renewed .logOut event.query
      (perform device event.tick event.query event.before).1) (config : Config)
    (asked : last.awaiting = some (.intercept config)) : privateUrl config.url = none := by
  rcases follows_await device .startLogOut _ events last follows with
    ⟨rfl, awaits⟩ | ⟨tick, world, rest, rfl, begun⟩
  · simp [awaits] at asked
  have started : (perform device tick .startLogOut world).1 = .ok world.store.refreshToken := rfl
  simp only [started] at begun
  rcases follows_await device (.googleSignedOut world.store.refreshToken) _ rest last begun with
    ⟨rfl, awaits⟩ | ⟨tick, before, rest, rfl, sent⟩
  · simp [awaits] at asked
  cases token : truthy world.store.refreshToken with
  | none =>
      have absent : (perform device tick (.googleSignedOut world.store.refreshToken) before).1 =
        .ok none := by
        simp [perform, segmentOf, googleSignedOut, token]
      simp only [absent] at sent
      obtain ⟨rfl, rfl⟩ := follows_settled _ _ _ _ rfl sent
      cases asked
  | some refreshToken =>
      have posts : (perform device tick (.googleSignedOut world.store.refreshToken) before).1 =
          .ok (some (.post "/auth/logout" (.auth (.logout { refreshToken })))) := by
        simp [perform, segmentOf, googleSignedOut, token]
      generalize leaving : Config.post "/auth/logout" (.auth (.logout { refreshToken })) =
        request at posts
      simp only [posts] at sent
      rcases follows_await device (.intercept request) _ rest last sent with
        ⟨rfl, awaits⟩ | ⟨tick, world, rest, rfl, left⟩
      · rw [awaits] at asked
        cases asked
        subst leaving
        change privateUrl "/auth/logout" = none
        decide
      obtain ⟨sending, outcome, -, -⟩ := met ⟨.intercept request, tick, world⟩ (by simp)
      simp only [outcome] at left
      rcases follows_await device (.receive sending) _ rest last left with
        ⟨rfl, awaits⟩ | ⟨tick, world, rest, rfl, answered⟩
      · simp [awaits] at asked
      have plain := (met ⟨.receive sending, tick, world⟩ (by simp)).2.2 rfl
      -- However its request ends, the log-out clears the store and is over.
      have ends (resume : Except ErrorResponse Unit → Tick →
            Residual Query Query.Answer ErrorResponse Tick Result)
          (settles : ∀ result tick, (resume result tick).awaiting = none)
          (onward : Follows (perform device) (.await .clearAll resume) rest last) :
          last.awaiting ≠ some (.intercept config) := by
        rcases follows_await device .clearAll resume rest last onward with
          ⟨rfl, awaits⟩ | ⟨tick, world, rest, rfl, final⟩
        · simp [awaits]
        · obtain ⟨rfl, rfl⟩ := follows_settled _ _ _ _ (settles _ _) final
          simp [settles]
      cases result : (perform device tick (.receive sending) world).1 with
      | error error =>
          simp only [result] at answered
          exact absurd asked (ends _ (fun result _ => by cases result <;> rfl) answered)
      | ok received =>
          cases received with
          | resolved data =>
              simp only [result] at answered
              exact absurd asked (ends _ (fun result _ => by cases result <;> rfl) answered)
          | expired promise again => exact absurd result (plain promise again)

end Courses

section Runs
variable {device : Device} {token renewed : String}

theorem interceptors_keep (query : Query) (asks : ofInterceptors query = true) :
    signsIn query = false ∧ clears query = false ∧ renews query = false := by
  cases query with
  | intercept config => exact ⟨rfl, rfl, rfl⟩
  | resumeRequest promise config => exact ⟨rfl, rfl, rfl⟩
  | receive config => exact ⟨rfl, rfl, rfl⟩
  | resumeResponse promise config => exact ⟨rfl, rfl, rfl⟩
  | receiveAgain config => exact ⟨rfl, rfl, rfl⟩
  | _ => cases asks

theorem call_asks (state : State) (coherent : (client device).Coherent state) (index : Nat)
    (task : Task) (query : Query) (present : state.tasks[index]? = some task)
    (awaits : task.residual.awaiting = some query) (calls : isCall task.request = true) :
    ofInterceptors query = true := by
  obtain ⟨tick, follows⟩ := coherent.follows index task present
  cases request : task.request with
  | call config =>
      rw [request] at follows
      have avoids : Avoids (fun query => ofInterceptors query = false)
        (program device (.call config)) :=
        avoids_map _ (avoids_api config)
      have other := avoids_awaiting task.residual query
        (avoids_follows _ _ _ _ (avoids tick) follows).1 awaits
      simpa using other
  | _ =>
      rw [request] at calls
      cases calls

theorem intercept_plain (tick : Tick) (config : Config) (world : World)
    (rests : needsRefresh device tick world (.intercept config) = false) :
    ∃ sending, segmentOf device tick (.intercept config) world =
        { outcome := .ok (.proceed sending)
          world
          started := if (privateUrl config.url).isSome && (truthy world.store.accessToken).isNone
            then
            [.logOut] else [] } ∧
      sending.retry = config.retry ∧ (privateUrl config.url = none → sending = config) := by
  cases url : privateUrl config.url with
  | none => exact ⟨config, by simp [segmentOf, intercept, url], rfl, fun _ => rfl⟩
  | some rest =>
      cases stored : truthy world.store.accessToken with
      | none =>
          exact ⟨{ config with url := rest }, by simp [segmentOf, intercept, url, stored], rfl,
            by simp⟩
      | some accessToken =>
          have fresh : needsTokenRefresh device tick.now accessToken = false := by
            simpa [needsRefresh, url, stored] using rests
          exact ⟨{ config with url := rest, authorization := some (bearer (some accessToken)) },
            by simp [segmentOf, intercept, url, stored, fresh], rfl, by simp⟩

variable (device token renewed) in
structure Expired (store : AuthStore) (state : State) : Prop where
  coherent : (client device).Coherent state
  promised : Promised device state
  turned : Turned (fun store _ => store.accessToken = some renewed) state
  met : ∀ entry ∈ state.trace, Meets renewed entry.request entry.query
    (perform device entry.tick entry.query entry.before).1
  kinds : ∀ task ∈ state.tasks, isFirst task.request = true ∨ isRefresh task.request = true ∨
    task.request = .logOut
  calm : state.world.promises = [] → state.world.store.partialize = store.partialize ∧
    state.world.refreshPromise = none ∧ ∀ task ∈ state.tasks, isCall task.request = true
  single : state.world.promises ≠ [] →
    (∃ settlement, state.world.promises = [settlement] ∧ (∀ error, settlement ≠ .rejected error) ∧
      (settlement = .pending → state.world.refreshPromise = some 0)) ∧
    ∃ task ∈ state.tasks, ownPromise task.request = some 0
  asked : ∀ entry ∈ state.trace, isCall entry.request = true → ∀ config,
    entry.query = .receive config → state.world.promises ≠ []

section Answers
variable {store : AuthStore} {state : State} (expired : Expired device renewed store state)
include expired

theorem met_history (index : Nat) (task : Task) (present : state.tasks[index]? = some task) :
    ∀ event ∈ history index state.trace, Meets renewed task.request event.query
      (perform device event.tick event.query event.before).1 := by
  intro event member
  obtain ⟨entry, known, own, rfl⟩ := (mem_history index state.trace event).mp member
  obtain ⟨owner, found, same, -⟩ := expired.coherent.owner entry known
  obtain rfl : owner = task := Option.some.inj ((own ▸ found).symm.trans present)
  rw [same]
  exact expired.met entry known

theorem first_plain (task : Task) (member : task ∈ state.tasks) (config : Config)
    (request : task.request = .call config) :
    (privateUrl config.url).isSome = true ∧ config.retry = false := by
  have kind := expired.kinds task member
  rw [request] at kind
  rcases kind with first | other | other
  · simpa [isFirst] using first
  · cases other
  · cases other

theorem course_of_call (index : Nat) (task : Task) (present : state.tasks[index]? = some task)
    (calls : isCall task.request = true) :
    CallCourse renewed (history index state.trace) task.residual := by
  obtain ⟨first, follows⟩ := expired.coherent.follows index task present
  have met := met_history expired index task present
  cases request : task.request with
  | call config =>
      rw [request] at follows met
      have plain := (first_plain expired task (List.mem_of_getElem? present) config request).2
      exact call_course device renewed config plain first _ _ follows met
  | _ =>
      rw [request] at calls
      cases calls

theorem course_of_refresh (index : Nat) (task : Task) (present : state.tasks[index]? = some task)
    (refreshes : isRefresh task.request = true) :
    RefreshCourse renewed (history index state.trace) task.residual := by
  obtain ⟨first, follows⟩ := expired.coherent.follows index task present
  have met := met_history expired index task present
  cases request : task.request with
  | refreshCall promise refreshToken =>
      rw [request] at follows met
      exact refresh_course device renewed promise refreshToken first _ _ follows met
  | _ =>
      rw [request] at refreshes
      cases refreshes

variable (index : Nat) (tick : Tick) (task : Task) (query : Query)
  (resume : Except ErrorResponse query.Answer → Tick →
    Residual Query Query.Answer ErrorResponse Tick Result)
  (present : state.tasks[index]? = some task) (awaits : task.residual = .await query resume)
  (expects : expected device token renewed (ClientLock.entryOf state index tick task query) = true)
  (timely : inTime (ClientLock.entryOf state index tick task query) = true)
include present awaits expects timely

theorem intercept_rests (config : Config) (asks : query = .intercept config) :
    needsRefresh device tick state.world (.intercept config) = false := by
  subst asks
  have awaiting : task.residual.awaiting = some (.intercept config) := by rw [awaits]; rfl
  have hidden (url : privateUrl config.url = none) :
      needsRefresh device tick state.world (.intercept config) = false := by
    simp [needsRefresh, url]
  rcases expired.kinds task (List.mem_of_getElem? present) with first | refreshes | out
  · have calls : isCall task.request = true := by
      cases request : task.request with
      | call other => rfl
      | _ =>
          rw [request] at first
          cases first
    cases mark : config.retry with
    | true => exact hidden (by simpa [inTime, ClientLock.entryOf, mark] using timely)
    | false =>
        have both := expects
        simp only [expected, ClientLock.entryOf, calls, mark, Bool.not_true, Bool.false_or,
          Bool.and_eq_true] at both
        obtain ⟨holds, fresh⟩ := both
        have stored := of_decide_eq_true holds
        rw [Bool.not_eq_true'] at fresh
        by_cases filled : token = ""
        · simp [needsRefresh, stored, truthy, filled]
        · simp [needsRefresh, stored, truthy, filled, fresh]
  · exact hidden ((course_of_refresh expired index task present refreshes).open_url config awaiting)
  · obtain ⟨first, follows⟩ := expired.coherent.follows index task present
    have met := met_history expired index task present
    rw [out] at follows met
    exact hidden (log_out_course device renewed first _ _ follows met config awaiting)

omit resume awaits expects timely in
theorem resumed_renewed (promise : Nat) (waits : Waits task promise)
    (ready : state.world.promises[promise]? ≠ some .pending) :
    state.world.promises = [.resolved] ∧ promise = 0 ∧
    state.world.store.accessToken = some renewed := by
  have member := List.mem_of_getElem? present
  have inside := expired.turned.inside task member promise waits
  have filled : state.world.promises ≠ [] := by
    intro empty
    simp [empty] at inside
  obtain ⟨⟨settlement, only, sound, -⟩, -⟩ := expired.single filled
  have first : promise = 0 := by
    rw [only, List.length_singleton] at inside
    omega
  subst first
  cases settlement with
  | pending => exact absurd (by rw [only]; rfl) ready
  | rejected error => exact absurd rfl (sound error)
  | resolved =>
      obtain ⟨last, -, fresh⟩ := expired.turned.renewed task member 0 waits (by rw [only]; rfl)
      exact ⟨only, rfl, fresh⟩

theorem meets_answered (ready : ClientApi.ready query state.world = true) :
    Meets renewed task.request query (perform device tick query state.world).1 := by
  cases query with
  | intercept config =>
      have rests := intercept_rests expired index tick task _ resume present awaits expects timely
        config rfl
      obtain ⟨sending, shape, mark, plain⟩ := intercept_plain tick config state.world rests
      refine ⟨sending, by simp [perform, shape], mark, fun retry => plain ?_⟩
      simpa [inTime, ClientLock.entryOf, retry] using timely
  | receive config =>
      refine ⟨fun calls unmarked => ?_, fun refreshes => ?_, fun other promise sending => ?_⟩
      · have answered : isExpired tick.reply = true := by
          cases request : task.request with
          | call other => simpa [expected, ClientLock.entryOf, request] using expects
          | _ =>
              rw [request] at calls
              cases calls
        obtain ⟨promise, taken⟩ := lock_promise state.world
        refine ⟨promise, ?_⟩
        simp [perform, segmentOf, receive, answered, unmarked, Segment.map, taken, Except.map]
      · have answered : renewsWith renewed tick.reply = true := by
          cases request : task.request with
          | refreshCall promise refreshToken =>
              simpa [expected, ClientLock.entryOf, request] using expects
          | _ =>
              rw [request] at refreshes
              cases refreshes
        cases reply : tick.reply with
        | success data =>
            cases data with
            | none =>
                rw [reply] at answered
                cases answered
            | some data =>
                rw [reply] at answered
                refine ⟨data, ?_, of_decide_eq_true answered⟩
                simp [perform, segmentOf, receive, reply, isExpired, receiveAgain, Segment.map,
                  Except.map]
        | response status body =>
            rw [reply] at answered
            cases answered
        | failure code =>
            rw [reply] at answered
            cases answered
      -- Requests that are no calls are never answered that the token has expired.
      · rcases receive_lock device tick config state.world with ⟨needs, -⟩ | ⟨-, shape⟩
        · have late : isExpired tick.reply = true := by
            simp only [needsRefresh, Bool.and_eq_true] at needs
            exact needs.1
          cases request : task.request with
          | call own =>
              rw [request] at other
              cases other
          | refreshCall promise refreshToken =>
              have answered : renewsWith renewed tick.reply = true := by
                simpa [expected, ClientLock.entryOf, request] using expects
              cases reply : tick.reply <;> simp [reply, renewsWith, isExpired] at answered late
          | _ =>
              simp [expected, ClientLock.entryOf, request, late] at expects
        · simp only [perform, shape, Segment.map]
          cases (receiveAgain tick.reply state.world).outcome <;> simp [Except.map]
  | resumeResponse promise config =>
      have waits : Waits task promise := by simp [Waits, awaits, Residual.awaiting, refreshAwaited]
      have settles : state.world.promises[promise]? ≠ some .pending := by
        simpa [ClientApi.ready] using ready
      obtain ⟨resolved, rfl, stored⟩ :=
        resumed_renewed expired index task present promise waits settles
      simp [Meets, perform, segmentOf, ClientApi.resume, resolved, stored]
  | _ => trivial

/-- Only the first answer that a token has expired finds the lock free. -/
theorem handed_first (ready : ClientApi.ready query state.world = true) (follower : Query)
    (leads : handover query (perform device tick query state.world).1 = some follower) :
    isCall task.request = true ∧
    (state.world.refreshPromise = none → state.world.promises = []) := by
  have meets := meets_answered expired index tick task query resume present awaits expects
    timely ready
  cases query with
  | intercept config =>
      obtain ⟨sending, outcome, -, -⟩ := meets
      rw [outcome] at leads
      cases leads
  | receive config =>
      cases calls : isCall task.request with
      | false =>
          cases outcome : (perform device tick (.receive config) state.world).1 with
          | error error =>
              rw [outcome] at leads
              cases leads
          | ok received =>
              rw [outcome] at leads
              cases received with
              | resolved data => cases leads
              | expired promise sending => exact absurd outcome (meets.2.2 calls promise sending)
      | true =>
          refine ⟨rfl, fun free => ?_⟩
          -- A refresh that was there before is still under way here, and then the lock is held.
          by_contra filled
          obtain ⟨⟨settlement, only, sound, held⟩, -⟩ := expired.single filled
          have early : Settlement.resolved ∉ state.world.promises := by
            have soon := timely
            simp only [inTime, ClientLock.entryOf, calls, Bool.not_true, Bool.false_or] at soon
            exact of_decide_eq_true soon
          cases settlement with
          | pending => simp [held rfl] at free
          | rejected error => exact sound error rfl
          | resolved => simp [only] at early
  | _ => cases leads

inductive Course (device : Device) (renewed : String) (tick : Tick) (query : Query)
    (world : World) : Prop where
  | kept (same : (perform device tick query world).2.promises = world.promises)
      (starts : ∀ request ∈ spawned device tick query world, request = .logOut)
  | begun (refreshToken : String) (none : world.promises = [])
      (grown : (perform device tick query world).2.promises = [.pending])
      (locked : (perform device tick query world).2.refreshPromise = some 0)
      (starts : spawned device tick query world = [.refreshCall 0 refreshToken])
  | lapsed (waited : world.promises = [.pending])
      (resolved : (perform device tick query world).2.promises = [.resolved])
      (starts : spawned device tick query world = [])

theorem course_answered (refreshable : truthy store.refreshToken ≠ none)
    (ready : ClientApi.ready query state.world = true) :
    Course device renewed tick query state.world := by
  have belongs :=
    task_belongs device state expired.coherent index task query present (by rw [awaits]; rfl)
  have kind := expired.kinds task (List.mem_of_getElem? present)
  -- A segment that adds a promise takes the lock, which is free for the first refresh only.
  have locks (settlement : Settlement) (other : ClientPromises.finished query = none)
      (grown : (perform device tick query state.world).2.promises = state.world.promises ++
        [settlement]) :
      state.world.promises = [] ∧
        (perform device tick query state.world).2.refreshPromise = some 0 := by
    have longer (same : (perform device tick query state.world).2.promises = state.world.promises) :
      False := by
      have lengths := congrArg List.length (same.symm.trans grown)
      simp at lengths
    cases lock_step device tick query state.world with
    | joined promise follower held leads waits idle same => exact (longer (by rw [same])).elim
    | took follower begun free leads waits idle locked =>
        have first := (handed_first expired index tick task query resume present awaits expects
          timely ready follower leads).2 free
        exact ⟨first, by rw [locked, first]; rfl⟩
    | resumed promise waits leads freed same => exact (longer same).elim
    | failed promise error waits rejected leads same => exact (longer (by rw [same])).elim
    | settled promise outcome result finishes =>
        rw [finishes] at other
        cases other
    | called result calls =>
        rw [calls] at belongs
        rw [show task.request = .refreshTokens from belongs] at kind
        rcases kind with first | refreshes | out
        · cases first
        · cases refreshes
        · cases out
    | apart leads idle kept same => exact (longer same).elim
  cases promise_step device tick query state.world with
  | kept same starts => exact .kept same starts
  | started refreshToken stored grown starts other =>
      obtain ⟨first, locked⟩ := locks .pending other grown
      rw [first] at grown starts
      exact .begun refreshToken first grown locked starts
  | refused absent grown starts other =>
      obtain ⟨first, -⟩ := locks _ other grown
      have same := (expired.calm first).1
      have tokens : state.world.store.refreshToken = store.refreshToken :=
        congrArg AuthStore.Persisted.refreshToken same
      exact absurd (tokens ▸ absent) refreshable
  | settled promise outcome finishes settles starts =>
      subst finishes
      obtain ⟨refreshToken, request⟩ := belongs
      have refreshes : isRefresh task.request = true := by rw [request]; rfl
      obtain ⟨data, rfl, -⟩ :=
        (course_of_refresh expired index task present refreshes).finishes promise
        outcome (by rw [awaits]; rfl)
      have waited := (ClientPromises.finishes_own state expired.promised index task _ resume
        expired.coherent present awaits promise rfl).2
      have inside := (List.getElem?_eq_some_iff.mp waited).1
      obtain ⟨⟨settlement, only, -, -⟩, -⟩ :=
        expired.single (by intro empty; simp [empty] at inside)
      rw [only, List.length_singleton] at inside
      -- There is only one promise, so this is the refresh that ends.
      obtain rfl : promise = 0 := by omega
      rw [only] at waited settles
      obtain rfl : settlement = .pending := Option.some.inj waited
      exact .lapsed only settles starts

theorem asked_answered (ready : ClientApi.ready query state.world = true)
    (calls : isCall task.request = true) (config : Config) (asks : query = .receive config) :
    (perform device tick query state.world).2.promises ≠ [] := by
  have meets := meets_answered expired index tick task query resume present awaits expects
    timely ready
  subst asks
  have unmarked :=
    (course_of_call expired index task present calls).first config (by rw [awaits]; rfl)
  obtain ⟨promise, outcome⟩ := meets.1 calls unmarked
  have leads : handover (.receive config) (perform device tick (.receive config) state.world).1 =
      some (.resumeResponse promise { config with retry := true }) := by
    rw [outcome]
    rfl
  intro empty
  rcases handed_held state tick (.receive config) _ promise leads rfl with
    ⟨held, same⟩ | ⟨-, settlement, grown, -⟩
  · have inside := (expired.turned.held promise held).1
    rw [same] at empty
    simp [empty] at inside
  · simp [grown] at empty

theorem calm_spawned (stored : truthy store.accessToken ≠ none)
    (ready : ClientApi.ready query state.world = true)
    (after : (perform device tick query state.world).2.promises = [])
    (before : state.world.promises = []) : spawned device tick query state.world = [] := by
  obtain ⟨saved, free, all⟩ := expired.calm before
  have calls := all task (List.mem_of_getElem? present)
  have asks := call_asks state expired.coherent index task query present (by rw [awaits]; rfl) calls
  cases query with
  | intercept config =>
      have rests := intercept_rests expired index tick task _ resume present awaits expects timely
        config rfl
      obtain ⟨sending, shape, -, -⟩ := intercept_plain tick config state.world rests
      have same : state.world.store.accessToken = store.accessToken :=
        congrArg AuthStore.Persisted.accessToken saved
      have filled : (truthy state.world.store.accessToken).isNone = false := by
        rw [same]
        simpa [Option.isNone_eq_false_iff, Option.isSome_iff_ne_none] using stored
      simp [spawned, shape, filled]
  | receive config =>
      exact absurd after
        (asked_answered expired index tick task _ resume present awaits expects timely
        ready calls config rfl)
  | resumeRequest promise config =>
      rcases resume_cases promise config state.world with ⟨error, -, shape⟩ | ⟨-, sending, shape⟩
      · simp [spawned, segmentOf, shape]
      · simp [spawned, segmentOf, shape]
  | resumeResponse promise config =>
      rcases resume_cases promise config state.world with ⟨error, -, shape⟩ | ⟨-, sending, shape⟩
      · simp [spawned, segmentOf, shape]
      · simp [spawned, segmentOf, shape]
  | receiveAgain config =>
      obtain ⟨event, member, received, asked⟩ :=
        (course_of_call expired index task present calls).again config (by rw [awaits]; rfl)
      obtain ⟨entry, known, own, rfl⟩ := (mem_history index state.trace event).mp member
      obtain ⟨owner, found, request, -⟩ := expired.coherent.owner entry known
      obtain rfl : owner = task := Option.some.inj ((own ▸ found).symm.trans present)
      exact absurd before
        (expired.asked entry known (by rw [← request]; exact calls) received asked)
  | _ => cases asks

theorem calm_answered (stored : truthy store.accessToken ≠ none)
    (refreshable : truthy store.refreshToken ≠ none)
    (ready : ClientApi.ready query state.world = true)
    (after : (perform device tick query state.world).2.promises = []) :
    (perform device tick query state.world).2.store.partialize = store.partialize ∧
      (perform device tick query state.world).2.refreshPromise = none ∧
      ∀ other ∈ ((client device).answer state index task query resume tick).tasks,
        isCall other.request = true := by
  cases course_answered expired index tick task query resume present awaits expects timely
    refreshable ready with
  | begun refreshToken none grown => simp [grown] at after
  | lapsed waited resolved => simp [resolved] at after
  | kept same starts =>
      -- Without a promise afterwards there was none before, and only calls have been under way.
      have before : state.world.promises = [] := same.symm.trans after
      obtain ⟨saved, free, all⟩ := expired.calm before
      have calls := all task (List.mem_of_getElem? present)
      have asks := call_asks state expired.coherent index task query present
        (by rw [awaits]; rfl) calls
      obtain ⟨plain, keeps, old⟩ := interceptors_keep query asks
      refine ⟨(saved_kept device tick query state.world plain keeps old).trans saved, ?_, ?_⟩
      · cases lock_step device tick query state.world with
        | joined promise follower held => simp [held] at free
        | took follower settlement unheld leads waits idle locked grown => simp [grown] at after
        | resumed promise waits leads freed => exact freed
        | failed promise error waits rejected leads kept => rw [kept, free]
        | settled promise outcome settlement finishes kept => rw [kept, free]
        | called settlement called kept => rw [kept, free]
        | apart leads idle kept => rw [kept, free]
      · intro other member
        have requests := (client device).answer_requests state index task query resume tick present
        have none := calm_spawned expired index tick task query resume present awaits expects timely
          stored ready after before
        rw [show (client device).spawned tick query state.world = [] from none,
          List.append_nil] at requests
        obtain ⟨earlier, known, same⟩ := List.mem_map.mp (requests ▸ List.mem_map_of_mem member)
        rw [← same]
        exact all earlier known

theorem single_answered (refreshable : truthy store.refreshToken ≠ none)
    (ready : ClientApi.ready query state.world = true) :
    (perform device tick query state.world).2.promises ≠ [] →
    (∃ settlement, (perform device tick query state.world).2.promises = [settlement] ∧
      (∀ error, settlement ≠ .rejected error) ∧
      (settlement = .pending → (perform device tick query state.world).2.refreshPromise = some 0)) ∧
    ∃ other ∈ ((client device).answer state index task query resume tick).tasks,
      ownPromise other.request = some 0 := by
  intro after
  have requests := (client device).answer_requests state index task query resume tick present
  have remains (request : Request)
      (known : request ∈ state.tasks.map (·.request) ++ spawned device tick query state.world)
      (own : ownPromise request = some 0) :
      ∃ other ∈ ((client device).answer state index task query resume tick).tasks,
        ownPromise other.request = some 0 := by
    obtain ⟨other, member, rfl⟩ := List.mem_map.mp (requests.symm ▸ known)
    exact ⟨other, member, own⟩
  cases course_answered expired index tick task query resume present awaits expects timely
    refreshable ready with
  | begun refreshToken none grown locked starts =>
      exact ⟨⟨.pending, grown, nofun, fun _ => locked⟩,
        remains (.refreshCall 0 refreshToken) (by rw [starts]; simp) rfl⟩
  | lapsed waited resolved =>
      obtain ⟨-, owner, member, own⟩ := expired.single (by rw [waited]; nofun)
      exact ⟨⟨.resolved, resolved, nofun, nofun⟩,
        remains owner.request (List.mem_append_left _ (List.mem_map_of_mem member)) own⟩
  | kept same starts =>
      rw [same] at after
      obtain ⟨⟨settlement, only, sound, held⟩, owner, member, own⟩ := expired.single after
      refine ⟨⟨settlement, same.trans only, sound, fun pending => ?_⟩,
        remains owner.request (List.mem_append_left _ (List.mem_map_of_mem member)) own⟩
      have locked := held pending
      cases lock_step device tick query state.world with
      | joined promise follower taken leads waits idle kept => rw [kept, locked]
      | took follower result free => simp [locked] at free
      -- Nobody resumes while the one refresh is pending.
      | resumed promise waits leads freed =>
          have stands : Waits task promise := by simp [Waits, awaits, Residual.awaiting, waits]
          have settles : state.world.promises[promise]? ≠ some .pending := by
            cases query with
            | resumeRequest other config =>
                cases waits
                simpa [ClientApi.ready] using ready
            | resumeResponse other config =>
                cases waits
                simpa [ClientApi.ready] using ready
            | _ => cases waits
          obtain ⟨resolved, -, -⟩ :=
            resumed_renewed expired index task present promise stands settles
          rw [only, pending] at resolved
          cases resolved
      | failed promise error waits rejected leads kept => rw [kept, locked]
      | settled promise outcome result finishes kept => rw [kept, locked]
      | called result calls kept => rw [kept, locked]
      | apart leads idle kept => rw [kept, locked]

end Answers

theorem first_call (request : Request) (first : isFirst request = true) :
    isCall request = true := by
  cases request with
  | call config => rfl
  | _ => cases first

theorem fills_answered (store : AuthStore) (state : State) (action : Action)
    (expired : Expired device renewed store state) :
    ∀ entry ∈ (client device).upcoming state action, ∀ promise data,
      entry.query = .finishRefresh promise (.ok (some data)) →
      (perform device entry.tick entry.query state.world).2.store.accessToken = some renewed := by
  intro entry comes promise data finishes
  obtain ⟨task, resume, present, awaits, -, -⟩ :=
    (client device).upcoming_step state action entry comes
  have awaiting : task.residual.awaiting = some (.finishRefresh promise (.ok (some data))) := by
    rw [awaits, ← finishes]
    rfl
  obtain ⟨refreshToken, request⟩ :=
    task_belongs device state expired.coherent entry.task task _ present awaiting
  have refreshes : isRefresh task.request = true := by rw [request]; rfl
  obtain ⟨answer, same, fresh⟩ :=
    (course_of_refresh expired entry.task task present refreshes).finishes promise _ awaiting
  cases same
  rw [finishes]
  exact fresh

theorem expired_step (store : AuthStore) (stored : truthy store.accessToken ≠ none)
    (refreshable : truthy store.refreshToken ≠ none) (state : State) (action : Action)
    (expired : Expired device renewed store state)
    (expiring : Expiring device token renewed state action) (timely : InTime device state action)
    (turns : InTurn device state action) :
    Expired device renewed store ((client device).step state action) := by
  have coherent := Machine.coherent_step state action expired.coherent
  have promised := promised_step state action expired.coherent expired.promised
  have turned := turned_step state action expired.coherent expired.promised expired.turned
    (fills_answered store state action expired) turns
  have transition := (client device).step_transition state action
  generalize (client device).step state action = after at coherent promised turned transition ⊢
  cases transition with
  | idle => exact expired
  | arrived request tick external =>
      have first : isFirst request = true := expiring.1 request rfl
      have calls := first_call request first
      refine ⟨coherent, promised, turned, expired.met, ?_, fun none => ?_, fun filled => ?_,
        expired.asked⟩
      · intro task member
        rcases List.mem_append.mp member with old | new
        · exact expired.kinds task old
        · rw [List.mem_singleton.mp new]
          exact Or.inl first
      · obtain ⟨saved, free, all⟩ := expired.calm none
        refine ⟨saved, free, fun task member => ?_⟩
        rcases List.mem_append.mp member with old | new
        · exact all task old
        · rw [List.mem_singleton.mp new]
          exact calls
      · obtain ⟨only, owner, member, own⟩ := expired.single filled
        exact ⟨only, owner, List.mem_append_left _ member, own⟩
  | answered index tick task query resume present awaits ready =>
      have comes := Machine.upcoming_answered (client device) state index tick task query
        resume present awaits ready
      have expects := expiring.2 _ comes
      have soon := timely _ comes
      have meets := meets_answered expired index tick task query resume present awaits expects
        soon ready
      refine ⟨coherent, promised, turned, ?_, ?_,
        calm_answered expired index tick task query resume present awaits expects soon stored
          refreshable ready,
        single_answered expired index tick task query resume present awaits expects soon refreshable
          ready, ?_⟩
      · intro entry member
        rcases List.mem_cons.mp member with rfl | old
        · exact meets
        · exact expired.met entry old
      · intro other member
        have requests := (client device).answer_requests state index task query resume tick present
        have known := requests ▸ List.mem_map_of_mem member
        rcases List.mem_append.mp known with old | new
        · obtain ⟨earlier, inside, same⟩ := List.mem_map.mp old
          rw [← same]
          exact expired.kinds earlier inside
        · rcases spawned_cases device tick query state.world other.request new with
            out | ⟨-, -, refreshToken, request, -⟩
          · exact Or.inr (Or.inr out)
          · exact Or.inr (Or.inl (by rw [request]; rfl))
      · intro entry member calls config asks
        rcases List.mem_cons.mp member with rfl | old
        · exact asked_answered expired index tick task query resume present awaits expects soon
            ready calls config asks
        · intro empty
          have grows := @ClientLock.grows_promises device tick query state.world
          have filled := List.length_pos_iff.mpr (expired.asked entry old calls config asks)
          have none : (perform device tick query state.world).2.promises.length = 0 :=
            List.length_eq_zero_iff.mpr empty
          omega

theorem expired_start (store : AuthStore) :
    Expired device renewed store (start (opened store)) := by
  refine ⟨(client device).coherent_start _, ClientPromises.promised_start device store, ?_, ?_,
    ?_, ?_, ?_, ?_⟩
  · constructor
    all_goals simp [start, opened]
  all_goals simp [start, opened]

theorem expired_run (store : AuthStore) (stored : truthy store.accessToken ≠ none)
    (refreshable : truthy store.refreshToken ≠ none) (schedule : List Action)
    (guarded : (client device).Guarded
      (fun state action => Expiring device token renewed state action ∧
        InTime device state action ∧ InTurn device state action) (start (opened store)) schedule) :
    Expired device renewed store ((client device).run (start (opened store)) schedule) :=
  (client device).guarded_run _ (Expired device renewed store)
    (fun state action expired given =>
      expired_step store stored refreshable state action expired given.1 given.2.1 given.2.2)
    _ schedule (expired_start store) guarded

def Ended (state : State) : Prop := ∀ task ∈ state.tasks, task.residual.awaiting = none

variable (device renewed) in
/-- One refresh at most, and one retry of each request, with the new token; when all is over,
exactly one of each. -/
structure OneRefresh (state : State) : Prop where
  posts : refreshPosts state.trace ≤ 1
  once : ∀ (index : Nat) (task : Task), state.tasks[index]? = some task →
    isCall task.request = true →
    retries state.trace index ≤ 1
  carries : ∀ entry ∈ state.trace, isCall entry.request = true → ∀ config,
    entry.query = .intercept config → config.retry = true → ∃ sending,
    (perform device entry.tick (.intercept config) entry.before).1 = .ok (.proceed sending) ∧
      sending.authorization = some ("Bearer " ++ renewed)
  ended : Ended state → ∀ (index : Nat) (task : Task), state.tasks[index]? = some task →
    isCall task.request = true → refreshPosts state.trace = 1 ∧ retries state.trace index = 1

section Counts
variable {store : AuthStore} {state : State} (expired : Expired device renewed store state)
include expired

theorem refresh_unique (first second : Nat) (one other : Task)
    (left : state.tasks[first]? = some one) (right : state.tasks[second]? = some other)
    (refreshes : isRefresh one.request = true) (again : isRefresh other.request = true) :
    first = second := by
  have zero (task : Task) (member : task ∈ state.tasks) (refresh : isRefresh task.request = true) :
      ownPromise task.request = some 0 := by
    cases request : task.request with
    | refreshCall promise refreshToken =>
        have inside := expired.promised.fresh task member promise (by rw [request]; rfl)
        have filled : state.world.promises ≠ [] := by
          intro empty
          simp [empty] at inside
        obtain ⟨⟨settlement, only, -, -⟩, -⟩ := expired.single filled
        rw [only, List.length_singleton] at inside
        obtain rfl : promise = 0 := by omega
        rfl
    | _ =>
        rw [request] at refresh
        cases refresh
  exact ClientPromises.owner_unique state expired.promised first second one other left right 0
    (zero one (List.mem_of_getElem? left) refreshes) (zero other (List.mem_of_getElem? right) again)

theorem posts_history (index : Nat) (task : Task) (present : state.tasks[index]? = some task)
    (refreshes : isRefresh task.request = true) :
    refreshPosts state.trace = (history index state.trace).countP fun event =>
    isSending event.query := by
  rw [count_history isSending, refreshPosts]
  apply List.countP_congr
  intro entry known
  obtain ⟨owner, found, same, -⟩ := expired.coherent.owner entry known
  have belongs : isRefresh entry.request = true ↔ entry.task = index := by
    rw [← same]
    constructor
    · intro refresh
      exact refresh_unique expired entry.task index owner task found present refresh refreshes
    · intro own
      rw [own] at found
      obtain rfl : task = owner := Option.some.inj (present.symm.trans found)
      exact refreshes
  simp only [Bool.and_eq_true, decide_eq_true_eq, belongs]

theorem posts_bounded : refreshPosts state.trace ≤ 1 := by
  by_cases any : ∃ entry ∈ state.trace, isRefresh entry.request = true
  · obtain ⟨entry, known, refresh⟩ := any
    obtain ⟨owner, found, same, -⟩ := expired.coherent.owner entry known
    have refreshes : isRefresh owner.request = true := by rw [same]; exact refresh
    rw [posts_history expired entry.task owner found refreshes]
    exact (course_of_refresh expired entry.task owner found refreshes).once
  · have nothing : refreshPosts state.trace = 0 := by
      rw [refreshPosts, List.countP_eq_zero]
      intro entry known both
      exact any ⟨entry, known, ((Bool.and_eq_true _ _).mp both).1⟩
    omega

theorem retries_carry (entry : Entry) (known : entry ∈ state.trace)
    (calls : isCall entry.request = true) (config : Config) (asks : entry.query = .intercept config)
    (again : config.retry = true) :
    ∃ sending, (perform device entry.tick (.intercept config) entry.before).1 =
      .ok (.proceed sending) ∧
      sending.authorization = some ("Bearer " ++ renewed) := by
  obtain ⟨owner, found, same, -⟩ := expired.coherent.owner entry known
  have course := course_of_call expired entry.task owner found (by rw [same]; exact calls)
  have header := course.carries entry.toEvent
    ((mem_history entry.task state.trace entry.toEvent).mpr ⟨entry, known, rfl, rfl⟩) config
      asks again
  have meets := expired.met entry known
  rw [asks] at meets
  obtain ⟨sending, outcome, -, plain⟩ := meets
  exact ⟨sending, outcome, by rw [plain again]; exact header⟩

theorem expired_one : OneRefresh device renewed state where
  posts := posts_bounded expired
  once index task present calls := by
    rw [retries, ← count_history isRetry]
    exact (course_of_call expired index task present calls).once
  carries := retries_carry expired
  ended others index task present calls := by
    obtain ⟨exact_one, event, member, config, asks⟩ := (course_of_call expired index task present
      calls).ended (others task (List.mem_of_getElem? present))
    obtain ⟨entry, known, own, rfl⟩ := (mem_history index state.trace event).mp member
    obtain ⟨owner, found, same, -⟩ := expired.coherent.owner entry known
    obtain rfl : owner = task := Option.some.inj ((own ▸ found).symm.trans present)
    have filled := expired.asked entry known (by rw [← same]; exact calls) config asks
    obtain ⟨-, refresher, inside, promise⟩ := expired.single filled
    obtain ⟨place, within, rfl⟩ := List.getElem_of_mem inside
    have lookup := List.getElem?_eq_getElem within
    obtain ⟨refreshToken, request⟩ := ClientPromises.own_refresh _ 0 promise
    have refreshes : isRefresh state.tasks[place].request = true := by rw [request]; rfl
    refine ⟨?_, ?_⟩
    · rw [posts_history expired place _ lookup refreshes]
      exact (course_of_refresh expired place _ lookup refreshes).ended (others _ inside)
    · rw [retries, ← count_history isRetry]
      exact exact_one

end Counts

/-- With every 401 in before the refresh is answered there is one refresh, and one retry of each
request with the new token. -/
theorem one_refresh (device : Device) (token renewed : String) (store : AuthStore)
    (stored : truthy store.accessToken ≠ none) (refreshable : truthy store.refreshToken ≠ none)
    (schedule : List Action)
    (guarded : (client device).Guarded
      (fun state action => Expiring device token renewed state action ∧
        InTime device state action ∧ InTurn device state action) (start (opened store)) schedule) :
    OneRefresh device renewed ((client device).run (start (opened store)) schedule) :=
  expired_one (expired_run store stored refreshable schedule guarded)

end Runs

/-! Two requests with one token. -/
section Samples

instance (device : Device) (token renewed : String) (state : State) (action : Action) :
    Decidable (Expiring device token renewed state action) :=
  inferInstanceAs (Decidable ((∀ request ∈ arriving action, isFirst request = true) ∧
    ∀ entry ∈ (client device).upcoming state action, expected device token renewed entry = true))

instance (device : Device) (state : State) (action : Action) :
    Decidable (InTime device state action) :=
  inferInstanceAs (Decidable (∀ entry ∈ (client device).upcoming state action, inTime entry = true))

instance (device : Device) (state : State) (action : Action) :
    Decidable (InTurn device state action) :=
  inferInstanceAs (Decidable (
    (∃ task ∈ state.tasks, task.residual.awaiting.any (isReleased state.world) = true) →
      ∃ entry ∈ (client device).upcoming state action, isReleased state.world entry.query = true))

instance (state : State) : Decidable (Ended state) :=
  inferInstanceAs (Decidable (∀ task ∈ state.tasks, task.residual.awaiting = none))

def visitor : AuthStore := { signedIn with accessToken := some "fresh" }

def tooOld : Tick :=
  at0 (.response 401 (some { error := some "Token expired", code := some "EXPIRED_TOKEN"
                             message := none, data := none }))

def replaced : Tick := at0 (.success (some { ClientApi.renewed with accessToken := some "newer" }))

def fine : Tick := at0 (.success none)

def bothSent : List Action :=
  [.arrive (.call (.post "~/users/me" (.app ""))) fine,
    .arrive (.call (.post "~/inspections" (.app ""))) fine, .advance 0 fine, .advance 1 fine]

def refreshed (place : Nat) : List Action :=
    [.advance place fine, .advance place replaced, .advance place fine]

def repeated (place : Nat) : List Action :=
    [.advance place fine, .advance place fine, .advance place fine]

def promptly : List Action :=
  bothSent ++ [.advance 0 tooOld, .advance 1 tooOld] ++ refreshed 2 ++ [.advance 0 fine] ++
    repeated 1 ++ [.advance 0 fine, .advance 0 fine]

def belatedly : List Action :=
  bothSent ++ [.advance 0 tooOld] ++ refreshed 2 ++ repeated 0 ++ [.advance 1 tooOld] ++
    refreshed 3 ++ repeated 1

theorem one_refresh_prompt :
    Ended ((client phone).run (start (opened visitor)) promptly) ∧
      OneRefresh phone "newer" ((client phone).run (start (opened visitor)) promptly) :=
  ⟨by decide,
    one_refresh phone "fresh" "newer" visitor (by decide) (by decide) promptly (by decide)⟩

/-- An answer that comes after the refresh starts another one. -/
theorem second_refresh :
    ¬ ∀ (device : Device) (token renewed : String) (store : AuthStore) (schedule : List Action),
      truthy store.accessToken ≠ none → truthy store.refreshToken ≠ none →
      (client device).Guarded (fun state action => Expiring device token renewed state action ∧
        InTurn device state action) (start (opened store)) schedule →
      OneRefresh device renewed ((client device).run (start (opened store)) schedule) := by
  intro one
  have two : refreshPosts ((client phone).run (start (opened visitor)) belatedly).trace = 2 := by
    decide
  have single := (one phone "fresh" "newer" visitor belatedly
    (by decide) (by decide) (by decide)).posts
  rw [two] at single
  exact absurd single (by decide)

end Samples
end TopInspect.SingleRefresh
