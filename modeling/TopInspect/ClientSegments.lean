import TopInspect.ClientApi

/-! What the segments of the API client do to the refresh lock and to the
promises, and which tasks they start. -/
namespace TopInspect.ClientSegments

open Resumption
open AuthHandlers (truthy)
open ClientStore ClientApi

def refreshAwaited : Query → Option Nat
  | .resumeRequest promise _ => some promise
  | .resumeResponse promise _ => some promise
  | _ => none

/-- The query that an answer of the interceptors hands over to. -/
def handover : (query : Query) → Except ErrorResponse query.Answer → Option Query
  | .intercept _, .ok (.wait promise config) => some (.resumeRequest promise config)
  | .receive _, .ok (.expired promise config) => some (.resumeResponse promise config)
  | _, _ => none

/-- A request that needs a refresh: its stored access token is stale, or it was
answered that its token has expired. -/
def needsRefresh (device : Device) (tick : Tick) (world : World) : Query → Bool
  | .intercept config =>
      (privateUrl config.url).isSome &&
        (truthy world.store.accessToken).any (needsTokenRefresh device tick.now)
  | .receive config => isExpired tick.reply && !config.retry
  | _ => false

/-! Everything a segment can do to the lock and to the promises. -/
section Segments
variable (device : Device)

inductive LockStep (tick : Tick) (query : Query) (world : World) : Prop where
  | joined (promise : Nat) (follower : Query) (held : world.refreshPromise = some promise)
      (leads : handover query (perform device tick query world).1 = some follower)
      (waits : refreshAwaited follower = some promise) (idle : refreshAwaited query = none)
      (same : (perform device tick query world).2 = world)
  | took (follower : Query) (settlement : Settlement) (free : world.refreshPromise = none)
      (leads : handover query (perform device tick query world).1 = some follower)
      (waits : refreshAwaited follower = some world.promises.length)
      (idle : refreshAwaited query = none)
      (locked : (perform device tick query world).2.refreshPromise = some world.promises.length)
      (grown : (perform device tick query world).2.promises = world.promises ++ [settlement])
      (pending : ∀ refreshToken, truthy world.store.refreshToken = some refreshToken →
        settlement = .pending ∧ (segmentOf device tick query world).started =
          [.refreshCall world.promises.length refreshToken])
  | resumed (promise : Nat) (waits : refreshAwaited query = some promise)
      (leads : handover query (perform device tick query world).1 = none)
      (freed : (perform device tick query world).2.refreshPromise = none)
      (same : (perform device tick query world).2.promises = world.promises)
  | failed (promise : Nat) (error : ErrorResponse) (waits : refreshAwaited query = some promise)
      (rejected : world.promises[promise]? = some (.rejected error))
      (leads : handover query (perform device tick query world).1 = none)
      (same : (perform device tick query world).2 = world)
  | settled (promise : Nat) (outcome : Except ErrorResponse (Option ResponseData))
      (settlement : Settlement) (finishes : query = .finishRefresh promise outcome)
      (kept : (perform device tick query world).2.refreshPromise = world.refreshPromise)
      (settles : (perform device tick query world).2.promises =
        world.promises.set promise settlement)
      (granted : ∀ data, outcome = .ok (some data) → settlement = .resolved)
  | called (settlement : Settlement) (calls : query = .callRefresh)
      (kept : (perform device tick query world).2.refreshPromise = world.refreshPromise)
      (grown : (perform device tick query world).2.promises = world.promises ++ [settlement])
  | apart (leads : handover query (perform device tick query world).1 = none)
      (idle : refreshAwaited query = none)
      (kept : (perform device tick query world).2.refreshPromise = world.refreshPromise)
      (same : (perform device tick query world).2.promises = world.promises)

theorem lock_held (world : World) (promise : Nat) (held : world.refreshPromise = some promise) :
    takeLock world = { outcome := .ok promise, world, started := [] } := by
  simp [takeLock, held]

theorem lock_free (world : World) (free : world.refreshPromise = none) :
    ∃ settlement, (takeLock world).outcome = .ok world.promises.length ∧
      (takeLock world).world.refreshPromise = some world.promises.length ∧
      (takeLock world).world.promises = world.promises ++ [settlement] ∧
      ∀ refreshToken, truthy world.store.refreshToken = some refreshToken →
        settlement = .pending ∧
          (takeLock world).started = [.refreshCall world.promises.length refreshToken] := by
  cases token : truthy world.store.refreshToken with
  | none =>
      let thrown := setErrorState world.store (.plain "No refresh token found, logging out")
      refine ⟨.rejected thrown.2, ?_, ?_, ?_, by simp⟩
      all_goals simp [takeLock, free, startRefresh, token, thrown]
  | some refreshToken =>
      refine ⟨.pending, ?_, ?_, ?_, ?_⟩
      all_goals simp [takeLock, free, startRefresh, token]

theorem lock_promise (world : World) : ∃ promise, (takeLock world).outcome = .ok promise := by
  cases held : world.refreshPromise with
  | some promise => exact ⟨promise, by rw [lock_held world promise held]⟩
  | none =>
      obtain ⟨_, outcome, _⟩ := lock_free world held
      exact ⟨_, outcome⟩

theorem lock_step_taken (tick : Tick) (query : Query) (world : World)
    (make : Nat → query.Answer) (follower : Nat → Query)
    (shape : segmentOf device tick query world = (takeLock world).map make)
    (leads : ∀ promise, handover query (.ok (make promise)) = some (follower promise))
    (waits : ∀ promise, refreshAwaited (follower promise) = some promise)
    (idle : refreshAwaited query = none) : LockStep device tick query world := by
  have performs : perform device tick query world =
      ((takeLock world).outcome.map make, (takeLock world).world) := by
    simp [perform, shape, Segment.map]
  cases held : world.refreshPromise with
  | some promise =>
      rw [lock_held world promise held] at performs
      refine .joined promise (follower promise) held ?_ (waits promise) idle (by rw [performs])
      rw [performs]
      exact leads promise
  | none =>
      obtain ⟨settlement, outcome, locked, grown, pending⟩ := lock_free world held
      rw [outcome] at performs
      refine .took (follower world.promises.length) settlement held ?_ (waits _) idle ?_ ?_ ?_
      · rw [performs]
        exact leads _
      · rw [performs]
        exact locked
      · rw [performs]
        exact grown
      · intro refreshToken token
        obtain ⟨still, started⟩ := pending refreshToken token
        exact ⟨still, by simpa [shape, Segment.map] using started⟩

theorem intercept_lock (tick : Tick) (config : Config) (world : World) :
    (needsRefresh device tick world (.intercept config) = true ∧ ∃ url,
      segmentOf device tick (.intercept config) world =
        (takeLock world).map fun promise => .wait promise { config with url }) ∨
    (needsRefresh device tick world (.intercept config) = false ∧ ∃ sending started,
      (∀ request ∈ started, request = .logOut) ∧
      segmentOf device tick (.intercept config) world =
        { outcome := .ok (.proceed sending), world, started }) := by
  cases url : privateUrl config.url with
  | none =>
      exact Or.inr ⟨by simp [needsRefresh, url], config, [], by simp,
        by simp [segmentOf, intercept, url]⟩
  | some rest =>
      cases token : truthy world.store.accessToken with
      | none =>
          exact Or.inr ⟨by simp [needsRefresh, url, token], { config with url := rest }, [.logOut],
            by simp, by simp [segmentOf, intercept, url, token]⟩
      | some accessToken =>
          by_cases stale : needsTokenRefresh device tick.now accessToken = true
          · exact Or.inl ⟨by simp [needsRefresh, url, token, stale], rest,
              by simp [segmentOf, intercept, url, token, stale]⟩
          · let sending : Config :=
              { config with url := rest, authorization := some (bearer accessToken) }
            exact Or.inr ⟨by simp [needsRefresh, url, token, stale], sending, [], by simp,
              by simp [segmentOf, intercept, url, token, stale, sending]⟩

theorem receive_lock (tick : Tick) (config : Config) (world : World) :
    (needsRefresh device tick world (.receive config) = true ∧
      segmentOf device tick (.receive config) world =
        (takeLock world).map fun promise => .expired promise { config with retry := true }) ∨
    (needsRefresh device tick world (.receive config) = false ∧
      segmentOf device tick (.receive config) world =
        (receiveAgain tick.reply world).map .resolved) := by
  by_cases expired : isExpired tick.reply = true ∧ config.retry = false
  · exact Or.inl ⟨by simp [needsRefresh, expired], by simp [segmentOf, receive, expired]⟩
  · refine Or.inr ⟨?_, by simp only [segmentOf, receive, expired, if_false]⟩
    cases answered : isExpired tick.reply <;> simp_all [needsRefresh]

theorem receive_world (reply : Reply) (world : World) :
    (receiveAgain reply world).world = world := by
  unfold receiveAgain
  split <;> rfl

theorem resume_cases (promise : Nat) (config : Config) (world : World) :
    (∃ error, world.promises[promise]? = some (.rejected error) ∧
      resume promise config world = { outcome := .error error, world, started := [] }) ∨
    ((∀ error, world.promises[promise]? ≠ some (.rejected error)) ∧
      ∃ sending, resume promise config world =
        { outcome := .ok sending, world := { world with refreshPromise := none },
          started := [] }) := by
  unfold resume
  split
  · next error rejected => exact Or.inl ⟨error, rejected, rfl⟩
  · next sound => exact Or.inr ⟨fun error rejected => sound error rejected, _, rfl⟩

theorem lock_step_resume (tick : Tick) (query : Query) (world : World) (promise : Nat)
    (config : Config) (waits : refreshAwaited query = some promise)
    (free : ∀ result, handover query result = none)
    (after : (perform device tick query world).2 = (resume promise config world).world) :
    LockStep device tick query world := by
  rcases resume_cases promise config world with
    ⟨error, rejected, shape⟩ | ⟨sound, sending, shape⟩
  · exact .failed promise error waits rejected (free _) (by rw [after, shape])
  · exact .resumed promise waits (free _) (by rw [after, shape]) (by rw [after, shape])

theorem signed_out_world (refreshToken : Option String) (world : World) :
    (∃ store, (googleSignedOut refreshToken world).world = { world with store }) ∧
      (googleSignedOut refreshToken world).started = [] := by
  unfold googleSignedOut
  split <;> exact ⟨⟨_, rfl⟩, rfl⟩

theorem session_world (asksSignup : Bool) (data : Option ResponseData) (world : World) :
    (∃ store, (storeSession device asksSignup data world).world = { world with store }) ∧
      (storeSession device asksSignup data world).started = [] := by
  unfold storeSession
  split
  · exact ⟨⟨world.store, rfl⟩, rfl⟩
  · split <;> exact ⟨⟨_, rfl⟩, rfl⟩

theorem lock_step_store (tick : Tick) (query : Query) (world : World)
    (free : ∀ result, handover query result = none) (idle : refreshAwaited query = none)
    (after : ∃ store, (perform device tick query world).2 = { world with store }) :
    LockStep device tick query world := by
  obtain ⟨store, after⟩ := after
  exact .apart (free _) idle (by rw [after]) (by rw [after])

theorem lock_step (tick : Tick) (query : Query) (world : World) :
    LockStep device tick query world := by
  cases query with
  | intercept config =>
      rcases intercept_lock device tick config world with
        ⟨-, url, shape⟩ | ⟨-, sending, started, -, shape⟩
      · exact lock_step_taken device tick _ world _ _ shape (fun _ => rfl) (fun _ => rfl) rfl
      · have performs : perform device tick (.intercept config) world =
            (.ok (.proceed sending), world) := by simp [perform, shape]
        exact .apart (by rw [performs]; rfl) rfl (by rw [performs]) (by rw [performs])
  | receive config =>
      rcases receive_lock device tick config world with ⟨-, shape⟩ | ⟨-, shape⟩
      · exact lock_step_taken device tick _ world _ _ shape (fun _ => rfl) (fun _ => rfl) rfl
      · have performs : perform device tick (.receive config) world =
            ((receiveAgain tick.reply world).outcome.map .resolved, world) := by
          simp [perform, shape, Segment.map, receive_world]
        refine .apart ?_ rfl (by rw [performs]) (by rw [performs])
        rw [performs]
        cases (receiveAgain tick.reply world).outcome <;> rfl
  | resumeRequest promise config =>
      exact lock_step_resume device tick _ world promise config rfl (fun _ => rfl) rfl
  | resumeResponse promise config =>
      exact lock_step_resume device tick _ world promise config rfl (fun _ => rfl) rfl
  | receiveAgain config =>
      have after : (perform device tick (.receiveAgain config) world).2 = world :=
        receive_world tick.reply world
      exact .apart rfl rfl (by rw [after]) (by rw [after])
  | callRefresh =>
      cases token : truthy world.store.refreshToken with
      | none =>
          exact .called _ rfl (by simp [perform, segmentOf, startRefresh, token])
            (by simp [perform, segmentOf, startRefresh, token]; rfl)
      | some refreshToken =>
          exact .called _ rfl (by simp [perform, segmentOf, startRefresh, token])
            (by simp [perform, segmentOf, startRefresh, token]; rfl)
  | finishRefresh promise outcome =>
      rcases outcome with error | (none | data)
      · exact .settled promise _ _ rfl rfl rfl (by simp)
      · exact .settled promise _ _ rfl rfl rfl (by simp)
      · exact .settled promise _ .resolved rfl rfl rfl (fun _ _ => rfl)
  | settled promise => exact .apart rfl rfl rfl rfl
  | startLogOut => exact .apart rfl rfl rfl rfl
  | googleSignedOut refreshToken =>
      exact lock_step_store device tick _ world (fun _ => rfl) rfl (signed_out_world _ world).1
  | clearAll => exact .apart rfl rfl rfl rfl
  | beginLoading => exact .apart rfl rfl rfl rfl
  | storeSession asksSignup data =>
      exact lock_step_store device tick _ world (fun _ => rfl) rfl
        (session_world device asksSignup data world).1
  | storeOtp data => exact .apart rfl rfl rfl rfl
  | setErrorState thrown => exact .apart rfl rfl rfl rfl


/-! Which tasks a segment starts. -/

/-- The queries whose segments may call refreshTokens. -/
def mayRefresh : Query → Bool
  | .intercept _ => true
  | .receive _ => true
  | .callRefresh => true
  | _ => false

theorem started_cases (world : World) (request : Request)
    (started : request ∈ (startRefresh world).started) :
    request = .logOut ∨ ∃ refreshToken,
      request = .refreshCall world.promises.length refreshToken ∧
      truthy world.store.refreshToken = some refreshToken := by
  unfold startRefresh at started
  split at started
  · exact Or.inl (List.mem_singleton.mp started)
  · next refreshToken token => exact Or.inr ⟨refreshToken, List.mem_singleton.mp started, token⟩

theorem started_grows (world : World) :
    (startRefresh world).world.promises.length = world.promises.length + 1 := by
  unfold startRefresh
  split <;> simp

theorem lock_started (world : World) (request : Request)
    (started : request ∈ (takeLock world).started) :
    request = .logOut ∨ (takeLock world).world.promises.length = world.promises.length + 1 ∧
      ∃ refreshToken, request = .refreshCall world.promises.length refreshToken ∧
        truthy world.store.refreshToken = some refreshToken := by
  unfold takeLock at started ⊢
  split at started
  · cases started
  · rcases started_cases world request started with rfl | found
    · exact Or.inl rfl
    · exact Or.inr ⟨started_grows world, found⟩

theorem answer_started (reply : Reply) (world : World) (request : Request)
    (started : request ∈ (receiveAgain reply world).started) : request = .logOut := by
  unfold receiveAgain at started
  split at started
  · cases started
  · cases started
  · cases started
  · unfold refuse at started
    simp only at started
    split at started
    · exact List.mem_singleton.mp started
    · cases started

theorem spawned_cases (tick : Tick) (query : Query) (world : World) (request : Request)
    (started : request ∈ spawned device tick query world) :
    request = .logOut ∨ (mayRefresh query = true ∧
      (perform device tick query world).2.promises.length = world.promises.length + 1 ∧
      ∃ refreshToken, request = .refreshCall world.promises.length refreshToken ∧
        truthy world.store.refreshToken = some refreshToken) := by
  unfold spawned at started
  cases query with
  | intercept config =>
      rcases intercept_lock device tick config world with
        ⟨-, url, shape⟩ | ⟨-, sending, starts, only, shape⟩
      · rw [shape] at started
        rcases lock_started world request started with out | ⟨grows, found⟩
        · exact Or.inl out
        · exact Or.inr ⟨rfl, by simpa [perform, shape, Segment.map] using grows, found⟩
      · rw [shape] at started
        exact Or.inl (only request started)
  | receive config =>
      rcases receive_lock device tick config world with ⟨-, shape⟩ | ⟨-, shape⟩
      · rw [shape] at started
        rcases lock_started world request started with out | ⟨grows, found⟩
        · exact Or.inl out
        · exact Or.inr ⟨rfl, by simpa [perform, shape, Segment.map] using grows, found⟩
      · rw [shape] at started
        exact Or.inl (answer_started tick.reply world request started)
  | receiveAgain config => exact Or.inl (answer_started tick.reply world request started)
  | callRefresh =>
      rcases started_cases world request started with out | found
      · exact Or.inl out
      · exact Or.inr ⟨rfl, started_grows world, found⟩
  | resumeRequest promise config =>
      rcases resume_cases promise config world with ⟨error, -, shape⟩ | ⟨-, sending, shape⟩
      · simp [segmentOf, shape] at started
      · simp [segmentOf, shape] at started
  | resumeResponse promise config =>
      rcases resume_cases promise config world with ⟨error, -, shape⟩ | ⟨-, sending, shape⟩
      · simp [segmentOf, shape] at started
      · simp [segmentOf, shape] at started
  | finishRefresh promise outcome => rcases outcome with error | (none | data) <;> cases started
  | googleSignedOut refreshToken =>
      simp only [segmentOf, (signed_out_world refreshToken world).2] at started
      cases started
  | storeSession asksSignup data =>
      simp only [segmentOf, (session_world device asksSignup data world).2] at started
      cases started
  | _ => cases started

end Segments
end TopInspect.ClientSegments
