import TopInspect.ClientTokens
import TopInspect.RefreshTurns

/-! What a private request leaves with. A waiter reads the access token again when it
resumes; that JavaScript runs the waiters of a resolved promise before anything else
keeps the new token in the store until then. -/
namespace TopInspect.BearerTokens

open Resumption
open AuthHandlers (truthy truthy_some AccessToken Env)
open ClientStore ClientApi ClientSegments ServerAnswers ClientTokens RefreshTurns
open ClientLock (Waits)
open ClientPromises (Promised promised_step)
open Interleaving hiding Entry State Action Task

section Leaving
variable (device : Device)

/-- A private request that the request interceptor lets through, as it leaves. -/
def passed : (query : Query) → Except ErrorResponse query.Answer → Option Config
  | .intercept config, .ok (.proceed sending) =>
      if (privateUrl config.url).isSome then some sending else none
  | .resumeRequest _ _, .ok sending => some sending
  | _, _ => none

/-- More than a tenth of its lifetime is left. -/
def Lives (now : Int) (accessToken : String) : Prop :=
  ∃ iat exp, device.jwtDecode accessToken = some { iat := some iat, exp := some exp } ∧
    exp - iat < 10 * (exp - now / 1000)

/-- The header carries a live access token that the store holds. -/
def CarriesToken (entry : Entry) (sending : Config) : Prop :=
  ∃ accessToken, entry.before.store.accessToken = some accessToken ∧
    sending.authorization = some ("Bearer " ++ accessToken) ∧
      Lives device entry.tick.now accessToken

/-- There is no access token: the request leaves as it came, and a log-out is started. -/
def LogsOut (entry : Entry) (sending : Config) : Prop :=
  ∃ config, entry.query = .intercept config ∧ truthy entry.before.store.accessToken = none ∧
    sending.authorization = config.authorization ∧
    Request.logOut ∈ spawned device entry.tick entry.query entry.before

/-- Every refresh is answered with an access token issued at that moment. -/
def IssuedNow (state : State) (action : Action) : Prop :=
  ∀ entry ∈ (client device).upcoming state action, ∀ promise data text payload,
    entry.query = .finishRefresh promise (.ok (some data)) → data.accessToken = some text →
    device.jwtDecode text = some payload → payload.iat = some (entry.tick.now / 1000)

/-- A waiter reads the new token less than twenty-seven minutes after it has come, in whole seconds
on the clock; by then a tenth of its half hour is left. -/
def Prompt (state : State) (action : Action) : Prop :=
  ∀ entry ∈ (client device).upcoming state action, isReleased state.world entry.query = true →
    ∀ last ∈ lastFinish state.trace, entry.tick.now / 1000 < last.tick.now / 1000 + 27 * 60

end Leaving

section Turns
variable (env : Env) (sign : Signer) (device : Device)

/-- The states of the app since its first launch, on a device that keeps JavaScript's turns, with
no waiter held up for long and every refresh answered at once. -/
inductive Orderly : State → Prop where
  | launched : Orderly (start (opened AuthStore.initial))
  | stepped (state : State) (action : Action) (reached : Orderly state)
      (served : AnswersServed env sign device state action)
      (issued : IssuedNow device state action) (turns : InTurn device state action)
      (prompt : Prompt device state action) :
      Orderly ((client device).step state action)
  | rehydrated (state earlier : State) (reached : Orderly state) (saved : Orderly earlier)
      (settled : Settled state) : Orderly (rehydrated state earlier)

/-- The library reads what the server has signed. -/
def Decodes : Prop :=
  ∀ accessToken : AccessToken,
    device.jwtDecode (sign accessToken) = some { iat := some accessToken.iat,
                                                 exp := some accessToken.exp }

def Renewed (store : AuthStore) (now : Int) : Prop :=
  ∃ accessToken : AccessToken, store.accessToken = some (sign accessToken) ∧ lasts accessToken ∧
    accessToken.iat = now / 1000

variable {env sign device}

theorem fills_renewed (decodes : Decodes sign device) (state : State) (action : Action)
    (kept : Kept (fun _ _ => True) sign device state) (issued : IssuedNow device state action) :
    ∀ entry ∈ (client device).upcoming state action, ∀ promise data,
      entry.query = .finishRefresh promise (.ok (some data)) →
      Renewed sign (perform device entry.tick entry.query state.world).2.store entry.tick.now := by
  intro entry comes promise data finishes
  obtain ⟨task, resume, present, awaits, -, -⟩ :=
    (client device).upcoming_step state action entry comes
  have sound := kept_sound state kept entry.task task entry.query present (by rw [awaits]; rfl)
  rw [finishes] at sound
  obtain ⟨request, accessToken, refreshToken, -, granted, rfl⟩ := sound
  have now := issued entry comes promise _ (sign accessToken) _ finishes rfl (decodes accessToken)
  rw [finishes]
  exact ⟨accessToken, rfl, granted, Option.some.inj now⟩

theorem orderly_keeps (decodes : Decodes sign device) (state : State)
    (orderly : Orderly env sign device state) :
    Kept (fun _ _ => True) sign device state ∧ Promised device state ∧
    Turned (Renewed sign) state := by
  induction orderly with
  | launched =>
      refine ⟨@kept_reachable sign device env _ .launched,
        ClientPromises.promised_start device _, ?_⟩
      constructor
      all_goals simp [start, opened]
  | stepped state action reached served issued turns prompt keeps =>
      obtain ⟨kept, promised, turned⟩ := keeps
      have answered : AnswersGiven (fun _ _ => True) sign device state action :=
        fun entry comes request awaits =>
          served_answered env request entry.tick.reply (served entry comes request awaits)
      exact ⟨kept_step state action kept answered,
        promised_step state action kept.coherent promised,
        turned_step state action kept.coherent promised turned
          (fills_renewed decodes state action kept issued) turns⟩
  | rehydrated state earlier reached saved settled keeps savedKeeps =>
      obtain ⟨kept, promised, turned⟩ := keeps
      refine ⟨⟨⟨kept.coherent.follows, kept.coherent.owner, kept.coherent.born⟩, kept.told,
        savedKeeps.1.paired⟩, ⟨promised.fresh, promised.unique, promised.pending, promised.kept,
        promised.refused, promised.handed⟩, ⟨turned.held, turned.inside, ?_⟩⟩
      intro task member promise waits resolved
      exact absurd (waits_released state.world task promise waits resolved) (settled task member)

theorem stored_lives (decodes : Decodes sign device) (store : AuthStore) (now : Int) (text : String)
    (paired : Paired (fun _ _ => True) sign store.partialize)
    (stored : store.accessToken = some text) (fresh : needsTokenRefresh device now text = false) :
    Lives device now text := by
  obtain ⟨request, accessToken, refreshToken, -, granted, rfl, -⟩ := paired.issued text stored
  refine ⟨accessToken.iat, accessToken.exp, decodes accessToken, ?_⟩
  simpa [needsTokenRefresh, decodes accessToken] using fresh

theorem renewed_lives (decodes : Decodes sign device) (store : AuthStore) (issued now : Int)
    (renewed : Renewed sign store issued) (prompt : now / 1000 < issued / 1000 + 27 * 60) :
    ∃ text, store.accessToken = some text ∧ Lives device now text := by
  obtain ⟨accessToken, stored, granted, fresh⟩ := renewed
  refine ⟨_, stored, accessToken.iat, accessToken.exp, decodes accessToken, ?_⟩
  have span : accessToken.exp = accessToken.iat + 1800 := granted
  omega

/-- A private request that is not held back takes a live token along, or finds none. -/
theorem intercept_passes (decodes : Decodes sign device) (tick : Tick) (config sending : Config)
    (world : World) (paired : Paired (fun _ _ => True) sign world.store.partialize)
    (leaves : passed (.intercept config) (perform device tick (.intercept config) world).1 =
      some sending) :
    (∃ text, world.store.accessToken = some text ∧
      sending.authorization = some ("Bearer " ++ text) ∧ Lives device tick.now text) ∨
    (truthy world.store.accessToken = none ∧ sending.authorization = config.authorization ∧
      .logOut ∈ spawned device tick (.intercept config) world) := by
  cases url : privateUrl config.url with
  | none => simp [perform, segmentOf, intercept, url, passed] at leaves
  | some rest =>
      cases token : truthy world.store.accessToken with
      | none =>
          simp only [perform, segmentOf, intercept, url, token, passed, Option.isSome_some, if_true,
            Option.some.injEq] at leaves
          refine Or.inr ⟨rfl, by rw [← leaves], ?_⟩
          simp [spawned, segmentOf, intercept, url, token]
      | some accessToken =>
          have stored := truthy_some _ _ token
          cases stale : needsTokenRefresh device tick.now accessToken with
          | true =>
              -- A token about to expire: the request waits for a refresh and does not leave.
              obtain ⟨promise, taken⟩ := lock_promise world
              simp only [perform, segmentOf, intercept, url, token, stale, if_true, Segment.map,
                taken, Except.map, passed] at leaves
              cases leaves
          | false =>
              simp only [perform, segmentOf, intercept, url, token, stale, passed,
                Option.isSome_some, if_true, Bool.false_eq_true, if_false,
                Option.some.injEq] at leaves
              refine Or.inl ⟨accessToken, stored, ?_,
                stored_lives decodes _ _ _ paired stored stale⟩
              rw [← leaves]
              rfl

theorem resume_passes (tick : Tick) (promise : Nat) (config sending : Config) (world : World)
    (leaves : passed (.resumeRequest promise config)
      (perform device tick (.resumeRequest promise config) world).1 = some sending) :
    (∀ error, world.promises[promise]? ≠ some (.rejected error)) ∧
      sending.authorization = some (bearer world.store.accessToken) := by
  have performs : (perform device tick (.resumeRequest promise config) world).1 =
      (resume promise config world).outcome := rfl
  rw [performs] at leaves
  cases settlement : world.promises[promise]? with
  | none =>
      simp only [resume, settlement, passed, Option.some.injEq] at leaves
      exact ⟨nofun, by rw [← leaves]⟩
  | some settled =>
      cases settled with
      | pending =>
          simp only [resume, settlement, passed, Option.some.injEq] at leaves
          exact ⟨nofun, by rw [← leaves]⟩
      | resolved =>
          simp only [resume, settlement, passed, Option.some.injEq] at leaves
          exact ⟨nofun, by rw [← leaves]⟩
      | rejected error =>
          simp only [resume, settlement, passed] at leaves
          cases leaves

def Leaves (device : Device) (entry : Entry) : Prop :=
  ∀ sending, passed entry.query (perform device entry.tick entry.query entry.before).1 =
    some sending →
    CarriesToken device entry sending ∨ LogsOut device entry sending

theorem leaves_answered (decodes : Decodes sign device) (state : State) (index : Nat) (tick : Tick)
    (task : Task) (query : Query)
    (resume : Except ErrorResponse query.Answer → Tick →
      Residual Query Query.Answer ErrorResponse Tick Result)
    (kept : Kept (fun _ _ => True) sign device state) (turned : Turned (Renewed sign) state)
    (present : state.tasks[index]? = some task) (awaits : task.residual = .await query resume)
    (ready : ClientApi.ready query state.world = true)
    (prompt : isReleased state.world query = true →
      ∀ last ∈ lastFinish state.trace, tick.now / 1000 < last.tick.now / 1000 + 27 * 60) :
    Leaves device (ClientLock.entryOf state index tick task query) := by
  intro sending leaves
  change passed query (perform device tick query state.world).1 = some sending at leaves
  cases query with
  | intercept config =>
      rcases intercept_passes decodes tick config sending state.world kept.paired leaves with
        carries | ⟨token, plain, started⟩
      · exact Or.inl carries
      · exact Or.inr ⟨config, rfl, token, plain, started⟩
  | resumeRequest promise config =>
      obtain ⟨sound, header⟩ := resume_passes tick promise config sending state.world leaves
      have member := List.mem_of_getElem? present
      have waits : Waits task promise := by simp [Waits, awaits, Residual.awaiting, refreshAwaited]
      have inside := turned.inside task member promise waits
      have resolved : state.world.promises[promise]? = some .resolved := by
        rw [List.getElem?_eq_getElem inside] at sound ⊢
        have settled : state.world.promises[promise] ≠ .pending := by
          simpa [ClientApi.ready, List.getElem?_eq_getElem inside] using ready
        cases settlement : state.world.promises[promise] with
        | pending => exact absurd settlement settled
        | resolved => rfl
        | rejected error => exact absurd (congrArg some settlement) (sound error)
      have released : isReleased state.world (.resumeRequest promise config) = true := by
        simp [isReleased, resolved]
      -- The store holds what the latest refresh has brought, and that is not long ago.
      obtain ⟨last, newest, renewed⟩ := turned.renewed task member promise waits resolved
      obtain ⟨text, stored, lives⟩ :=
        renewed_lives decodes _ _ tick.now renewed (prompt released last newest)
      refine Or.inl ⟨text, stored, ?_, lives⟩
      rw [header, stored]
      rfl
  | _ => cases leaves

/-- Every private request that is let through takes a live access token of the store along, or
finds none and logs out. -/
theorem bearer_live (env : Env) (sign : Signer) (device : Device) (decodes : Decodes sign device)
    (state : State) (orderly : Orderly env sign device state) :
    ∀ entry ∈ state.trace, ∀ sending,
      passed entry.query (perform device entry.tick entry.query entry.before).1 = some sending →
      CarriesToken device entry sending ∨ LogsOut device entry sending := by
  suffices leaves : ∀ entry ∈ state.trace, Leaves device entry from leaves
  induction orderly with
  | launched => exact fun entry member => absurd member List.not_mem_nil
  | rehydrated state earlier reached saved settled left savedLeft => exact left
  | stepped state action reached served issued turns prompt left =>
      obtain ⟨kept, promised, turned⟩ := orderly_keeps decodes state reached
      have transition := (client device).step_transition state action
      generalize (client device).step state action = after at transition ⊢
      cases transition with
      | idle => exact left
      | arrived request tick external => exact left
      | answered index tick task query resume present awaits ready =>
          have comes := Machine.upcoming_answered (client device) state index tick task query resume
            present awaits ready
          intro entry member
          rcases List.mem_cons.mp member with rfl | old
          · exact leaves_answered decodes state index tick task query resume kept turned present
              awaits ready (prompt _ comes)
          · exact left entry old

end Turns

/-! A private request of somebody who has just signed up, and one of a stranger. -/
section Samples

-- A number is written in strokes, those above zero and those below; half an hour of the
-- lifetime goes without saying.
def strokes (number : Int) (above below : Char) : List Char :=
  List.replicate number.toNat above ++ List.replicate (-number).toNat below

def tallied (text : List Char) (above below : Char) : Int := text.count above - text.count below

def written (accessToken : AccessToken) : String :=
  String.ofList ('t' :: (strokes accessToken.iat 'i' 'j' ++
    strokes (accessToken.exp - accessToken.iat - 1800) 'x' 'y'))

def counting : Device :=
  { phone with
    jwtDecode := fun text =>
      let iat := tallied text.toList 'i' 'j'
      some { iat := some iat, exp := some (iat + 1800 + tallied text.toList 'x' 'y') } }

theorem written_decodes : Decodes written counting := by
  intro accessToken
  simp [counting, tallied, written, strokes, List.count_append, List.count_replicate]
  omega

def Calm (state : State) (action : Action) : Prop :=
  (∀ task ∈ state.tasks, task.residual.awaiting.any (isReleased state.world) = false) ∧
    ∀ entry ∈ (client counting).upcoming state action, ClientPromises.finished entry.query = none

instance (state : State) (action : Action) : Decidable (Calm state action) :=
  inferInstanceAs (Decidable (
    (∀ task ∈ state.tasks, task.residual.awaiting.any (isReleased state.world) = false) ∧
    ∀ entry ∈ (client counting).upcoming state action, ClientPromises.finished entry.query = none))

theorem calm_orderly (state : State) (action : Action) (calm : Calm state action) :
    IssuedNow counting state action ∧ InTurn counting state action ∧
    Prompt counting state action := by
  refine ⟨?_, ?_, ?_⟩
  · intro entry comes promise data text payload asks
    have other := calm.2 entry comes
    rw [asks] at other
    cases other
  · rintro ⟨task, member, released⟩
    exact absurd ((calm.1 task member).symm.trans released) nofun
  · intro entry comes released
    obtain ⟨-, task, present, -, awaits⟩ :=
      (client counting).upcoming_owner state action entry comes
    have still := calm.1 task (List.mem_of_getElem? present)
    rw [awaits, Option.any_some, released] at still
    cases still

theorem calm_run (state : State) (schedule : List Action)
    (orderly : Orderly AuthHandlers.sampleEnv written counting state)
    (quiet : ∀ action ∈ schedule, Quiet action)
    (calm : (client counting).Guarded Calm state schedule) :
    Orderly AuthHandlers.sampleEnv written counting ((client counting).run state schedule) := by
  induction schedule generalizing state with
  | nil => exact orderly
  | cons action rest ih =>
      have still := calm_orderly state action calm.1
      refine ih _ (.stepped state action orderly ?_ still.1 still.2.1 still.2.2)
        (fun other member => quiet other (List.mem_cons_of_mem action member)) calm.2
      have first := quiet action List.mem_cons_self
      intro entry comes request awaits
      cases action with
      | arrive request tick => cases comes
      | advance index tick =>
          rw [Machine.upcoming_tick (client counting) state index tick entry comes,
            show tick = lost from first]
          exact .unanswered none

def profile : Config := .post "~/users/me" (.app "")

def visiting : List Action := [.arrive (.call profile) lost, .advance 0 lost]

def stranger : State := (client counting).run (start (opened AuthStore.initial)) visiting

theorem stranger_orderly : Orderly AuthHandlers.sampleEnv written counting stranger :=
  calm_run _ visiting .launched (by simp [visiting, Quiet]) (by decide)

def welcomed : Reply := replyOf written created

def joining : State := (client counting).run (start (opened AuthStore.initial)) sending

def joined : State := (client counting).step joining (.advance 0 (at0 welcomed))

theorem joined_orderly : Orderly AuthHandlers.sampleEnv written counting joined := by
  have before : Orderly AuthHandlers.sampleEnv written counting joining :=
    calm_run _ sending .launched (by simp [sending, Quiet]) (by decide)
  have calm : Calm joining (.advance 0 (at0 welcomed)) := by decide
  have still := calm_orderly _ _ calm
  refine .stepped joining _ before ?_ still.1 still.2.1 still.2.2
  intro entry comes request awaits
  obtain rfl := Option.some.inj comes
  obtain rfl := Option.some.inj awaits
  exact .answered created sign_up_answers

def member : State :=
  (client counting).run joined [.advance 0 lost, .arrive (.call profile) lost, .advance 1 lost]

theorem member_orderly : Orderly AuthHandlers.sampleEnv written counting member :=
  calm_run _ _ joined_orderly (by simp [Quiet]) (by decide)

theorem bearer_live_member :
    ∃ entry ∈ member.trace, ∃ sending,
      passed entry.query (perform counting entry.tick entry.query entry.before).1 = some sending ∧
        sending.authorization = some "Bearer t" ∧
        (CarriesToken counting entry sending ∨ LogsOut counting entry sending) :=
  ⟨_, List.mem_cons_self, _, rfl, by decide,
    bearer_live AuthHandlers.sampleEnv written counting written_decodes member member_orderly _
      List.mem_cons_self _ rfl⟩

/-- A stranger's request is let through without any token. -/
theorem bearer_missing :
    ¬ ∀ (env : Env) (sign : Signer) (device : Device), Decodes sign device →
      ∀ state, Orderly env sign device state → ∀ entry ∈ state.trace, ∀ sending,
        passed entry.query (perform device entry.tick entry.query entry.before).1 = some sending →
        CarriesToken device entry sending := by
  intro carries
  obtain ⟨accessToken, stored, -⟩ :=
    carries AuthHandlers.sampleEnv written counting written_decodes stranger
    stranger_orderly _ List.mem_cons_self { url := "/users/me", payload := .app "",
                                            authorization := none, retry := false }
    (by rfl)
  cases stored

end Samples
end TopInspect.BearerTokens
