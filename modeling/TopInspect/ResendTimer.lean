import TopInspect.OtpCooldown
import TopInspect.OtpScreens

/-! The resend button and the server's cooldown. The button waits for sixty timeouts of a
second each, counted from the answer that its code was sent, so that a code it asks for is
refused as too early only where an earlier one was stored without an answer that said so. -/
namespace TopInspect.ResendTimer

open AuthSchema AuthStatements AuthHandlers AUTH_CONFIG AuthExecution
open OtpServing (admission sendCode request_admits select_exec account_exec profile_exec send_runs)
open OtpCooldown (KeepsDate keeps_date)
open Serial (exec exec_bind_ok exec_ite)
open ScreenRoutes (Device Store Effect absorb)
open OtpScreens (OtpScreen OtpEvent TIMING.OTP_RESEND_COOLDOWN)

section Server

theorem admission_limited (body : OtpRequest) (run : Run)
    (limited : (exec perform (admission body) run).1 = .ok (.inl res.otpRateLimited)) :
    ∃ otp, run.world.findOtp body.phone = some otp ∧
      (run.ticks 0).now - minutes OTP_COOLDOWN_MINUTES < otp.createdAt := by
  obtain ⟨recentOTP, read, limited, -⟩ := exec_bind_ok perform _ _ run _ limited
  obtain ⟨rfl, kept, present⟩ := select_exec body.phone run recentOTP read
  generalize (exec perform (selectOtp body.phone) run).2 = after at limited kept present
  obtain ⟨threshold, clock, limited, -⟩ := exec_bind_ok perform _ _ after _ limited
  obtain rfl : after.tick.now - minutes OTP_COOLDOWN_MINUTES = threshold := by simpa using clock
  simp only [exec_minutes_ago] at limited
  rw [exec_ite] at limited
  split at limited
  · next recent =>
      cases found : run.world.findOtp body.phone with
      | none => simp [found] at recent
      | some otp => exact ⟨otp, rfl, by simpa [found, present] using recent⟩
  · -- the other refusals have other texts
    obtain ⟨existingAuth, account, limited, -⟩ := exec_bind_ok perform _ _ after _ limited
    generalize (exec perform (selectAuth .phone body.phone) after).2 = later at limited
    obtain ⟨known, profile, limited, -⟩ := exec_bind_ok perform _ _ later _ limited
    rw [exec_ite] at limited
    split at limited
    · simp [res.ok, res.otpRateLimited, res.err] at limited
    · rw [exec_ite] at limited
      split at limited
      · simp [res.userExists, res.otpRateLimited, res.err] at limited
      · simp at limited

theorem send_unlimited (body : OtpRequest) (userExists : Bool) (run : Run) :
    (exec perform (sendCode body userExists) run).1 ≠ .ok res.otpRateLimited := by
  rw [send_runs]
  split
  · simp [res.ok, res.otpRateLimited, res.err]
  · simp [res.databaseError, res.otpRateLimited, res.err]

theorem limited_recent (body : OtpRequest) (run : Run)
    (limited : (exec perform (requestOTP body) run).1 = .ok res.otpRateLimited) :
    ∃ otp, run.world.findOtp body.phone = some otp ∧
      (run.ticks 0).now - minutes OTP_COOLDOWN_MINUTES < otp.createdAt := by
  rw [request_admits] at limited
  obtain ⟨admitted, decided, limited, -⟩ := exec_bind_ok perform _ _ run _ limited
  cases admitted with
  | inl response =>
      obtain rfl := Except.ok.inj limited
      exact admission_limited body run decided
  | inr userExists => exact absurd limited (send_unlimited body userExists _)

theorem send_row (body : OtpRequest) (run : Run) (present : Time) (phone : String)
    (clock : ∀ n, (run.clock (n + 1)).now = present) :
    (exec perform (requestOTP body) run).2.world.findOtp phone = run.world.findOtp phone ∨
      ∃ row, phone = body.phone ∧ row.createdAt = present ∧
        (exec perform (requestOTP body) run).2.world.findOtp phone = some row := by
  obtain ⟨history, -, outcome⟩ := OtpServing.request_exec body run phone
  rcases outcome with ⟨-, same⟩ | ⟨row, own, sent, stored, -⟩
  · exact Or.inl same
  · obtain ⟨n, created⟩ := sent.clock
    exact Or.inr ⟨row, own, created.trans (clock n), stored⟩

theorem other_keeps (env : Env) (phone : String) (request : Request) (run : Run) (present : Time)
    (clock : ∀ n, (run.clock (n + 1)).now = present)
    (other : ∀ body, request = .requestOTP body → body.phone ≠ phone) :
    KeepsDate phone run.world (exec perform (handler env request) run).2.world := by
  by_cases send : ∃ body, request = .requestOTP body
  · obtain ⟨body, rfl⟩ := send
    have same : (exec perform (handler env (.requestOTP body)) run).2 =
      (exec perform (requestOTP body) run).2 :=
      congrArg Prod.snd (Serial.exec_map perform some (requestOTP body) run)
    intro otp found
    rw [same] at found
    rcases send_row body run present phone clock with kept | ⟨row, own, -⟩
    · exact ⟨otp, kept ▸ found, rfl⟩
    · exact absurd own.symm (other body rfl)
  · have quiet : ∀ body, request ≠ .requestOTP body := fun body same => send ⟨body, same⟩
    exact Serial.exec_relates perform (KeepsDate phone) OtpServing.Upserts
      (fun _ otp found => ⟨otp, found, rfl⟩) (fun _ _ _ first second otp found => by
        obtain ⟨middle, stored, same⟩ := second otp found
        obtain ⟨old, before, equal⟩ := first middle stored
        exact ⟨old, before, equal.trans same⟩)
      (fun tick statement db silent => keeps_date phone tick statement db silent)
      (handler env request) run (OtpServing.others_avoid_upserts env request quiet)

end Server

/-! The screen, its timer and the server on one clock. -/
section Loop

/-- A resend: when the server served it and what it answered, and whether the screen has taken
that for a success. -/
structure Call where
  served : Option (Time × Except DbError Response)
  settled : Option Bool

structure Loop where
  clock : Time
  armedAt : Time
  store : Store
  screen : OtpScreen
  calls : List Call
  db : Db

inductive Move where
  | wait (elapsed : Nat)
  | event (event : OtpEvent)
  | timeout
  | serve (index : Nat) (draw : Nat → Tick)
  | deliver (index : Nat) (message : String)
  | lose (index : Nat) (message : String)
  | other (request : Request) (draw : Nat → Tick)

variable (env : Env) (device : Device)

def act (loop : Loop) (event : OtpEvent) : Loop :=
  let outcome := OtpScreens.step device loop.store loop.screen event
  { loop with screen := outcome.1, store := outcome.2.foldl absorb loop.store }

/-- A request that is served at one time on the database at hand. -/
def opening (loop : Loop) (draw : Nat → Tick) : Run where
  world := loop.db
  tick := { draw 0 with now := loop.clock }
  ticks := fun n => { draw (n + 1) with now := loop.clock }
  log := []

def resend (loop : Loop) : OtpRequest :=
    { phone := loop.screen.params.phone, purpose := loop.screen.params.purpose }

def succeeded : Except DbError Response → Bool
  | .ok response => response.status < 300
  | .error _ => false

/-- The call ends at the screen; a success starts the timer again. -/
def settle (loop : Loop) (index : Nat) (call : Call) (success : Bool) (message : String) : Loop :=
  let after := act device loop (.resent (if success then none else some message))
  { after with
    calls := loop.calls.set index { call with settled := some success }
    armedAt := if success then loop.clock else loop.armedAt }

/-- The button: a press that starts a request makes it a call that waits for its answer. -/
def press (loop : Loop) : Loop :=
  let after := act device loop .pressResend
  if loop.screen.resending < after.screen.resending then
    { after with calls := loop.calls ++ [{ served := none, settled := none }] }
  else after

def serve (loop : Loop) (index : Nat) (settled : Option Bool) (draw : Nat → Tick) : Loop :=
  let outcome := exec perform (requestOTP (resend loop)) (opening loop draw)
  { loop with
    db := outcome.2.world
    calls := loop.calls.set index { served := some (loop.clock, outcome.1), settled } }

def asks (phone : String) : Request → Bool
  | .requestOTP body => body.phone = phone
  | _ => false

-- A move that does not apply leaves all as it is: no other party asks for codes of the phone.
def step (loop : Loop) : Move → Loop
  | .wait elapsed => { loop with clock := loop.clock + elapsed }
  | .event .pressResend => press device loop
  | .event (.resent _) => loop
  | .event .tick => loop
  | .event event => act device loop event
  | .timeout =>
      if 0 < loop.screen.resendTimer ∧ loop.armedAt + 1000 ≤ loop.clock then
        { act device loop .tick with armedAt := loop.clock }
      else loop
  | .serve index draw =>
      match loop.calls[index]? with
      | some { served := none, settled } => serve loop index settled draw
      | _ => loop
  | .deliver index message =>
      match loop.calls[index]? with
      | some { served := some (time, answer), settled := none } =>
          settle device loop index { served := some (time, answer), settled := none }
            (succeeded answer) message
      | _ => loop
  | .lose index message =>
      match loop.calls[index]? with
      | some { served, settled := none } =>
          settle device loop index { served, settled := none } false message
      | _ => loop
  | .other request draw =>
      if asks loop.screen.params.phone request then loop
      else { loop with db := (exec perform (handler env request) (opening loop draw)).2.world }

def run (loop : Loop) (moves : List Move) : Loop := moves.foldl (step env device) loop

/-- The screen as it opens: the code it waits for has been stored by then. -/
def start (params : ScreenRoutes.OtpScreenParams) (clock : Time) (db : Db) : Loop where
  clock
  armedAt := clock
  store := { isLoading := false, error := none }
  screen := OtpScreens.mount params
  calls := []
  db

/-- The time before which the button cannot be pressed. -/
def ready (loop : Loop) : Time := loop.armedAt + 1000 * loop.screen.resendTimer

def awaited (call : Call) : Bool := call.settled.isNone

/-- One request is in flight while the store is loading, and none otherwise. -/
def Balanced (store : Store) (screen : OtpScreen) : Prop :=
  screen.verifying + screen.resending = if store.isLoading then 1 else 0

structure Counted (loop : Loop) : Prop where
  loading : Balanced loop.store loop.screen
  waiting : loop.screen.resending = loop.calls.countP awaited

/-- What keeps the button and the cooldown in step. -/
structure Timely (loop : Loop) : Prop extends Counted loop where
  armed : loop.armedAt ≤ loop.clock
  idle : 0 < loop.screen.resending → loop.screen.resendTimer = 0
  served : ∀ call ∈ loop.calls, ∀ time answer, call.served = some (time, answer) → time ≤ loop.clock
  answered : ∀ call ∈ loop.calls, call.settled = some true → call.served ≠ none
  row : ∀ otp, loop.db.findOtp loop.screen.params.phone = some otp →
    otp.createdAt + minutes OTP_COOLDOWN_MINUTES ≤ ready loop ∨
      ∃ call ∈ loop.calls, call.settled ≠ some true ∧ ∃ answer,
        call.served = some (otp.createdAt, answer)


theorem verify_balanced (store : Store) (screen : OtpScreen) (code : String)
    (free : store.isLoading = false) (balanced : Balanced store screen) :
    Balanced ((OtpScreens.handleVerifyOtp device screen code).2.foldl absorb store)
      (OtpScreens.handleVerifyOtp device screen code).1 := by
  unfold OtpScreens.handleVerifyOtp
  split
  · exact balanced
  · split
    · exact balanced
    · simp only [Balanced, free, Bool.false_eq_true, if_false] at balanced
      simp only [Balanced, List.foldl_cons, List.foldl_nil, absorb, if_true]
      omega

theorem step_balanced (store : Store) (screen : OtpScreen) (event : OtpEvent)
    (balanced : Balanced store screen) :
    Balanced ((OtpScreens.step device store screen event).2.foldl absorb store)
      (OtpScreens.step device store screen event).1 := by
  cases event with
  | changeText text =>
      simp only [OtpScreens.step]
      split
      · exact balanced
      · next free =>
          simp only [OtpScreens.handleTextChange]
          split
          · exact verify_balanced device store _ _ (by simpa using free) balanced
          · exact balanced
  | pressResend =>
      simp only [OtpScreens.step]
      split
      · exact balanced
      · next free =>
          unfold OtpScreens.handleResendOtp
          split
          · exact balanced
          · simp only [not_or, Bool.not_eq_true] at free
            simp only [Balanced, free.2, Bool.false_eq_true, if_false] at balanced
            simp only [Balanced, List.foldl_cons, List.foldl_nil, absorb, if_true]
            omega
  | pressBack => exact balanced
  | tick => exact balanced
  | verified failure =>
      simp only [OtpScreens.step]
      split
      · exact balanced
      · next pending counted =>
          -- a verification is pending, so it is the one request in flight
          simp only [Balanced, counted] at balanced
          have single : pending + screen.resending = 0 := by split at balanced <;> omega
          cases failure <;>
            simpa [Balanced, absorb, OtpScreens.handleError] using single
  | resent failure =>
      simp only [OtpScreens.step]
      split
      · exact balanced
      · next pending counted =>
          simp only [Balanced, counted] at balanced
          have single : screen.verifying + pending = 0 := by split at balanced <;> omega
          cases failure <;> simpa [Balanced, absorb] using single

/-- The events a user has on the screen, resending apart. -/
def isTyped : OtpEvent → Bool
  | .changeText _ => true
  | .pressBack => true
  | .verified _ => true
  | _ => false

theorem typed_quiet (store : Store) (screen : OtpScreen) (event : OtpEvent)
    (typed : isTyped event = true) :
    (OtpScreens.step device store screen event).1.resending = screen.resending ∧
      (OtpScreens.step device store screen event).1.resendTimer = screen.resendTimer := by
  have verify : ∀ (screen : OtpScreen) (code : String),
      (OtpScreens.handleVerifyOtp device screen code).1.resending = screen.resending ∧
        (OtpScreens.handleVerifyOtp device screen code).1.resendTimer = screen.resendTimer := by
    intro screen code
    unfold OtpScreens.handleVerifyOtp
    split
    · exact ⟨rfl, rfl⟩
    · split <;> exact ⟨rfl, rfl⟩
  cases event with
  | changeText text =>
      simp only [OtpScreens.step]
      split
      · exact ⟨rfl, rfl⟩
      · simp only [OtpScreens.handleTextChange]
        split
        · exact verify _ _
        · exact ⟨rfl, rfl⟩
  | pressBack => exact ⟨rfl, rfl⟩
  | verified failure =>
      simp only [OtpScreens.step]
      split
      · exact ⟨rfl, rfl⟩
      · cases failure <;> exact ⟨rfl, rfl⟩
  | pressResend => cases typed
  | tick => cases typed
  | resent failure => cases typed

theorem typed_counted (loop : Loop) (event : OtpEvent) (typed : isTyped event = true)
    (counted : Counted loop) :
    Counted (act device loop event) :=
  ⟨step_balanced device loop.store loop.screen event counted.loading,
    (typed_quiet device loop.store loop.screen event typed).1.trans counted.waiting⟩

theorem typed_timely (loop : Loop) (event : OtpEvent) (typed : isTyped event = true)
    (timely : Timely loop) :
    Timely (act device loop event) := by
  obtain ⟨count, timer⟩ := typed_quiet device loop.store loop.screen event typed
  have params := OtpScreens.step_params device loop.store loop.screen event
  refine ⟨typed_counted device loop event typed timely.toCounted, timely.armed, ?_, timely.served,
    timely.answered, ?_⟩
  · intro sending
    exact timer.trans (timely.idle (by rw [← count]; exact sending))
  · intro otp found
    have before := timely.row otp (by rw [← params]; exact found)
    simp only [ready, act] at before ⊢
    rw [timer]
    exact before

/-- The button keeps the timer, and starts a call only once the timer has run down. -/
theorem press_cases (store : Store) (screen : OtpScreen) :
    (OtpScreens.step device store screen .pressResend).1.resendTimer = screen.resendTimer ∧
      ((OtpScreens.step device store screen .pressResend).1.resending = screen.resending ∨
        screen.resendTimer = 0 ∧
          (OtpScreens.step device store screen .pressResend).1.resending = screen.resending +
          1) := by
  simp only [OtpScreens.step]
  split
  · exact ⟨rfl, Or.inl rfl⟩
  · next free =>
      simp only [not_or, Nat.not_lt, Nat.le_zero] at free
      unfold OtpScreens.handleResendOtp
      split
      · exact ⟨rfl, Or.inl rfl⟩
      · exact ⟨rfl, Or.inr ⟨free.1, rfl⟩⟩

theorem press_counted (loop : Loop) (counted : Counted loop) : Counted (press device loop) := by
  have balanced := step_balanced device loop.store loop.screen .pressResend counted.loading
  obtain ⟨-, pressed⟩ := press_cases device loop.store loop.screen
  simp only [press]
  split
  · next more =>
      refine ⟨balanced, ?_⟩
      rw [List.countP_append, ← counted.waiting]
      rcases pressed with still | ⟨-, added⟩
      · exact absurd more (by simp only [act]; omega)
      · exact added
  · next quiet =>
      refine ⟨balanced, ?_⟩
      rcases pressed with still | ⟨-, added⟩
      · exact still.trans counted.waiting
      · exact absurd (by simp only [act]; omega) quiet

theorem press_timely (loop : Loop) (timely : Timely loop) : Timely (press device loop) := by
  have counted := press_counted device loop timely.toCounted
  have params := OtpScreens.step_params device loop.store loop.screen .pressResend
  obtain ⟨timer, pressed⟩ := press_cases device loop.store loop.screen
  have same : ready (act device loop .pressResend) = ready loop := by simp only [ready, act, timer]
  by_cases more : loop.screen.resending < (act device loop .pressResend).screen.resending
  · simp only [press, more, if_true] at counted ⊢
    -- only a timer that has run down lets a request start
    rcases pressed with still | ⟨down, -⟩
    · exact absurd more (by simp only [act]; omega)
    · refine ⟨counted, timely.armed, fun _ => timer.trans down, ?_, ?_, ?_⟩
      · intro call member time answer found
        rcases List.mem_append.mp member with old | new
        · exact timely.served call old time answer found
        · obtain rfl := List.mem_singleton.mp new
          cases found
      · intro call member success
        rcases List.mem_append.mp member with old | new
        · exact timely.answered call old success
        · obtain rfl := List.mem_singleton.mp new
          cases success
      · intro otp found
        rcases timely.row otp (by rw [← params]; exact found) with late | ⟨call, member, pending⟩
        · exact Or.inl (late.trans same.ge)
        · exact Or.inr ⟨call, List.mem_append_left _ member, pending⟩
  · simp only [press, more, if_false] at counted ⊢
    have still : (act device loop .pressResend).screen.resending = loop.screen.resending := by
      rcases pressed with still | ⟨-, added⟩
      · exact still
      · exact absurd (by simp only [act]; omega) more
    refine ⟨counted, timely.armed, fun sending => ?_, timely.served, timely.answered, ?_⟩
    · exact timer.trans (timely.idle (by rw [← still]; exact sending))
    · intro otp found
      exact (timely.row otp (by rw [← params]; exact found)).imp_left fun late => late.trans same.ge

section Calls
variable {calls : List Call} {index : Nat} {call : Call}

theorem set_keeps (found : calls[index]? = some call) (new other : Call) (member : other ∈ calls) :
    other ∈ calls.set index new ∨ other = call := by
  obtain ⟨place, bound, rfl⟩ := List.mem_iff_getElem.mp member
  by_cases same : index = place
  · subst same
    rw [List.getElem?_eq_getElem bound] at found
    exact Or.inr (Option.some.inj found)
  · refine Or.inl (List.mem_iff_getElem.mpr ⟨place, by simpa using bound, ?_⟩)
    rw [List.getElem_set_ne same]

theorem set_member (found : calls[index]? = some call) (new : Call) : new ∈ calls.set index new :=
  List.mem_set (List.getElem?_eq_some_iff.mp found).1 new

theorem set_awaited (found : calls[index]? = some call) (new : Call) :
    (calls.set index new).countP awaited + (if awaited call then 1 else 0) =
      calls.countP awaited + if awaited new then 1 else 0 := by
  obtain ⟨bound, rfl⟩ := List.getElem?_eq_some_iff.mp found
  have counted : (if awaited calls[index] then 1 else 0) ≤ calls.countP awaited := by
    split
    · next waits => exact List.countP_pos_iff.mpr ⟨_, List.getElem_mem bound, waits⟩
    · exact Nat.zero_le _
  rw [List.countP_set bound]
  omega

theorem awaited_alone (found : calls[index]? = some call) (waits : awaited call = true)
    (single : calls.countP awaited ≤ 1) (other : Call) (member : other ∈ calls)
    (second : awaited other = true) :
    other = call := by
  have counts := set_awaited found { call with settled := some false }
  rw [if_pos waits, if_neg (by simp [awaited])] at counts
  rcases set_keeps found { call with settled := some false } other member with kept | same
  · have rest := List.countP_pos_iff.mpr ⟨other, kept, second⟩
    omega
  · exact same

end Calls

theorem settle_screen (loop : Loop) (index : Nat) (call : Call) (success : Bool) (message : String)
    (pending : Nat) (counted : loop.screen.resending = pending + 1) :
    (settle device loop index call success message).screen.resending = pending ∧
      (settle device loop index call success message).screen.resendTimer =
        if success then TIMING.OTP_RESEND_COOLDOWN else loop.screen.resendTimer := by
  simp only [settle, act, OtpScreens.step, counted]
  cases success <;> exact ⟨rfl, rfl⟩

section Settle
variable {loop : Loop} {index : Nat} {call : Call}

theorem settle_pending (found : loop.calls[index]? = some call) (unsettled : call.settled = none)
    (counted : Counted loop) : ∃ pending, loop.screen.resending = pending + 1 := by
  have waits : 0 < loop.calls.countP awaited :=
    List.countP_pos_iff.mpr ⟨call, List.mem_of_getElem? found, by simp [awaited, unsettled]⟩
  rw [← counted.waiting] at waits
  exact ⟨_, (Nat.succ_pred_eq_of_pos waits).symm⟩

theorem settle_counted (success : Bool) (message : String) (found : loop.calls[index]? = some call)
    (unsettled : call.settled = none) (counted : Counted loop) :
    Counted (settle device loop index call success message) := by
  obtain ⟨pending, more⟩ := settle_pending found unsettled counted
  have fewer := (settle_screen device loop index call success message pending more).1
  have counts := set_awaited found { call with settled := some success }
  rw [if_pos (by simp [awaited, unsettled]), if_neg (by simp [awaited])] at counts
  refine ⟨step_balanced device loop.store loop.screen
    (.resent (if success then none else some message)) counted.loading, ?_⟩
  have waiting := counted.waiting
  rw [fewer]
  simp only [settle]
  omega

theorem settle_timely (success : Bool) (message : String) (found : loop.calls[index]? = some call)
    (unsettled : call.settled = none) (answered : success = true → call.served ≠ none)
    (timely : Timely loop) :
    Timely (settle device loop index call success message) := by
  have member : call ∈ loop.calls := List.mem_of_getElem? found
  obtain ⟨pending, counted⟩ := settle_pending found unsettled timely.toCounted
  have down := timely.idle (by omega)
  have params := OtpScreens.step_params device loop.store loop.screen
    (.resent (if success then none else some message))
  obtain ⟨fewer, timer⟩ := settle_screen device loop index call success message pending counted
  have alone : pending = 0 := by
    have one := timely.loading
    rw [Balanced] at one
    split at one <;> omega
  refine ⟨settle_counted device success message found unsettled timely.toCounted, ?_,
    ?_, ?_, ?_, ?_⟩
  · simp only [settle]
    split
    · exact le_refl _
    · exact timely.armed
  · intro sending
    omega
  -- A call that settles keeps what the server has answered.
  · intro other within time answer served
    rcases List.mem_or_eq_of_mem_set within with old | rfl
    · exact timely.served other old time answer served
    · exact timely.served call member time answer served
  · intro other within succeeds
    rcases List.mem_or_eq_of_mem_set within with old | rfl
    · exact timely.answered other old succeeds
    · exact answered (Option.some.inj succeeds)
  · intro otp stored
    have early := timely.row otp (by rw [← params]; exact stored)
    have armed := timely.armed
    cases success with
    | true =>
        -- the timer starts again now, and the row is not from later
        left
        have now : ready (settle device loop index call true message) = loop.clock + 1000 *
          (60 : Nat) := by
          rw [ready, timer]
          rfl
        have minute : minutes OTP_COOLDOWN_MINUTES = 60000 := rfl
        have older : otp.createdAt ≤ loop.clock := by
          rcases early with late | ⟨other, within, -, answer, served⟩
          · simp only [ready, down, Time] at late armed minute ⊢
            omega
          · exact timely.served other within _ _ served
        simp only [now, minute, Time] at older ⊢
        omega
    | false =>
        have same : ready (settle device loop index call false message) = ready loop := by
          rw [ready, timer]
          rfl
        rcases early with late | ⟨other, within, unsure, answer, served⟩
        · exact Or.inl (late.trans same.ge)
        -- the call behind the row may be the one that has just failed
        · right
          rcases set_keeps found { call with settled := some false } other within with kept | rfl
          · exact ⟨other, kept, unsure, answer, served⟩
          · exact ⟨_, set_member found _, by simp, answer, served⟩

end Settle

theorem wait_timely (loop : Loop) (elapsed : Nat) (timely : Timely loop) :
    Timely { loop with clock := loop.clock + elapsed } := by
  have armed := timely.armed
  refine ⟨⟨timely.loading, timely.waiting⟩, ?_, timely.idle, ?_, timely.answered, timely.row⟩
  · simp only [Time] at armed ⊢
    omega
  · intro call member time answer found
    have earlier := timely.served call member time answer found
    simp only [Time] at earlier ⊢
    omega

theorem timeout_timely (loop : Loop) (counting : 0 < loop.screen.resendTimer)
    (late : loop.armedAt + 1000 ≤ loop.clock) (timely : Timely loop) :
    Timely { act device loop .tick with armedAt := loop.clock } := by
  refine ⟨⟨timely.loading, timely.waiting⟩, le_refl _, ?_, timely.served, timely.answered, ?_⟩
  · intro sending
    exact absurd (timely.idle sending) (by omega)
  · intro otp found
    refine (timely.row otp found).imp_left fun before => before.trans ?_
    simp only [ready, act, OtpScreens.step, Time] at late ⊢
    omega

theorem opening_clock (loop : Loop) (draw : Nat → Tick) (n : Nat) :
    ((opening loop draw).clock (n + 1)).now = loop.clock := rfl

theorem serve_counted (loop : Loop) (index : Nat) (settled : Option Bool) (draw : Nat → Tick)
    (found : loop.calls[index]? = some { served := none, settled }) (counted : Counted loop) :
    Counted (serve loop index settled draw) := by
  have counts := set_awaited found
    { served := some (loop.clock, (exec perform (requestOTP (resend loop)) (opening loop draw)).1),
      settled }
  exact ⟨counted.loading, counted.waiting.trans (Nat.add_right_cancel counts).symm⟩

theorem serve_timely (loop : Loop) (index : Nat) (settled : Option Bool) (draw : Nat → Tick)
    (found : loop.calls[index]? = some { served := none, settled }) (timely : Timely loop) :
    Timely (serve loop index settled draw) := by
  have counted := serve_counted loop index settled draw found timely.toCounted
  simp only [serve] at counted ⊢
  generalize (exec perform (requestOTP (resend loop)) (opening loop draw)).1 = answer at counted ⊢
  -- The screen cannot have heard of a success before the server has answered.
  have unfinished : settled ≠ some true := by
    rintro rfl
    exact timely.answered _ (List.mem_of_getElem? found) rfl rfl
  refine ⟨counted, timely.armed, timely.idle, ?_, ?_, ?_⟩
  · intro call within time reply served
    rcases List.mem_or_eq_of_mem_set within with old | rfl
    · exact timely.served call old time reply served
    · cases served
      exact le_refl _
  · intro call within success
    rcases List.mem_or_eq_of_mem_set within with old | rfl
    · exact timely.answered call old success
    · exact absurd success unfinished
  · intro otp stored
    -- Either the row stays, and with it the call that wrote it, or this call writes one dated now.
    rcases send_row (resend loop) (opening loop draw) loop.clock loop.screen.params.phone
        (opening_clock loop draw) with same | ⟨row, -, dated, fresh⟩
    · rcases timely.row otp (same.symm.trans stored) with
        late | ⟨call, within, pending, reply, served⟩
      · exact Or.inl late
      · rcases set_keeps found { served := some (loop.clock, answer), settled } call within with
          kept | rfl
        · exact Or.inr ⟨call, kept, pending, reply, served⟩
        · cases served
    · obtain rfl := Option.some.inj (fresh.symm.trans stored)
      exact Or.inr ⟨_, set_member found _, unfinished, answer, by rw [dated]⟩

theorem other_timely (loop : Loop) (db : Db) (keeps : KeepsDate loop.screen.params.phone loop.db db)
    (timely : Timely loop) : Timely { loop with db } := by
  refine ⟨⟨timely.loading, timely.waiting⟩, timely.armed, timely.idle, timely.served,
    timely.answered, ?_⟩
  intro otp stored
  obtain ⟨old, before, same⟩ := keeps otp stored
  rw [← same]
  exact timely.row old before

theorem step_counted (loop : Loop) (move : Move) (counted : Counted loop) :
    Counted (step env device loop move) := by
  cases move with
  | wait elapsed => exact ⟨counted.loading, counted.waiting⟩
  | event event =>
      cases event with
      | pressResend => exact press_counted device loop counted
      | tick => exact counted
      | resent failure => exact counted
      | changeText text => exact typed_counted device loop _ rfl counted
      | pressBack => exact typed_counted device loop _ rfl counted
      | verified failure => exact typed_counted device loop _ rfl counted
  | timeout =>
      simp only [step]
      split
      · exact ⟨counted.loading, counted.waiting⟩
      · exact counted
  | serve index draw =>
      simp only [step]
      split
      · next settled found => exact serve_counted loop index settled draw found counted
      · exact counted
  | deliver index message =>
      simp only [step]
      split
      · next time answer found => exact settle_counted device _ message found rfl counted
      · exact counted
  | lose index message =>
      simp only [step]
      split
      · next served found => exact settle_counted device false message found rfl counted
      · exact counted
  | other request draw =>
      simp only [step]
      split
      · exact counted
      · exact ⟨counted.loading, counted.waiting⟩

theorem run_counted (loop : Loop) (moves : List Move) (counted : Counted loop) :
    Counted (run env device loop moves) := by
  induction moves generalizing loop with
  | nil => exact counted
  | cons move rest ih => exact ih _ (step_counted env device loop move counted)

theorem step_timely (loop : Loop) (move : Move) (timely : Timely loop) :
    Timely (step env device loop move) := by
  cases move with
  | wait elapsed => exact wait_timely loop elapsed timely
  | event event =>
      cases event with
      | pressResend => exact press_timely device loop timely
      | tick => exact timely
      | resent failure => exact timely
      | changeText text => exact typed_timely device loop _ rfl timely
      | pressBack => exact typed_timely device loop _ rfl timely
      | verified failure => exact typed_timely device loop _ rfl timely
  | timeout =>
      simp only [step]
      split
      · next due => exact timeout_timely device loop due.1 due.2 timely
      · exact timely
  | serve index draw =>
      simp only [step]
      split
      · next settled found => exact serve_timely loop index settled draw found timely
      · exact timely
  | deliver index message =>
      simp only [step]
      split
      · next time answer found => exact settle_timely device _ message found rfl (by simp) timely
      · exact timely
  | lose index message =>
      simp only [step]
      split
      · next served found => exact settle_timely device false message found rfl (by simp) timely
      · exact timely
  | other request draw =>
      simp only [step]
      split
      · exact timely
      · next foreign =>
          refine other_timely loop _ ?_ timely
          refine other_keeps env _ request (opening loop draw) loop.clock
            (opening_clock loop draw) ?_
          rintro body rfl own
          exact foreign (by simp [asks, own])

theorem run_timely (loop : Loop) (moves : List Move) (timely : Timely loop) :
    Timely (run env device loop moves) := by
  induction moves generalizing loop with
  | nil => exact timely
  | cons move rest ih => exact ih _ (step_timely env device loop move timely)

theorem start_timely (params : ScreenRoutes.OtpScreenParams) (clock : Time) (db : Db)
    (past : ∀ otp, db.findOtp params.phone = some otp → otp.createdAt ≤ clock) :
    Timely (start params clock db) := by
  refine ⟨⟨rfl, rfl⟩, le_refl _, fun sending => absurd sending (Nat.lt_irrefl 0), by simp [start],
    by simp [start], ?_⟩
  intro otp found
  have older := past otp found
  left
  simp only [ready, start, OtpScreens.mount, TIMING.OTP_RESEND_COOLDOWN, minutes,
    OTP_COOLDOWN_MINUTES, Time] at older ⊢
  omega

/-- One request is in flight at the most, be it a verification or a resend, and isLoading tells. -/
theorem one_in_flight (params : ScreenRoutes.OtpScreenParams) (clock : Time) (db : Db)
    (moves : List Move) :
    (run env device (start params clock db) moves).screen.verifying +
        (run env device (start params clock db) moves).calls.countP awaited =
      if (run env device (start params clock db) moves).store.isLoading then 1 else 0 := by
  have counted := run_counted env device (start params clock db) moves ⟨rfl, rfl⟩
  rw [← counted.waiting]
  exact counted.loading

/-- A resend that the screen waits for is refused as too early only within a minute of an earlier
one that has been served while the screen took it for failed. -/
theorem resend_timely (params : ScreenRoutes.OtpScreenParams) (clock : Time) (db : Db)
    (moves : List Move) (past : ∀ otp, db.findOtp params.phone = some otp → otp.createdAt ≤ clock)
    (loop : Loop) (reached : run env device (start params clock db) moves = loop) (index : Nat)
    (waits : loop.calls[index]? = some { served := none, settled := none }) (draw : Nat → Tick)
    (refused : (exec perform (requestOTP (resend loop)) (opening loop draw)).1 =
      .ok res.otpRateLimited) :
    ∃ call ∈ loop.calls, call.settled = some false ∧
      ∃ time answer, call.served = some (time, answer) ∧
        loop.clock < time + minutes OTP_COOLDOWN_MINUTES := by
  have timely : Timely loop :=
    reached ▸ run_timely env device _ moves (start_timely params clock db past)
  obtain ⟨otp, found, recent⟩ := limited_recent (resend loop) (opening loop draw) refused
  obtain ⟨pending, more⟩ := settle_pending waits rfl timely.toCounted
  have down := timely.idle (by omega)
  have young : loop.clock < otp.createdAt + minutes OTP_COOLDOWN_MINUTES := by
    have present : ((opening loop draw).ticks 0).now = loop.clock := rfl
    rw [present] at recent
    simp only [Time] at recent ⊢
    omega
  rcases timely.row otp found with late | ⟨call, member, unsettled, answer, served⟩
  · -- the timer has run down, so a minute has passed
    have armed := timely.armed
    simp only [ready, down, Time] at late young armed
    omega
  · refine ⟨call, member, ?_, _, answer, served, young⟩
    cases settled : call.settled with
    | some success =>
        cases success with
        | true => exact absurd settled unsettled
        | false => rfl
    | none =>
        -- it would be a second one that waits
        have single : loop.calls.countP awaited ≤ 1 := by
          have one := timely.loading
          rw [Balanced, timely.waiting] at one
          split at one <;> omega
        have same := awaited_alone waits rfl single call member (by simp [awaited, settled])
        rw [same] at served
        cases served

end Loop

section Lost

def sampleParams : ScreenRoutes.OtpScreenParams :=
  { phone := "2125550123", purpose := .signup, name := some "Ada", gender := some "female",
    birthYear := some "1990" }

def answerLost : List Move :=
  (List.replicate 60 [.wait 1000, .timeout]).flatten ++
    [.event .pressResend, .serve 0 (fun _ => tickAt 0 "a"), .lose 0 "Network Error",
      .event .pressResend]

def pressedAgain : Loop :=
    run sampleEnv ScreenRoutes.sampleDevice (start sampleParams 0 Db.empty) answerLost

set_option maxRecDepth 4000

theorem pressed_refused :
    (exec perform (requestOTP (resend pressedAgain))
      (opening pressedAgain fun _ => tickAt 0 "b")).1 =
      .ok res.otpRateLimited := rfl

theorem resend_timely_lost :
    ∃ call ∈ pressedAgain.calls, call.settled = some false ∧
      ∃ time answer, call.served = some (time, answer) ∧
        pressedAgain.clock < time + minutes OTP_COOLDOWN_MINUTES :=
  resend_timely sampleEnv ScreenRoutes.sampleDevice sampleParams 0 Db.empty answerLost
    (fun _ found => by cases found) pressedAgain rfl 1 rfl (fun _ => tickAt 0 "b") pressed_refused

end Lost

end TopInspect.ResendTimer
