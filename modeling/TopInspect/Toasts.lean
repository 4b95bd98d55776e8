import Mathlib

/-! Toasts. One slot of the module is written by show timers, by close timers that force the
hide, and by route changes; the alert on the screen runs an auto-dismiss timer of its own. What
setTimeout makes of a duration is a parameter. -/
namespace TopInspect.Toasts

section Durations

def getUnicodeLength (text : String) : Nat := text.length

def calculateReadingTime (text : String) : Nat :=
  let charCount := getUnicodeLength text
  let calculatedTime := 1000 + charCount * 100
  min (max calculatedTime 2000) 10000

def digitsValue (digits : List Char) : Nat :=
  digits.foldl (fun value digit => value * 10 + (digit.toNat - '0'.toNat)) 0

-- Two roundings to a double, by parseFloat and by the product; what has no such form throws.
def parseDuration (duration : String) : Option Float.Model :=
  let whole := duration.toList.takeWhile Char.isDigit
  let rest := duration.toList.dropWhile Char.isDigit
  let split := match rest with
    | '.' :: more => (more.takeWhile Char.isDigit, more.dropWhile Char.isDigit)
    | _ => ([], rest)
  let value := Float.Model.ofScientific (digitsValue (whole ++ split.1)) (-split.1.length)
  if whole = [] ∨ (rest.head? = some '.' ∧ split.1 = []) then none
  else match split.2 with
    | ['s'] => some (value.mul (Float.Model.ofNat 1000))
    | ['m', 's'] => some value
    | _ => none

example : parseDuration "1.5s" = some (Float.Model.ofNat 1500) ∧
    parseDuration "1.001s" = some (Float.Model.ofScientific 10009999999999999 (-13)) ∧
      parseDuration "1.5 s" = none := by decide

end Durations

inductive AlertVariant where
  | success
  | error
  | warning
  | info
  deriving DecidableEq

inductive Dismiss where
  | text (value : String)
  | number (value : Int)
  deriving DecidableEq

def Dismiss.isTruthy : Dismiss → Bool
  | .text value => value ≠ ""
  | .number value => value ≠ 0

structure ToastProps where
  variant : Option AlertVariant := none
  title : Option String := none
  message : String
  showIcon : Option Bool := none
  dismiss : Option Dismiss := none

/-- A toast object; the serial number tells it from other objects with the same content. -/
structure Toast where
  serial : Nat
  variant : AlertVariant
  title : Option String
  message : String
  showIcon : Bool
  dismiss : Dismiss
  deriving DecidableEq

def Toast.isManual (toast : Toast) : Bool := toast.dismiss = .text "manual"

/-- The alert on the screen, and when its auto-dismiss timer is due. -/
structure Alert where
  toast : Toast
  timer : Option Nat

/-- The slot, what the container has been told to show, and the timers that are running. -/
structure State where
  now : Nat
  calls : Nat
  toastState : Option Toast
  toast : Option Toast
  alert : Option Alert
  shows : List (Nat × Toast)
  closes : List Nat

def start : State :=
  { now := 0, calls := 0, toastState := none, toast := none, alert := none,
    shows := [], closes := [] }

section Functions
variable (state : State)

def showToast (props : ToastProps) : State :=
  let toast := { serial := state.calls, variant := props.variant.getD .info, title := props.title
                 message := props.message, showIcon := props.showIcon ≠ some false
                 dismiss := (props.dismiss.filter Dismiss.isTruthy).getD (.text "auto") }
  { state with calls := state.calls + 1, shows := state.shows ++ [(state.now, toast)] }

def setToastState (toast : Option Toast) : State := { state with toastState := toast, toast }

def hideToast (force : Bool) : State :=
  if force || !state.toastState.any Toast.isManual then setToastState state none else state

def handleClose : State := { state with closes := state.closes ++ [state.now + 250] }

def duration (toast : Toast) : Option Float.Model :=
  match toast.dismiss with
  | .text value =>
      if value = "auto" then some (Float.Model.ofNat (calculateReadingTime toast.message))
      else parseDuration value
  | .number value => some (Float.Model.ofInt value)

variable (delay : Float.Model → Nat)

-- An alert that stays on the screen keeps its timer, unless dismiss or message have changed.
def render : Option State :=
  match state.toast with
  | none => some { state with alert := none }
  | some toast =>
      match state.alert.filter fun alert =>
          alert.toast.dismiss = toast.dismiss && alert.toast.message = toast.message with
      | some alert => some { state with alert := some { alert with toast } }
      | none =>
          if toast.isManual then some { state with alert := some { toast, timer := none } }
          else (duration toast).map fun time =>
            { state with alert := some { toast, timer := some (state.now + delay time) } }

end Functions

inductive Event where
  | elapse (time : Nat)
  | showToast (props : ToastProps)
  | showTimer
  | render
  | autoTimer
  | press
  | closeTimer
  | routeChange

section Runs
variable (delay : Float.Model → Nat)

/-- A timer fires when it is due or later; an event without its cause does not happen. -/
def step (state : State) : Event → Option State
  | .elapse time => some { state with now := state.now + time }
  | .showToast props => some (showToast state props)
  | .showTimer =>
      match state.shows with
      | (due, toast) :: rest =>
          if due ≤ state.now then some (setToastState { state with shows := rest } (some toast))
            else none
      | [] => none
  | .render => render state delay
  | .autoTimer =>
      match state.alert with
      | some { toast, timer := some due } =>
          if due ≤ state.now then
            some (handleClose { state with alert := some { toast, timer := none } })
          else none
      | _ => none
  | .press => if state.alert.isSome then some (handleClose state) else none
  | .closeTimer =>
      match state.closes with
      | due :: rest =>
          if due ≤ state.now then some (hideToast { state with closes := rest } true) else none
      | [] => none
  | .routeChange => some (hideToast state false)

def run (state : State) : List Event → Option State
  | [] => some state
  | event :: rest => (step delay state event).bind fun next => run next rest

def along (guard : State → Event → Bool) (state : State) : List Event → Bool
  | [] => true
  | event :: rest =>
      guard state event && (step delay state event).all fun next => along guard next rest

theorem along_append (guard : State → Event → Bool) (state middle : State)
    (first second : List Event) (ran : run delay state first = some middle)
    (guarded : along delay guard state (first ++ second) = true) :
    along delay guard middle second = true := by
  induction first generalizing state with
  | nil =>
      cases ran
      exact guarded
  | cons event rest ih =>
      obtain ⟨next, stepped, later⟩ := Option.bind_eq_some_iff.mp ran
      simp only [List.cons_append, along, Bool.and_eq_true, stepped, Option.all_some] at guarded
      exact ih next later guarded.2

end Runs

section Manual
variable (delay : Float.Model → Nat)

/-- How many close timers are running that the toast to be shown has not started; none of them
counts any more when its own close button has been tapped. -/
def strangers (count : Nat) (state : State) : Event → Nat
  | .showTimer => state.closes.length
  | .autoTimer => if state.alert.map Alert.toast = state.toast then count else count + 1
  | .press => if state.alert.map Alert.toast = state.toast then 0 else count + 1
  | .closeTimer => count - 1
  | _ => count

/-- No close timer of another toast fires while a manual toast is to be shown. -/
def spares (count : Nat) (state : State) : Event → Bool
  | .closeTimer => !state.toast.any Toast.isManual || count = 0
  | _ => true

def calm (count : Nat) (state : State) : List Event → Bool
  | [] => true
  | event :: rest =>
      spares count state event &&
        (step delay state event).all fun next => calm (strangers count state event) next rest

def untouched (toast : Toast) (state : State) : Event → Bool
  | .showTimer => false
  | .press => state.alert.map Alert.toast ≠ some toast
  | _ => true

/-- Each manual toast of a run stays on display, from when it is shown to the end or until
its close button is tapped or another toast is shown. -/
def ManualStays (events : List Event) : Prop :=
  ∀ (before after : List Event) (state shown later : State) (toast : Toast),
    events = before ++ .showTimer :: after → run delay start before = some state →
      step delay state .showTimer = some shown → shown.toast = some toast → toast.isManual = true →
        along delay (untouched toast) shown after = true → run delay shown after = some later →
          later.toast = some toast

/-- What holds in every state: the container shows the slot, and no manual toast has a timer. -/
structure Sound (state : State) : Prop where
  same : state.toastState = state.toast
  timed : ∀ alert ∈ state.alert, alert.timer.isSome = true → alert.toast.isManual = false

theorem sound_start : Sound start := ⟨rfl, by simp [start]⟩

theorem sound_hidden (state : State) (force : Bool) (sound : Sound state) :
    Sound (hideToast state force) := by
  unfold hideToast
  split
  · exact ⟨rfl, sound.timed⟩
  · exact sound

theorem sound_render (state next : State) (sound : Sound state)
    (rendered : render state delay = some next) :
    Sound next := by
  unfold render at rendered
  split at rendered
  · cases rendered
    exact ⟨sound.same, by simp⟩
  · next toast shown =>
      split at rendered
      · next alert kept =>
          cases rendered
          refine ⟨sound.same, ?_⟩
          intro other same armed
          cases same
          obtain ⟨found, alike⟩ := Option.filter_eq_some_iff.mp kept
          -- An alert of an equal toast is kept, so its timer is one of a toast that is not manual.
          have own := sound.timed alert found armed
          simp only [Bool.and_eq_true, decide_eq_true_eq] at alike
          simpa [Toast.isManual, ← alike.1] using own
      · split at rendered
        · cases rendered
          refine ⟨sound.same, ?_⟩
          intro other same armed
          cases same
          cases armed
        · next auto =>
            obtain ⟨time, -, rfl⟩ := Option.map_eq_some_iff.mp rendered
            refine ⟨sound.same, ?_⟩
            intro other same _
            cases same
            exact Bool.eq_false_iff.mpr auto

theorem sound_step (state next : State) (event : Event) (sound : Sound state)
    (stepped : step delay state event = some next) : Sound next := by
  cases event with
  | elapse time =>
      cases stepped
      exact ⟨sound.same, sound.timed⟩
  | showToast props =>
      cases stepped
      exact ⟨sound.same, sound.timed⟩
  | showTimer =>
      simp only [step] at stepped
      split at stepped
      · split at stepped
        · cases stepped
          exact ⟨rfl, sound.timed⟩
        · cases stepped
      · cases stepped
  | render => exact sound_render delay state next sound stepped
  | autoTimer =>
      simp only [step] at stepped
      split at stepped
      · split at stepped
        · cases stepped
          refine ⟨sound.same, ?_⟩
          intro alert same armed
          cases same
          cases armed
        · cases stepped
      · cases stepped
  | press =>
      simp only [step] at stepped
      split at stepped
      · cases stepped
        exact ⟨sound.same, sound.timed⟩
      · cases stepped
  | closeTimer =>
      simp only [step] at stepped
      split at stepped
      · split at stepped
        · cases stepped
          exact sound_hidden _ true ⟨sound.same, sound.timed⟩
        · cases stepped
      · cases stepped
  | routeChange =>
      cases stepped
      exact sound_hidden state false sound

theorem sound_run (state later : State) (events : List Event) (sound : Sound state)
    (ran : run delay state events = some later) : Sound later := by
  induction events generalizing state with
  | nil =>
      cases ran
      exact sound
  | cons event rest ih =>
      obtain ⟨next, stepped, remaining⟩ := Option.bind_eq_some_iff.mp ran
      exact ih next (sound_step delay state next event sound stepped) remaining

/-- A toast on display before its close button is tapped: no running close timer is its own. -/
structure Held (toast : Toast) (count : Nat) (state : State) : Prop where
  shown : state.toast = some toast
  counted : count = state.closes.length

/-- Nothing but a close timer of another toast ends a held manual toast. -/
theorem held_step (toast : Toast) (manual : toast.isManual = true) (count : Nat)
    (state next : State) (event : Event) (sound : Sound state) (held : Held toast count state)
    (guarded : spares count state event = true)
    (alone : untouched toast state event = true) (stepped : step delay state event = some next) :
    Held toast (strangers count state event) next := by
  cases event with
  | elapse time =>
      cases stepped
      exact ⟨held.shown, held.counted⟩
  | showToast props =>
      cases stepped
      exact ⟨held.shown, held.counted⟩
  | showTimer => cases alone
  | render =>
      simp only [step, render, held.shown] at stepped
      split at stepped
      · cases stepped
        exact ⟨rfl, held.counted⟩
      · rw [if_pos manual] at stepped
        cases stepped
        exact ⟨rfl, held.counted⟩
  | autoTimer =>
      simp only [step] at stepped
      split at stepped
      · next other due present =>
          split at stepped
          · cases stepped
            -- A manual toast has no timer, so the alert on the screen is another's.
            have apart : state.alert.map Alert.toast ≠ state.toast := by
              rw [present, held.shown]
              intro same
              cases same
              exact absurd manual (by simp [sound.timed _ present rfl])
            refine ⟨held.shown, ?_⟩
            rw [strangers, if_neg apart, held.counted]
            simp [handleClose]
          · cases stepped
      · cases stepped
  | press =>
      simp only [step] at stepped
      split at stepped
      · cases stepped
        have apart : state.alert.map Alert.toast ≠ state.toast := by
          rw [held.shown]
          simpa [untouched] using alone
        refine ⟨held.shown, ?_⟩
        rw [strangers, if_neg apart, held.counted]
        simp [handleClose]
      · cases stepped
  | closeTimer =>
      have none : count = 0 := by simpa [spares, held.shown, manual] using guarded
      have quiet : state.closes = [] := List.eq_nil_of_length_eq_zero (held.counted.symm.trans none)
      simp [step, quiet] at stepped
  | routeChange =>
      have kept : state.toastState.any Toast.isManual = true := by
        rw [sound.same, held.shown]
        exact manual
      simp only [step, hideToast, kept, Bool.not_true, Bool.or_self, Bool.false_eq_true,
        if_false] at stepped
      cases stepped
      exact held

theorem held_run (toast : Toast) (manual : toast.isManual = true) (count : Nat)
    (state later : State) (events : List Event) (sound : Sound state)
    (held : Held toast count state) (guarded : calm delay count state events = true)
    (alone : along delay (untouched toast) state events = true)
    (ran : run delay state events = some later) : later.toast = some toast := by
  induction events generalizing count state with
  | nil =>
      cases ran
      exact held.shown
  | cons event rest ih =>
      obtain ⟨next, stepped, remaining⟩ := Option.bind_eq_some_iff.mp ran
      simp only [along, Bool.and_eq_true, stepped, Option.all_some] at alone
      rw [calm, stepped, Option.all_some, Bool.and_eq_true] at guarded
      exact ih _ next (sound_step delay state next event sound stepped)
        (held_step delay toast manual count state next event sound held guarded.1 alone.1 stepped)
          guarded.2
        alone.2 remaining

/-- When a toast is shown, all close timers that are running are of others. -/
theorem shown_held (toast : Toast) (count : Nat) (state shown : State)
    (stepped : step delay state .showTimer = some shown) (displayed : shown.toast = some toast) :
    Held toast (strangers count state .showTimer) shown := by
  simp only [step] at stepped
  split at stepped
  · split at stepped
    · cases stepped
      exact ⟨displayed, rfl⟩
    · cases stepped
  · cases stepped

theorem calm_append (count : Nat) (state middle : State) (first second : List Event)
    (ran : run delay state first = some middle)
    (guarded : calm delay count state (first ++ second) = true) :
    ∃ count, calm delay count middle second = true := by
  induction first generalizing count state with
  | nil =>
      cases ran
      exact ⟨count, guarded⟩
  | cons event rest ih =>
      obtain ⟨next, stepped, later⟩ := Option.bind_eq_some_iff.mp ran
      rw [List.cons_append, calm, stepped, Option.all_some, Bool.and_eq_true] at guarded
      exact ih _ next later guarded.2

theorem manual_stays (events : List Event) (guarded : calm delay 0 start events = true) :
    ManualStays delay events := by
  rintro before after state shown later toast rfl reached stepped displayed manual alone ran
  obtain ⟨count, rest⟩ :=
    calm_append delay 0 start state before (.showTimer :: after) reached guarded
  rw [calm, stepped, Option.all_some, Bool.and_eq_true] at rest
  have sound := sound_step delay state shown .showTimer
    (sound_run delay start state before sound_start reached) stepped
  exact held_run delay toast manual _ shown later after sound
    (shown_held delay toast count state shown stepped displayed) rest.2 alone ran

def truncated (time : Float.Model) : Nat := time.toUInt64.toNat

def saved : ToastProps := { message := "Saved" }

def offline : ToastProps := { message := "No connection", dismiss := some (.text "manual") }

-- The close timer of the first toast finds a third one on display.
theorem offline_stays :
    ManualStays truncated [.showToast saved, .showTimer, .render, .elapse 2000, .autoTimer,
      .showToast offline, .showTimer, .render, .routeChange, .press, .elapse 250, .showToast saved,
      .showTimer, .closeTimer, .closeTimer, .render] :=
  manual_stays truncated _ (by decide)

/-- The close timer of an earlier toast takes a manual one away. -/
theorem offline_swept : ¬ ∀ events : List Event, ManualStays truncated events := by
  intro stays
  have kept := stays
    ([.showToast saved, .showTimer, .render, .elapse 2000, .autoTimer, .showToast offline] ++
      .showTimer :: [.render, .elapse 250, .closeTimer])
    [.showToast saved, .showTimer, .render, .elapse 2000, .autoTimer, .showToast offline]
    [.render, .elapse 250, .closeTimer] _ _ _ _ rfl rfl rfl rfl rfl rfl rfl
  exact absurd kept (by decide)

end Manual

end TopInspect.Toasts
