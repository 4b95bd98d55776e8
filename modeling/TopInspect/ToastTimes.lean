import TopInspect.Binary64
import TopInspect.Toasts

/-! How long toasts stay, with timers on time. Time passes no timer that is due, and what the
container has been told is rendered before anything else happens; then each toast that is not
manual goes away within its duration and the quarter of a second that closing takes. -/
namespace TopInspect.Toasts

section Times
variable (delay : Float.Model → Nat)

/-- When the timers of the alert and of its closing are due. -/
def dueTimes (state : State) : List Nat := (state.alert.bind Alert.timer).toList ++ state.closes

/-- The alert on the screen is of the toast that the container has been told to show. -/
def isRendered (state : State) : Bool := state.alert.map Alert.toast = state.toast

/-- Timers are on time, and so is the screen. -/
def prompt (state : State) : Event → Bool
  | .elapse time => isRendered state && (dueTimes state).all fun due => state.now + time ≤ due
  | .showToast _ => true
  | .render => true
  | _ => isRendered state

def displays (toast : Toast) (state : State) (_ : Event) : Bool := state.toast = some toast

theorem reading_time_bounds (text : String) :
    2000 ≤ calculateReadingTime text ∧ calculateReadingTime text ≤ 10000 := by
  simp only [calculateReadingTime]
  omega

/-- What timers on time keep: none is overdue or farther off than it was set, and an alert that is
not manual has one that will take it away. -/
structure Timely (state : State) : Prop where
  ahead : ∀ due ∈ dueTimes state, state.now ≤ due
  timed : ∀ alert ∈ state.alert, ∀ due, alert.timer = some due →
    ∀ time, duration alert.toast = some time →
    due ≤ state.now + delay time
  closing : ∀ due ∈ state.closes, due ≤ state.now + 250
  leaving : ∀ alert ∈ state.alert, alert.toast.isManual = false → state.toast.isSome = true →
    alert.timer.isSome = true ∨ state.closes ≠ []

theorem timely_start : Timely delay start where
  ahead := by simp [dueTimes, start]
  timed := by simp [start]
  closing := by simp [start]
  leaving := by simp [start]

theorem rendered_toast (state : State) (rendered : isRendered state = true) (alert : Alert)
    (present : alert ∈ state.alert) : state.toast = some alert.toast := by
  have same : state.alert.map Alert.toast = state.toast := by simpa [isRendered] using rendered
  rw [← same, Option.mem_def.mp present, Option.map_some]

theorem timely_told (state : State) (toast : Option Toast) (timely : Timely delay state)
    (rendered : isRendered state = true) : Timely delay (setToastState state toast) where
  ahead := timely.ahead
  timed := timely.timed
  closing := timely.closing
  leaving := by
    intro alert present auto _
    exact timely.leaving alert present auto
      (by rw [rendered_toast state rendered alert present]; rfl)

theorem timely_close (state : State) (ahead : ∀ due ∈ dueTimes state, state.now ≤ due)
    (timed : ∀ alert ∈ state.alert, ∀ due, alert.timer = some due → ∀ time,
      duration alert.toast = some time →
      due ≤ state.now + delay time) (closing : ∀ due ∈ state.closes, due ≤ state.now + 250) :
      Timely delay (handleClose state) where
  ahead := by
    intro due member
    rcases List.mem_append.mp member with timer | closes
    · exact ahead due (List.mem_append_left _ timer)
    · rcases List.mem_append.mp closes with old | new
      · exact ahead due (List.mem_append_right _ old)
      · rw [List.mem_singleton.mp new]
        exact Nat.le_add_right _ _
  timed := timed
  closing := by
    intro due member
    rcases List.mem_append.mp member with old | new
    · exact closing due old
    · exact le_of_eq (List.mem_singleton.mp new)
  leaving := fun _ _ _ _ => Or.inr (by simp [handleClose])

theorem timely_render (state next : State) (timely : Timely delay state)
    (rendered : render state delay = some next) :
    Timely delay next := by
  have closes : ∀ due ∈ state.closes, state.now ≤ due := fun due member =>
    timely.ahead due (List.mem_append_right _ member)
  unfold render at rendered
  split at rendered
  · cases rendered
    exact ⟨fun due member => closes due (by simpa [dueTimes] using member), by simp,
      timely.closing, by simp⟩
  · next toast shown =>
      split at rendered
      · next alert kept =>
          cases rendered
          obtain ⟨found, alike⟩ := Option.filter_eq_some_iff.mp kept
          simp only [Bool.and_eq_true, decide_eq_true_eq] at alike
          -- The alert goes on under a toast of the same text and dismissal.
          have manual : alert.toast.isManual = toast.isManual := by
            simp only [Toast.isManual, alike.1]
          have lasts : duration alert.toast = duration toast := by
            simp only [duration, alike.1, alike.2]
          refine ⟨?_, ?_, timely.closing, ?_⟩
          · intro due member
            apply timely.ahead due
            simpa [dueTimes, found] using member
          · intro other same due armed time held
            cases same
            exact timely.timed alert found due armed time (lasts.trans held)
          · intro other same auto _
            cases same
            exact timely.leaving alert found (manual.trans auto) (by rw [shown]; rfl)
      · split at rendered
        · next manual =>
            cases rendered
            refine ⟨fun due member => closes due (by simpa [dueTimes] using member), ?_,
              timely.closing, ?_⟩
            · intro other same due armed
              cases same
              cases armed
            · intro other same auto _
              cases same
              exact absurd manual (by simp [auto])
        · obtain ⟨time, lasts, rfl⟩ := Option.map_eq_some_iff.mp rendered
          refine ⟨?_, ?_, timely.closing, ?_⟩
          · intro due member
            rcases List.mem_append.mp member with timer | old
            · have armed : due = state.now + delay time := by simpa using timer
              rw [armed]
              exact Nat.le_add_right _ _
            · exact closes due old
          · intro other same due armed held length
            cases same
            cases armed
            rw [lasts] at length
            cases length
            exact Nat.le_refl _
          · intro other same _ _
            cases same
            exact Or.inl rfl

theorem timely_step (state next : State) (event : Event) (timely : Timely delay state)
    (guarded : prompt state event = true) (stepped : step delay state event = some next) :
    Timely delay next := by
  -- Time passes no timer that is due; all other events take no time.
  cases event with
  | elapse time =>
      cases stepped
      simp only [prompt, Bool.and_eq_true, List.all_eq_true, decide_eq_true_eq] at guarded
      exact ⟨guarded.2, fun alert present due armed length lasts =>
        (timely.timed alert present due armed length lasts).trans (by dsimp only; omega),
        fun due member => (timely.closing due member).trans (by dsimp only; omega), timely.leaving⟩
  | showToast props =>
      cases stepped
      exact ⟨timely.ahead, timely.timed, timely.closing, timely.leaving⟩
  | showTimer =>
      simp only [step] at stepped
      split at stepped
      · split at stepped
        · cases stepped
          exact timely_told delay _ _ ⟨timely.ahead, timely.timed, timely.closing, timely.leaving⟩
            guarded
        · cases stepped
      · cases stepped
  | render => exact timely_render delay state next timely stepped
  | autoTimer =>
      simp only [step] at stepped
      split at stepped
      · next toast due shown =>
          split at stepped
          · cases stepped
            apply timely_close
            · intro close member
              rcases List.mem_append.mp member with timer | set
              · simp at timer
              · exact timely.ahead close (List.mem_append_right _ set)
            · intro alert same other armed
              cases same
              cases armed
            · exact timely.closing
          · cases stepped
      · cases stepped
  | press =>
      simp only [step] at stepped
      split at stepped
      · cases stepped
        exact timely_close delay state timely.ahead timely.timed timely.closing
      · cases stepped
  | closeTimer =>
      simp only [step] at stepped
      split at stepped
      · next due rest closes =>
          split at stepped
          · cases stepped
            refine ⟨fun other member => timely.ahead other ?_, timely.timed,
              fun other member => timely.closing other ?_,
              fun _ _ _ shown => by cases shown⟩
            · rcases List.mem_append.mp member with timer | later
              · exact List.mem_append_left _ timer
              · exact List.mem_append_right _ (closes ▸ List.mem_cons_of_mem _ later)
            · exact closes ▸ List.mem_cons_of_mem _ member
          · cases stepped
      · cases stepped
  | routeChange =>
      cases stepped
      unfold hideToast
      split
      · exact timely_told delay state none timely guarded
      · exact timely

theorem timely_run (state later : State) (events : List Event) (timely : Timely delay state)
    (guarded : along delay prompt state events = true) (ran : run delay state events = some later) :
    Timely delay later := by
  induction events generalizing state with
  | nil =>
      cases ran
      exact timely
  | cons event rest ih =>
      obtain ⟨next, stepped, remaining⟩ := Option.bind_eq_some_iff.mp ran
      simp only [along, Bool.and_eq_true, stepped, Option.all_some] at guarded
      exact ih next (timely_step delay state next event timely guarded.1 stepped) guarded.2
        remaining

theorem along_front (guard : State → Event → Bool) (state : State) (first second : List Event)
    (guarded : along delay guard state (first ++ second) = true) :
    along delay guard state first = true := by
  induction first generalizing state with
  | nil => rfl
  | cons event rest ih =>
      simp only [List.cons_append, along, Bool.and_eq_true] at guarded ⊢
      refine ⟨guarded.1, ?_⟩
      cases stepped : step delay state event with
      | none => rfl
      | some next =>
          rw [stepped, Option.all_some] at guarded
          exact ih next guarded.2

structure Closing (toast : Toast) (limit : Nat) (state : State) : Prop where
  displayed : state.toast = some toast
  alert : ∃ timer, state.alert = some { toast, timer } ∧
    ((∃ due, timer = some due ∧ due + 250 ≤ limit) ∨ ∃ due ∈ state.closes, due ≤ limit)
  now : state.now ≤ limit

/-- As long as the toast stays, its timers keep to the limit. -/
theorem closing_step (toast : Toast) (limit : Nat) (state next : State) (event : Event)
    (timely : Timely delay state) (closing : Closing toast limit state)
    (guarded : prompt state event = true) (stepped : step delay state event = some next)
    (stays : next.toast = some toast) : Closing toast limit next := by
  obtain ⟨displayed, ⟨timer, shown, takes⟩, now⟩ := closing
  cases event with
  | elapse time =>
      cases stepped
      simp only [prompt, Bool.and_eq_true, List.all_eq_true, decide_eq_true_eq] at guarded
      refine ⟨displayed, ⟨timer, shown, takes⟩, ?_⟩
      rcases takes with ⟨due, rfl, within⟩ | ⟨due, member, within⟩
      · have before := guarded.2 due (by simp [dueTimes, shown])
        dsimp only
        omega
      · exact (guarded.2 due (List.mem_append_right _ member)).trans within
  | showToast props =>
      cases stepped
      exact ⟨displayed, ⟨timer, shown, takes⟩, now⟩
  | showTimer =>
      simp only [step] at stepped
      split at stepped
      · split at stepped
        · cases stepped
          exact ⟨stays, ⟨timer, shown, takes⟩, now⟩
        · cases stepped
      · cases stepped
  | render =>
      simp only [step, render, displayed, shown, Option.filter_some, decide_true, Bool.and_self,
        if_true] at stepped
      cases stepped
      exact ⟨rfl, ⟨timer, rfl, takes⟩, now⟩
  | autoTimer =>
      simp only [step, shown] at stepped
      split at stepped
      · next other due same =>
          cases same
          split at stepped
          · cases stepped
            have ahead := timely.ahead due (by simp [dueTimes, shown])
            refine ⟨displayed, ⟨none, rfl, Or.inr ?_⟩, now⟩
            -- A timer that fires closes a quarter of a second later, which
            -- its limit leaves room for.
            rcases takes with ⟨set, same, within⟩ | ⟨set, member, within⟩
            · cases same
              exact ⟨state.now + 250, List.mem_append_right _ List.mem_cons_self, by omega⟩
            · exact ⟨set, List.mem_append_left _ member, within⟩
          · cases stepped
      · cases stepped
  | press =>
      simp only [step] at stepped
      split at stepped
      · cases stepped
        refine ⟨displayed, ⟨timer, shown, takes.imp_right ?_⟩, now⟩
        rintro ⟨due, member, within⟩
        exact ⟨due, List.mem_append_left _ member, within⟩
      · cases stepped
  | closeTimer =>
      simp only [step] at stepped
      split at stepped
      · split at stepped
        · cases stepped
          cases stays
        · cases stepped
      · cases stepped
  | routeChange =>
      cases stepped
      unfold hideToast at stays ⊢
      split
      · next hides =>
          rw [if_pos hides] at stays
          cases stays
      · exact ⟨displayed, ⟨timer, shown, takes⟩, now⟩

theorem closing_run (toast : Toast) (limit : Nat) (state later : State) (events : List Event)
    (timely : Timely delay state) (closing : Closing toast limit state)
    (guarded : along delay prompt state events = true)
    (stays : along delay (displays toast) state events = true)
    (ran : run delay state events = some later) (last : later.toast = some toast) :
    Closing toast limit later := by
  induction events generalizing state with
  | nil =>
      cases ran
      exact closing
  | cons event rest ih =>
      obtain ⟨next, stepped, remaining⟩ := Option.bind_eq_some_iff.mp ran
      simp only [along, Bool.and_eq_true, stepped, Option.all_some] at guarded stays
      have still : next.toast = some toast := by
        cases rest with
        | nil =>
            cases remaining
            exact last
        | cons other others =>
            simp only [along, Bool.and_eq_true] at stays
            simpa [displays] using stays.2.1
      exact ih next (timely_step delay state next event timely guarded.1 stepped)
        (closing_step delay toast limit state next event timely closing guarded.1 stepped still)
          guarded.2 stays.2 remaining

def savedToast : Toast where
  serial := 0
  variant := .info
  title := none
  message := "Saved"
  showIcon := true
  dismiss := .text "auto"

/-- In every run with timers on time, a toast that is not manual stays on the screen for what the
timer makes of its duration and a quarter of a second at most; for whole milliseconds that is the
duration itself, and ten seconds for an automatic one. -/
theorem toasts_leave (whole : ∀ time < 2 ^ 31, delay (Float.Model.ofNat time) = time)
    (before after : List Event) (shown later : State) (toast : Toast) (time : Float.Model)
    (reached : run delay start before = some shown)
    (guarded : along delay prompt start (before ++ after) = true)
    (displayed : shown.toast = some toast) (rendered : isRendered shown = true)
    (auto : toast.isManual = false) (lasts : duration toast = some time)
    (ran : run delay shown after = some later)
    (stays : along delay (displays toast) shown after = true) (last : later.toast = some toast) :
    later.now ≤ shown.now + delay time + 250 ∧
      (∀ milliseconds < 2 ^ 31, time = Float.Model.ofNat milliseconds →
        later.now ≤ shown.now + milliseconds + 250) ∧
      (toast.dismiss = .text "auto" → later.now ≤ shown.now + 10250) := by
  have prompted := along_append delay prompt start shown before after reached guarded
  have timely := timely_run delay start shown before (timely_start delay)
    (along_front delay prompt start before after guarded) reached
  have alert : ∃ alert, shown.alert = some alert ∧ alert.toast = toast := by
    have same : shown.alert.map Alert.toast = shown.toast := by simpa [isRendered] using rendered
    rw [displayed] at same
    exact Option.map_eq_some_iff.mp same
  obtain ⟨⟨own, timer⟩, present, rfl⟩ := alert
  have closing : Closing own (shown.now + delay time + 250) shown := by
    refine ⟨displayed, ⟨timer, present, ?_⟩, by omega⟩
    -- Either the alert's own timer is running, or an earlier closing will take this toast along.
    rcases timely.leaving _ present auto (by rw [displayed]; rfl) with armed | closes
    · obtain ⟨due, rfl⟩ := Option.isSome_iff_exists.mp armed
      have bound := timely.timed _ present due rfl time lasts
      exact Or.inl ⟨due, rfl, by omega⟩
    · obtain ⟨due, others, same⟩ := List.exists_cons_of_ne_nil closes
      have member : due ∈ shown.closes := same ▸ List.mem_cons_self
      have bound := timely.closing due member
      exact Or.inr ⟨due, member, by omega⟩
  have ends := (closing_run delay own _ shown later after timely closing prompted stays
    ran last).now
  refine ⟨ends, ?_, fun automatic => ?_⟩
  · rintro milliseconds small rfl
    rwa [whole milliseconds small] at ends
  · have length : time = Float.Model.ofNat (calculateReadingTime own.message) := by
      unfold duration at lasts
      rw [automatic] at lasts
      exact (Option.some.inj lasts).symm
    have bound := (reading_time_bounds own.message).2
    rw [length, whole _ (by omega)] at ends
    omega

theorem truncated_whole (time : Nat) (small : time < 2 ^ 31) :
    truncated (Float.Model.ofNat time) = time :=
  Binary64.truncated_number time (by omega)

theorem toasts_leave_saved :
    2250 ≤ 0 + truncated (Float.Model.ofNat 2000) + 250 ∧
      (∀ milliseconds < 2 ^ 31, Float.Model.ofNat 2000 = Float.Model.ofNat milliseconds →
        2250 ≤ 0 + milliseconds + 250) ∧ (Dismiss.text "auto" = .text "auto" → 2250 ≤ 0 + 10250) :=
  toasts_leave truncated truncated_whole [.showToast saved, .showTimer, .render]
    [.elapse 2000, .autoTimer, .elapse 250]
    { now := 0, calls := 1, toastState := some savedToast, toast := some savedToast
      alert := some { toast := savedToast, timer := some 2000 }, shows := [], closes := [] }
    { now := 2250, calls := 1, toastState := some savedToast, toast := some savedToast
      alert := some { toast := savedToast, timer := none }, shows := [], closes := [2250] }
    savedToast (Float.Model.ofNat 2000) rfl (by decide) rfl (by decide) (by decide) (by decide) rfl
    (by decide) rfl

end Times

end TopInspect.Toasts
