import Mathlib.Data.List.Perm.Subperm
import TopInspect.ImageChanges

/-! The grid of components/ImageGrid.tsx: a tap selects an image, a tap on another one places it
there, and the selected one can be removed. -/
namespace TopInspect.ImageGrid
open ImageChanges (removeImage handlePlaceImage remove_sublist place_perm)

structure Grid where
  images : List String
  selectedIndex : Option Nat

inductive Event where
  | tap (index : Nat)
  | remove

section Taps
variable (locked : String → Bool)

-- Only what is rendered can be pressed; an image that is saving or uploading has no button.
def step (grid : Grid) : Event → Option Grid
  | .tap index =>
      if index < grid.images.length then
        match grid.selectedIndex with
        | none => some { grid with selectedIndex := some index }
        | some selected =>
            if selected = index then some { grid with selectedIndex := none }
            else (handlePlaceImage grid.images selected index).map fun images =>
              { images, selectedIndex := none }
      else none
  | .remove =>
      match grid.selectedIndex with
      | none => none
      | some selected =>
          match grid.images[selected]? with
          | none => none
          | some imageId =>
              if locked imageId then none
              else some { images := removeImage grid.images selected, selectedIndex := none }

def run (grid : Grid) : List Event → Option Grid
  | [] => some grid
  | event :: rest => (step locked grid event).bind fun next => run next rest

def mount (images : List String) : Grid := { images, selectedIndex := none }

theorem run_append (grid : Grid) (first second : List Event) :
    run locked grid (first ++ second) = (run locked grid first).bind fun middle =>
    run locked middle second := by
  induction first generalizing grid with
  | nil => rfl
  | cons event rest ih =>
      rw [List.cons_append, run, run, Option.bind_assoc]
      exact congrArg _ (funext ih)

def Valid (grid : Grid) : Prop := ∀ selected, grid.selectedIndex = some selected →
    selected < grid.images.length

theorem place_inside (images : List String) (fromIndex toIndex : Nat) (apart : fromIndex ≠ toIndex)
    (source : fromIndex < images.length) (target : toIndex < images.length) :
    (handlePlaceImage images fromIndex toIndex).isSome = true := by
  rw [handlePlaceImage, if_pos ⟨apart, target⟩, List.getElem?_eq_getElem source]
  rfl

theorem tap_keeps (grid next : Grid) (index : Nat)
    (stepped : step locked grid (.tap index) = some next) :
    Valid next ∧ next.images.Perm grid.images := by
  simp only [step] at stepped
  split at stepped
  · next inside =>
      split at stepped
      · cases stepped
        exact ⟨fun selected same => Option.some.inj same ▸ inside, List.Perm.refl _⟩
      · split at stepped
        · cases stepped
          exact ⟨nofun, List.Perm.refl _⟩
        · obtain ⟨later, placed, rfl⟩ := Option.map_eq_some_iff.mp stepped
          exact ⟨nofun, place_perm _ later _ _ placed⟩
  · cases stepped

theorem step_keeps (grid next : Grid) (event : Event)
    (stepped : step locked grid event = some next) :
    Valid next ∧ next.images.Subperm grid.images := by
  cases event with
  | tap index => exact (tap_keeps locked grid next index stepped).imp_right List.Perm.subperm
  | remove =>
      simp only [step] at stepped
      split at stepped
      · cases stepped
      · split at stepped
        · cases stepped
        · split at stepped
          · cases stepped
          · cases stepped
            exact ⟨nofun, (remove_sublist _ _).subperm⟩

theorem run_keeps (grid later : Grid) (events : List Event) (valid : Valid grid)
    (ran : run locked grid events = some later) : Valid later ∧
    later.images.Subperm grid.images := by
  induction events generalizing grid with
  | nil =>
      cases ran
      exact ⟨valid, List.Subperm.refl _⟩
  | cons event rest ih =>
      obtain ⟨next, stepped, remaining⟩ := Option.bind_eq_some_iff.mp ran
      obtain ⟨still, fewer⟩ := step_keeps locked grid next event stepped
      obtain ⟨ends, least⟩ := ih next still remaining
      exact ⟨ends, least.trans fewer⟩

theorem taps_perm (grid later : Grid) (taps : List Nat)
    (ran : run locked grid (taps.map .tap) = some later) :
    later.images.Perm grid.images := by
  induction taps generalizing grid with
  | nil =>
      cases ran
      exact List.Perm.refl _
  | cons tap rest ih =>
      obtain ⟨next, stepped, remaining⟩ := Option.bind_eq_some_iff.mp ran
      exact (ih next remaining).trans (tap_keeps locked grid next tap stepped).2

/-- In every run the selection stays within the images, so that every tap on an image is fine, and
the images are some of those at the start, in some order. -/
theorem grid_safe (images : List String) (events : List Event) (grid : Grid)
    (ran : run locked (mount images) events = some grid) :
    Valid grid ∧ grid.images.Subperm images ∧
      ∀ index < grid.images.length, (step locked grid (.tap index)).isSome = true := by
  obtain ⟨valid, fewer⟩ := run_keeps locked (mount images) grid events nofun ran
  refine ⟨valid, fewer, fun index inside => ?_⟩
  simp only [step, if_pos inside]
  cases selection : grid.selectedIndex with
  | none => rfl
  | some selected =>
      dsimp only
      split
      · rfl
      · next apart =>
          rw [Option.isSome_map]
          exact place_inside grid.images selected index apart (valid selected selection) inside

theorem grid_safe_rearranged :
    Valid (mount ["b", "a"]) ∧ (mount ["b", "a"]).images.Subperm ["a", "b", "c"] ∧
      ∀ index < (mount ["b", "a"]).images.length,
        (step (fun _ => false) (mount ["b", "a"]) (.tap index)).isSome = true :=
  grid_safe (fun _ => false) ["a", "b", "c"] [.tap 0, .tap 2, .tap 1, .remove]
    (mount ["b", "a"]) rfl

end Taps

section Reordering
variable (locked : String → Bool)

/-- Two taps move an image to the front of a part of the list. -/
theorem taps_move (front before after : List String) (image : String) (filled : before ≠ []) :
    run locked (mount (front ++ (before ++ image :: after)))
      [.tap (front.length + before.length), .tap front.length] =
        some (mount (front ++ image :: (before ++ after))) := by
  have positive := List.length_pos_iff.mpr filled
  have apart : front.length + before.length ≠ front.length := by omega
  have source : front.length + before.length < (front ++ (before ++ image :: after)).length := by
    rw [List.length_append, List.length_append, List.length_cons]
    omega
  have target : front.length < (front ++ (before ++ image :: after)).length := by
    rw [List.length_append, List.length_append, List.length_cons]
    omega
  have placed : handlePlaceImage (front ++ (before ++ image :: after))
    (front.length + before.length) front.length =
      some (front ++ image :: (before ++ after)) := by
    have found : (front ++ (before ++ image :: after))[front.length + before.length]? =
      some image := by
      simp
    have erased : (front ++ (before ++ image :: after)).eraseIdx (front.length + before.length) =
        front ++ (before ++ after) := by
      rw [List.eraseIdx_append_of_length_le (by omega), Nat.add_sub_cancel_left,
        List.eraseIdx_append_of_length_le (Nat.le_refl _), Nat.sub_self, List.eraseIdx_cons_zero]
    rw [handlePlaceImage, if_pos ⟨apart, target⟩, found, Option.map_some, erased]
    dsimp only
    rw [List.take_left, List.drop_left]
  -- The first tap selects the image, the second one places it.
  have selected : step locked (mount (front ++ (before ++ image :: after)))
    (.tap (front.length + before.length)) =
      some ⟨front ++ (before ++ image :: after), some (front.length + before.length)⟩ :=
        if_pos source
  have settled : step locked ⟨front ++ (before ++ image :: after),
    some (front.length + before.length)⟩
      (.tap front.length) = some (mount (front ++ image :: (before ++ after))) := by
    simp only [step, if_pos target, if_neg apart, placed, Option.map_some, mount]
  rw [run, selected, Option.bind_some, run, settled, Option.bind_some, run]

/-- Image by image, taps bring the rest of a list into any order. -/
theorem taps_arrange (later rest front : List String) (same : rest.Perm later) :
    ∃ taps : List Nat, run locked (mount (front ++ rest))
    (taps.map .tap) = some (mount (front ++ later)) := by
  induction later generalizing rest front with
  | nil =>
      rw [List.Perm.eq_nil same]
      exact ⟨[], rfl⟩
  | cons image others ih =>
      obtain ⟨before, after, rfl⟩ := List.append_of_mem (same.mem_iff.mpr List.mem_cons_self)
      have left : (before ++ after).Perm others := (List.perm_middle.symm.trans same).cons_inv
      obtain ⟨taps, arranged⟩ := ih (before ++ after) (front ++ [image]) left
      rw [List.append_assoc, List.append_assoc, List.singleton_append,
        List.singleton_append] at arranged
      -- The image that comes next is in its place already, or two taps bring it there.
      by_cases filled : before = []
      · subst filled
        exact ⟨taps, arranged⟩
      · refine ⟨[front.length + before.length, front.length] ++ taps, ?_⟩
        rw [List.map_append, run_append]
        have moved := taps_move locked front before after image filled
        exact (congrArg (Option.bind · (fun middle => run locked middle (taps.map .tap)))
          moved).trans arranged

/-- The orders that taps can bring a list into are all its orders, and nothing else. -/
theorem taps_reach_iff (images later : List String) :
    (∃ (taps : List Nat) (grid : Grid), run locked (mount images) (taps.map .tap) = some grid ∧
      grid.images = later) ↔
      later.Perm images := by
  constructor
  · rintro ⟨taps, grid, ran, rfl⟩
    exact taps_perm locked (mount images) grid taps ran
  · intro same
    obtain ⟨taps, arranged⟩ := taps_arrange locked later images [] same.symm
    exact ⟨taps, mount later, arranged, rfl⟩

end Reordering

end TopInspect.ImageGrid
