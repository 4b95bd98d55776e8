import Mathlib.Data.List.Dedup
import Mathlib.Data.List.Perm.Basic

/-! The image list of a form: what picking, removing and placing an image make of it, and the
detection of unsaved changes. The list to compare with is captured by an effect that runs after each
render, as long as it is empty and the images are not. -/
namespace TopInspect.ImageChanges

def isPreviewImage (url : String) : Bool := "file://".toList.isPrefixOf url.toList

def isUploadedImage (url : String) : Bool := !isPreviewImage url

section Edits
variable {Image : Type}

def pickImage (images : List Image) (uri : Image) : List Image := images ++ [uri]

def removeImage (images : List Image) (index : Nat) : List Image :=
  (images.zipIdx.filter fun entry => entry.2 ≠ index).map Prod.fst

-- A selection that has lost its image leaves a hole, on which the next render fails.
def handlePlaceImage (images : List Image) (fromIndex toIndex : Nat) : Option (List Image) :=
  if fromIndex ≠ toIndex ∧ toIndex < images.length then
    (images[fromIndex]?).map fun selectedItem =>
      let newImages := images.eraseIdx fromIndex
      newImages.take toIndex ++ selectedItem :: newImages.drop toIndex
  else none

end Edits

inductive Edit where
  | pick (uri : String)
  | remove (index : Nat)
  | place (fromIndex toIndex : Nat)

def Edit.apply (images : List String) : Edit → Option (List String)
  | .pick uri => some (pickImage images uri)
  | .remove index => some (removeImage images index)
  | .place fromIndex toIndex => handlePlaceImage images fromIndex toIndex

def Edited (images later : List String) : Prop := ∃ edit : Edit, edit.apply images = some later

section Entries
variable {Image : Type}

theorem remove_sublist (images : List Image) (index : Nat) :
    (removeImage images index).Sublist images := by
  have kept := (List.filter_sublist (p := fun entry => decide (entry.2 ≠ index))
    (l := images.zipIdx)).map Prod.fst
  rwa [List.zipIdx_map_fst] at kept

theorem place_perm (images later : List Image) (fromIndex toIndex : Nat)
    (placed : handlePlaceImage images fromIndex toIndex = some later) : later.Perm images := by
  unfold handlePlaceImage at placed
  split at placed
  · obtain ⟨selected, found, rfl⟩ := Option.map_eq_some_iff.mp placed
    obtain ⟨inside, rfl⟩ := List.getElem?_eq_some_iff.mp found
    refine List.perm_middle.trans ?_
    rw [List.take_append_drop]
    exact List.getElem_cons_eraseIdx_perm inside
  · cases placed

end Entries

section Relabelling
variable {Image Label : Type} (label : Image → Label)

/-- Edits move entries about, whatever they are labelled with. -/
theorem pick_map (images : List Image) (uri : Image) :
    pickImage (images.map label) (label uri) = (pickImage images uri).map label := by
  simp [pickImage]

theorem remove_map (images : List Image) (index : Nat) :
    removeImage (images.map label) index = (removeImage images index).map label := by
  simp only [removeImage, List.zipIdx_map, List.filter_map, List.map_map]
  rfl

theorem place_map (images : List Image) (fromIndex toIndex : Nat) :
    handlePlaceImage (images.map label) fromIndex toIndex =
      (handlePlaceImage images fromIndex toIndex).map (List.map label) := by
  unfold handlePlaceImage
  rw [List.length_map]
  split
  · cases found : images[fromIndex]? <;> simp [found, List.eraseIdx_eq_take_drop_succ,
      List.map_take, List.map_drop]
  · rfl

end Relabelling

structure Form where
  images : List String
  initialImages : List String

def hasUnsavedChanges (form : Form) : Bool :=
  if form.initialImages.length = 0 then false
  else if form.initialImages.length ≠ form.images.length then true
  else
    let initialSet := form.initialImages.dedup
    let currentSet := form.images.dedup
    if initialSet.length ≠ currentSet.length then true
    else if form.initialImages.any fun image => !currentSet.contains image then true
    else (List.range form.initialImages.length).any fun i =>
      form.initialImages[i]? ≠ form.images[i]?

/-- The effect behind a render. -/
def trackInitialImages (form : Form) : Form :=
  if form.initialImages.length = 0 ∧ 0 < form.images.length then
    { form with initialImages := form.images }
  else form

def mount (images : List String) : Form := trackInitialImages { images, initialImages := [] }

def change (form : Form) (images : List String) : Form := trackInitialImages { form with images }

/-- The form after the lists that its renders have shown one after the other. -/
def rendered (initial : List String) (history : List (List String)) : Form :=
  history.foldl change (mount initial)

def current (initial : List String) (history : List (List String)) : List String :=
  history.getLastD initial

def isFilled (images : List String) : Bool := images ≠ []

/-- All the comparisons together tell the two sequences apart. -/
theorem unsaved_iff (form : Form) :
    hasUnsavedChanges form = true ↔ form.initialImages ≠ [] ∧ form.images ≠ form.initialImages := by
  unfold hasUnsavedChanges
  by_cases empty : form.initialImages = []
  · simp [empty]
  · by_cases same : form.images = form.initialImages
    · simp [same, empty]
    · have differ : form.initialImages.length = form.images.length →
          (List.range form.initialImages.length).any (fun i =>
            form.initialImages[i]? ≠ form.images[i]?) = true := by
        intro length
        by_contra alike
        apply same
        apply List.ext_getElem?
        intro i
        by_cases inside : i < form.initialImages.length
        · simp only [List.any_eq_true, List.mem_range, decide_eq_true_eq, not_exists, not_and,
            not_not] at alike
          exact (alike i inside).symm
        · rw [List.getElem?_eq_none (by omega), List.getElem?_eq_none (by omega)]
      simp only [List.length_eq_zero_iff, empty, if_false, ne_eq, not_false_eq_true, true_and, same,
        iff_true]
      split
      · rfl
      · next length =>
          split
          · rfl
          · split
            · rfl
            · exact differ (not_not.mp length)

theorem change_images (form : Form) (images : List String) :
    (change form images).images = images := by
  unfold change trackInitialImages
  split <;> rfl

theorem images_fold (form : Form) (history : List (List String)) :
    (history.foldl change form).images = history.getLastD form.images := by
  induction history generalizing form with
  | nil => rfl
  | cons images later ih => rw [List.foldl_cons, ih, change_images, List.getLastD_cons]

theorem rendered_images (initial : List String) (history : List (List String)) :
    (rendered initial history).images = current initial history := by
  have mounted : (mount initial).images = initial :=
    change_images { images := [], initialImages := [] } initial
  rw [rendered, images_fold, mounted, current]

theorem change_captured (form : Form) (images : List String) :
    (change form images).initialImages =
      if form.initialImages = [] then images else form.initialImages := by
  unfold change trackInitialImages
  by_cases captured : form.initialImages = []
  · cases images <;> simp [captured]
  · simp [captured]

theorem captured_fold (form : Form) (history : List (List String)) :
    (history.foldl change form).initialImages =
      if form.initialImages = [] then (history.find? isFilled).getD [] else form.initialImages := by
  induction history generalizing form with
  | nil =>
      by_cases captured : form.initialImages = [] <;> simp [captured]
  | cons images later ih =>
      rw [List.foldl_cons, ih, change_captured]
      by_cases captured : form.initialImages = []
      · by_cases filled : images = [] <;> simp [captured, filled, isFilled]
      · simp [captured]

theorem rendered_captured (initial : List String) (history : List (List String)) :
    (rendered initial history).initialImages = ((initial :: history).find? isFilled).getD [] := by
  have mounted : mount initial = change { images := [], initialImages := [] } initial := rfl
  rw [rendered, mounted, ← List.foldl_cons, captured_fold, if_pos rfl]

def Exact (initial : List String) (history : List (List String)) : Prop :=
  hasUnsavedChanges (rendered initial history) = true ↔ current initial history ≠ initial

theorem changes_exact_iff (initial : List String) (history : List (List String)) :
    Exact initial history ↔
      initial ≠ [] ∨ ∀ first ∈ history.find? isFilled,
        current initial history ≠ [] ∧ current initial history ≠ first := by
  unfold Exact
  rw [unsaved_iff, rendered_images, rendered_captured]
  -- A form that mounts with images has captured those; an empty one captures the first to come.
  by_cases mounted : initial = []
  · subst mounted
    have skipped : (([] : List String) :: history).find? isFilled = history.find? isFilled := rfl
    rw [skipped]
    cases found : history.find? isFilled with
    | none =>
        have empty : current [] history = [] := by
          by_contra filled
          have member : current [] history ∈ history := by
            cases history with
            | nil => exact absurd rfl filled
            | cons images later =>
                rw [current, List.getLastD_cons]
                exact List.getLastD_mem_cons
          exact absurd (List.find?_eq_none.mp found _ member) (by simp [isFilled, filled])
        simp [empty]
    | some first =>
        have filled : first ≠ [] := by simpa [isFilled] using List.find?_some found
        simp only [Option.getD_some, Option.mem_def, Option.some.injEq, forall_eq', ne_eq,
          not_true_eq_false, false_or]
        by_cases again : current [] history = first
        · simp [again, filled]
        · simp [again, filled]
  · have kept : (initial :: history).find? isFilled = some initial := by simp [isFilled, mounted]
    simp [kept, mounted]

/-- The first image picked in an empty form counts as no change. -/
theorem first_pick_unseen :
    ¬ ∀ (initial : List String) (history : List (List String)),
      List.IsChain Edited (initial :: history) → Exact initial history := by
  intro exact_always
  have picked : List.IsChain Edited [[], ["file://cat.jpg"]] :=
    .cons_cons ⟨.pick "file://cat.jpg", rfl⟩ (.singleton _)
  exact absurd ((exact_always [] [["file://cat.jpg"]] picked).mpr (by decide)) (by decide)

end TopInspect.ImageChanges
