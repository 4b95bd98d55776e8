import TopInspect.ImageUpload

/-! Edits of the image list around an upload. The picker and the upload read the list when
they start and overwrite it with a list made from what they have read when they end; the
user's edits alone are followed on a list of entries that remember the upload they wait for. -/
namespace TopInspect.ImageEdits
open ImageChanges (isPreviewImage isUploadedImage pickImage removeImage handlePlaceImage pick_map
  remove_map place_map remove_sublist place_perm)
open ImageUpload

/-- How far the upload has come, with the list that it has read. -/
inductive Phase where
  | idle
  | running (captured : List String)
  | finished (captured : List String)

/-- The list of the form, the list that the open picker has read, and the upload. -/
structure State where
  images : List String
  picking : Option (List String)
  phase : Phase

inductive Event where
  | openPicker
  | picked (uri : String)
  | canceled
  | remove (index : Nat)
  | place (fromIndex toIndex : Nat)
  | startUpload
  | endUpload

def mount (images : List String) : State := { images, picking := none, phase := .idle }

section Runs
variable (options : UploadOptions) (attempts : Nat → Attempt) (maxImages : Nat)

-- The upload calls onImagesChange twice in a row; after a failure it has not called it.
def step (state : State) : Event → Option State
  | .openPicker =>
      if state.picking.isNone ∧ state.images.length < maxImages then
        some { state with picking := some state.images }
      else none
  | .picked uri =>
      state.picking.map fun captured =>
        { state with images := pickImage captured uri, picking := none }
  | .canceled => state.picking.map fun _ => { state with picking := none }
  | .remove index => some { state with images := removeImage state.images index }
  | .place fromIndex toIndex =>
      (handlePlaceImage state.images fromIndex toIndex).map fun images => { state with images }
  | .startUpload =>
      match state.phase with
      | .idle => some { state with phase := .running state.images }
      | _ => none
  | .endUpload =>
      match state.phase with
      | .running captured =>
          let changes := (uploadAndGetImageIds options attempts captured).changes
          some { state with images := changes.getLastD state.images, phase := .finished captured }
      | _ => none

def run (state : State) : List Event → Option State
  | [] => some state
  | event :: rest => (step options attempts maxImages state event).bind fun next => run next rest

/-- An entry of the list, with its place among the images of the upload it waits for. -/
structure Entry where
  url : String
  place : Option Nat

def marked (images : List String) : List Entry :=
  images.zipIdx.map fun (url, i) =>
    { url, place := if isPreviewImage url then some (pendingPlace images i) else none }

/-- What the edits alone make of the entries. -/
def edit (entries : List Entry) : Event → List Entry
  | .picked uri => pickImage entries { url := uri, place := none }
  | .remove index => removeImage entries index
  | .place fromIndex toIndex => (handlePlaceImage entries fromIndex toIndex).getD entries
  | .startUpload => marked (entries.map Entry.url)
  | _ => entries

def edited (images : List String) (events : List Event) : List Entry :=
  events.foldl edit (images.map fun url => { url, place := none })

/-- An entry that a finished upload has waited for stands for the id of its own image. -/
def resolved (phase : Phase) (entry : Entry) : String :=
  match phase, entry.place with
  | .finished captured, some place =>
      if (uploadAndGetImageIds options attempts captured).result.isSome then ids attempts place
      else entry.url
  | _, _ => entry.url

/-- When all is finished the list is the one that the edits alone have made. -/
def EditsKept (images : List String) (events : List Event) : Prop :=
  ∀ state, run options attempts maxImages (mount images) events = some state →
    state.picking = none →
    (∀ captured, state.phase ≠ .running captured) →
      state.images = (edited images events).map (resolved options attempts state.phase)

/-- An upload that overwrites the list: something is pending, and all of it can be uploaded. -/
def overwrites (captured : List String) : Bool :=
  captured.any isPreviewImage &&
    (pendingImages captured).zipIdx.all fun entry =>
      (uploadImage options (attempts entry.2) entry.1).isSome

def isOverwriting : Phase → Bool
  | .running captured => overwrites options attempts captured
  | _ => false

/-- Nothing changes the list while an upload runs that will overwrite it; such an upload starts on
previews without repeats and draws no empty id for them; and a picker that adds an image has read
the list as it is. -/
def undisturbed (state : State) : Event → Bool
  | .picked _ => !isOverwriting options attempts state.phase && state.picking = some state.images
  | .remove _ => !isOverwriting options attempts state.phase
  | .place _ _ => !isOverwriting options attempts state.phase
  | .startUpload =>
      !overwrites options attempts state.images || (decide (pendingImages state.images).Nodup &&
        (List.range (pendingImages state.images).length).all fun place => ids attempts place ≠ "")
  | _ => true

def along (state : State) : List Event → Bool
  | [] => true
  | event :: rest =>
      undisturbed options attempts state event &&
        (step options attempts maxImages state event).all fun next => along next rest

section Entries

theorem marked_urls (images : List String) : (marked images).map Entry.url = images := by
  have whole : (marked images).map Entry.url = images.zipIdx.map Prod.fst := by
    rw [marked, List.map_map]
    rfl
  rw [whole, List.zipIdx_map_fst]

variable {attempts}

theorem updated_marked (images : List String) (single : (pendingImages images).Nodup)
    (named : ∀ place, place < (pendingImages images).length → ids attempts place ≠ "")
    (succeeds : (uploadAndGetImageIds options attempts images).result.isSome = true) :
    updatedImages images (uploadedIds attempts images) =
      (marked images).map (resolved options attempts (.finished images)) := by
  apply List.ext_getElem?
  intro i
  rw [marked, List.map_map, List.getElem?_map, List.getElem?_zipIdx]
  cases found : images[i]? with
  | none => simp [updatedImages, found]
  | some url =>
      cases preview : isPreviewImage url with
      | true =>
          rw [(passes_at attempts named single i url found preview).2]
          simp [resolved, preview, succeeds]
      | false =>
          rw [(passes_kept attempts i url found (by simp [isUploadedImage, preview])).2]
          simp [resolved, preview]

theorem overwrites_iff (images : List String) : overwrites options attempts images = true ↔
    images.any isPreviewImage = true ∧ Succeeds options attempts images := by
  rw [overwrites, Bool.and_eq_true, List.all_eq_true, succeeds_iff]

theorem overwritten_images (images : List String)
    (overwritten : overwrites options attempts images = true)
    (single : (pendingImages images).Nodup)
    (named : ∀ place, place < (pendingImages images).length → ids attempts place ≠ "") :
    (uploadAndGetImageIds options attempts images).changes.getLastD images =
      (marked images).map (resolved options attempts (.finished images)) := by
  obtain ⟨pending, succeeds⟩ := (overwrites_iff options images).mp overwritten
  obtain ⟨returns, changed⟩ := pending_report options attempts pending succeeds
  have result : (uploadAndGetImageIds options attempts images).result.isSome = true := by
    rw [uploadAndGetImageIds, if_pos pending]
    simp only [returns, Option.isSome_some]
  rw [← updated_marked options images single named result, uploadAndGetImageIds, if_pos pending]
  simp only [returns, List.getLastD_concat]

/-- Any other upload leaves the list as it is, and no entry stands for an id of it. -/
theorem unwritten_images (images : List String)
    (unwritten : overwrites options attempts images = false) :
    (uploadAndGetImageIds options attempts images).changes = [] ∧
      ∀ entry : Entry, (images.any isPreviewImage = false → entry.place = none) →
        resolved options attempts (.finished images) entry = entry.url := by
  cases pending : images.any isPreviewImage with
  | false =>
      constructor
      · rw [uploadAndGetImageIds, if_neg (by simp [pending])]
      · intro entry placeless
        simp [resolved, placeless rfl]
  | true =>
      have fails : ¬ Succeeds options attempts images := by
        intro succeeds
        rw [(overwrites_iff options images).mpr ⟨pending, succeeds⟩] at unwritten
        cases unwritten
      obtain ⟨threw, -⟩ := pending_failure options attempts pending fails
      have result : (uploadAndGetImageIds options attempts images).result.isSome = false := by
        rw [uploadAndGetImageIds, if_pos pending]
        simp only [threw, Option.isSome_none]
      refine ⟨(failure_stays options attempts pending fails).2, fun entry _ => ?_⟩
      cases held : entry.place <;> simp [resolved, held, result]

theorem marked_placeless (images : List String) (settled : images.any isPreviewImage = false) :
    ∀ entry ∈ marked images, entry.place = none := by
  intro entry member
  obtain ⟨⟨url, i⟩, inside, rfl⟩ := List.mem_map.mp member
  have kept : isPreviewImage url = false := Bool.eq_false_iff.mpr
    (List.any_eq_false.mp settled url (List.fst_mem_of_mem_zipIdx inside))
  simp [kept]

end Entries

/-- What is known of a running upload: nothing has changed since one that will overwrite the list
has started, and no entry waits for one that has nothing to upload. -/
structure Uploading (captured images : List String) (entries : List Entry) : Prop where
  unchanged : overwrites options attempts captured = true →
    entries = marked captured ∧ images = captured ∧ (pendingImages captured).Nodup ∧
      ∀ place, place < (pendingImages captured).length → ids attempts place ≠ ""
  placeless : captured.any isPreviewImage = false → ∀ entry ∈ entries, entry.place = none

structure Kept (state : State) (entries : List Entry) : Prop where
  images : state.images = entries.map (resolved options attempts state.phase)
  running : ∀ captured, state.phase = .running captured →
    Uploading options attempts captured state.images entries

variable {options attempts maxImages}

theorem kept_edit (state : State) (entries later : List Entry)
    (kept : Kept options attempts state entries)
    (quiet : isOverwriting options attempts state.phase = false) (images : List String)
    (picking : Option (List String))
    (same : images = later.map (resolved options attempts state.phase))
    (places : ∀ entry ∈ later, entry ∈ entries ∨ entry.place = none) :
    Kept options attempts { state with images, picking } later where
  images := same
  running := by
    intro captured running
    have started : state.phase = .running captured := running
    rw [started] at quiet
    constructor
    · intro overwritten
      rw [isOverwriting, overwritten] at quiet
      cases quiet
    · intro settled entry member
      rcases places entry member with old | new
      · exact (kept.running captured started).placeless settled entry old
      · exact new

theorem kept_step (state next : State) (event : Event) (entries : List Entry)
    (kept : Kept options attempts state entries)
    (guarded : undisturbed options attempts state event = true)
    (stepped : step options attempts maxImages state event = some next) :
    Kept options attempts next (edit entries event) := by
  cases event with
  | openPicker =>
      simp only [step] at stepped
      split at stepped
      · cases stepped
        exact ⟨kept.images, kept.running⟩
      · cases stepped
  | picked uri =>
      obtain ⟨captured, waiting, rfl⟩ := Option.map_eq_some_iff.mp stepped
      obtain ⟨quiet, current⟩ : isOverwriting options attempts state.phase = false ∧
          state.picking = some state.images := by
        simpa [undisturbed] using guarded
      -- The picker writes the list it has captured, which is the present one by assumption.
      obtain rfl : captured = state.images := Option.some.inj (waiting.symm.trans current)
      apply kept_edit state entries _ kept quiet
      · have url : resolved options attempts state.phase { url := uri, place := none } = uri := by
          cases state.phase <;> rfl
        rw [kept.images, edit, ← pick_map, url]
      · intro entry member
        rcases List.mem_append.mp member with old | new
        · exact Or.inl old
        · rw [List.mem_singleton.mp new]
          exact Or.inr rfl
  | canceled =>
      obtain ⟨captured, -, rfl⟩ := Option.map_eq_some_iff.mp stepped
      exact ⟨kept.images, kept.running⟩
  | remove index =>
      have quiet : isOverwriting options attempts state.phase = false := by
        simpa [undisturbed] using guarded
      cases stepped
      apply kept_edit state entries _ kept quiet
      · rw [kept.images, edit, remove_map]
      · exact fun entry member => Or.inl ((remove_sublist entries index).subset member)
  | place fromIndex toIndex =>
      have quiet : isOverwriting options attempts state.phase = false := by
        simpa [undisturbed] using guarded
      obtain ⟨images, placed, rfl⟩ := Option.map_eq_some_iff.mp stepped
      rw [kept.images, place_map] at placed
      obtain ⟨later, moved, rfl⟩ := Option.map_eq_some_iff.mp placed
      rw [edit, moved]
      apply kept_edit state entries _ kept quiet
      · rfl
      · exact fun entry member =>
          Or.inl ((place_perm entries later fromIndex toIndex moved).subset member)
  | startUpload =>
      simp only [step] at stepped
      split at stepped
      · next idle =>
          cases stepped
          -- Entries get their places now: each remembers which upload is its own.
          have urls : entries.map Entry.url = state.images := by
            rw [kept.images, idle]
            rfl
          refine ⟨?_, ?_⟩
          · have read : ∀ entry, resolved options attempts (.running state.images) entry =
              entry.url :=
              fun entry => rfl
            rw [edit, urls, List.map_congr_left fun entry _ => read entry, marked_urls]
          · intro captured running
            cases running
            rw [edit, urls]
            refine ⟨fun overwritten => ⟨rfl, rfl, ?_⟩, marked_placeless state.images⟩
            simpa [undisturbed, overwritten] using guarded
      · cases stepped
  | endUpload =>
      simp only [step] at stepped
      split at stepped
      · next captured running =>
          cases stepped
          have uploading := kept.running captured running
          refine ⟨?_, by simp⟩
          cases overwritten : overwrites options attempts captured with
          | true =>
              obtain ⟨entered, read, single, named⟩ := uploading.unchanged overwritten
              have same : edit entries .endUpload = marked captured := entered
              rw [same, read]
              exact overwritten_images options captured overwritten single named
          | false =>
              obtain ⟨unwritten, urls⟩ := unwritten_images options captured overwritten
              have images : state.images = entries.map Entry.url := by
                rw [kept.images, running]
                rfl
              have same : edit entries .endUpload = entries := rfl
              rw [unwritten, List.getLastD_nil, images, same]
              exact (List.map_congr_left fun entry member =>
                urls entry fun settled => uploading.placeless settled entry member).symm
      · cases stepped

theorem kept_run (state later : State) (events : List Event) (entries : List Entry)
    (kept : Kept options attempts state entries)
    (guarded : along options attempts maxImages state events = true)
    (ran : run options attempts maxImages state events = some later) :
    Kept options attempts later (events.foldl edit entries) := by
  induction events generalizing state entries with
  | nil =>
      cases ran
      exact kept
  | cons event rest ih =>
      obtain ⟨next, stepped, remaining⟩ := Option.bind_eq_some_iff.mp ran
      simp only [along, Bool.and_eq_true, stepped, Option.all_some] at guarded
      exact ih next _ (kept_step state next event entries kept guarded.1 stepped) guarded.2
        remaining

variable (options attempts maxImages)

theorem mount_kept (images : List String) :
    Kept options attempts (mount images) (images.map fun url => { url, place := none }) where
  images := by
    rw [List.map_map]
    exact (List.map_id images).symm
  running := by simp [mount]

theorem edits_kept (images : List String) (events : List Event)
    (guarded : along options attempts maxImages (mount images) events = true) :
    EditsKept options attempts maxImages images events := by
  intro state ran _ _
  exact (kept_run (mount images) state events _ (mount_kept options attempts images)
    guarded ran).images

end Runs

/-- Edits around an upload that succeeds, and while the picker is open. -/
theorem edits_kept_reordered :
    EditsKept unscaled smooth 5 ["k3v9"]
      [.openPicker, .picked "file://cat.jpg", .place 0 1, .openPicker, .startUpload, .endUpload,
        .remove 1, .canceled] :=
  edits_kept unscaled smooth 5 ["k3v9"] _ (by decide)

/-- A photo removed while it is uploaded comes back at the end of the upload. -/
theorem removal_undone :
    ¬ ∀ (options : UploadOptions) (attempts : Nat → Attempt) (maxImages : Nat)
      (images : List String) (events : List Event),
      EditsKept options attempts maxImages images events := by
  intro kept
  have same := kept unscaled smooth 5 ["k3v9", "file://cat.jpg"] [.startUpload, .remove 0,
    .endUpload] _ rfl
    rfl (by simp)
  exact absurd same (by decide)

end TopInspect.ImageEdits
