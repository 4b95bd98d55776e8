import TopInspect.ImageEdits

/-! What the image list keeps to however the edits and the upload fall: it never grows over the
limit of the form, and each of its entries comes from somewhere. -/
namespace TopInspect.ImageEdits
open ImageChanges (isPreviewImage pickImage removeImage handlePlaceImage remove_sublist place_perm)
open ImageUpload
open AuthHandlers (truthy)

section Bounds
variable (attempts : Nat → Attempt) (maxImages : Nat) (images : List String) (events : List Event)

/-- An entry is of the first list, has been picked, or is the id that the upload has drawn for one
of the images it found pending. -/
def Known (phase : Phase) (url : String) : Prop :=
  url ∈ images ∨ .picked url ∈ events ∨ ∃ captured place, phase = .finished captured ∧
    place < (pendingImages captured).length ∧ url = ids attempts place

structure Bounded (phase : Phase) (list : List String) : Prop where
  length : list.length ≤ max maxImages images.length
  known : ∀ url ∈ list, Known attempts images events phase url

/-- The list is bounded, and so is whatever somebody has read of it. -/
structure Within (state : State) : Prop where
  list : Bounded attempts maxImages images events state.phase state.images
  picking : ∀ captured ∈ state.picking,
    Bounded attempts maxImages images events state.phase captured ∧ captured.length < maxImages
  running : ∀ captured, state.phase = .running captured →
    Bounded attempts maxImages images events state.phase captured

variable {attempts maxImages images events}

theorem bounded_later (phase later : Phase) (unfinished : ∀ captured, phase ≠ .finished captured)
    (list : List String) (bounded : Bounded attempts maxImages images events phase list) :
    Bounded attempts maxImages images events later list := by
  refine ⟨bounded.length, fun url member => ?_⟩
  rcases bounded.known url member with first | picked | ⟨captured, -, finished, -⟩
  · exact Or.inl first
  · exact Or.inr (Or.inl picked)
  · exact absurd finished (unfinished captured)

variable {phase : Phase}

theorem remove_bounded (list : List String) (index : Nat)
    (bounded : Bounded attempts maxImages images events phase list) :
    Bounded attempts maxImages images events phase (removeImage list index) := by
  have entries := remove_sublist list index
  exact ⟨entries.length_le.trans bounded.length,
    fun url member => bounded.known url (entries.subset member)⟩

theorem place_bounded (list later : List String) (fromIndex toIndex : Nat)
    (placed : handlePlaceImage list fromIndex toIndex = some later)
    (bounded : Bounded attempts maxImages images events phase list) :
    Bounded attempts maxImages images events phase later := by
  have moved := place_perm list later fromIndex toIndex placed
  exact ⟨moved.length_eq.trans_le bounded.length,
    fun url member => bounded.known url (moved.mem_iff.mp member)⟩

theorem updated_bounded (captured : List String)
    (bounded : Bounded attempts maxImages images events (.finished captured) captured) :
    Bounded attempts maxImages images events (.finished captured)
      (updatedImages captured (uploadedIds attempts captured)) := by
  refine ⟨?_, ?_⟩
  · rw [updatedImages, List.length_map]
    exact bounded.length
  · intro url member
    obtain ⟨old, inside, rfl⟩ := List.mem_map.mp member
    split
    · next preview =>
        have pending : old ∈ pendingImages captured := List.mem_filter.mpr ⟨inside, preview⟩
        obtain ⟨place, found, -, value⟩ :=
          fold_last (fun index => (uploadedIds attempts captured)[index]?) 0
          (pendingImages captured) old (fun _ => none) pending
        rw [Nat.zero_add, uploaded_ids attempts place old found] at value
        have mapped : urlMapping captured (uploadedIds attempts captured) old =
          some (ids attempts place) := value
        have within : place < (pendingImages captured).length :=
          (List.getElem?_eq_some_iff.mp found).1
        rw [mapped]
        -- An empty id leaves the preview in the list.
        cases given : truthy (some (ids attempts place)) with
        | none => exact bounded.known old inside
        | some id =>
            have drawn := Option.some.inj (AuthHandlers.truthy_some _ _ given)
            exact Or.inr (Or.inr ⟨captured, place, rfl, within, drawn.symm⟩)
    · exact bounded.known old inside

theorem ended_bounded (options : UploadOptions) (captured list : List String)
    (read : Bounded attempts maxImages images events (.finished captured) captured)
    (bounded : Bounded attempts maxImages images events (.finished captured) list) :
    Bounded attempts maxImages images events (.finished captured)
      ((uploadAndGetImageIds options attempts captured).changes.getLastD list) := by
  by_cases pending : captured.any isPreviewImage = true
  · by_cases succeeds : Succeeds options attempts captured
    · obtain ⟨returns, changed⟩ := pending_report options attempts pending succeeds
      rw [uploadAndGetImageIds, if_pos pending]
      simp only [returns, List.getLastD_concat]
      exact updated_bounded captured read
    · rw [(failure_stays options attempts pending succeeds).2, List.getLastD_nil]
      exact bounded
  · rw [uploadAndGetImageIds, if_neg pending, List.getLastD_nil]
    exact bounded

variable (attempts) in
theorem within_mount : Within attempts maxImages images events (mount images) where
  list := ⟨le_max_right _ _, fun _ member => Or.inl member⟩
  picking := by simp [mount]
  running := by simp [mount]

theorem within_step (options : UploadOptions) (state next : State) (event : Event)
    (member : event ∈ events) (within : Within attempts maxImages images events state)
    (stepped : step options attempts maxImages state event = some next) :
    Within attempts maxImages images events next := by
  cases event with
  | openPicker =>
      simp only [step] at stepped
      split at stepped
      · next free =>
          cases stepped
          refine ⟨within.list, fun captured same => ?_, within.running⟩
          cases same
          exact ⟨within.list, by simp at free; exact free.2⟩
      · cases stepped
  | picked uri =>
      obtain ⟨captured, reading, rfl⟩ := Option.map_eq_some_iff.mp stepped
      obtain ⟨read, room⟩ := within.picking captured reading
      refine ⟨⟨?_, fun url inside => ?_⟩, by simp, within.running⟩
      -- The picker had room when it opened, and its list is the one that grows.
      · have longer : (pickImage captured uri).length = captured.length + 1 := by simp [pickImage]
        dsimp only
        omega
      · rcases List.mem_append.mp inside with old | new
        · exact read.known url old
        · obtain rfl := List.mem_singleton.mp new
          exact Or.inr (Or.inl member)
  | canceled =>
      obtain ⟨captured, -, rfl⟩ := Option.map_eq_some_iff.mp stepped
      exact ⟨within.list, by simp, within.running⟩
  | remove index =>
      cases stepped
      exact ⟨remove_bounded _ index within.list, within.picking, within.running⟩
  | place fromIndex toIndex =>
      obtain ⟨later, placed, rfl⟩ := Option.map_eq_some_iff.mp stepped
      exact ⟨place_bounded _ later fromIndex toIndex placed within.list, within.picking,
        within.running⟩
  | startUpload =>
      simp only [step] at stepped
      split at stepped
      · next idle =>
          cases stepped
          have unfinished : ∀ captured, state.phase ≠ .finished captured := by simp [idle]
          refine ⟨bounded_later _ _ unfinished _ within.list, fun captured reading => ?_,
            fun captured same => ?_⟩
          · obtain ⟨read, room⟩ := within.picking captured reading
            exact ⟨bounded_later _ _ unfinished _ read, room⟩
          · cases same
            exact bounded_later _ _ unfinished _ within.list
      · cases stepped
  | endUpload =>
      simp only [step] at stepped
      split at stepped
      · next captured uploading =>
          cases stepped
          have unfinished : ∀ captured, state.phase ≠ .finished captured := by simp [uploading]
          refine ⟨?_, fun other reading => ?_, fun other same => by cases same⟩
          -- What the end of the upload writes is the list it captured, with ids put in.
          · exact ended_bounded options captured state.images
              (bounded_later _ _ unfinished _ (within.running captured uploading))
              (bounded_later _ _ unfinished _ within.list)
          · obtain ⟨read, room⟩ := within.picking other reading
            exact ⟨bounded_later _ _ unfinished _ read, room⟩
      · cases stepped

theorem within_run (options : UploadOptions) (state later : State) (rest : List Event)
    (members : ∀ event ∈ rest, event ∈ events)
    (within : Within attempts maxImages images events state)
    (ran : run options attempts maxImages state rest = some later) :
    Within attempts maxImages images events later := by
  induction rest generalizing state with
  | nil =>
      cases ran
      exact within
  | cons event others ih =>
      obtain ⟨next, stepped, remaining⟩ := Option.bind_eq_some_iff.mp ran
      exact ih next (fun other inside => members other (List.mem_cons_of_mem _ inside))
        (within_step options state next event (members event List.mem_cons_self) within stepped)
          remaining

/-- In every run of picks, removals, placements and an upload, however they overlap: the list is
never longer than the limit or the list the form began with, and no entry is made up. -/
theorem images_bounded (options : UploadOptions) (attempts : Nat → Attempt) (maxImages : Nat)
    (images : List String) (events : List Event) (state : State)
    (ran : run options attempts maxImages (mount images) events = some state) :
    state.images.length ≤ max maxImages images.length ∧
      ∀ url ∈ state.images, Known attempts images events state.phase url := by
  have within := within_run options (mount images) state events (fun _ member => member)
    (within_mount attempts) ran
  exact ⟨within.list.length, within.list.known⟩

-- The end of the upload overwrites what has been picked meanwhile, but makes nothing up.
theorem images_bounded_overlapping : ["a"].length ≤ max 5 ["file://a"].length ∧
    ∀ url ∈ ["a"], Known smooth ["file://a"]
      [.openPicker, .startUpload, .picked "file://b", .endUpload] (.finished ["file://a"]) url :=
  images_bounded unscaled smooth 5 ["file://a"] [.openPicker, .startUpload,
    .picked "file://b", .endUpload]
    { images := ["a"], picking := none, phase := .finished ["file://a"] } rfl

end Bounds

end TopInspect.ImageEdits
