import TopInspect.ImageUpload

/-! Display of uploaded images: the URL is built from one table of suffixes and displaySize,
the stored objects are named from another one and the sizes that are processed. -/
namespace TopInspect.ImageDisplay
open ImageChanges (isPreviewImage isUploadedImage)
open ImageUpload
open ImageUrls (ImageSize ImageId getDisplayImageUrl)

def storedSizes (options : UploadOptions) : List ImageSize :=
  if options.enableResizing then options.requiredSizes else [.original]

def Fits (options : UploadOptions) : Prop := options.displaySize ∈ storedSizes options

instance (options : UploadOptions) : Decidable (Fits options) :=
  inferInstanceAs (Decidable (_ ∈ _))

section Stored

theorem mapM_values {α β γ : Type} (step : α → Option β) (read : β → γ) (expected : α → γ)
    (reads : ∀ value result, step value = some result → read result = expected value)
    (list : List α) (results : List β) (mapped : list.mapM step = some results) :
    results.map read = list.map expected := by
  induction list generalizing results with
  | nil =>
      cases mapped
      rfl
  | cons value rest ih =>
      rw [List.mapM_cons] at mapped
      obtain ⟨first, found, later⟩ := Option.bind_eq_some_iff.mp mapped
      obtain ⟨others, remaining, same⟩ := Option.bind_eq_some_iff.mp later
      cases same
      rw [List.map_cons, List.map_cons, reads value first found, ih others remaining]

variable (options : UploadOptions)

theorem processed_sizes (attempt : Attempt) (url : String) (processed : List ProcessedImage)
    (made : processImage options attempt url = some processed) :
    processed.map ProcessedImage.size = storedSizes options := by
  unfold processImage at made
  split at made
  · next disabled =>
      cases made
      simp at disabled
      simp [storedSizes, disabled]
  · next enabled =>
      obtain ⟨blobSize, -, sized⟩ := Option.bind_eq_some_iff.mp made
      split at sized
      · cases sized
      · have sizes := mapM_values _ ProcessedImage.size Prod.fst (by
          rintro ⟨sizeKey, place⟩ image resized
          dsimp only at resized
          by_cases original : sizeKey = .original
          · rw [if_pos original] at resized
            cases resized
            rfl
          · rw [if_neg original] at resized
            obtain ⟨uri, -, rfl⟩ := Option.map_eq_some_iff.mp resized
            rfl) _ _ sized
        rw [sizes, List.zipIdx_map_fst]
        simp at enabled
        simp [storedSizes, enabled]

theorem upload_stored (attempt : Attempt) (url : String) (preview : isPreviewImage url = true)
    (uploaded : Uploaded) (returns : uploadImage options attempt url = some uploaded) :
    uploaded.stored = (storedSizes options).map (fileName attempt.baseImageId.text) := by
  simp only [uploadImage, preview, Bool.not_true, Bool.false_eq_true, if_false] at returns
  obtain ⟨processed, made, stores⟩ := Option.bind_eq_some_iff.mp returns
  obtain ⟨stored, puts, rfl⟩ := Option.map_eq_some_iff.mp stores
  have keys := mapM_values _ id (fun entry => fileName attempt.baseImageId.text entry.1.size) (by
    rintro ⟨image, place⟩ key put
    simp only [uploadProcessedImage, presigned_key] at put
    split at put
    · cases put
      rfl
    · cases put) _ _ puts
  rw [List.map_id] at keys
  have sizes := processed_sizes options attempt url processed made
  calc stored
      = processed.zipIdx.map (fun entry => fileName attempt.baseImageId.text entry.1.size) := keys
    _ = ((processed.zipIdx.map Prod.fst).map ProcessedImage.size).map
          (fileName attempt.baseImageId.text) := by rw [List.map_map, List.map_map]; rfl
    _ = (storedSizes options).map (fileName attempt.baseImageId.text) := by
          rw [List.zipIdx_map_fst, sizes]

variable (attempts : Nat → Attempt)

theorem each_stored (place : Nat) (urls : List String)
    (previews : ∀ url ∈ urls, isPreviewImage url = true)
    (results : List (UploadResult × List String))
    (ends : uploadEach options attempts place urls = some results) :
    results.flatMap Prod.snd =
      (urls.zipIdx place).flatMap fun entry =>
        (storedSizes options).map (fileName (ids attempts entry.2)) := by
  induction urls generalizing place results with
  | nil =>
      cases ends
      rfl
  | cons url rest ih =>
      obtain ⟨uploaded, returns, later⟩ := Option.bind_eq_some_iff.mp ends
      obtain ⟨others, remaining, rfl⟩ := Option.map_eq_some_iff.mp later
      have stored := upload_stored options (attempts place) url (previews url List.mem_cons_self)
        uploaded returns
      rw [List.zipIdx_cons, List.flatMap_cons, List.flatMap_cons, stored]
      rw [ih (place + 1) (fun other member => previews other (List.mem_cons_of_mem _ member)) others
        remaining]
      rfl

theorem pending_stored (images : List String) (pending : images.any isPreviewImage = true)
    (succeeds : Succeeds options attempts images) (key : String) :
    key ∈ (uploadAndGetImageIds options attempts images).stored ↔
      ∃ place, place < (pendingImages images).length ∧
        ∃ size ∈ storedSizes options, key = fileName (ids attempts place) size := by
  have loop := each_results options attempts 0 (pendingImages images) (pending_preview images)
  rw [if_pos ((succeeds_iff options attempts).mp succeeds)] at loop
  obtain ⟨results, ended, -⟩ := Option.map_eq_some_iff.mp loop
  have stored := each_stored options attempts 0 (pendingImages images) (pending_preview images)
    results ended
  have report : (uploadAndGetImageIds options attempts images).stored = results.flatMap
    Prod.snd := by
    rw [uploadAndGetImageIds, if_pos pending]
    simp only [uploadPending, if_neg (pending_nonempty pending), ended]
  rw [report, stored, List.mem_flatMap]
  constructor
  · rintro ⟨⟨url, place⟩, entry, member⟩
    obtain ⟨size, among, rfl⟩ := List.mem_map.mp member
    have found := List.mk_mem_zipIdx_iff_getElem?.mp entry
    exact ⟨place, (List.getElem?_eq_some_iff.mp found).1, size, among, rfl⟩
  · rintro ⟨place, inside, size, among, rfl⟩
    exact ⟨((pendingImages images)[place], place),
      List.mk_mem_zipIdx_iff_getElem?.mpr (List.getElem?_eq_getElem inside),
      List.mem_map.mpr ⟨size, among, rfl⟩⟩

end Stored

section Names

theorem file_name (id : String) (size : ImageSize) :
    fileName id size = id ++ ImageUrls.sizeSuffix size ++ ".jpg" := by
  cases size <;> simp [fileName, ImageUpload.sizeSuffix, ImageUrls.sizeSuffix, String.append_assoc]

theorem suffix_apart (size other : ImageSize) (apart : size ≠ other) :
    (ImageUrls.sizeSuffix size).toList ≠ (ImageUrls.sizeSuffix other).toList := by
  cases size <;> cases other <;> first | exact absurd rfl apart | decide

/-- The underscore of a suffix tells where an id ends. -/
theorem name_size (first second : ImageId) (size other : ImageSize)
    (same : fileName first.text size = fileName second.text other) : size = other := by
  have underscore : ∀ (id : ImageId) (size : ImageSize),
      '_' ∈ (fileName id.text size).toList ↔ (ImageUrls.sizeSuffix size).toList.length = 2 := by
    intro id size
    have free := ImageUrls.id_apart id '_' (by decide)
    simp only [file_name, String.toList_append, List.mem_append, free, false_or]
    cases size <;> decide
  have marked := (underscore first size).symm.trans (same ▸ underscore second other)
  have length : (ImageUrls.sizeSuffix size).toList.length =
    (ImageUrls.sizeSuffix other).toList.length := by
    cases size <;> cases other <;> first | rfl | exact absurd marked (by decide)
  by_contra apart
  have letters := congrArg String.toList same
  simp only [file_name, String.toList_append] at letters
  exact suffix_apart size other apart
    (List.append_inj_right' (List.append_cancel_right letters) length)

theorem base_names (base key name : String) (same : base ++ "/" ++ key = base ++ "/" ++ name) :
    key = name := by
  have letters := congrArg String.toList same
  simp only [String.toList_append] at letters
  exact String.toList_inj.mp (List.append_cancel_left letters)

end Names

section Displayed
variable (options : UploadOptions) (attempts : Nat → Attempt) (images : List String)

/-- A place whose image is not pending again later. -/
def IsLast (place : Nat) (url : String) : Prop :=
  (pendingImages images)[place]? = some url ∧
    ∀ later, place < later → (pendingImages images)[later]? ≠ some url

/-- Each entry that the upload has put into the list is shown from an object it has stored. -/
def Displayable (base : String) : Prop :=
  ∀ later, (uploadAndGetImageIds options attempts images).changes.getLast? = some later →
    ∀ (i : Nat) (url id : String), images[i]? = some url → isPreviewImage url = true →
      later[i]? = some id → isUploadedImage id = true →
        ∃ key ∈ (uploadAndGetImageIds options attempts images).stored,
          getDisplayImageUrl (some base) id options.displaySize = .ok (base ++ "/" ++ key)

variable {images}

theorem last_unique (first second : Nat) (url : String) (one : IsLast images first url)
    (other : IsLast images second url) : first = second := by
  rcases Nat.lt_trichotomy first second with before | same | after
  · exact absurd other.1 (one.2 second before)
  · exact same
  · exact absurd one.1 (other.2 first after)

/-- A pending image gets the id drawn at its last place, if that is not empty. -/
theorem updated_at (i : Nat) (url : String) (found : images[i]? = some url)
    (preview : isPreviewImage url = true) :
    ∃ place, IsLast images place url ∧
      (updatedImages images (uploadedIds attempts images))[i]? =
        some (if ids attempts place = "" then url else ids attempts place) := by
  have member : url ∈ pendingImages images :=
    List.mem_filter.mpr ⟨List.mem_of_getElem? found, preview⟩
  obtain ⟨place, here, latest, value⟩ := fold_last
    (fun index => (uploadedIds attempts images)[index]?) 0 (pendingImages images) url
      (fun _ => none) member
  rw [Nat.zero_add, uploaded_ids attempts _ url here] at value
  have mapped : urlMapping images (uploadedIds attempts images) url = some (ids attempts place) :=
    value
  refine ⟨place, ⟨here, latest⟩, ?_⟩
  rw [updatedImages, List.getElem?_map, found, Option.map_some, if_pos preview, mapped,
    AuthHandlers.truthy, Option.filter_some]
  by_cases empty : ids attempts place = "" <;> simp [empty]

theorem display_url (base : String) (configured : base ≠ "") (id : ImageId) (size : ImageSize) :
    getDisplayImageUrl (some base) id.text size = .ok (base ++ "/" ++ fileName id.text size) := by
  have uploaded : isPreviewImage id.text = false := by
    have := id_uploaded id
    simpa [isUploadedImage] using this
  have filled : AuthHandlers.truthy (some base) = some base := by
    rw [AuthHandlers.truthy, Option.filter_some, if_pos (by simpa using configured)]
  rw [getDisplayImageUrl, uploaded, if_neg Bool.false_ne_true, ImageUrls.getImageUrl,
    filled, file_name]
  simp [AuthHandlers.truthy, String.append_assoc]

theorem last_change (pending : images.any isPreviewImage = true)
    (succeeds : Succeeds options attempts images) :
    (uploadAndGetImageIds options attempts images).changes.getLast? =
      some (updatedImages images (uploadedIds attempts images)) := by
  obtain ⟨returns, changed⟩ := pending_report options attempts pending succeeds
  rw [uploadAndGetImageIds, if_pos pending]
  simp only [returns, List.getLast?_concat]

theorem fits_displayable (base : String) (configured : base ≠ "") (fits : Fits options)
    (pending : images.any isPreviewImage = true) (succeeds : Succeeds options attempts images) :
    Displayable options attempts images base := by
  intro later last i url id found preview entry uploaded
  rw [last_change options attempts pending succeeds] at last
  cases last
  obtain ⟨place, final, value⟩ := updated_at attempts i url found preview
  rw [value] at entry
  cases entry
  by_cases empty : ids attempts place = ""
  · rw [if_pos empty] at uploaded
    exact absurd uploaded (by simp [isUploadedImage, preview])
  · rw [if_neg empty]
    refine ⟨fileName (ids attempts place) options.displaySize, ?_, ?_⟩
    · rw [pending_stored options attempts images pending succeeds]
      exact ⟨place, (List.getElem?_eq_some_iff.mp final.1).1, options.displaySize, fits, rfl⟩
    · exact display_url base configured (attempts place).baseImageId options.displaySize

theorem displayable_fits (base : String) (configured : base ≠ "")
    (displayed : Displayable options attempts images base)
    (pending : images.any isPreviewImage = true) (succeeds : Succeeds options attempts images)
    (place : Nat) (url : String) (final : IsLast images place url)
    (named : ids attempts place ≠ "") :
    Fits options := by
  have member := List.mem_of_getElem? final.1
  have preview := pending_preview images url member
  obtain ⟨i, inside, same⟩ := List.getElem_of_mem (List.mem_of_mem_filter member)
  have found := (List.getElem?_eq_getElem inside).trans (congrArg some same)
  obtain ⟨other, also, value⟩ := updated_at attempts i url found preview
  obtain rfl := last_unique other place url also final
  rw [if_neg named] at value
  obtain ⟨key, stored, shown⟩ := displayed _ (last_change options attempts pending succeeds) i url _
    found preview value (id_uploaded _)
  obtain ⟨owner, -, size, among, rfl⟩ :=
    (pending_stored options attempts images pending succeeds key).mp stored
  have urls := (display_url base configured (attempts other).baseImageId
    options.displaySize).symm.trans shown
  have names := base_names base _ _ (Except.ok.inj urls)
  have same := name_size (attempts other).baseImageId (attempts owner).baseImageId _ size names
  rw [Fits, same]
  exact among

theorem displayable_iff (base : String) (configured : base ≠ "") (images : List String) :
    Displayable options attempts images base ↔
      Fits options ∨ ¬ Succeeds options attempts images ∨
        ∀ place url, IsLast images place url → ids attempts place = "" := by
  by_cases pending : images.any isPreviewImage = true
  -- Only an upload that succeeds with images pending changes the list.
  · by_cases succeeds : Succeeds options attempts images
    · constructor
      · intro displayed
        by_cases fits : Fits options
        · exact Or.inl fits
        · refine Or.inr (Or.inr ?_)
          intro place url final
          by_contra named
          exact fits (displayable_fits options attempts base configured displayed pending succeeds
            place url final named)
      · rintro (fits | fails | unnamed)
        · exact fits_displayable options attempts base configured fits pending succeeds
        · exact absurd succeeds fails
        · intro later last i url id found preview entry uploaded
          rw [last_change options attempts pending succeeds] at last
          cases last
          obtain ⟨place, final, value⟩ := updated_at attempts i url found preview
          rw [value, if_pos (unnamed place url final)] at entry
          cases entry
          exact absurd uploaded (by simp [isUploadedImage, preview])
    · refine iff_of_true ?_ (Or.inr (Or.inl succeeds))
      intro later last
      rw [(failure_stays options attempts pending succeeds).2] at last
      cases last
  · refine iff_of_true ?_ (Or.inr (Or.inr ?_))
    · intro later last
      rw [uploadAndGetImageIds, if_neg pending] at last
      cases last
    · intro place url final
      have member := List.mem_of_getElem? final.1
      exact absurd (List.any_eq_true.mpr ⟨url, (List.mem_filter.mp member)⟩) pending

theorem displayable_thumbnails :
    Displayable { enableResizing := false, displaySize := .original } smooth
      ["k3v9", "file://cat.jpg"] "https://media.example" :=
  (displayable_iff { enableResizing := false, displaySize := .original } smooth
    "https://media.example" (by decide) ["k3v9", "file://cat.jpg"]).mpr (Or.inl (by decide))

/-- Without resizing only the original is stored, and the default display size asks for the
large one. -/
theorem original_hidden :
    ¬ ∀ (options : UploadOptions) (attempts : Nat → Attempt) (images : List String) (base : String),
      base ≠ "" → Displayable options attempts images base := by
  intro displayed
  have fits := displayable_fits unscaled smooth "https://media.example" (by decide)
    (displayed unscaled smooth ["file://cat.jpg"] "https://media.example" (by decide)) (by decide)
    (smooth_succeeds _) 0 "file://cat.jpg" (by
      constructor
      · decide
      · intro later after
        rw [List.getElem?_eq_none (Nat.succ_le_of_lt after)]
        simp) (by decide)
  exact absurd fits (by decide)

end Displayed

end TopInspect.ImageDisplay
