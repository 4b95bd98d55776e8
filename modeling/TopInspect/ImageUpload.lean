import Mathlib.Data.Rat.Defs
import Mathlib.Algebra.Order.Ring.Unbundled.Rat
import Mathlib.Data.List.Nodup
import TopInspect.ImageUrls
import TopInspect.ProtectedRoutes

/-! The upload of pending images, and the two passes that put the new ids into the list. -/
namespace TopInspect.ImageUpload
open ImageChanges (isPreviewImage isUploadedImage)
open AuthHandlers (truthy)
open ImageUrls (ImageSize ImageId isBase36)

structure UploadOptions where
  enableResizing : Bool := true
  requiredSizes : List ImageSize := [.thumbnail, .medium, .large]
  maxFileSize : Rat := 5
  displaySize : ImageSize := .large

/-- What the upload of one image meets: the id drawn for it, the size of its file, the files
that resizing makes, and whether the server has stored an object. -/
structure Attempt where
  baseImageId : ImageId
  blobSize : Option Nat
  manipulate : Nat → Option String
  stores : Nat → Bool

structure ProcessedImage where
  uri : String
  size : ImageSize

structure Uploaded where
  imageId : String
  stored : List String

structure UploadResult where
  oldUrl : String
  newImageId : String

/-- What a call leaves behind; without a result it has thrown. -/
structure Report (α : Type) where
  result : Option α
  changes : List (List String)
  errors : List String
  stored : List String

section Images
variable (options : UploadOptions) (attempt : Attempt)

def processImage (imageUri : String) : Option (List ProcessedImage) :=
  if !options.enableResizing then some [{ uri := imageUri, size := .original }]
  else
    attempt.blobSize.bind fun blobSize =>
      if options.maxFileSize < (blobSize : Rat) / (1024 * 1024) then none
      else
        options.requiredSizes.zipIdx.mapM fun (sizeKey, place) =>
          if sizeKey = .original then some { uri := imageUri, size := sizeKey }
          else (attempt.manipulate place).map fun uri => { uri, size := sizeKey }

def sizeSuffix : ImageSize → String
  | .thumbnail => "t"
  | .medium => "m"
  | .large => "l"
  | .original => ""

def fileName (baseImageId : String) (size : ImageSize) : String :=
  if sizeSuffix size = "" then baseImageId ++ ".jpg"
  else baseImageId ++ "_" ++ sizeSuffix size ++ ".jpg"

/-- The key in the answer of the presigned-url route. -/
def presignedKey (fileName : String) : Option String :=
  match ProtectedRoutes.generatePresignedUrl { contentType := "image/jpeg", fileName } with
  | .ok { body := .upload _ (some fields), .. } => some fields.key
  | _ => none

def uploadProcessedImage (place : Nat) (processedImage : ProcessedImage) : Option String :=
  if attempt.stores place then
    presignedKey (fileName attempt.baseImageId.text processedImage.size)
  else none

def uploadImage (imageUrl : String) : Option Uploaded :=
  if !isPreviewImage imageUrl then some { imageId := imageUrl, stored := [] }
  else
    (processImage options attempt imageUrl).bind fun processedImages =>
      (processedImages.zipIdx.mapM fun (processedImage, place) =>
        uploadProcessedImage attempt place processedImage).map fun stored =>
          { imageId := attempt.baseImageId.text, stored }

end Images

section Lists
variable (options : UploadOptions) (attempts : Nat → Attempt) (images : List String)

def pendingImages : List String := images.filter isPreviewImage

def getSavedImageIds : List String := images.filter isUploadedImage

def uploadEach (place : Nat) : List String → Option (List (UploadResult × List String))
  | [] => some []
  | url :: rest =>
      (uploadImage options (attempts place) url).bind fun uploaded =>
        (uploadEach (place + 1) rest).map fun results =>
          ({ oldUrl := url, newImageId := uploaded.imageId }, uploaded.stored) :: results

def newImages (uploadResults : List UploadResult) : List String :=
  images.map fun url =>
    match uploadResults.find? fun result => result.oldUrl = url with
    | some result => result.newImageId
    | none => url

-- Of a failed upload only the messages are kept: the first comes from uploadImage.
def uploadPending : Report (List String) :=
  let pending := pendingImages images
  if pending.length = 0 then { result := some [], changes := [], errors := [], stored := [] }
  else
    match uploadEach options attempts 0 pending with
    | none =>
        { result := none, changes := [], stored := []
          errors := ["Failed to upload image", "Failed to upload images"] }
    | some results =>
        let uploadResults := results.map Prod.fst
        { result := some (uploadResults.map UploadResult.newImageId)
          changes := [newImages images uploadResults]
          errors := [], stored := results.flatMap Prod.snd }

def set (mapping : String → Option String) (key : String) (value : Option String) :
    String → Option String :=
  fun other => if other = key then value else mapping other

def urlMapping (newUploadedImageIds : List String) : String → Option String :=
  (pendingImages images).zipIdx.foldl
    (fun mapping (url, index) => set mapping url newUploadedImageIds[index]?) fun _ => none

def updatedImages (newUploadedImageIds : List String) : List String :=
  images.map fun url =>
    if isPreviewImage url then (truthy (urlMapping images newUploadedImageIds url)).getD
      url else url

def uploadAndGetImageIds : Report (List String) :=
  if images.any isPreviewImage then
    let pending := uploadPending options attempts images
    match pending.result with
    | none => { pending with result := none }
    | some newUploadedImageIds =>
        let updated := updatedImages images newUploadedImageIds
        { result := some (updated.filter isUploadedImage), changes := pending.changes ++ [updated]
          errors := pending.errors, stored := pending.stored }
  else { result := some (getSavedImageIds images), changes := [], errors := [], stored := [] }

end Lists

section Positions

theorem filter_place {α : Type} (keep : α → Bool) (list : List α) (i : Nat) (value : α)
    (found : list[i]? = some value) (kept : keep value = true) :
    (list.filter keep)[(list.take i).countP keep]? = some value := by
  induction list generalizing i with
  | nil => simp at found
  | cons first rest ih =>
      cases i with
      | zero =>
          cases found
          simp [kept]
      | succ i =>
          have later := ih i found
          by_cases keeps : keep first = true <;> simp [keeps, later]

theorem place_apart {α : Type} (keep : α → Bool) (list : List α) (i j : Nat) (first second : α)
    (foundFirst : list[i]? = some first) (foundSecond : list[j]? = some second)
    (keptFirst : keep first = true) (keptSecond : keep second = true)
    (same : (list.take i).countP keep = (list.take j).countP keep) : i = j := by
  induction list generalizing i j with
  | nil => simp at foundFirst
  | cons head rest ih =>
      cases i with
      | zero =>
          cases foundFirst
          cases j with
          | zero => rfl
          | succ j => simp [keptFirst] at same
      | succ i =>
          cases j with
          | zero =>
              cases foundSecond
              simp [keptSecond] at same
          | succ j =>
              congr 1
              apply ih i j foundFirst foundSecond
              simpa [List.countP_cons] using same

theorem find_first (values : Nat → String) (place : Nat) (urls : List String) (url : String)
    (member : url ∈ urls) :
    ∃ k, urls[k]? = some url ∧
      (((urls.zipIdx place).map fun entry => UploadResult.mk entry.1 (values entry.2)).find?
        fun result => result.oldUrl = url) =
          some { oldUrl := url, newImageId := values (place + k) } := by
  induction urls generalizing place with
  | nil => cases member
  | cons first rest ih =>
      by_cases same : first = url
      · exact ⟨0, by simp [same], by simp [same]⟩
      · obtain ⟨k, found, search⟩ :=
          ih (place + 1) ((List.mem_cons.mp member).resolve_left (Ne.symm same))
        refine ⟨k + 1, by simpa using found, ?_⟩
        simpa [same, Nat.add_comm, Nat.add_left_comm] using search

theorem fold_absent (values : Nat → Option String) (place : Nat) (urls : List String) (url : String)
    (mapping : String → Option String) (absent : url ∉ urls) :
    (urls.zipIdx place).foldl (fun mapping (key, index) => set mapping key (values index))
    mapping url =
      mapping url := by
  induction urls generalizing place mapping with
  | nil => rfl
  | cons first rest ih =>
      rw [List.mem_cons, not_or] at absent
      rw [List.zipIdx_cons, List.foldl_cons, ih (place + 1) _ absent.2]
      simp [set, absent.1]

theorem fold_last (values : Nat → Option String) (place : Nat) (urls : List String) (url : String)
    (mapping : String → Option String) (member : url ∈ urls) :
    ∃ k, urls[k]? = some url ∧ (∀ later, k < later → urls[later]? ≠ some url) ∧
      (urls.zipIdx place).foldl (fun mapping (key, index) => set mapping key (values index))
      mapping url =
        values (place + k) := by
  induction urls generalizing place mapping with
  | nil => cases member
  | cons first rest ih =>
      rw [List.zipIdx_cons, List.foldl_cons]
      by_cases again : url ∈ rest
      · obtain ⟨k, found, latest, value⟩ := ih (place + 1) (set mapping first (values place)) again
        refine ⟨k + 1, by simpa using found, ?_, ?_⟩
        · intro later after
          cases later with
          | zero => exact absurd after (Nat.not_lt_zero _)
          | succ later => simpa using latest later (Nat.lt_of_succ_lt_succ after)
        · rw [value, Nat.add_assoc, Nat.add_comm 1 k]
      · obtain rfl : url = first := (List.mem_cons.mp member).resolve_right again
        refine ⟨0, rfl, ?_, ?_⟩
        · intro later after present
          cases later with
          | zero => exact absurd after (Nat.lt_irrefl 0)
          | succ later => exact again (List.mem_of_getElem? (by simpa using present))
        · rw [fold_absent values _ rest url _ again]
          simp [set]

end Positions

section Passes

theorem id_uploaded (id : ImageId) : isUploadedImage id.text = true := by
  rw [isUploadedImage, Bool.not_eq_true']
  by_contra preview
  have starts := List.isPrefixOf_iff_prefix.mp (Bool.eq_true_of_not_eq_false preview)
  have colon : ':' ∈ id.text.toList := starts.subset (by decide)
  exact absurd (id.base36 ':' colon) (by decide)

theorem pending_preview (images : List String) (url : String)
    (member : url ∈ pendingImages images) :
    isPreviewImage url = true := (List.mem_filter.mp member).2

theorem presigned_key (fileName : String) : presignedKey fileName = some fileName := rfl

variable (options : UploadOptions) (attempts : Nat → Attempt)

def ids (place : Nat) : String := (attempts place).baseImageId.text

def Succeeds (images : List String) : Prop :=
  ∀ (place : Nat) (url : String), (pendingImages images)[place]? = some url →
    (uploadImage options (attempts place) url).isSome = true

theorem upload_id (attempt : Attempt) (url : String) (preview : isPreviewImage url = true)
    (uploaded : Uploaded) (returns : uploadImage options attempt url = some uploaded) :
    uploaded.imageId = attempt.baseImageId.text := by
  simp only [uploadImage, preview, Bool.not_true, Bool.false_eq_true, if_false] at returns
  obtain ⟨processed, -, stores⟩ := Option.bind_eq_some_iff.mp returns
  obtain ⟨stored, -, rfl⟩ := Option.map_eq_some_iff.mp stores
  rfl

theorem each_results (place : Nat) (urls : List String)
    (previews : ∀ url ∈ urls, isPreviewImage url = true) :
    (uploadEach options attempts place urls).map (List.map Prod.fst) =
      if ∀ entry ∈ urls.zipIdx place,
          (uploadImage options (attempts entry.2) entry.1).isSome = true then
        some ((urls.zipIdx place).map fun entry =>
          { oldUrl := entry.1, newImageId := ids attempts entry.2 })
      else none := by
  induction urls generalizing place with
  | nil => simp [uploadEach]
  | cons url rest ih =>
      have later := ih (place + 1) fun other member =>
        previews other (List.mem_cons_of_mem _ member)
      rw [uploadEach, List.zipIdx_cons]
      cases returns : uploadImage options (attempts place) url with
      | none => simp [returns]
      | some uploaded =>
          have id := upload_id options (attempts place) url (previews url List.mem_cons_self)
            uploaded returns
          simp only [Option.bind_some, Option.map_map, List.forall_mem_cons, returns,
            Option.isSome_some, true_and, List.map_cons]
          have split : (uploadEach options attempts (place + 1) rest).map
              (List.map Prod.fst ∘ fun results =>
                ({ oldUrl := url, newImageId := uploaded.imageId }, uploaded.stored) :: results) =
              ((uploadEach options attempts (place + 1) rest).map (List.map Prod.fst)).map
                (List.cons { oldUrl := url, newImageId := uploaded.imageId }) := by
            rw [Option.map_map]
            rfl
          rw [split, later, id]
          split <;> rfl

variable (images : List String)

def uploaded : List UploadResult :=
  (pendingImages images).zipIdx.map fun entry =>
    { oldUrl := entry.1, newImageId := ids attempts entry.2 }

def uploadedIds : List String := (uploaded attempts images).map UploadResult.newImageId

variable {images}

theorem uploaded_ids (place : Nat) (url : String)
    (found : (pendingImages images)[place]? = some url) :
    (uploadedIds attempts images)[place]? = some (ids attempts place) := by
  simp [uploadedIds, uploaded, found]

theorem succeeds_iff : Succeeds options attempts images ↔
    ∀ entry ∈ (pendingImages images).zipIdx,
      (uploadImage options (attempts entry.2) entry.1).isSome = true := by
  constructor
  · intro succeeds entry member
    exact succeeds entry.2 entry.1 (List.mk_mem_zipIdx_iff_getElem?.mp member)
  · intro every place url found
    exact every (url, place) (List.mk_mem_zipIdx_iff_getElem?.mpr found)

theorem pending_nonempty (pending : images.any isPreviewImage = true) :
    (pendingImages images).length ≠ 0 := by
  obtain ⟨url, member, preview⟩ := List.any_eq_true.mp pending
  exact List.length_pos_of_mem (List.mem_filter.mpr ⟨member, preview⟩) |>.ne'

theorem pending_report (pending : images.any isPreviewImage = true)
    (succeeds : Succeeds options attempts images) :
    (uploadPending options attempts images).result = some (uploadedIds attempts images) ∧
      (uploadPending options attempts images).changes =
        [newImages images (uploaded attempts images)] := by
  have loop := each_results options attempts 0 (pendingImages images) (pending_preview images)
  rw [if_pos ((succeeds_iff options attempts).mp succeeds)] at loop
  obtain ⟨results, ended, same⟩ := Option.map_eq_some_iff.mp loop
  simp only [uploadPending, if_neg (pending_nonempty pending), ended]
  rw [same]
  exact ⟨rfl, rfl⟩

theorem pending_failure (pending : images.any isPreviewImage = true)
    (fails : ¬ Succeeds options attempts images) :
    (uploadPending options attempts images).result = none ∧
      (uploadPending options attempts images).changes = [] := by
  have loop := each_results options attempts 0 (pendingImages images) (pending_preview images)
  rw [if_neg fun every => fails ((succeeds_iff options attempts).mpr every),
    Option.map_eq_none_iff] at loop
  simp only [uploadPending, if_neg (pending_nonempty pending), loop]
  exact ⟨trivial, trivial⟩

structure Distinct (images : List String) : Prop where
  nonempty : ∀ place, place < (pendingImages images).length → ids attempts place ≠ ""
  apart : ∀ first second, first < (pendingImages images).length →
    second < (pendingImages images).length → ids attempts first = ids attempts second →
      first = second

/-- The place of an image of the list among the pending ones. -/
def pendingPlace (images : List String) (i : Nat) : Nat := (images.take i).countP isPreviewImage

/-- Each preview of the list has the id of its own upload, and nothing else has changed. -/
structure Replaced (images later : List String) : Prop where
  length : later.length = images.length
  kept : ∀ (i : Nat) (url : String), images[i]? = some url → isUploadedImage url = true →
    later[i]? = some url
  own : ∀ (i : Nat) (url : String), images[i]? = some url → isPreviewImage url = true →
    later[i]? = some (ids attempts (pendingPlace images i))
  apart : ∀ (i j : Nat) (first second : String), images[i]? = some first →
    images[j]? = some second →
    isPreviewImage first = true → isPreviewImage second = true → i ≠ j → later[i]? ≠ later[j]?

/-- Both passes and the result are one list, and it is the right one. -/
def PassesAgree (images : List String) : Prop :=
  ∃ later, (uploadPending options attempts images).changes = [later] ∧
    (uploadAndGetImageIds options attempts images).changes = [later, later] ∧
    (uploadAndGetImageIds options attempts images).result = some later ∧
    Replaced attempts images later

def FailureStays (images : List String) : Prop :=
  (uploadPending options attempts images).changes = [] ∧
    (uploadAndGetImageIds options attempts images).changes = []

def NothingLost (images : List String) : Prop :=
  (Succeeds options attempts images → PassesAgree options attempts images) ∧
    (¬ Succeeds options attempts images → FailureStays options attempts images)

theorem failure_stays (pending : images.any isPreviewImage = true)
    (fails : ¬ Succeeds options attempts images) : FailureStays options attempts images := by
  obtain ⟨threw, unchanged⟩ := pending_failure options attempts pending fails
  constructor
  · exact unchanged
  · rw [uploadAndGetImageIds, if_pos pending]
    simp only [threw]
    exact unchanged

/-- Without repeats the two passes put the same id at a preview's place, its own. -/
theorem passes_at (named : ∀ place, place < (pendingImages images).length → ids attempts place ≠ "")
    (single : (pendingImages images).Nodup)
    (i : Nat) (url : String) (found : images[i]? = some url) (preview : isPreviewImage url = true) :
    (newImages images (uploaded attempts images))[i]? =
      some (ids attempts (pendingPlace images i)) ∧
      (updatedImages images (uploadedIds attempts images))[i]? =
        some (ids attempts (pendingPlace images i)) := by
  have place : (pendingImages images)[pendingPlace images i]? = some url :=
    filter_place isPreviewImage images i url found preview
  have member : url ∈ pendingImages images := List.mem_of_getElem? place
  have inside := (List.getElem?_eq_some_iff.mp place).1
  -- Without repeats a url has one place among the pending images.
  have only : ∀ k, (pendingImages images)[k]? = some url → k = pendingPlace images i := by
    intro k here
    exact (List.getElem?_inj (List.getElem?_eq_some_iff.mp here).1 single).mp
      (here.trans place.symm)
  constructor
  · obtain ⟨k, here, search⟩ := find_first (ids attempts) 0 (pendingImages images) url member
    rw [Nat.zero_add, only k here] at search
    rw [newImages, List.getElem?_map, found, Option.map_some, uploaded, search]
  · obtain ⟨k, here, -, value⟩ := fold_last (fun index => (uploadedIds attempts images)[index]?) 0
      (pendingImages images) url (fun _ => none) member
    rw [Nat.zero_add, only k here, uploaded_ids attempts _ url place] at value
    have mapped : urlMapping images (uploadedIds attempts images) url =
        some (ids attempts (pendingPlace images i)) := value
    have filled : truthy (some (ids attempts (pendingPlace images i))) =
        some (ids attempts (pendingPlace images i)) := by
      rw [truthy, Option.filter_some, if_pos]
      simpa using named (pendingPlace images i) inside
    rw [updatedImages, List.getElem?_map, found, Option.map_some, if_pos preview, mapped, filled]
    rfl

theorem passes_kept (i : Nat) (url : String) (found : images[i]? = some url)
    (kept : isUploadedImage url = true) :
    (newImages images (uploaded attempts images))[i]? = some url ∧
      (updatedImages images (uploadedIds attempts images))[i]? = some url := by
  have other : isPreviewImage url = false := by simpa [isUploadedImage] using kept
  constructor
  · have absent : (uploaded attempts images).find? (fun result => result.oldUrl = url) = none := by
      rw [List.find?_eq_none]
      intro result member
      obtain ⟨⟨old, place⟩, entry, rfl⟩ := List.mem_map.mp member
      have preview := pending_preview images old (List.mem_of_getElem?
        (List.mk_mem_zipIdx_iff_getElem?.mp entry))
      simp only [decide_eq_true_eq]
      rintro rfl
      exact absurd preview (by simp [other])
    rw [newImages, List.getElem?_map, found, Option.map_some, absent]
  · rw [updatedImages, List.getElem?_map, found, Option.map_some, if_neg (by simp [other])]

theorem passes_same (distinct : Distinct attempts images) (single : (pendingImages images).Nodup) :
    newImages images (uploaded attempts images) =
      updatedImages images (uploadedIds attempts images) := by
  apply List.ext_getElem?
  intro i
  cases found : images[i]? with
  | none => simp [newImages, updatedImages, found]
  | some url =>
      cases preview : isPreviewImage url with
      | true =>
          obtain ⟨first, last⟩ := passes_at attempts distinct.nonempty single i url found preview
          rw [first, last]
      | false =>
          obtain ⟨first, last⟩ :=
            passes_kept attempts i url found (by simp [isUploadedImage, preview])
          rw [first, last]

theorem updated_replaced (distinct : Distinct attempts images)
    (single : (pendingImages images).Nodup) :
    Replaced attempts images (updatedImages images (uploadedIds attempts images)) where
  length := List.length_map _
  kept := fun i url found kept => (passes_kept attempts i url found kept).2
  own := fun i url found preview =>
    (passes_at attempts distinct.nonempty single i url found preview).2
  apart := by
    intro i j first second foundFirst foundSecond previewFirst previewSecond different same
    rw [(passes_at attempts distinct.nonempty single i first foundFirst previewFirst).2,
      (passes_at attempts distinct.nonempty single j second foundSecond previewSecond).2] at same
    have placeFirst := filter_place isPreviewImage images i first foundFirst previewFirst
    have placeSecond := filter_place isPreviewImage images j second foundSecond previewSecond
    have places := distinct.apart _ _ (List.getElem?_eq_some_iff.mp placeFirst).1
      (List.getElem?_eq_some_iff.mp placeSecond).1 (Option.some.inj same)
    apply different
    exact place_apart isPreviewImage images i j first second foundFirst foundSecond previewFirst
      previewSecond places

theorem updated_uploaded (distinct : Distinct attempts images)
    (single : (pendingImages images).Nodup) :
    (updatedImages images (uploadedIds attempts images)).filter isUploadedImage =
      updatedImages images (uploadedIds attempts images) := by
  rw [List.filter_eq_self]
  intro later member
  obtain ⟨i, inside, same⟩ := List.getElem_of_mem member
  have there : i < images.length := by simpa [updatedImages] using inside
  have found := List.getElem?_eq_getElem there
  have here := (List.getElem?_eq_getElem inside).trans (congrArg some same)
  cases preview : isPreviewImage images[i] with
  | true =>
      rw [(passes_at attempts distinct.nonempty single i _ found preview).2] at here
      cases here
      exact id_uploaded _
  | false =>
      have uploaded : isUploadedImage images[i] = true := by simp [isUploadedImage, preview]
      rw [(passes_kept attempts i _ found uploaded).2] at here
      cases here
      exact uploaded

theorem passes_agree (pending : images.any isPreviewImage = true)
    (distinct : Distinct attempts images) (single : (pendingImages images).Nodup)
    (succeeds : Succeeds options attempts images) :
    PassesAgree options attempts images := by
  obtain ⟨returns, changed⟩ := pending_report options attempts pending succeeds
  refine ⟨updatedImages images (uploadedIds attempts images), ?_, ?_, ?_, ?_⟩
  · rw [changed, passes_same attempts distinct single]
  · rw [uploadAndGetImageIds, if_pos pending]
    simp only [returns, changed, passes_same attempts distinct single, List.cons_append,
      List.nil_append]
  · rw [uploadAndGetImageIds, if_pos pending]
    simp only [returns, updated_uploaded attempts distinct single]
  · exact updated_replaced attempts distinct single

theorem agree_single (agrees : PassesAgree options attempts images)
    (pending : images.any isPreviewImage = true) (succeeds : Succeeds options attempts images) :
    (pendingImages images).Nodup := by
  obtain ⟨later, changed, -, -, replaced⟩ := agrees
  rw [(pending_report options attempts pending succeeds).2, List.cons.injEq] at changed
  rw [pendingImages, List.Nodup, List.pairwise_filter, List.pairwise_iff_getElem]
  intro i j insideFirst insideSecond before previewFirst previewSecond same
  apply replaced.apart i j _ _ (List.getElem?_eq_getElem insideFirst)
    (List.getElem?_eq_getElem insideSecond) previewFirst previewSecond (Nat.ne_of_lt before)
  rw [← changed.1, newImages, List.getElem?_map, List.getElem?_map,
    List.getElem?_eq_getElem insideFirst, List.getElem?_eq_getElem insideSecond, same]

theorem nothing_lost_iff (images : List String) (pending : images.any isPreviewImage = true)
    (distinct : Distinct attempts images) :
    NothingLost options attempts images ↔
      (pendingImages images).Nodup ∨ ¬ Succeeds options attempts images := by
  constructor
  · rintro ⟨agrees, -⟩
    by_cases succeeds : Succeeds options attempts images
    · exact Or.inl (agree_single options attempts (agrees succeeds) pending succeeds)
    · exact Or.inr succeeds
  · rintro condition
    constructor
    · intro succeeds
      have single := condition.resolve_right (not_not_intro succeeds)
      exact passes_agree options attempts pending distinct single succeeds
    · exact failure_stays options attempts pending

end Passes

section Samples

def unscaled : UploadOptions := { enableResizing := false }

def drawn (place : Nat) : ImageId where
  text := String.ofList (List.replicate (place + 1) 'a')
  base36 := by
    intro letter member
    rw [String.toList_ofList] at member
    obtain rfl := List.eq_of_mem_replicate member
    decide

def smooth (place : Nat) : Attempt where
  baseImageId := drawn place
  blobSize := some 4096
  manipulate := fun _ => some "file://scaled.jpg"
  stores := fun _ => true

theorem smooth_distinct (images : List String) : Distinct smooth images where
  nonempty := by
    intro place _ empty
    have length := congrArg (fun text : String => text.toList.length) empty
    simp [ids, smooth, drawn] at length
  apart := by
    intro first second _ _ same
    have length := congrArg (fun text : String => text.toList.length) same
    simpa [ids, smooth, drawn] using length

theorem smooth_succeeds (images : List String) : Succeeds unscaled smooth images := by
  intro place url found
  have preview := pending_preview images url (List.mem_of_getElem? found)
  simp [uploadImage, preview, processImage, unscaled, uploadProcessedImage, smooth, presigned_key]

theorem nothing_lost_twins :
    NothingLost unscaled smooth ["k3v9", "file://cat.jpg", "file://dog.jpg"] :=
  (nothing_lost_iff unscaled smooth ["k3v9", "file://cat.jpg", "file://dog.jpg"] (by decide)
    (smooth_distinct _)).mpr (Or.inl (by decide))

/-- A photo picked twice has one id for both its places after either pass. -/
theorem repeated_photo_merged :
    ¬ ∀ (options : UploadOptions) (attempts : Nat → Attempt) (images : List String),
      images.any isPreviewImage = true → Distinct attempts images →
        NothingLost options attempts images := by
  intro kept
  have twice := kept unscaled smooth ["file://cat.jpg", "file://cat.jpg"] (by decide)
    (smooth_distinct _)
  have single := agree_single unscaled smooth (twice.1 (smooth_succeeds _)) (by decide)
    (smooth_succeeds _)
  exact absurd single (by decide)

end Samples

end TopInspect.ImageUpload
