import TopInspect.ImageDisplay
import TopInspect.StorageService

/-! An upload between directUpload of handlers/upload.ts and a storage service that reads paths and
takes signatures as it documents. -/
namespace TopInspect.SignedUploads

open AwsSignature
open StorageService
open ProtectedRoutes (includes DirectUploadQuery)
open RefreshTokens (toString)
open UploadSigning
    (Endpoint Bucket uploadUrl signedPath url_letters signed_letters bucket_plain bucket_split)
open UrlPath (Target Fixed isDot isPlain)

section Sending

structure Config where
  R2_ENDPOINT : Endpoint
  R2_BUCKET_NAME : Bucket
  R2_ACCESS_KEY_ID : String
  R2_SECRET_ACCESS_KEY : String

/-- The host of a URL, in small letters and without the default port. -/
def hostHeader (endpoint : Endpoint) : String :=
  let lower := endpoint.host.toList.map Char.toLower
  String.ofList (if ":443".toList <:+ lower then lower.take (lower.length - 4) else lower)

def fetch (endpoint : Endpoint) (url method : String) (headers : List (String × String)) :
    Option Request :=
  (UrlPath.target url.toList).map fun target =>
    { method, path := target.path, query := target.query,
      headers := ("host", hostHeader endpoint) :: headers }

def directUpload (crypto : Crypto) (config : Config) (now : Instant) (validated : DirectUploadQuery)
    (byteLength : Nat) : Option Request :=
  let url := uploadUrl config.R2_ENDPOINT config.R2_BUCKET_NAME validated.key
  let headers := [("content-type", validated.contentType),
    ("content-length", toString byteLength 10)]
  if includes config.R2_ENDPOINT.text "cloudflarestorage.com" then
    (generateAwsSignatureV4 crypto now "PUT" (signedPath config.R2_BUCKET_NAME validated.key)
      config.R2_ACCESS_KEY_ID config.R2_SECRET_ACCESS_KEY
      config.R2_ENDPOINT).bind fun authHeaders =>
        fetch config.R2_ENDPOINT url "PUT"
          (headers ++ [("authorization", authHeaders.Authorization),
          ("x-amz-date", authHeaders.xAmzDate),
            ("x-amz-content-sha256", authHeaders.xAmzContentSha256)])
  else fetch config.R2_ENDPOINT url "PUT" headers

end Sending

section Paths

/-- A key of unreserved letters and slashes, no segment of which is a dot segment. -/
structure Named (key : String) : Prop where
  kept : ∀ letter ∈ key.toList, isKept letter = true
  undotted : ∀ segment ∈ key.toList.splitOn '/', isDot segment = false

def Delivered (service : Service) (endpoint : Endpoint) (bucket : Bucket) (key : String) : Prop :=
  ∃ target, UrlPath.target (uploadUrl endpoint bucket key).toList = some target ∧
    target.query = none ∧
    service.canonicalUri target.path = (signedPath bucket key).toList ∧
    service.objectName target.path = utf8 (signedPath bucket key)

theorem kept_ascii (letter : Char) (kept : isKept letter = true) :
    letter.toNat < 128 ∧ letter ≠ '%' ∧ letter ≠ '\\' ∧ (letter ≠ '/' → isPlain letter = true) := by
  simp only [isKept, isUnreserved, Bool.or_eq_true, List.contains_eq_mem, decide_eq_true_eq,
    List.mem_cons, List.not_mem_nil, or_false] at kept
  rcases kept with (named | mark) | slash
  · have bounds := UploadSigning.alphanum_bounds letter named
    refine ⟨by omega, UploadSigning.alphanum_apart letter '%' named (by decide),
      UploadSigning.alphanum_apart letter '\\' named (by decide), fun _ => ?_⟩
    exact (UploadSigning.alphanum_plain letter (Or.inl named)).1
  · rcases mark with rfl | rfl | rfl | rfl
    all_goals exact ⟨by decide, by decide, by decide, fun _ => by decide⟩
  · subst slash
    exact ⟨by decide, by decide, by decide, fun apart => absurd rfl apart⟩

theorem ascii_bytes (letter : Char) (ascii : letter.toNat < 128) :
    String.utf8EncodeChar letter = [UInt8.ofNat letter.toNat] := by
  have small : letter.toNat ≤ 127 := by omega
  simp [String.utf8EncodeChar, small]

theorem kept_encoded (letter : Char) (kept : isKept letter = true) :
    (String.utf8EncodeChar letter).flatMap uriEncode = [letter] := by
  obtain ⟨ascii, -⟩ := kept_ascii letter kept
  have byte : (UInt8.ofNat letter.toNat).toNat = letter.toNat := by
    rw [UInt8.toNat_ofNat']
    omega
  rw [ascii_bytes letter ascii, List.flatMap_singleton, uriEncode, byte, Char.ofNat_toNat,
    if_pos kept]

theorem encoded_kept (letter : Char)
    (same : (String.utf8EncodeChar letter).flatMap uriEncode = [letter]) :
    isKept letter = true := by
  cases bytes : String.utf8EncodeChar letter with
  | nil =>
      rw [bytes] at same
      cases same
  | cons byte rest =>
      rw [bytes, List.flatMap_cons, uriEncode] at same
      split at same
      · next kept => rwa [← (List.cons.inj same).1]
      · cases same

theorem parts_same {α : Type} (step : α → List α) (present : ∀ value, step value ≠ [])
    (list : List α) (same : list.flatMap step = list) :
    ∀ value ∈ list, step value = [value] := by
  have grows : ∀ list : List α, list.length ≤ (list.flatMap step).length := by
    intro list
    induction list with
    | nil => exact Nat.le_refl 0
    | cons first rest ih =>
        have := List.length_pos_iff.mpr (present first)
        rw [List.flatMap_cons, List.length_append, List.length_cons]
        omega
  induction list with
  | nil => simp
  | cons first rest ih =>
      rw [List.flatMap_cons] at same
      have lengths := congrArg List.length same
      have rests := grows rest
      have some_part := List.length_pos_iff.mpr (present first)
      rw [List.length_append, List.length_cons] at lengths
      obtain ⟨only, single⟩ := List.length_eq_one_iff.mp (by omega : (step first).length = 1)
      rw [single, List.singleton_append] at same
      obtain ⟨rfl, later⟩ := List.cons.inj same
      intro value member
      rcases List.mem_cons.mp member with rfl | inside
      · exact single
      · exact ih later value inside

theorem utf8_present (letter : Char) : (String.utf8EncodeChar letter).flatMap uriEncode ≠ [] := by
  have nonempty : String.utf8EncodeChar letter ≠ [] := by
    intro empty
    have := String.length_utf8EncodeChar letter
    have := letter.utf8Size_pos
    simp_all
  cases bytes : String.utf8EncodeChar letter with
  | nil => exact absurd bytes nonempty
  | cons byte rest =>
      rw [List.flatMap_cons, uriEncode]
      split <;> simp

theorem end_kept (slash : Bool) (path : List (List Char)) (buffer : List Char)
    (held : ∀ letter ∈ buffer, isKept letter = true)
    (settled : ∀ segment ∈ path, ∀ letter ∈ segment, isKept letter = true) :
    ∀ segment ∈ UrlPath.endSegment slash path buffer, ∀ letter ∈ segment, isKept letter = true := by
  intro segment member
  have last : segment ∈ (if slash then [] else [[]] : List (List Char)) →
      ∀ letter ∈ segment, isKept letter = true := by
    intro empty letter inside
    cases slash with
    | true => cases empty
    | false =>
        rw [List.mem_singleton.mp empty] at inside
        cases inside
  unfold UrlPath.endSegment at member
  split at member
  · rcases List.mem_append.mp member with old | new
    · exact settled segment ((List.dropLast_sublist path).subset old)
    · exact last new
  · split at member
    · rcases List.mem_append.mp member with old | new
      · exact settled segment old
      · exact last new
    · rcases List.mem_append.mp member with old | new
      · exact settled segment old
      · obtain rfl := List.mem_singleton.mp new
        exact held

/-- The path state adds no letters of its own to kept ones. -/
theorem path_kept (text : List Char) (path : List (List Char)) (buffer : List Char)
    (keeps : ∀ letter ∈ text, isKept letter = true) (held : ∀ letter ∈ buffer, isKept letter = true)
    (settled : ∀ segment ∈ path, ∀ letter ∈ segment, isKept letter = true) :
    ∀ segment ∈ (UrlPath.pathState path buffer text).1, ∀ letter ∈ segment,
    isKept letter = true := by
  induction text generalizing path buffer with
  | nil => exact end_kept false path buffer held settled
  | cons letter rest ih =>
      have first := keeps letter List.mem_cons_self
      have later := fun other member => keeps other (List.mem_cons_of_mem letter member)
      obtain ⟨-, -, backslash, plain⟩ := kept_ascii letter first
      by_cases slash : letter = '/'
      · rw [UrlPath.pathState, if_pos (Or.inl slash)]
        exact ih _ _ later (by simp) (end_kept true path buffer held settled)
      · obtain ⟨same, -, -, query, fragment⟩ := UrlPath.plain_cases letter (plain slash)
        rw [UrlPath.pathState, if_neg (by simp [slash, backslash]),
          if_neg (by simp [query, fragment]), same]
        apply ih _ _ later _ settled
        intro other member
        rcases List.mem_append.mp member with old | new
        · exact held other old
        · obtain rfl := List.mem_singleton.mp new
          exact first

end Paths

section Targets
variable (endpoint : Endpoint) (bucket : Bucket) (key : String)

theorem bucket_kept (letter : Char) (member : letter ∈ bucket.name.toList) :
    isKept letter = true := by
  simp only [isKept, isUnreserved, Bool.or_eq_true]
  rcases bucket.plain letter member with named | mark
  · exact Or.inl (Or.inl named)
  · apply Or.inl
    apply Or.inr
    simp only [List.contains_eq_mem, decide_eq_true_eq, List.mem_cons, List.not_mem_nil,
      or_false] at mark ⊢
    tauto

theorem host_plain (letter : Char) (member : letter ∈ endpoint.host.toList) :
    isPlain letter = true ∧ UrlPath.endsAuthority letter = false := by
  apply UploadSigning.alphanum_plain
  have host := endpoint.plain letter member
  simp only [UploadSigning.isHostLetter, Bool.or_eq_true, List.contains_eq_mem,
    decide_eq_true_eq] at host
  rcases host with named | mark
  · exact Or.inl named
  · apply Or.inr
    simp only [List.mem_cons, List.not_mem_nil, or_false] at mark ⊢
    tauto

theorem signed_kept (kept : ∀ letter ∈ key.toList, isKept letter = true) :
    ∀ letter ∈ (signedPath bucket key).toList, isKept letter = true := by
  intro letter member
  rw [signed_letters] at member
  simp only [List.mem_cons, List.mem_append] at member
  rcases member with rfl | inBucket | rfl | inKey
  · decide
  · exact bucket_kept bucket letter inBucket
  · decide
  · exact kept letter inKey

theorem named_target (named : Named key) : UrlPath.target (uploadUrl endpoint bucket key).toList =
    some { path := (signedPath bucket key).toList, query := none } := by
  have fixed : Fixed (bucket.name.toList ++ '/' :: key.toList) := by
    constructor
    · intro letter member
      by_cases slash : letter = '/'
      · exact Or.inr slash
      · rcases List.mem_append.mp member with inBucket | rest
        · exact Or.inl (bucket_plain bucket letter inBucket)
        · have inside := (List.mem_cons.mp rest).resolve_left slash
          exact Or.inl ((kept_ascii letter (named.kept letter inside)).2.2.2 slash)
    · rw [bucket_split]
      intro segment member
      rcases List.mem_cons.mp member with rfl | later
      · exact bucket.undotted
      · exact named.undotted segment later
  rw [url_letters, signed_letters]
  exact UrlPath.target_fixed endpoint.host.toList _ (host_plain endpoint) fixed

variable {service : Service}

theorem kept_path (reads : ReadsPaths service) (path : List Char)
    (kept : ∀ letter ∈ path, isKept letter = true) :
    service.objectName path = path.flatMap String.utf8EncodeChar ∧
    service.canonicalUri path = path := by
  have plain : service.objectName path = path.flatMap String.utf8EncodeChar := by
    apply reads.named
    apply PercentText.spells_plain
    intro percent
    exact (kept_ascii '%' (kept '%' percent)).2.1 rfl
  refine ⟨plain, ?_⟩
  rw [reads.encoded, plain, List.flatMap_assoc]
  clear plain
  induction path with
  | nil => rfl
  | cons letter rest ih =>
      rw [List.flatMap_cons, kept_encoded letter (kept letter List.mem_cons_self),
        ih fun other member => kept other (List.mem_cons_of_mem _ member), List.singleton_append]

theorem named_delivered (reads : ReadsPaths service) (named : Named key) :
    Delivered service endpoint bucket key := by
  obtain ⟨bytes, same⟩ := kept_path reads _ (signed_kept bucket key named.kept)
  exact ⟨_, named_target endpoint bucket key named, rfl, same, bytes⟩

theorem delivered_kept (reads : ReadsPaths service)
    (delivered : Delivered service endpoint bucket key) :
    ∀ letter ∈ key.toList, isKept letter = true := by
  obtain ⟨target, -, -, checked, stored⟩ := delivered
  rw [reads.encoded, stored, utf8, List.flatMap_assoc] at checked
  have parts := parts_same _ utf8_present _ checked
  intro letter member
  apply encoded_kept
  apply parts
  rw [signed_letters]
  simp [member]

theorem cleaned_solid (text : List Char) (solid : ∀ letter ∈ text, 0x20 < letter.toNat) :
    UrlPath.cleaned text = text := by
  apply UrlPath.cleaned_plain
  intro letter member
  have above := solid letter member
  refine ⟨above, ?_⟩
  simp only [UrlPath.isTabOrNewline, List.contains_eq_mem, decide_eq_false_iff_not, List.mem_cons,
    List.not_mem_nil, or_false, not_or]
  refine ⟨?_, ?_, ?_⟩
  all_goals
    rintro rfl
    exact absurd above (by decide)

theorem target_kept (kept : ∀ letter ∈ key.toList, isKept letter = true) (target : Target)
    (parses : UrlPath.target (uploadUrl endpoint bucket key).toList = some target) :
    ∀ letter ∈ target.path, isKept letter = true := by
  have inside : ∀ letter ∈ bucket.name.toList ++ '/' :: key.toList, isKept letter = true := by
    intro letter member
    apply signed_kept bucket key kept
    rw [signed_letters]
    exact List.mem_cons_of_mem _ member
  -- Nothing in the URL is stripped on the way.
  have clean : UrlPath.cleaned (uploadUrl endpoint bucket key).toList =
    (uploadUrl endpoint bucket key).toList := by
    apply cleaned_solid
    intro letter member
    have scheme : ∀ other ∈ '/' :: "https://".toList, 0x20 < other.toNat := by
      intro other present
      have solid : ('/' :: "https://".toList).all (fun other => decide (0x20 < other.toNat)) =
        true := by decide
      simpa using List.all_eq_true.mp solid other present
    rw [url_letters] at member
    rcases List.mem_append.mp member with first | rest
    · exact scheme letter (List.mem_cons_of_mem _ first)
    · rcases List.mem_append.mp rest with named | later
      · exact (UrlPath.plain_above letter (host_plain endpoint letter named).1).1
      · by_cases slash : letter = '/'
        · exact scheme letter (slash ▸ List.mem_cons_self)
        · have own := (List.mem_cons.mp later).resolve_left slash
          exact (UrlPath.plain_above letter ((kept_ascii letter (inside letter own)).2.2.2 slash)).1
  have named : ((endpoint.host.toList ++ '/' :: (bucket.name.toList ++ '/' :: key.toList)).dropWhile
      fun letter => !UrlPath.endsAuthority letter) = '/' ::
        (bucket.name.toList ++ '/' :: key.toList) := by
    rw [List.dropWhile_append_of_pos fun letter member =>
      by simp [(host_plain endpoint letter member).2]]
    rfl
  simp only [UrlPath.target, clean] at parses
  rw [url_letters, List.dropPrefix?_append_of_beq _ BEq.rfl, Option.map_some, named] at parses
  cases parses
  intro letter member
  obtain ⟨segment, among, held⟩ := List.mem_flatMap.mp member
  rcases List.mem_cons.mp held with rfl | own
  · decide
  · exact path_kept _ [] [] inside (by simp) (by simp) segment among letter own

theorem delivered_undotted (reads : ReadsPaths service)
    (delivered : Delivered service endpoint bucket key) :
    ∀ segment ∈ key.toList.splitOn '/', isDot segment = false := by
  have kept := delivered_kept endpoint bucket key reads delivered
  obtain ⟨target, parses, -, checked, -⟩ := delivered
  rw [(kept_path reads _ (target_kept endpoint bucket key kept target parses)).2,
    signed_letters] at checked
  obtain ⟨segments, serialized, settled⟩ := UrlPath.target_settled _ target parses
  have split : [] :: segments = [] :: bucket.name.toList :: key.toList.splitOn '/' := by
    rw [← UrlPath.serialize_split segments settled, ← serialized, checked,
      ← bucket_split bucket key.toList]
    exact List.splitOn_append_cons_self_of_not_mem (List.not_mem_nil : '/' ∉ []) _
  obtain rfl : segments = bucket.name.toList :: key.toList.splitOn '/' := (List.cons.inj split).2
  intro segment among
  exact (settled segment (List.mem_cons_of_mem _ among)).undotted

/-- Exactly the keys of unreserved letters and slashes without dot segments are checked as they are
signed and stored under their own names. -/
theorem delivered_iff (reads : ReadsPaths service) : Delivered service endpoint bucket key ↔
    Named key := by
  constructor
  · intro delivered
    exact ⟨delivered_kept endpoint bucket key reads delivered,
      delivered_undotted endpoint bucket key reads delivered⟩
  · exact named_delivered endpoint bucket key reads

theorem delivered_iff_spaced :
    Delivered storage UploadSigning.account UploadSigning.images "my cat.jpg" ↔
    Named "my cat.jpg" :=
  delivered_iff UploadSigning.account UploadSigning.images "my cat.jpg"
    storage_documented.toReadsPaths

end Targets

section Samples

def uploads : Config where
  R2_ENDPOINT := UploadSigning.account
  R2_BUCKET_NAME := UploadSigning.images
  R2_ACCESS_KEY_ID := "AKID"
  R2_SECRET_ACCESS_KEY := "hush"

def newYear : Instant where
  year := 2025
  month := 1
  day := 1
  hours := 0
  minutes := 0
  seconds := 0
  milliseconds := 0
  calendar := by decide
  clock := by decide

end Samples

section Acceptance

def OnR2 (endpoint : Endpoint) : Prop :=
  ∃ account : String, endpoint.host = account ++ ".r2.cloudflarestorage.com" ∧
    ∀ letter ∈ account.toList, letter.isAlphanum = true ∨ letter = '.'

theorem account_r2 : OnR2 UploadSigning.account := by
  refine ⟨"acct", by decide, fun letter member => Or.inl ?_⟩
  exact List.all_eq_true.mp (by decide : "acct".toList.all Char.isAlphanum = true) letter member

theorem r2_hosts (endpoint : Endpoint) (r2 : OnR2 endpoint) :
    hostHeader endpoint = hostname endpoint ∧
    includes (hostname endpoint) "r2.cloudflarestorage.com" = true := by
  obtain ⟨account, host, plain⟩ := r2
  have portless : ':' ∉ endpoint.host.toList := by
    rw [host, String.toList_append, List.mem_append]
    rintro (inAccount | inDomain)
    · rcases plain ':' inAccount with named | dot
      · exact absurd named (by decide)
      · exact absurd dot (by decide)
    · exact absurd inDomain (by decide)
  have whole : endpoint.host.toList.takeWhile (· ≠ ':') = endpoint.host.toList := by
    rw [List.takeWhile_eq_self_iff]
    intro letter member
    rw [decide_eq_true_eq]
    rintro rfl
    exact portless member
  have lower : endpoint.host.toList.map Char.toLower =
      account.toList.map Char.toLower ++ ".r2.cloudflarestorage.com".toList := by
    rw [host, String.toList_append, List.map_append]
    congr 1
  -- The name ends in letters, so no port is dropped.
  have unported : ¬ ":443".toList <:+ endpoint.host.toList.map Char.toLower := by
    rintro ⟨front, same⟩
    have last := congrArg List.getLast? same
    rw [lower, List.getLast?_append_of_ne_nil _ (by decide),
      List.getLast?_append_of_ne_nil _ (by decide)] at last
    exact absurd last (by decide)
  constructor
  · simp only [hostHeader, if_neg unported, hostname, whole]
  · rw [includes, decide_eq_true_eq, hostname, whole, String.toList_ofList, lower]
    exact ⟨account.toList.map Char.toLower ++ ['.'], [], by simp⟩

theorem host_solid (endpoint : Endpoint) : ' ' ∉ (hostname endpoint).toList := by
  rw [hostname, String.toList_ofList]
  intro blank
  obtain ⟨letter, member, lower⟩ := List.mem_map.mp blank
  have host := endpoint.plain letter ((List.takeWhile_sublist _).subset member)
  have unlettered : letter.isAlpha = false := by
    rw [← Char.isAlpha_toLower_eq_isAlpha, lower]
    decide
  have small : ¬ letter.isUpper = true := by
    intro upper
    simp [Char.isAlpha, upper] at unlettered
  rw [Char.toLower_eq_of_not_isUpper small] at lower
  subst lower
  exact absurd host (by decide)

theorem r2_signs (endpoint : Endpoint) (r2 : OnR2 endpoint) :
    includes endpoint.text "cloudflarestorage.com" = true := by
  obtain ⟨account, host, -⟩ := r2
  rw [includes, decide_eq_true_eq, UploadSigning.Endpoint.text, host]
  exact ⟨"https://".toList ++ account.toList ++ ".r2.".toList, [], by simp⟩

variable (crypto : Crypto) (config : Config) (now : Instant) (validated : DirectUploadQuery)
  (byteLength : Nat)

/-- The request of an upload to R2, written out. -/
def signedRequest (authorization : String) : Request where
  method := "PUT"
  path := (signedPath config.R2_BUCKET_NAME validated.key).toList
  query := none
  headers := [("host", hostname config.R2_ENDPOINT), ("content-type", validated.contentType),
    ("content-length", toString byteLength 10), ("authorization", authorization),
    ("x-amz-date", datetimeOf now), ("x-amz-content-sha256", "UNSIGNED-PAYLOAD")]

def signedText (path : String) : String :=
  "\n".intercalate ["PUT", path, "", "host:" ++ hostname config.R2_ENDPOINT,
    "x-amz-content-sha256:UNSIGNED-PAYLOAD", "x-amz-date:" ++ datetimeOf now, "",
    "host;x-amz-content-sha256;x-amz-date", "UNSIGNED-PAYLOAD"]

/-- What the header of an upload to R2 claims. -/
def claimOf (path : String) : Claim where
  accessKeyId := config.R2_ACCESS_KEY_ID
  date := dateOf now
  region := "auto"
  signedHeaders := ["host", "x-amz-content-sha256", "x-amz-date"]
  signature :=
    hmacSha256 crypto (derivedKey crypto config.R2_SECRET_ACCESS_KEY (dateOf now) "auto" "s3")
      ("\n".intercalate ["AWS4-HMAC-SHA256", datetimeOf now,
        dateOf now ++ "/" ++ "auto" ++ "/s3/aws4_request",
          sha256 crypto (signedText config now path)])

theorem claim_names (path : String) :
    (claimOf crypto config now path).names = "host;x-amz-content-sha256;x-amz-date" := by
  have joined : String.ofList ([';'].intercalate
      (["host", "x-amz-content-sha256", "x-amz-date"].map String.toList)) =
        "host;x-amz-content-sha256;x-amz-date" := by decide
  exact joined

theorem lines_joined (first second third one two three later last final : String) :
    "\n".intercalate [first, second, third, "\n".intercalate [one, two, three], later,
      last, final] =
      "\n".intercalate [first, second, third, one, two, three, later, last, final] := by
  apply String.toList_inj.mp
  simp only [String.toList_intercalate]
  simp [List.intercalate, List.intersperse]

theorem headers_written (r2 : OnR2 config.R2_ENDPOINT) (path : String) :
    generateAwsSignatureV4 crypto now "PUT" path config.R2_ACCESS_KEY_ID config.R2_SECRET_ACCESS_KEY
      config.R2_ENDPOINT = some {
        Authorization := (claimOf crypto config now path).authorization
        xAmzDate := datetimeOf now
        xAmzContentSha256 := "UNSIGNED-PAYLOAD" } := by
  obtain ⟨-, auto⟩ := r2_hosts config.R2_ENDPOINT r2
  have credential : "AWS4-HMAC-SHA256" ++ " Credential=" = "AWS4-HMAC-SHA256 Credential=" := by
    decide
  simp only [generateAwsSignatureV4, auto, if_true, signing_key_derived, Option.bind_eq_bind,
    Option.bind_some, lines_joined, credential]
  unfold Claim.authorization
  rw [claim_names]
  rfl

theorem request_written (r2 : OnR2 config.R2_ENDPOINT) (named : Named validated.key) :
    directUpload crypto config now validated byteLength =
      some (signedRequest config now validated byteLength
        (claimOf crypto config now
          (signedPath config.R2_BUCKET_NAME validated.key)).authorization) := by
  have target := named_target config.R2_ENDPOINT config.R2_BUCKET_NAME validated.key named
  have host := (r2_hosts config.R2_ENDPOINT r2).1
  simp only [directUpload, if_pos (r2_signs config.R2_ENDPOINT r2),
    headers_written crypto config now r2, Option.bind_some, fetch, target, Option.map_some, host]
  rfl

theorem header_values (authorization : String) :
    let request := signedRequest config now validated byteLength authorization
    request.header "authorization" = some authorization ∧
      request.header "host" = some (hostname config.R2_ENDPOINT) ∧
      request.header "x-amz-date" = some (datetimeOf now) ∧
      request.header "x-amz-content-sha256" = some "UNSIGNED-PAYLOAD" := by
  refine ⟨?_, ?_, ?_, ?_⟩ <;> simp [signedRequest, Request.header]

/-- The signature's definition spells the request as it was signed. -/
theorem canonical_read (path : String) (authorization : String) :
    canonicalRequest path.toList (signedRequest config now validated byteLength authorization)
      (claimOf crypto config now path) = signedText config now path := by
  obtain ⟨-, host, date, payload⟩ := header_values config now validated byteLength authorization
  have method : (signedRequest config now validated byteLength authorization).method = "PUT" := rfl
  unfold canonicalRequest
  rw [claim_names, method]
  simp [claimOf, host, date, payload, signedText]

theorem time_letters (letter : Char) (member : letter ∈ (datetimeOf now).toList) :
    letter.isDigit = true ∨ letter = 'T' ∨ letter = 'Z' := by
  obtain ⟨hours, minutes, seconds, -⟩ := now.clock
  have hourDigits := pad_digits 2 now.hours (by omega) (by omega)
  have minuteDigits := pad_digits 2 now.minutes (by omega) (by omega)
  have secondDigits := pad_digits 2 now.seconds (by omega) (by omega)
  rw [datetime_letters] at member
  simp only [clockLetters, List.mem_append, List.mem_cons, List.not_mem_nil, or_false] at member
  rcases member with day | rfl | (hour | minute | second) | rfl
  · exact Or.inl ((day_digits now).2 letter day)
  · exact Or.inr (Or.inl rfl)
  · exact Or.inl (hourDigits.2 letter hour)
  · exact Or.inl (minuteDigits.2 letter minute)
  · exact Or.inl (secondDigits.2 letter second)
  · exact Or.inr (Or.inr rfl)

variable (service : Service)

theorem upload_signed (reads : ReadsPaths service) (region : "auto" ∈ service.regions)
    (known : service.secretOf config.R2_ACCESS_KEY_ID = some config.R2_SECRET_ACCESS_KEY)
    (plain : ',' ∉ config.R2_ACCESS_KEY_ID.toList ∧ '/' ∉ config.R2_ACCESS_KEY_ID.toList)
    (fresh : service.fresh (datetimeOf now) = true) (named : Named validated.key) :
    let claim := claimOf crypto config now (signedPath config.R2_BUCKET_NAME validated.key)
    ProperlySigned crypto service
      (signedRequest config now validated byteLength claim.authorization) claim
      config.R2_SECRET_ACCESS_KEY (datetimeOf now) := by
  intro claim
  obtain ⟨authorization, host, date, payload⟩ :=
    header_values config now validated byteLength claim.authorization
  have signs : claim.signedHeaders = ["host", "x-amz-content-sha256", "x-amz-date"] := rfl
  have headers : (signedRequest config now validated byteLength claim.authorization).headers.map
    Prod.fst =
      ["host", "content-type", "content-length", "authorization", "x-amz-date",
        "x-amz-content-sha256"] := rfl
  constructor
  case claimed => exact authorization
  case separated => exact plain
  case known => exact known
  case region => exact region
  case dated => exact date
  case fresh => exact fresh
  case day =>
    change _ = (dateOf now).toList
    rw [datetime_letters, date_letters, List.take_left' (day_digits now).1]
  case digits =>
    intro letter member
    change letter ∈ (dateOf now).toList at member
    rw [date_letters] at member
    exact (day_digits now).2 letter member
  case covered =>
    -- Only the names of the headers matter.
    have covered : ["host", "content-type", "content-length", "authorization", "x-amz-date",
        "x-amz-content-sha256"].all (fun name => !"x-amz-".toList.isPrefixOf name.toList ||
          ["host", "x-amz-content-sha256", "x-amz-date"].contains name) = true := by decide
    unfold Claim.covers
    rw [Bool.and_eq_true, signs]
    refine ⟨by decide, ?_⟩
    rw [← covered, ← headers, List.all_map]
    rfl
  case ordered =>
    have host_letters : (hostname config.R2_ENDPOINT).toList.contains ' ' = false := by
      rw [List.contains_eq_mem, decide_eq_false_iff_not]
      exact host_solid config.R2_ENDPOINT
    have time : (datetimeOf now).toList.contains ' ' = false := by
      rw [List.contains_eq_mem, decide_eq_false_iff_not]
      intro blank
      rcases time_letters now ' ' blank with digit | mark | mark
      all_goals exact absurd ‹_› (by decide)
    have unsigned : "UNSIGNED-PAYLOAD".toList.contains ' ' = false := by decide
    have sorted : ["host", "x-amz-content-sha256", "x-amz-date"].Pairwise (· < ·) := by decide
    have single : ["host", "content-type", "content-length", "authorization", "x-amz-date",
        "x-amz-content-sha256"].Nodup := by decide
    unfold Claim.inOrder
    rw [Bool.and_eq_true, Bool.and_eq_true, decide_eq_true_eq, decide_eq_true_eq, signs, headers]
    refine ⟨⟨sorted, single⟩, ?_⟩
    simp only [List.all_cons, List.all_nil, host, date, payload, Option.any_some, host_letters,
      time, unsigned]
    rfl
  case lettered =>
    have plain : ["host", "x-amz-content-sha256", "x-amz-date"].all
        (fun name => name.toList.all fun letter => letter.isAlphanum || letter = '-') = true := by
          decide
    intro name member letter inside
    have letters := List.all_eq_true.mp plain name member
    simpa using List.all_eq_true.mp letters letter inside
  case unsigned => exact payload
  case unqueried => rfl
  case signature =>
    have uri := (kept_path reads _ (signed_kept config.R2_BUCKET_NAME validated.key named.kept)).2
    change _ = signatureFor crypto (service.canonicalUri
      (signedPath config.R2_BUCKET_NAME validated.key).toList) _ _ _ _
    rw [uri, signatureFor, canonical_read]
    rfl

/-- The request of every upload under such a key verifies at R2, and names its object. -/
theorem upload_accepted (documented : Documented crypto service) (r2 : OnR2 config.R2_ENDPOINT)
    (region : "auto" ∈ service.regions)
    (known : service.secretOf config.R2_ACCESS_KEY_ID = some config.R2_SECRET_ACCESS_KEY)
    (plain : ',' ∉ config.R2_ACCESS_KEY_ID.toList ∧ '/' ∉ config.R2_ACCESS_KEY_ID.toList)
    (fresh : service.fresh (datetimeOf now) = true) (named : Named validated.key) :
    ∃ request, directUpload crypto config now validated byteLength = some request ∧
      service.verifies request = true ∧
        service.objectName request.path = utf8 (signedPath config.R2_BUCKET_NAME validated.key) :=
  ⟨_, request_written crypto config now validated byteLength r2 named,
    documented.verified _ _ _ _ (upload_signed crypto config now validated byteLength service
      documented.toReadsPaths region known plain fresh named),
    (kept_path documented.toReadsPaths _
      (signed_kept config.R2_BUCKET_NAME validated.key named.kept)).1⟩

theorem upload_accepted_cats : ∃ request, directUpload webCrypto uploads newYear
    { key := "cats/k3v9.jpg", contentType := "image/jpeg" } 9 = some request ∧
      storage.verifies request = true ∧
        storage.objectName request.path = utf8 (signedPath UploadSigning.images "cats/k3v9.jpg") :=
  upload_accepted webCrypto uploads newYear { key := "cats/k3v9.jpg",
                                              contentType := "image/jpeg" } 9 storage
    storage_documented account_r2 (by decide) (by decide) (by decide) rfl
    ⟨List.all_eq_true.mp (by decide : "cats/k3v9.jpg".toList.all isKept = true), by decide⟩

end Acceptance

section Images
open ImageUpload (UploadOptions Attempt uploadAndGetImageIds uploadPending fileName)
open ImageUrls (ImageId ImageSize objectName)

end Images

end TopInspect.SignedUploads
