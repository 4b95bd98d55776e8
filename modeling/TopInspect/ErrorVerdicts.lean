import Mathlib.Data.List.Infix
import TopInspect.OtpVerification
import TopInspect.ProtectedRoutes

/-! The verdict of the error handler on a failed statement of a sign-up. The handler looks for
English words in a message that quotes the statement's parameters, and so in what the user
has typed. -/
namespace TopInspect.ErrorVerdicts
open Resumption AuthSchema AuthStatements AuthHandlers OtpVerification
open ProtectedRoutes (Deployment Thrown errorHandler includes jsLength isDev)
open EmailSchema (EmailRules isSpace)

/-! Where a word is found in a text that is put together with separators it does not hold. -/
section Words
variable {Letter : Type}

theorem infix_separated (word before after : List Letter) (mark : Letter) (free : mark ∉ word) :
    word <:+: before ++ mark :: after ↔ word <:+: before ∨ word <:+: after := by
  constructor
  · rintro ⟨left, right, split⟩
    rcases List.append_eq_append_iff.mp split with ⟨rest, inside, -⟩ | ⟨rest, longer, tail⟩
    · exact Or.inl ⟨left, rest, inside.symm⟩
    · rcases List.cons_eq_append_iff.mp tail with ⟨rfl, -⟩ | ⟨later, rfl, remaining⟩
      · exact Or.inl ⟨left, [], by rw [longer, List.append_nil, List.append_nil]⟩
      · rcases List.append_eq_append_iff.mp longer with ⟨gap, -, held⟩ | ⟨gap, -, held⟩
        · exact absurd (held ▸ List.mem_append_right gap List.mem_cons_self) free
        · rcases List.cons_eq_append_iff.mp held with ⟨rfl, same⟩ | ⟨start, rfl, same⟩
          · exact absurd (same ▸ List.mem_cons_self) free
          · exact Or.inr ⟨start, right, by rw [remaining, same]⟩
  · rintro (first | last)
    · exact first.trans (List.prefix_append _ _).isInfix
    · exact last.trans ((List.suffix_cons mark after).trans (List.suffix_append _ _)).isInfix

theorem infix_later (word after : List Letter) (mark : Letter) (nonempty : word ≠ [])
    (starts : word.head? ≠ some mark) : word <:+: mark :: after ↔ word <:+: after := by
  rw [List.infix_cons_iff]
  constructor
  · rintro (⟨rest, same⟩ | later)
    · cases word with
      | nil => exact absurd rfl nonempty
      | cons first others => exact absurd (congrArg some (List.cons.inj same).1) starts
    · exact later
  · exact Or.inr

theorem infix_joined (word : List Letter) (texts : List (List Letter)) (mark : Letter)
    (free : mark ∉ word) (nonempty : word ≠ []) :
    word <:+: [mark].intercalate texts ↔ ∃ text ∈ texts, word <:+: text := by
  induction texts with
  | nil => simp [nonempty]
  | cons text rest ih =>
      cases rest with
      | nil => simp
      | cons next others =>
          rw [List.intercalate_cons_cons, List.append_assoc, List.singleton_append,
            infix_separated word text _ mark free, ih]
          simp

end Words

section Texts

def jsonEscape (letter : Char) : List Char :=
  if letter = '"' then ['\\', '"']
  else if letter = '\\' then ['\\', '\\']
  else if letter = '\x08' then ['\\', 'b']
  else if letter = '\x0c' then ['\\', 'f']
  else if letter = '\n' then ['\\', 'n']
  else if letter = '\r' then ['\\', 'r']
  else if letter = '\t' then ['\\', 't']
  else if letter.toNat < 0x20 then
    ['\\', 'u', '0', '0', Nat.digitChar (letter.toNat / 16), Nat.digitChar (letter.toNat % 16)]
  else [letter]

def jsonString (text : String) : String :=
  "\"" ++ String.ofList (text.toList.flatMap jsonEscape) ++ "\""

def osText : Os → String
  | .ios => "ios"
  | .android => "android"
  | .windows => "windows"
  | .macos => "macos"
  | .web => "web"

def genderText : Gender → String
  | .male => "male"
  | .female => "female"

/-- `JSON.stringify(deviceInfo)`. -/
def deviceJson (info : DeviceInfo) : String :=
  "\x7b\"os\":" ++ jsonString (osText info.os) ++ ",\"osVersion\":" ++ jsonString info.osVersion ++
    ",\"model\":" ++ jsonString info.model ++ ",\"brand\":" ++ jsonString info.brand ++
    ",\"deviceYearClass\":" ++ (info.deviceYearClass.elim "null" toString) ++
    ",\"appVersion\":" ++ jsonString info.appVersion ++
    ",\"buildNumber\":" ++ jsonString info.buildNumber ++ "\x7d"

end Texts

/-- The text of a parameter, and whether the user has typed it freely. -/
structure Param where
  free : Bool
  text : String

def fixed (text : String) : Param := { free := false, text }

def typed (text : String) : Param := { free := true, text }

/-- What the query builder brings along: the SQL text of a statement, and `toISOString`. -/
structure Drizzle where
  sql : Statement → String
  iso : Time → String

def identifierParam (provider : Provider) (identifier : String) : Param :=
  if provider = .phone then fixed identifier else typed identifier

section Statements
variable (drizzle : Drizzle)

-- A column without a value has no parameter. The other statements are none of a sign-up.
def params : Statement → List Param
  | .selectOtp phone => [fixed phone, fixed "1"]
  | .updateOtpAttempts phone attempts => [fixed (toString attempts), fixed phone]
  | .deleteOtp phone => [fixed phone]
  | .selectAuth provider identifier =>
      [fixed (Provider.text provider), identifierParam provider identifier, fixed "1"]
  | .selectAuthByEmail email => [typed email, fixed "1"]
  | .insertAuth row =>
      [fixed row.id, fixed (Provider.text row.provider),
        identifierParam row.provider row.identifier] ++
        (row.email.map typed).toList
  | .updateAuthEmail id email => [typed email, fixed id]
  | .selectUser id => [fixed id, fixed "1"]
  | .insertUser row =>
      [fixed row.id, typed row.name, fixed (genderText row.gender), fixed (toString row.birthYear)]
  | .insertToken id authId token expiresAt deviceInfo =>
      [fixed id, fixed authId, fixed token] ++
      (deviceInfo.map fun info => typed (deviceJson info)).toList ++
        [fixed (drizzle.iso expiresAt)]
  | _ => []

def anonymous : DeviceInfo :=
  { os := .web, osVersion := "", model := "", brand := "", deviceYearClass := none, appVersion := ""
    buildNumber := "" }

def blankIdentifier (provider : Provider) (identifier : String) : String :=
  if provider = .phone then identifier else ""

/-- The statement without what the user has typed freely. -/
def blank : Statement → Statement
  | .selectAuth provider identifier => .selectAuth provider (blankIdentifier provider identifier)
  | .selectAuthByEmail _ => .selectAuthByEmail ""
  | .insertAuth row =>
      .insertAuth { row with
        identifier := blankIdentifier row.provider row.identifier
        email := row.email.map fun _ => "" }
  | .updateAuthEmail id _ => .updateAuthEmail id ""
  | .insertUser row => .insertUser { row with name := "" }
  | .insertToken id authId token expiresAt deviceInfo =>
      .insertToken id authId token expiresAt (deviceInfo.map fun _ => anonymous)
  | statement => statement

/-- The message of the error that a failed statement throws; the driver's own is its cause. -/
def failure (statement : Statement) : Thrown :=
  .error ("Failed query: " ++ drizzle.sql (blank statement) ++ "\nparams: " ++
    String.ofList ([','].intercalate
      ((params drizzle statement).map fun param => param.text.toList)))

/-- The texts of a message that the user has no hand in. -/
def fixedTexts (statement : Statement) : List String :=
  ("Failed query: " ++ drizzle.sql (blank statement)) ::
    ((params drizzle statement).filter fun param => !param.free).map Param.text

def typedTexts (statement : Statement) : List String :=
  ((params drizzle statement).filter Param.free).map Param.text

end Statements

def statusAndCode (response : ProtectedRoutes.Response) : Nat × String :=
  match response.body with
  | .error _ code => (response.status, code)
  | .upload _ _ => (response.status, "")

def verdict (deployment : Deployment) (drizzle : Drizzle) (statement : Statement) : Nat × String :=
  statusAndCode (errorHandler deployment (failure drizzle statement))

def Mentions (texts : List String) (word : String) : Prop := ∃ text ∈ texts,
    includes text word = true

section Messages

/-- A word that no separator of a message cuts or completes. -/
structure Solid (word : String) : Prop where
  comma : ',' ∉ word.toList
  newline : '\n' ∉ word.toList
  colon : ':' ∉ word.toList
  nonempty : word.toList ≠ []
  starts : word.toList.head? ≠ some ' '
  apart : ¬ word.toList <:+: "params".toList

theorem solid_words : Solid "duplicate key" ∧ Solid "connection" ∧ Solid "timeout" := by
  refine ⟨?_, ?_, ?_⟩
  all_goals exact ⟨by decide, by decide, by decide, by decide, by decide, by decide⟩

variable (drizzle : Drizzle) (statement : Statement)

/-- The word is in the message if and only if it is in one of the texts put together there. -/
theorem message_includes (word : String) (solid : Solid word) :
    includes (failure drizzle statement).message word = true ↔
      Mentions (fixedTexts drizzle statement) word ∨
      Mentions (typedTexts drizzle statement) word := by
  have split : (failure drizzle statement).message.toList =
      ("Failed query: " ++ drizzle.sql (blank statement)).toList ++ '\n' ::
        ("params".toList ++ ':' :: ' ' ::
          [','].intercalate ((params drizzle statement).map fun param => param.text.toList)) := by
    simp [failure, Thrown.message]
  have parts : ∀ text, includes text word = true ↔ word.toList <:+: text.toList := by
    intro text
    exact decide_eq_true_iff
  rw [parts, split, infix_separated _ _ _ _ solid.newline,
    infix_separated _ _ _ _ solid.colon, infix_later _ _ _ solid.nonempty solid.starts,
    infix_joined _ _ _ solid.comma solid.nonempty]
  simp only [Mentions, fixedTexts, typedTexts, List.exists_mem_cons_iff, List.mem_map,
    List.mem_filter, exists_exists_and_eq_and, parts, solid.apart, false_or, Bool.not_eq_true']
  constructor
  · rintro (sql | ⟨param, member, found⟩)
    · exact Or.inl (Or.inl sql)
    · cases free : param.free with
      | false => exact Or.inl (Or.inr ⟨param, ⟨member, free⟩, found⟩)
      | true => exact Or.inr ⟨param, ⟨member, free⟩, found⟩
  · rintro ((sql | ⟨param, ⟨member, -⟩, found⟩) | ⟨param, ⟨member, -⟩, found⟩)
    · exact Or.inl sql
    · exact Or.inr ⟨param, member, found⟩
    · exact Or.inr ⟨param, member, found⟩

theorem verdict_words (deployment : Deployment) :
    verdict deployment drizzle statement =
      if includes (failure drizzle statement).message "duplicate key" then (409, "CONFLICT")
      else if includes (failure drizzle statement).message "connection" ||
          includes (failure drizzle statement).message "timeout" then (503, "SERVICE_UNAVAILABLE")
      else (500, "INTERNAL_ERROR") := by
  unfold verdict errorHandler failure Thrown.message
  dsimp only
  split
  · rfl
  · split
    · rfl
    · split <;> rfl

/-- Texts that read like an outage of the database. -/
def MentionsOutage (texts : List String) : Prop :=
  Mentions texts "connection" ∨ Mentions texts "timeout"

/-- What the users have typed moves no verdict: a fixed text decides it, or both or neither
mention a conflict, and in the latter case both or neither an outage. -/
def Unmoved (fixed first second : List String) : Prop :=
  Mentions fixed "duplicate key" ∨
    (Mentions first "duplicate key" ∧ Mentions second "duplicate key") ∨
    (¬ Mentions first "duplicate key" ∧ ¬ Mentions second "duplicate key" ∧
      (MentionsOutage fixed ∨ (MentionsOutage first ↔ MentionsOutage second)))

theorem blank_params :
    ((params drizzle statement).filter fun param => !param.free).map Param.text =
      ((params drizzle (blank statement)).filter fun param => !param.free).map Param.text := by
  cases statement with
  | selectAuth provider identifier =>
      cases provider <;> simp [params, blank, identifierParam, blankIdentifier, fixed, typed]
  | insertAuth row =>
      obtain ⟨id, provider, identifier, email⟩ := row
      cases provider <;> cases email <;>
        simp [params, blank, identifierParam, blankIdentifier, fixed, typed]
  | insertToken id authId token expiresAt deviceInfo =>
      cases deviceInfo <;> simp [params, blank, fixed, typed]
  | _ => simp [params, blank, fixed, typed]

theorem blank_fixed (first second : Statement) (same : blank first = blank second) :
    fixedTexts drizzle first = fixedTexts drizzle second := by
  rw [fixedTexts, fixedTexts, blank_params, same, ← blank_params]

/-- Three different verdicts in order of rank differ exactly as their conditions do. -/
theorem ranked_iff {α : Type} {high middle low : α} (above : high ≠ middle) (far : high ≠ low)
    (below : middle ≠ low) (conflict outage other later : Prop) [Decidable conflict]
    [Decidable outage] [Decidable other] [Decidable later] :
    (if conflict then high else if outage then middle else low) =
        (if other then high else if later then middle else low) ↔
      (conflict ∧ other) ∨ (¬ conflict ∧ ¬ other ∧ (outage ↔ later)) := by
  by_cases one : conflict <;> by_cases two : other <;> by_cases three : outage <;>
    by_cases four : later <;> simp [one, two, three, four, above, far, below, above.symm, far.symm,
      below.symm]

theorem verdicts_same_iff (deployment : Deployment) (first second : Statement)
    (same : blank first = blank second) :
    verdict deployment drizzle first = verdict deployment drizzle second ↔
      Unmoved (fixedTexts drizzle first) (typedTexts drizzle first)
        (typedTexts drizzle second) := by
  obtain ⟨conflict, connection, timeout⟩ := solid_words
  have fixed := blank_fixed drizzle first second same
  have apart : ((409, "CONFLICT") : Nat × String) ≠ (503, "SERVICE_UNAVAILABLE") ∧
      ((409, "CONFLICT") : Nat × String) ≠ (500, "INTERNAL_ERROR") ∧
      ((503, "SERVICE_UNAVAILABLE") : Nat × String) ≠ (500, "INTERNAL_ERROR") := by decide
  rw [verdict_words, verdict_words, ranked_iff apart.1 apart.2.1 apart.2.2]
  simp only [Bool.or_eq_true, message_includes drizzle _ _ conflict,
    message_includes drizzle _ _ connection, message_includes drizzle _ _ timeout, ← fixed, Unmoved,
    MentionsOutage]
  by_cases duplicate : Mentions (fixedTexts drizzle first) "duplicate key"
  · simp [duplicate]
  · by_cases outage : Mentions (fixedTexts drizzle first) "connection" ∨
        Mentions (fixedTexts drizzle first) "timeout"
    · rcases outage with found | found <;> simp [duplicate, found]
    · rw [not_or] at outage
      simp [duplicate, outage]

end Messages

section Requests

inductive SignUp where
  | phone (body : PhoneSignupRequest)
  | oauth (body : OAuthSignupRequest)

def SignUp.request : SignUp → Request
  | .phone body => .phoneSignup body
  | .oauth body => .oauthSignup body

def deviceTexts (deviceInfo : Option DeviceInfo) : List String := (deviceInfo.map deviceJson).toList

def SignUp.texts : SignUp → Statement → List String
  | .phone body, .insertUser _ => [body.name]
  | .phone body, .insertToken _ _ _ _ _ => deviceTexts body.deviceInfo
  | .phone _, _ => []
  | .oauth body, .selectAuth _ _ => [body.providerId]
  | .oauth body, .selectAuthByEmail _ => [body.email]
  | .oauth body, .insertAuth _ => [body.providerId, body.email]
  | .oauth body, .updateAuthEmail _ _ => [body.email]
  | .oauth body, .insertUser _ => [body.name]
  | .oauth body, .insertToken _ _ _ _ _ => deviceTexts body.deviceInfo
  | .oauth _, _ => []

/-- Two sign-ups of one kind that differ in freely typed values only. -/
inductive Alike : SignUp → SignUp → Prop where
  | phone (body : PhoneSignupRequest) (name : String) (deviceInfo : Option DeviceInfo) :
      Alike (.phone body) (.phone { body with name, deviceInfo })
  | oauth (body : OAuthSignupRequest) (providerId email name : String)
      (deviceInfo : Option DeviceInfo) :
      Alike (.oauth body) (.oauth { body with providerId, email, name, deviceInfo })

/-- In some run the handler of the sign-up waits for the statement. -/
def Asked (env : Env) (signUp : SignUp) (statement : Statement) : Prop :=
  ∃ (tick : Tick) (history : List Step) (last : Residual Statement Statement.Answer DbError Tick _),
    Follows perform (handler env signUp.request tick) history last ∧ last.awaiting = some statement

/-- The same statement fails in runs of two sign-ups that differ in freely typed values only. -/
structure SameFailure (env : Env) (one other : SignUp) (first second : Statement) : Prop where
  alike : Alike one other
  asked : Asked env one first
  askedOther : Asked env other second
  same : blank first = blank second

variable (drizzle : Drizzle)

/-- A statement that quotes anything typed but what the sign-up says. -/
def Strays (signUp : SignUp) (statement : Statement) : Prop :=
  typedTexts drizzle statement ≠ signUp.texts statement

theorem profile_strays (signUp : SignUp) (newAuth : Auth) (name : String) (gender : Gender)
    (birthYear : Int) (own : ∀ row, signUp.texts (.insertUser row) = [name])
    (job : ∀ job, signUp.texts (.waitUntil job) = []) :
    Avoids (Strays drizzle signUp) (createProfile newAuth name gender birthYear) :=
  avoids_catch _ _ (avoids_call _ (not_not_intro (own _).symm)) fun error =>
    avoids_bind _ _ (avoids_call _ (not_not_intro (job _).symm)) fun _ => avoids_throw error

theorem tokens_stray (signUp : SignUp) (authId : String) (deviceInfo : Option DeviceInfo)
    (own : ∀ id token expiresAt,
      signUp.texts (.insertToken id authId token expiresAt deviceInfo) = deviceTexts deviceInfo) :
    Avoids (Strays drizzle signUp) (issueTokens authId deviceInfo) := by
  apply issue_tokens_avoids
  intro id token expiresAt
  apply not_not_intro
  rw [own]
  cases deviceInfo <;> rfl

theorem phone_strays (body : PhoneSignupRequest) :
    Avoids (Strays drizzle (.phone body)) (phoneSignup body) := by
  have quiet : Avoids (Strays drizzle (.phone body)) (verifyOTPCode body.phone body.code) :=
    verify_avoids body.phone body.code (not_not_intro rfl) (fun _ => not_not_intro rfl)
      (not_not_intro rfl)
  refine avoids_bind _ _ quiet fun result => ?_
  cases result with
  | failure errorCode error => exact avoids_pure _
  | success =>
      refine avoids_bind _ _ (avoids_call _ (not_not_intro rfl)) fun found => ?_
      cases found with
      | some existingAuth =>
          refine avoids_bind _ _ (avoids_call _ (not_not_intro rfl)) fun profile => ?_
          cases profile <;> exact avoids_pure _
      | none =>
          refine avoids_bind _ _ (fun _ => trivial) fun id => ?_
          refine avoids_bind _ _ (avoids_call _ (not_not_intro rfl)) fun newAuth => ?_
          refine avoids_bind _ _ (profile_strays drizzle _ _ _ _ _ (fun _ => rfl) fun _ => rfl)
            fun _ => ?_
          exact avoids_bind _ _ (tokens_stray drizzle _ _ _ fun _ _ _ => rfl) fun _ => avoids_pure _

theorem provider_typed (provider : OAuthProvider) (identifier : String) :
    identifierParam provider.toProvider identifier = typed identifier := by
  cases provider <;> rfl

theorem session_strays (body : OAuthSignupRequest) (existingAuth : Auth) :
    Avoids (Strays drizzle (.oauth body))
      (openSession existingAuth body.email body.deviceInfo) := by
  refine avoids_bind _ _ (avoids_call _ (not_not_intro rfl)) fun profile => ?_
  cases profile with
  | none => exact avoids_pure _
  | some user =>
      have fill : Avoids (Strays drizzle (.oauth body)) (fillEmail existingAuth body.email) :=
        avoids_ite _ _ _ (avoids_pure _)
          (avoids_bind _ _ (avoids_call _ (not_not_intro rfl)) fun _ => avoids_pure _)
      refine avoids_bind _ _ fill fun _ => ?_
      exact avoids_bind _ _ (tokens_stray drizzle _ _ _ fun _ _ _ => rfl) fun _ => avoids_pure _

theorem oauth_strays (env : Env) (body : OAuthSignupRequest) :
    Avoids (Strays drizzle (.oauth body)) (oauthSignup env body) := by
  have select : typedTexts drizzle (.selectAuth body.provider.toProvider body.providerId) =
      [body.providerId] := by
    simp [typedTexts, params, provider_typed, fixed, typed]
  refine avoids_bind _ _ (avoids_call _ (not_not_intro select)) fun found => ?_
  cases found with
  | some existingAuth => exact session_strays drizzle body existingAuth
  | none =>
      refine avoids_bind _ _ (avoids_call _ (not_not_intro rfl)) fun holder => ?_
      cases emailConflict body.provider holder with
      | some refusal => exact avoids_pure _
      | none =>
          refine avoids_bind _ _ (fun _ => trivial) fun id => ?_
          have insert : typedTexts drizzle (.insertAuth
              { id, provider := body.provider.toProvider, identifier := body.providerId
                email := some body.email }) = [body.providerId, body.email] := by
            simp [typedTexts, params, provider_typed, fixed, typed]
          refine avoids_bind _ _ (avoids_call _ (not_not_intro insert)) fun newAuth => ?_
          refine avoids_bind _ _ (profile_strays drizzle _ _ _ _ _ (fun _ => rfl) fun _ => rfl)
            fun _ => ?_
          refine avoids_bind _ _ (tokens_stray drizzle _ _ _ fun _ _ _ => rfl) fun _ => ?_
          exact avoids_bind _ _ (avoids_call _ (not_not_intro rfl)) fun _ => avoids_pure _

theorem asked_texts (env : Env) (signUp : SignUp) (statement : Statement)
    (asked : Asked env signUp statement) :
    typedTexts drizzle statement = signUp.texts statement := by
  obtain ⟨tick, history, last, follows, awaits⟩ := asked
  have avoids : Avoids (Strays drizzle signUp) (handler env signUp.request) := by
    cases signUp with
    | phone body => exact avoids_map _ (phone_strays drizzle body)
    | oauth body => exact avoids_map _ (oauth_strays drizzle env body)
  have final := (avoids_follows perform _ last history (avoids tick) follows).1
  exact not_not.mp (avoids_awaiting last statement final awaits)

/-- Both failures are answered with the same status and the same code. -/
def VerdictsAgree (deployment : Deployment) (first second : Statement) : Prop :=
  verdict deployment drizzle first = verdict deployment drizzle second

theorem verdicts_agree_iff (env : Env) (deployment : Deployment) (one other : SignUp)
    (first second : Statement) (fails : SameFailure env one other first second) :
    VerdictsAgree drizzle deployment first second ↔
      Unmoved (fixedTexts drizzle first) (one.texts first) (other.texts second) := by
  rw [VerdictsAgree, verdicts_same_iff drizzle deployment first second fails.same,
    asked_texts drizzle env one first fails.asked,
    asked_texts drizzle env other second fails.askedOther]

end Requests

section Samples

structure NameRules where
  isLetterOrMark : Char → Bool
  ascii : ∀ letter : Char, letter.isAlpha = true → isLetterOrMark letter = true

def userName (rules : NameRules) (input : String) : Option String :=
  if input = "" then none
  else
    let value := EmailSchema.trim input
    if 2 ≤ jsLength value ∧ jsLength value ≤ 50 ∧
        value.toList.all (fun letter => rules.isLetterOrMark letter || isSpace letter)
          then some value
    else none

/-- The schemas pass the freely typed values on as they are. -/
def Accepted (emails : EmailRules) (names : NameRules) : SignUp → Prop
  | .phone body => userName names body.name = some body.name
  | .oauth body =>
      body.providerId ≠ "" ∧ EmailSchema.email emails body.email = some body.email ∧
        userName names body.name = some body.name

def asciiNames : NameRules where
  isLetterOrMark := Char.isAlpha
  ascii := fun _ letter => letter

def plainSql : Drizzle where
  sql := fun _ => "select \"id\" from \"auth\" where \"identifier\" = $2 limit $3"
  iso := fun _ => "2025-01-01T00:00:00.000Z"

def production : Deployment where
  env := { ENV := some "production", DATABASE_URL := none, R2_ACCESS_KEY_ID := none
           R2_SECRET_ACCESS_KEY := none, R2_BUCKET_NAME := none, R2_PUBLIC_URL :=
             none, R2_ENDPOINT := none }
  isJson := fun _ => true
  verify := fun _ _ => .error "invalid token"

def ada (providerId : String) : OAuthSignupRequest where
  provider := .google
  providerId := providerId
  email := "ada@example.com"
  name := "Ada Lovelace"
  gender := .female
  birthYear := 1990
  deviceInfo := none

def lookup (providerId : String) : Statement := .selectAuth .google providerId

theorem lookup_asked (providerId : String) :
    Asked sampleEnv (.oauth (ada providerId)) (lookup providerId) :=
  ⟨tickAt 1000 "a", [], _, rfl, rfl⟩

theorem lookups_fail (one other : String) :
    SameFailure sampleEnv (.oauth (ada one)) (.oauth (ada other)) (lookup one) (lookup other) where
  alike := Alike.oauth (ada one) other "ada@example.com" "Ada Lovelace" none
  asked := lookup_asked one
  askedOther := lookup_asked other
  same := rfl

theorem verdicts_agree_plain :
    SameFailure sampleEnv (.oauth (ada "1001")) (.oauth (ada "1002")) (lookup "1001")
      (lookup "1002") ∧
      VerdictsAgree plainSql production (lookup "1001") (lookup "1002") := by
  refine ⟨lookups_fail "1001" "1002", (verdicts_agree_iff plainSql sampleEnv production _ _ _ _
    (lookups_fail "1001" "1002")).mpr (Or.inr (Or.inr ⟨?_, ?_, Or.inr ?_⟩))⟩
  all_goals simp [Mentions, MentionsOutage, SignUp.texts, lookup, ada]
  all_goals decide

/-- Somebody who calls the account "connection" turns the error into an outage. -/
theorem verdict_typed :
    ¬ ∀ (emails : EmailRules) (names : NameRules) (drizzle : Drizzle) (env : Env)
        (deployment : Deployment) (one other : SignUp) (first second : Statement),
      Accepted emails names one → Accepted emails names other →
        SameFailure env one other first second → VerdictsAgree drizzle deployment first second := by
  intro agree
  have address : EmailSchema.email EmailSchema.asciiRules "ada@example.com" =
    some "ada@example.com" := by
    decide
  have name : userName asciiNames "Ada Lovelace" = some "Ada Lovelace" := by decide
  have accepted : ∀ providerId, providerId ≠ "" →
      Accepted EmailSchema.asciiRules asciiNames (.oauth (ada providerId)) :=
    fun _ given => ⟨given, address, name⟩
  have same := agree EmailSchema.asciiRules asciiNames plainSql sampleEnv production _ _ _ _
    (accepted "1001"
      (by decide)) (accepted "connection" (by decide)) (lookups_fail "1001" "connection")
  have apart : verdict production plainSql (lookup "1001") = (500, "INTERNAL_ERROR") ∧
      verdict production plainSql (lookup "connection") = (503, "SERVICE_UNAVAILABLE") := by
    decide +kernel
  rw [VerdictsAgree, apart.1, apart.2] at same
  cases same

end Samples

end TopInspect.ErrorVerdicts
