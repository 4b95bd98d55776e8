import TopInspect.OtpVerification
import TopInspect.Staging

/-! One contract for all handlers. Given what a request has been told by its
statements, it says which statements the request may still ask. A sign-up moves
through stages: once it has inserted an auth row it asks for the profile of that
row and nothing else, and once that has failed it leaves the row to a cleanup. -/
namespace TopInspect.AccountContract

open Resumption AuthSchema AuthStatements AuthHandlers OtpVerification Staging

/-- What a handler learns of a row it found, and of a profile it saw or stored.
Each invariant of the accounts chooses its own facts. -/
structure Facts where
  found : Provider → String → Auth → Prop
  profiled : String → Prop

/-- How far a request is with the account it creates. -/
inductive Stage where
  | idle
  | opened (row : Auth)
  | unprofiled (row : Auth)
  | settled

def phoneOf : Request → Option String
  | .requestOTP body => some body.phone
  | .phoneSignup body => some body.phone
  | .phoneSignIn body => some body.phone
  | _ => none

def presentedToken : Request → Option String
  | .refreshTokens body => some body.refreshToken
  | .logout body => some body.refreshToken
  | _ => none

/-- The account a sign-up creates, but for its id. -/
inductive Opens : Request → Auth → Prop where
  | phone (body : PhoneSignupRequest) (id : String) :
      Opens (.phoneSignup body)
        { id, provider := .phone, identifier := body.phone, email := none }
  | oauth (body : OAuthSignupRequest) (id : String) :
      Opens (.oauthSignup body)
        { id, provider := body.provider.toProvider, identifier := body.providerId,
          email := some body.email }

def moves : Stage → (statement : Statement) → Except DbError statement.Answer → Stage
  | .idle, .insertAuth row, .ok _ => .opened row
  | .idle, .insertAuth _, .error _ => .settled
  | .opened _, .insertUser _, .ok _ => .settled
  | .opened row, .insertUser _, .error _ => .unprofiled row
  | .unprofiled _, .waitUntil _, _ => .settled
  | stage, _, _ => stage

/-- Between accounts: nothing is left half made. -/
inductive Ends : Stage → Prop where
  | idle : Ends .idle
  | settled : Ends .settled

section Contract
variable (facts : Facts) (request : Request)

def Told : (statement : Statement) → Except DbError statement.Answer → Prop
  | .selectAuth provider identifier, .ok (some row) => facts.found provider identifier row
  | .insertAuth row, .ok stored => stored = row
  | .selectUser id, .ok (some _) => facts.profiled id
  | .insertUser user, .ok _ => facts.profiled user.id
  | _, _ => True

/-- What a request may ask while it has no account of its own in the making. -/
def Calm : Statement → Prop
  | .selectOtp phone => phoneOf request = some phone
  | .upsertOtp row => phoneOf request = some row.phone
  | .updateOtpAttempts phone _ => phoneOf request = some phone
  | .deleteOtp phone => phoneOf request = some phone
  | .insertAuth _ => False
  | .updateAuthEmail id _ => ∃ (provider : OAuthProvider) (identifier : String) (row : Auth),
      facts.found provider.toProvider identifier row ∧ row.id = id ∧ truthy row.email = none
  | .deleteAuth id => request = .background (.deleteAuth id)
  | .insertUser _ => False
  | .insertToken _ authId _ _ _ => facts.profiled authId
  | .rotateToken token _ _ _ => presentedToken request = some token
  | .revokeToken token _ => presentedToken request = some token
  | .waitUntil (.deleteAuth _) => False
  | _ => True

inductive Asks : Stage → Statement → Prop where
  | opens (row : Auth) (own : Opens request row) : Asks .idle (.insertAuth row)
  | profiles (row : Auth) (user : User) (same : user.id = row.id) :
      Asks (.opened row) (.insertUser user)
  | defers (row : Auth) : Asks (.unprofiled row) (.waitUntil (.deleteAuth row.id))
  | calm (stage : Stage) (statement : Statement) (ends : Ends stage)
      (calm : Calm facts request statement) : Asks stage statement

def contract : Contract Statement Statement.Answer DbError Stage where
  allowed := Told facts
  asks := Asks facts request
  moves := moves

def Keeps {α : Type} (program : Handler α) : Prop :=
  ∀ stage, Ends stage → Obeys (contract facts request) stage program fun later _ => later = stage

def Meets {α : Type} (program : Handler α) : Prop :=
  Obeys (contract facts request) .idle program fun later _ => Ends later

end Contract

theorem calm_moves (facts : Facts) (request : Request) (stage : Stage) (ends : Ends stage)
    (statement : Statement) (calm : Calm facts request statement)
    (result : Except DbError statement.Answer) : moves stage statement result = stage := by
  cases ends with
  | idle =>
      cases statement with
      | insertAuth row => exact absurd calm id
      | _ => rfl
  | settled => rfl

theorem told_answer (facts : Facts) (tick : Tick) (statement : Statement) (db : Db)
    (found : ∀ provider identifier row, db.findAuth provider identifier = some row →
      facts.found provider identifier row)
    (profiled : ∀ id user, db.findUser id = some user → facts.profiled id)
    (stored : ∀ user answer, statement = .insertUser user →
      (perform tick (.insertUser user) db).1 = .ok answer → facts.profiled user.id) :
    Told facts statement (perform tick statement db).1 := by
  cases answered : (perform tick statement db).1 with
  | error error => cases statement <;> trivial
  | ok answer =>
      have executed := perform_ok tick statement db answer answered
      cases statement with
      | selectAuth provider identifier =>
          obtain ⟨rfl, -⟩ := Prod.mk.inj (Except.ok.inj executed)
          cases lookup : db.findAuth provider identifier with
          | none => trivial
          | some row => exact found provider identifier row lookup
      | insertAuth row =>
          obtain ⟨source, -, same⟩ := (map_ok _ _ _).mp executed
          exact (Prod.mk.inj same).1.symm
      | selectUser id =>
          obtain ⟨rfl, -⟩ := Prod.mk.inj (Except.ok.inj executed)
          cases lookup : db.findUser id with
          | none => trivial
          | some user => exact profiled id user lookup
      | insertUser user => exact stored user answer rfl answered
      | _ => trivial

theorem told_mono {facts other : Facts}
    (found : ∀ provider identifier row, facts.found provider identifier row →
      other.found provider identifier row)
    (profiled : ∀ id, facts.profiled id → other.profiled id) (statement : Statement)
    (result : Except DbError statement.Answer) (told : Told facts statement result) :
    Told other statement result := by
  cases result with
  | error error => cases statement <;> trivial
  | ok answer =>
      cases statement with
      | selectAuth provider identifier =>
          cases answer with
          | none => trivial
          | some row => exact found provider identifier row told
      | selectUser id =>
          cases answer with
          | none => trivial
          | some user => exact profiled id told
      | insertUser user => exact profiled user.id told
      | insertAuth row => exact told
      | _ => trivial

section Handlers
variable {facts : Facts} {request : Request}

theorem keeps_pure {α : Type} (value : α) : Keeps facts request (pure value) :=
  fun stage _ => obeys_pure stage value rfl

theorem obeys_told {α : Type} {post : Stage → Except DbError α → Prop} (stage : Stage)
    (ends : Ends stage) (statement : Statement) (next : statement.Answer → Handler α)
    (calm : Calm facts request statement) (refused : ∀ error, post stage (.error error))
    (second : ∀ answer, Told facts statement (.ok answer) →
      Obeys (contract facts request) stage (next answer) post) :
    Obeys (contract facts request) stage (call statement >>= next) post := by
  apply obeys_bind
  apply obeys_call stage statement (Asks.calm stage statement ends calm)
  intro result told
  have still := calm_moves facts request stage ends statement calm result
  cases result with
  | error error =>
      show post (moves stage statement (.error error)) (.error error)
      rw [still]
      exact refused error
  | ok answer =>
      show Obeys _ (moves stage statement (.ok answer)) _ _
      rw [still]
      exact second answer told

theorem keeps_told {α : Type} (statement : Statement) (next : statement.Answer → Handler α)
    (calm : Calm facts request statement)
    (second : ∀ answer, Told facts statement (.ok answer) → Keeps facts request (next answer)) :
    Keeps facts request (call statement >>= next) :=
  fun stage ends => obeys_told stage ends statement next calm (fun _ => rfl)
    fun answer told => second answer told stage ends

theorem keeps_call (statement : Statement) (calm : Calm facts request statement) :
    Keeps facts request (call statement) := by
  intro stage ends
  apply obeys_call stage statement (Asks.calm stage statement ends calm)
  exact fun result _ => calm_moves facts request stage ends statement calm result

theorem keeps_read {α : Type} (read : Tick → α) :
    Keeps facts request (fun tick => .done (read tick)) := fun _ _ _ => rfl

theorem keeps_bind {α β : Type} (program : Handler α) (next : α → Handler β)
    (first : Keeps facts request program) (second : ∀ value, Keeps facts request (next value)) :
    Keeps facts request (program >>= next) := by
  intro stage ends
  apply obeys_bind
  apply obeys_mono (first stage ends)
  intro later result same
  subst same
  cases result with
  | error error => rfl
  | ok value => exact second value later ends

theorem keeps_ite {α : Type} (condition : Prop) [Decidable condition] (yes no : Handler α)
    (left : condition → Keeps facts request yes) (right : ¬ condition → Keeps facts request no) :
    Keeps facts request (if condition then yes else no) := by
  by_cases holds : condition
  · simpa [holds] using left holds
  · simpa [holds] using right holds

theorem keeps_catch {α : Type} (program : Handler α) (rescue : DbError → Handler α)
    (first : Keeps facts request program) (second : ∀ error, Keeps facts request (rescue error)) :
    Keeps facts request (tryCatch program rescue) := by
  intro stage ends
  apply obeys_catch
  apply obeys_mono (first stage ends)
  intro later result same
  subst same
  cases result with
  | error error => exact second error later ends
  | ok value => rfl

theorem keeps_meets {α : Type} {program : Handler α} (keeps : Keeps facts request program) :
    Meets facts request program := by
  apply obeys_mono (keeps .idle .idle)
  intro later _ same
  subst same
  exact .idle

theorem meets_bind {α β : Type} (program : Handler α) (next : α → Handler β)
    (first : Keeps facts request program) (second : ∀ value, Meets facts request (next value)) :
    Meets facts request (program >>= next) := by
  apply obeys_bind
  apply obeys_mono (first .idle .idle)
  intro later result same
  subst same
  cases result with
  | error error => exact Ends.idle
  | ok value => exact second value

theorem meets_told {α : Type} (statement : Statement) (next : statement.Answer → Handler α)
    (calm : Calm facts request statement)
    (second : ∀ answer, Told facts statement (.ok answer) → Meets facts request (next answer)) :
    Meets facts request (call statement >>= next) :=
  obeys_told .idle .idle statement next calm (fun _ => .idle) second

theorem meets_map {α β : Type} (change : α → β) (program : Handler α)
    (meets : Meets facts request program) : Meets facts request (change <$> program) := by
  apply obeys_bind
  apply obeys_mono meets
  intro later result ends
  cases result with
  | error error => exact ends
  | ok value => exact obeys_pure later _ ends

theorem drop_row_keeps (phone : String) (result : OtpVerificationResult)
    (own : phoneOf request = some phone) : Keeps facts request (dropRow phone result) :=
  keeps_bind _ _ (keeps_call (.deleteOtp phone) own) fun _ => keeps_pure _

theorem verify_keeps (phone code : String) (own : phoneOf request = some phone) :
    Keeps facts request (verifyOTPCode phone code) := by
  rw [verify_judges]
  apply keeps_bind _ _ (keeps_call (.selectOtp phone) own)
  intro stored
  apply keeps_bind _ _ (keeps_read _)
  intro present
  cases judge code present stored with
  | missing => exact keeps_pure _
  | expired => exact drop_row_keeps phone _ own
  | exhausted => exact drop_row_keeps phone _ own
  | right => exact drop_row_keeps phone _ own
  | wrong newAttempts =>
      apply keeps_bind _ _ (keeps_call (.updateOtpAttempts phone newAttempts) own)
      intro count
      exact keeps_ite _ _ _ (fun _ => drop_row_keeps phone _ own) fun _ => keeps_pure _

theorem issue_tokens_keeps (authId : String) (deviceInfo : Option DeviceInfo)
    (profiled : facts.profiled authId) : Keeps facts request (issueTokens authId deviceInfo) := by
  apply keeps_bind _ _ (keeps_read _)
  intro accessToken
  apply keeps_bind _ _ (keeps_read _)
  intro refreshToken
  apply keeps_bind _ _ (keeps_read _)
  intro expiresAt
  apply keeps_bind _ _ (keeps_read _)
  intro id
  exact keeps_bind _ _
    (keeps_call (.insertToken id authId refreshToken expiresAt deviceInfo) profiled)
    fun _ => keeps_pure _

theorem create_profile_meets {α : Type} (row : Auth) (name : String) (gender : Gender)
    (birthYear : Int) (next : Handler α)
    (last : facts.profiled row.id → Keeps facts request next) :
    Obeys (contract facts request) (.opened row)
      (createProfile row name gender birthYear >>= fun _ => next) fun later _ => Ends later := by
  apply obeys_bind
  apply obeys_catch
  intro tick
  constructor
  · exact Asks.profiles row _ rfl
  · intro result now told
    cases result with
    | ok answer =>
        apply obeys_mono (last told .settled .settled)
        intro later _ same
        exact same ▸ .settled
    | error error =>
        -- The cleanup is for the row this sign-up has inserted itself.
        intro later
        constructor
        · exact Asks.defers row
        · intro deferred _ _
          cases deferred <;> exact Ends.settled

theorem create_account_meets {α : Type} (row : Auth) (name : String) (gender : Gender)
    (birthYear : Int) (next : Auth → Handler α) (opens : Opens request row)
    (last : facts.profiled row.id → Keeps facts request (next row)) :
    Meets facts request (do
      let newAuth ← insertAuth row
      createProfile newAuth name gender birthYear
      next newAuth) := by
  intro tick
  constructor
  · exact Asks.opens row opens
  · intro result now told
    cases result with
    | error error => exact Ends.settled
    | ok stored =>
        have same : stored = row := told
        exact same ▸ create_profile_meets row name gender birthYear (next row) last now

theorem complete_signup_meets (body : PhoneSignupRequest) :
    Meets facts (.phoneSignup body) (completeSignup body) := by
  apply meets_bind _ _ (keeps_call (.selectAuth .phone body.phone) trivial)
  intro existing
  cases existing with
  | some existingAuth =>
      apply meets_bind _ _ (keeps_call (.selectUser existingAuth.id) trivial)
      intro profile
      cases profile with
      | none => exact keeps_meets (keeps_pure _)
      | some user => exact keeps_meets (keeps_pure _)
  | none =>
      apply meets_bind _ _ (keeps_read _)
      intro id
      apply create_account_meets _ body.name body.gender body.birthYear _ (.phone body id)
      intro profiled
      exact keeps_bind _ _ (issue_tokens_keeps id body.deviceInfo profiled) fun _ => keeps_pure _

theorem complete_sign_in_keeps (body : PhoneSignInRequest) :
    Keeps facts (.phoneSignIn body) (completeSignIn body) := by
  apply keeps_bind _ _ (keeps_call (.selectAuth .phone body.phone) trivial)
  intro existing
  cases existing with
  | none => exact keeps_pure _
  | some existingAuth =>
      apply keeps_told (.selectUser existingAuth.id) _ trivial
      intro profile told
      cases profile with
      | none => exact keeps_pure _
      | some user =>
          exact keeps_bind _ _ (issue_tokens_keeps existingAuth.id body.deviceInfo told)
            fun _ => keeps_pure _

theorem fill_email_keeps (provider : OAuthProvider) (identifier : String) (existingAuth : Auth)
    (email : String) (found : facts.found provider.toProvider identifier existingAuth) :
    Keeps facts request (fillEmail existingAuth email) := by
  unfold fillEmail
  apply keeps_ite
  · exact fun _ => keeps_pure _
  · intro empty
    have absent : truthy existingAuth.email = none := by simpa using empty
    exact keeps_bind _ _ (keeps_call (.updateAuthEmail existingAuth.id email)
      ⟨provider, identifier, existingAuth, found, rfl, absent⟩) fun _ => keeps_pure _

theorem open_session_keeps (provider : OAuthProvider) (identifier : String) (existingAuth : Auth)
    (email : String) (deviceInfo : Option DeviceInfo)
    (found : facts.found provider.toProvider identifier existingAuth) :
    Keeps facts request (openSession existingAuth email deviceInfo) := by
  apply keeps_told (.selectUser existingAuth.id) _ trivial
  intro profile told
  cases profile with
  | none => exact keeps_pure _
  | some user =>
      apply keeps_bind _ _ (fill_email_keeps provider identifier existingAuth email found)
      intro filled
      exact keeps_bind _ _ (issue_tokens_keeps existingAuth.id deviceInfo told)
        fun _ => keeps_pure _

theorem oauth_sign_in_keeps (env : Env) (provider : OAuthProvider) (body : OAuthSignInRequest) :
    Keeps facts request (createOAuthSignInHandler env provider body) := by
  apply keeps_bind _ _ (keeps_read _)
  intro present
  split
  · exact keeps_pure _
  · split
    · next claims _ _ email providerId _ _ =>
        apply keeps_told (.selectAuth provider.toProvider providerId) _ trivial
        intro existing told
        cases existing with
        | some existingAuth =>
            exact open_session_keeps provider providerId existingAuth email body.deviceInfo told
        | none =>
            apply keeps_bind _ _ (keeps_call (.selectAuthByEmail email) trivial)
            intro holder
            cases emailConflict provider holder with
            | none => exact keeps_pure _
            | some refusal => exact keeps_pure _
    · exact keeps_pure _

theorem oauth_signup_meets (env : Env) (body : OAuthSignupRequest) :
    Meets facts (.oauthSignup body) (oauthSignup env body) := by
  apply meets_told (.selectAuth body.provider.toProvider body.providerId) _ trivial
  intro existing told
  cases existing with
  | some existingAuth =>
      exact keeps_meets (open_session_keeps body.provider body.providerId existingAuth body.email
        body.deviceInfo told)
  | none =>
      apply meets_bind _ _ (keeps_call (.selectAuthByEmail body.email) trivial)
      intro holder
      cases emailConflict body.provider holder with
      | some refusal => exact keeps_meets (keeps_pure _)
      | none =>
          apply meets_bind _ _ (keeps_read _)
          intro id
          apply create_account_meets _ body.name body.gender body.birthYear _ (.oauth body id)
          intro profiled
          apply keeps_bind _ _ (issue_tokens_keeps id body.deviceInfo profiled)
          intro issued
          exact keeps_bind _ _ (keeps_call (.waitUntil (welcome env body.name body.email)) trivial)
            fun _ => keeps_pure _

theorem refresh_tokens_keeps (body : RefreshTokensRequest) :
    Keeps facts (.refreshTokens body) (refreshTokens body) := by
  apply keeps_bind _ _ (keeps_call (.selectToken body.refreshToken) trivial)
  intro stored
  cases stored with
  | none => exact keeps_pure _
  | some token =>
      apply keeps_bind _ _ (keeps_read _)
      intro present
      apply keeps_ite
      · exact fun _ => keeps_pure _
      · intro usable
        apply keeps_bind _ _ (keeps_call (.selectAuthById token.authId) trivial)
        intro owner
        cases owner with
        | none => exact keeps_pure _
        | some row =>
            apply keeps_bind _ _ (keeps_read _)
            intro recent
            apply keeps_ite
            · exact fun _ => keeps_pure _
            · intro idle
              apply keeps_bind _ _ (keeps_read _)
              intro newRefreshToken
              apply keeps_bind _ _ (keeps_read _)
              intro expiresAt
              apply keeps_bind _ _ (keeps_read _)
              intro lastUsedAt
              apply keeps_bind _ _ (keeps_call
                (.rotateToken body.refreshToken newRefreshToken expiresAt lastUsedAt) (by rfl))
              intro count
              exact keeps_bind _ _ (keeps_read _) fun _ => keeps_pure _

theorem logout_keeps (body : LogoutRequest) : Keeps facts (.logout body) (logout body) := by
  apply keeps_bind _ _ (keeps_call (.selectToken body.refreshToken) trivial)
  intro stored
  cases stored with
  | none => exact keeps_pure _
  | some token =>
      apply keeps_ite
      · exact fun _ => keeps_pure _
      · intro live
        apply keeps_bind _ _ (keeps_read _)
        intro revokedAt
        exact keeps_bind _ _ (keeps_call (.revokeToken body.refreshToken revokedAt) rfl)
          fun _ => keeps_pure _

theorem request_otp_keeps (body : OtpRequest) :
    Keeps facts (.requestOTP body) (requestOTP body) := by
  apply keeps_bind _ _ (keeps_call (.selectOtp body.phone) (by rfl))
  intro recentOTP
  apply keeps_bind _ _ (keeps_read _)
  intro threshold
  apply keeps_ite
  · exact fun _ => keeps_pure _
  · intro cooled
    apply keeps_bind _ _ (keeps_call (.selectAuth .phone body.phone) trivial)
    intro existingAuth
    apply keeps_bind
    · cases existingAuth with
      | none => exact keeps_pure _
      | some row =>
          exact keeps_bind _ _ (keeps_call (.selectUser row.id) trivial) fun _ => keeps_pure _
    · intro userExists
      apply keeps_ite
      · exact fun _ => keeps_pure _
      · intro present
        apply keeps_ite
        · exact fun _ => keeps_pure _
        · intro absent
          apply keeps_bind _ _ (keeps_read _)
          intro code
          apply keeps_bind _ _ (keeps_read _)
          intro expiresAt
          apply keeps_bind _ _ (keeps_read _)
          intro createdAt
          have stores : Keeps facts (.requestOTP body) (do
              upsertOtp { phone := body.phone, code, attempts := 0, expiresAt, createdAt }
              waitUntil (.sendOTP body.phone code)
              pure (res.ok (.otp userExists))) := by
            apply keeps_bind _ _ (keeps_call (.upsertOtp _) (by rfl))
            intro stored
            exact keeps_bind _ _ (keeps_call (.waitUntil (.sendOTP body.phone code)) trivial)
              fun _ => keeps_pure _
          exact keeps_catch _ _ stores fun _ => keeps_pure _

theorem run_job_keeps (job : Job) : Keeps facts (.background job) (runJob job) := by
  cases job with
  | deleteAuth id => exact keeps_bind _ _ (keeps_call (.deleteAuth id) rfl) fun _ => keeps_pure _
  | sendOTP phone otp => exact keeps_pure _
  | sendEmail recipient subject template => exact keeps_pure _

theorem handler_meets (env : Env) (request : Request) :
    Meets facts request (handler env request) := by
  cases request with
  | requestOTP body => exact meets_map _ _ (keeps_meets (request_otp_keeps body))
  | phoneSignup body =>
      apply meets_map
      apply meets_bind _ _ (verify_keeps body.phone body.code rfl)
      intro verified
      cases verified with
      | failure errorCode error => exact keeps_meets (keeps_pure _)
      | success => exact complete_signup_meets body
  | phoneSignIn body =>
      apply meets_map
      apply meets_bind _ _ (verify_keeps body.phone body.code rfl)
      intro verified
      cases verified with
      | failure errorCode error => exact keeps_meets (keeps_pure _)
      | success => exact keeps_meets (complete_sign_in_keeps body)
  | oauthSignIn provider body =>
      exact meets_map _ _ (keeps_meets (oauth_sign_in_keeps env provider body))
  | oauthSignup body => exact meets_map _ _ (oauth_signup_meets env body)
  | refreshTokens body => exact meets_map _ _ (keeps_meets (refresh_tokens_keeps body))
  | logout body => exact meets_map _ _ (keeps_meets (logout_keeps body))
  | background job => exact meets_map _ _ (keeps_meets (run_job_keeps job))

end Handlers

section Tasks
variable (facts : Facts) (env : Env)

/-- The stage the history of a task has led it to. -/
def progress (trace : List Live.Entry) (index : Nat) : Stage :=
  stageOf moves perform .idle trace index

theorem task_meets (state : Live.State) (coherent : (server env).Coherent state) (index : Nat)
    (task : Live.Task)
    (told : ∀ entry ∈ state.trace,
      Told facts entry.query (perform entry.tick entry.query entry.before).1)
    (present : state.tasks[index]? = some task) :
    Residual.Obeys (contract facts task.request) (fun later _ => Ends later) task.residual
      (progress state.trace index) :=
  task_obeys _ state coherent index task
    (handler_meets env task.request) (fun entry member _ => told entry member) present

theorem task_asks (state : Live.State) (coherent : (server env).Coherent state) (index : Nat)
    (task : Live.Task) (query : Statement)
    (told : ∀ entry ∈ state.trace,
      Told facts entry.query (perform entry.tick entry.query entry.before).1)
    (present : state.tasks[index]? = some task) (awaits : task.residual.awaiting = some query) :
    Asks facts task.request (progress state.trace index) query :=
  obeys_awaiting _ _ task.residual query
    (task_meets facts env state coherent index task told present) awaits

def Handed (state : Live.State) : Prop :=
  ∀ (index : Nat) (task : Live.Task), state.tasks[index]? = some task →
    ∀ job, task.request = .background job → ∃ entry ∈ state.trace, entry.query = .waitUntil job

theorem handed_start (db : Db) : Handed (Interleaving.start db) := by
    simp [Handed, Interleaving.start]

theorem handed_step (state : Live.State) (action : Live.Action) (handed : Handed state) :
    Handed ((server env).step state action) := by
  intro index task found job background
  have longer : state.trace <:+ ((server env).step state action).trace :=
    Interleaving.Machine.step_trace state action
  rcases Interleaving.Machine.step_origin state action index task found with
    ⟨earlier, old, same⟩ | ⟨tick, arrived, external⟩ | ⟨entry, comes, spawns⟩
  · obtain ⟨entry, member, query⟩ := handed index earlier old job (same.trans background)
    exact ⟨entry, longer.subset member, query⟩
  · rw [background] at external
    cases external
  · cases query : entry.query with
    | waitUntil other =>
        rw [query] at spawns
        obtain rfl := Request.background.inj (background.symm.trans (List.mem_singleton.mp spawns))
        have added := Interleaving.Machine.upcoming_trace state action entry comes
        exact ⟨entry, by simp [added], query⟩
    | _ => rw [query] at spawns; exact absurd spawns List.not_mem_nil

theorem asks_opened (request : Request) (row : Auth) (statement : Statement)
    (asks : Asks facts request (.opened row) statement) :
    ∃ user, statement = .insertUser user ∧ user.id = row.id := by
  cases asks with
  | profiles _ user same => exact ⟨user, rfl, same⟩
  | calm _ _ ends calm => cases ends

theorem asks_unprofiled (request : Request) (row : Auth) (statement : Statement)
    (asks : Asks facts request (.unprofiled row) statement) :
    statement = .waitUntil (.deleteAuth row.id) := by
  cases asks with
  | defers => rfl
  | calm _ _ ends calm => cases ends

theorem asks_opens (request : Request) (stage : Stage) (row : Auth)
    (asks : Asks facts request stage (.insertAuth row)) : stage = .idle ∧ Opens request row := by
  cases asks with
  | opens _ own => exact ⟨rfl, own⟩
  | calm _ _ ends calm => exact absurd calm id

theorem asks_profiles (request : Request) (stage : Stage) (user : User)
    (asks : Asks facts request stage (.insertUser user)) :
    ∃ row, stage = .opened row ∧ user.id = row.id := by
  cases asks with
  | profiles row _ same => exact ⟨row, rfl, same⟩
  | calm _ _ ends calm => exact absurd calm id

theorem asks_defers (request : Request) (stage : Stage) (id : String)
    (asks : Asks facts request stage (.waitUntil (.deleteAuth id))) :
    ∃ row, stage = .unprofiled row ∧ row.id = id := by
  cases asks with
  | defers row => exact ⟨row, rfl, rfl⟩
  | calm _ _ ends calm => exact absurd calm not_false

theorem asks_deletes (request : Request) (stage : Stage) (id : String)
    (asks : Asks facts request stage (.deleteAuth id)) :
    request = .background (.deleteAuth id) := by
  cases asks with
  | calm _ _ ends calm => exact calm

theorem asks_token (request : Request) (stage : Stage) (id authId token : String)
    (expiresAt : Time) (deviceInfo : Option DeviceInfo)
    (asks : Asks facts request stage (.insertToken id authId token expiresAt deviceInfo)) :
    facts.profiled authId := by
  cases asks with
  | calm _ _ ends calm => exact calm

end Tasks
end TopInspect.AccountContract
