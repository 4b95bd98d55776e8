import TopInspect.OtpVerification
import TopInspect.SessionPaths
import TopInspect.TickContracts
import TopInspect.AuthExecution

/-! What a handler writes and answers when its ticks are fair. The terms of a task say what its
draws and its clock promise, and the tokens, codes and times it uses are all drawn under them. -/
namespace TopInspect.ServerTerms

open Resumption AuthSchema AuthStatements AuthHandlers AUTH_CONFIG TickContracts
open AuthExecution (otp_error_plain conflict_plain)
open OtpVerification (verify_avoids)
open RowTable (Table)
open SessionPaths (select_token_ok)
open Interleaving hiding Entry State Action Task

/-- `kept` is what a token row keeps of its token and of the time it was last used at, `spent`
says which tokens the task may rotate, and `stored` what is known of a token once its row is
written. -/
structure Terms (kept : String → Time → Prop) where
  fair : Tick → Prop
  spent : String → Prop
  stored : String → Prop
  token : String → Prop
  code : String → Prop
  access : AccessToken → Prop
  time : Time → Prop
  draws_token : ∀ tick, fair tick → token tick.refreshToken
  draws_code : ∀ tick, fair tick → code tick.otpCode
  clock : ∀ tick, fair tick → time tick.now
  signs : ∀ tick userId, fair tick →
    access { sub := userId, iat := tick.now / 1000,
             exp := tick.now / 1000 + ACCESS_TOKEN_EXPIRY_MINUTES * 60 }
  inserts : ∀ tick text, fair tick → token text → kept text tick.dbNow
  rotates : ∀ text present, token text → time present → kept text present

/-- Answered that it came too early. -/
def isLimited (response : Response) : Prop := ∃ error, response.body = .error error "RATE_LIMITED"

section Handlers
variable {kept : String → Time → Prop} (terms : Terms kept)

namespace Terms

def Allowed : Statement → Prop
  | .insertToken _ _ token _ _ => terms.token token
  | .rotateToken token newToken _ lastUsedAt =>
      terms.spent token ∧ terms.token newToken ∧ terms.time lastUsedAt
  | .upsertOtp row => terms.code row.code
  | .waitUntil (.sendOTP _ otp) => terms.code otp
  | _ => True

structure Grants (accessToken : AccessToken) (refreshToken : String) : Prop where
  access : terms.access accessToken
  token : terms.token refreshToken
  stored : terms.stored refreshToken

def Issued (response : Response) : Prop :=
  ∀ accessToken refreshToken, response.body = .tokens accessToken refreshToken →
    terms.Grants accessToken refreshToken

def Answers : Except DbError Response → Prop
  | .ok response => terms.Issued response
  | .error _ => True

/-- The row of a token was used within the cooldown. -/
def Recent (token : String) : Prop :=
  ∃ lastUsedAt present, kept token lastUsedAt ∧ terms.time present ∧
    present - lastUsedAt < minutes REFRESH_COOLDOWN_MINUTES

def Refreshed (token : String) : Except DbError Response → Prop
  | .ok response => terms.Issued response ∧ (isLimited response → terms.Recent token)
  | .error _ => True

end Terms

def UsesDraw : Statement → Prop
  | .insertToken _ _ _ _ _ => True
  | .rotateToken _ _ _ _ => True
  | .upsertOtp _ => True
  | .waitUntil (.sendOTP _ _) => True
  | _ => False

theorem allowed_plain (statement : Statement) (plain : ¬ UsesDraw statement) :
    terms.Allowed statement := by
  cases statement with
  | waitUntil job =>
      cases job with
      | sendOTP phone otp => exact absurd trivial plain
      | _ => trivial
  | insertToken id authId token expiresAt deviceInfo => exact absurd trivial plain
  | rotateToken token newToken expiresAt lastUsedAt => exact absurd trivial plain
  | upsertOtp row => exact absurd trivial plain
  | _ => trivial

/-- A row that is read has kept what its token and its time promise. -/
def Told : (statement : Statement) → Except DbError statement.Answer → Prop
  | .selectToken token, .ok (some row) => kept token row.lastUsedAt
  | .insertToken _ _ token _ _, .ok _ => terms.stored token
  | .rotateToken _ newToken _ _, .ok _ => terms.stored newToken
  | _, _ => True

variable {terms}

abbrev Honest (terms : Terms kept) (program : Handler Response) : Prop :=
  Pledges terms.fair (Told terms) terms.Allowed program terms.Answers

theorem issued_plain (response : Response)
    (plain : ∀ access token, response.body ≠ .tokens access token) : terms.Issued response :=
  fun access token same => absurd same (plain access token)

theorem issued_error (error : String) (status : Nat) (code : String) :
    terms.Issued (res.err error status code) := by
  intro access token same
  cases same

theorem honest_plain (response : Response)
    (plain : ∀ access token, response.body ≠ .tokens access token) :
    Honest terms (pure response) :=
  pledges_pure response (issued_plain response plain)

theorem honest_bind {α : Type} (program : Handler α) (next : α → Handler Response)
    (first : Avoids UsesDraw program) (second : ∀ value, Honest terms (next value)) :
    Honest terms (program >>= next) := by
  have quiet : Avoids (fun statement => ¬ terms.Allowed statement) program :=
    avoids_mono (fun statement wrong => not_not.mp fun plain =>
      wrong (allowed_plain terms statement plain))
      program first
  exact pledges_after program next (avoids_pledges program quiet) (fun _ => trivial)
    fun value _ => second value

theorem now_pledges : Pledges terms.fair (Told terms) terms.Allowed now fun result =>
    ∀ present, result = .ok present → terms.time present := by
  intro tick fair present same
  cases same
  exact terms.clock tick fair

theorem access_pledges (userId : String) :
    Pledges terms.fair (Told terms) terms.Allowed (generateAccessToken userId) fun result =>
      ∀ accessToken, result = .ok accessToken → terms.access accessToken := by
  intro tick fair accessToken same
  cases same
  exact terms.signs tick userId fair

theorem token_pledges :
    Pledges terms.fair (Told terms) terms.Allowed generateRefreshToken fun result =>
    ∀ token, result = .ok token → terms.token token := by
  intro tick fair token same
  cases same
  exact terms.draws_token tick fair

theorem code_pledges : Pledges terms.fair (Told terms) terms.Allowed generateOTP fun result =>
    ∀ code, result = .ok code → terms.code code := by
  intro tick fair code same
  cases same
  exact terms.draws_code tick fair

theorem issue_pledges (authId : String) (deviceInfo : Option DeviceInfo) :
    Pledges terms.fair (Told terms) terms.Allowed (issueTokens authId deviceInfo) fun result =>
      ∀ issued, result = .ok issued → terms.Grants issued.1 issued.2 := by
  apply pledges_after _ _ (access_pledges authId) (by simp)
  intro accessToken granted
  apply pledges_after _ _ token_pledges (by simp)
  intro refreshToken drawn
  have token := drawn refreshToken rfl
  intro tick fair
  refine ⟨token, fun result now told _ => ?_⟩
  cases result with
  | error error => exact fun issued same => by cases same
  | ok answer =>
      intro issued same
      cases same
      exact ⟨granted accessToken rfl, token, told⟩

theorem honest_issue (authId : String) (deviceInfo : Option DeviceInfo)
    (next : AccessToken × String → Handler Response)
    (closes : ∀ issued, terms.Grants issued.1 issued.2 → Honest terms (next issued)) :
    Honest terms (issueTokens authId deviceInfo >>= next) := by
  apply pledges_after _ _ (issue_pledges authId deviceInfo) fun _ => trivial
  intro issued holds
  exact closes issued (holds issued rfl)

theorem issued_tokens (status : Nat) (issued : AccessToken × String)
    (grants : terms.Grants issued.1 issued.2) :
    terms.Issued { status, body := .tokens issued.1 issued.2 } := by
  intro accessToken refreshToken same
  cases same
  exact grants

theorem profile_quiet (newAuth : Auth) (name : String) (gender : Gender) (birthYear : Int) :
    Avoids UsesDraw (createProfile newAuth name gender birthYear) :=
  avoids_catch _ _ (avoids_call _ id) fun error => avoids_bind _ _ (avoids_call _ id) fun _ =>
    avoids_throw error

theorem honest_account (row : Auth) (name : String) (gender : Gender) (birthYear : Int)
    (next : Auth → Handler Response) (second : ∀ newAuth, Honest terms (next newAuth)) :
    Honest terms (insertAuth row >>= fun newAuth =>
      createProfile newAuth name gender birthYear >>= fun _ => next newAuth) :=
  honest_bind _ _ (avoids_call _ id) fun newAuth =>
    honest_bind _ _ (profile_quiet newAuth name gender birthYear) fun _ => second newAuth

theorem honest_verified (phone code : String) (next : Handler Response)
    (second : Honest terms next) :
    Honest terms (verifyOTPCode phone code >>= fun result =>
      match result with
      | .failure errorCode error => pure (handleOtpError errorCode error)
      | .success => next) := by
  refine honest_bind _ _ (verify_avoids phone code id (fun _ => id) id) fun result => ?_
  cases result with
  | failure errorCode error => exact honest_plain _ (otp_error_plain errorCode error)
  | success => exact second

theorem sign_up_honest (body : PhoneSignupRequest) : Honest terms (phoneSignup body) := by
  refine honest_verified body.phone body.code _ (honest_bind _ _ (avoids_call _ id) fun found => ?_)
  cases found with
  | some existingAuth =>
      refine honest_bind _ _ (avoids_call _ id) fun profile => ?_
      cases profile with
      | some user => exact honest_plain _ nofun
      | none => exact honest_plain _ nofun
  | none =>
      refine honest_bind _ _ (fun _ => trivial) fun id => honest_account _ _ _ _ _ fun newAuth => ?_
      exact honest_issue _ _ _ fun issued grants =>
        pledges_pure _ (issued_tokens 201 issued grants)

theorem sign_in_honest (body : PhoneSignInRequest) : Honest terms (phoneSignIn body) := by
  refine honest_verified body.phone body.code _ (honest_bind _ _ (avoids_call _ id) fun found => ?_)
  cases found with
  | none => exact honest_plain _ nofun
  | some existingAuth =>
      refine honest_bind _ _ (avoids_call _ id) fun profile => ?_
      cases profile with
      | none => exact honest_plain _ nofun
      | some user =>
          exact honest_issue _ _ _ fun issued grants =>
            pledges_pure _ (issued_tokens 200 issued grants)

theorem session_honest (existingAuth : Auth) (email : String) (deviceInfo : Option DeviceInfo) :
    Honest terms (openSession existingAuth email deviceInfo) := by
  refine honest_bind _ _ (avoids_call _ id) fun profile => ?_
  cases profile with
  | none => exact honest_plain _ nofun
  | some user =>
      have fill : Avoids UsesDraw (fillEmail existingAuth email) :=
        avoids_ite _ _ _ (avoids_pure _) (avoids_bind _ _ (avoids_call _ id) fun _ => avoids_pure _)
      exact honest_bind _ _ fill fun _ => honest_issue _ _ _ fun issued grants =>
        pledges_pure _ (issued_tokens 200 issued grants)

theorem oauth_sign_in_honest (env : Env) (provider : OAuthProvider) (body : OAuthSignInRequest) :
    Honest terms (createOAuthSignInHandler env provider body) := by
  refine honest_bind _ _ (fun _ => trivial) fun present => ?_
  cases verified : verifyOAuthJWT env present body.idToken (OAUTH_VERIFIER_CONFIGS provider) with
  | error thrown => exact honest_plain _ nofun
  | ok claims =>
      cases email : truthy claims.email with
      | none =>
          simp only [email]
          exact honest_plain _ nofun
      | some address =>
          cases sub : truthy claims.sub with
          | none =>
              simp only [email, sub]
              exact honest_plain _ nofun
          | some providerId =>
              simp only [email, sub]
              refine honest_bind _ _ (avoids_call _ id) fun existing => ?_
              cases existing with
              | some existingAuth => exact session_honest existingAuth address body.deviceInfo
              | none =>
                  refine honest_bind _ _ (avoids_call _ id) fun holder => ?_
                  cases refused : emailConflict provider holder with
                  | some refusal =>
                      exact honest_plain _ (conflict_plain provider holder refusal refused)
                  | none => exact honest_plain _ nofun

theorem oauth_sign_up_honest (env : Env) (body : OAuthSignupRequest) :
    Honest terms (oauthSignup env body) := by
  refine honest_bind _ _ (avoids_call _ id) fun existing => ?_
  cases existing with
  | some existingAuth => exact session_honest existingAuth body.email body.deviceInfo
  | none =>
      refine honest_bind _ _ (avoids_call _ id) fun holder => ?_
      cases refused : emailConflict body.provider holder with
      | some refusal => exact honest_plain _ (conflict_plain body.provider holder refusal refused)
      | none =>
          refine honest_bind _ _ (fun _ => trivial) fun id =>
            honest_account _ _ _ _ _ fun newAuth => ?_
          refine honest_issue _ _ _ fun issued grants => ?_
          exact honest_bind _ _ (avoids_call _ fun draws => draws) fun _ =>
            pledges_pure _ (issued_tokens 201 issued grants)

theorem exists_quiet (existingAuth : Option Auth) :
    Avoids UsesDraw (profileExists existingAuth) := by
  cases existingAuth with
  | none => exact avoids_pure _
  | some row => exact avoids_bind _ _ (avoids_call _ id) fun _ => avoids_pure _

theorem otp_honest (body : OtpRequest) : Honest terms (requestOTP body) := by
  refine honest_bind _ _ (avoids_call _ id) fun recentOTP =>
    honest_bind _ _ (fun _ => trivial) fun threshold => ?_
  split
  · exact honest_plain _ nofun
  refine honest_bind _ _ (avoids_call _ id) fun existingAuth =>
    honest_bind _ _ (exists_quiet existingAuth) fun userExists => ?_
  split
  · exact honest_plain _ nofun
  split
  · exact honest_plain _ nofun
  refine pledges_after _ _ code_pledges (fun _ => trivial) fun otpCode drawn => ?_
  refine honest_bind _ _ (fun _ => trivial) fun expiresAt =>
    honest_bind _ _ (fun _ => trivial) fun createdAt => ?_
  have code := drawn otpCode rfl
  apply pledges_catch
  refine pledges_bind _ _ (pledges_call _ code fun result _ => ?_)
  cases result with
  | error error => exact honest_plain _ nofun
  | ok stored =>
      refine pledges_bind _ _ (pledges_call _ code fun result _ => ?_)
      cases result with
      | error error => exact honest_plain _ nofun
      | ok handed => exact honest_plain _ nofun

theorem logout_honest (body : LogoutRequest) : Honest terms (logout body) := by
  refine honest_bind _ _ (avoids_call _ id) fun found => ?_
  cases found with
  | none => exact honest_plain _ nofun
  | some token =>
      refine pledges_ite _ _ _ (honest_plain _ nofun) ?_
      exact honest_bind _ _ (fun _ => trivial) fun revokedAt =>
        honest_bind _ _ (avoids_call _ id) fun _ => honest_plain _ nofun

theorem days_pledges (count : Int) :
    Pledges terms.fair (Told terms) terms.Allowed (daysFromNow count) fun _ => True :=
    fun _ _ => trivial

theorem select_pledges (token : String) :
    Pledges terms.fair (Told terms) terms.Allowed (selectToken token) fun result =>
      ∀ row, result = .ok (some row) → kept token row.lastUsedAt := by
  refine pledges_call (Statement.selectToken token) trivial fun result told row same => ?_
  subst same
  exact told

theorem rotate_pledges (token newToken : String) (expiresAt lastUsedAt : Time)
    (spent : terms.spent token) (drawn : terms.token newToken) (clock : terms.time lastUsedAt) :
    Pledges terms.fair (Told terms) terms.Allowed (rotateToken token newToken expiresAt lastUsedAt)
      fun result => ∀ count, result = .ok count → terms.stored newToken := by
  refine pledges_call (Statement.rotateToken token newToken expiresAt lastUsedAt)
    ⟨spent, drawn, clock⟩
    fun result told count same => ?_
  subst same
  exact told

theorem recently_pledges (lastUsedAt : Time) :
    Pledges terms.fair (Told terms) terms.Allowed (recentlyRefreshed lastUsedAt) fun result =>
      result = .ok true →
        ∃ present, terms.time present ∧
          present - lastUsedAt < minutes REFRESH_COOLDOWN_MINUTES := by
  intro tick fair same
  exact ⟨tick.now, terms.clock tick fair, of_decide_eq_true (Except.ok.inj same)⟩

theorem refresh_honest (body : RefreshTokensRequest) (owns : terms.spent body.refreshToken) :
    Pledges terms.fair (Told terms) terms.Allowed (refreshTokens body)
      (terms.Refreshed body.refreshToken) := by
  have refused (error : String) (status : Nat) (code : String) (other : code ≠ "RATE_LIMITED") :
      Pledges terms.fair (Told terms) terms.Allowed
        (pure (res.err error status code) : Handler Response)
        (terms.Refreshed body.refreshToken) := by
    refine pledges_pure _ ⟨issued_error error status code, fun limited => ?_⟩
    obtain ⟨text, same⟩ := limited
    cases same
    exact absurd rfl other
  refine pledges_after _ _ (select_pledges body.refreshToken) (fun _ => trivial)
    fun found selected => ?_
  cases found with
  | none => exact refused _ _ _ (by decide)
  | some token =>
      have used := selected token rfl
      refine pledges_after _ _ now_pledges (fun _ => trivial) fun present _ => ?_
      refine pledges_ite _ _ _ (refused _ _ _ (by decide)) ?_
      refine pledges_after _ _ (pledges_call _ trivial fun _ _ => trivial) (fun _ => trivial)
        fun owner (_ : True) => ?_
      cases owner with
      | none => exact refused _ _ _ (by decide)
      | some auth =>
          refine pledges_after _ _ (recently_pledges token.lastUsedAt) (fun _ => trivial)
            fun recent early => ?_
          cases recent with
          | true =>
              obtain ⟨present, clock, within⟩ := early rfl
              exact pledges_pure _ ⟨issued_error _ _ _, fun _ => ⟨_, present, used, clock, within⟩⟩
          | false =>
              refine pledges_after _ _ token_pledges (fun _ => trivial)
                fun newRefreshToken drawn => ?_
              refine pledges_after _ _ (days_pledges _) (fun _ => trivial) fun expiresAt _ => ?_
              refine pledges_after _ _ now_pledges (fun _ => trivial) fun lastUsedAt clock => ?_
              refine pledges_after _ _ (rotate_pledges _ _ _ _ owns (drawn _ rfl) (clock _ rfl))
                (fun _ => trivial) fun count stored => ?_
              refine pledges_after _ _ (access_pledges token.authId) (fun _ => trivial)
                fun accessToken granted => ?_
              refine pledges_pure _ ⟨issued_tokens 200 (accessToken, newRefreshToken)
                ⟨granted _ rfl, drawn _ rfl, stored count rfl⟩, fun limited => ?_⟩
              simp [isLimited, res.ok] at limited

theorem job_quiet (job : Job) : Avoids UsesDraw (runJob job) := by
  cases job with
  | deleteAuth id =>
      exact avoids_bind _ _ (avoids_call _ (fun draws => draws)) fun _ => avoids_pure _
  | sendOTP phone otp => exact avoids_pure _
  | sendEmail recipient subject template => exact avoids_pure _

namespace Terms

def Promises (request : Request) : Except DbError (Option Response) → Prop
  | .ok (some response) =>
      terms.Issued response ∧ ∀ body, request = .refreshTokens body → isLimited response →
        terms.Recent body.refreshToken
  | _ => True

end Terms

theorem job_honest {fair : Tick → Prop} (job : Job) :
    Pledges fair (Told terms) terms.Allowed ((fun _ => none) <$> runJob job)
      (terms.Promises (.background job)) := by
  refine pledges_map _
    (pledges_mono (avoids_pledges (runJob job) (avoids_mono ?_ _ (job_quiet job))) ?_)
  · exact fun statement wrong => not_not.mp fun quiet => wrong (allowed_plain terms statement quiet)
  · rintro (error | value) -
    · trivial
    · trivial

theorem handler_honest (env : Env) (request : Request)
    (owns : ∀ body, request = .refreshTokens body → terms.spent body.refreshToken) :
    Pledges terms.fair (Told terms) terms.Allowed (handler env request)
      (terms.Promises request) := by
  have plain (program : Handler Response) (request : Request) (honest : Honest terms program)
      (other : ∀ body, request ≠ .refreshTokens body) :
      Pledges terms.fair (Told terms) terms.Allowed (some <$> program)
        (terms.Promises request) := by
    refine pledges_map _ (pledges_mono honest ?_)
    rintro (error | response) holds
    · trivial
    · exact ⟨holds, fun body same => absurd same (other body)⟩
  cases request with
  | requestOTP body => exact plain _ _ (otp_honest body) nofun
  | phoneSignup body => exact plain _ _ (sign_up_honest body) nofun
  | phoneSignIn body => exact plain _ _ (sign_in_honest body) nofun
  | oauthSignIn provider body => exact plain _ _ (oauth_sign_in_honest env provider body) nofun
  | oauthSignup body => exact plain _ _ (oauth_sign_up_honest env body) nofun
  | logout body => exact plain _ _ (logout_honest body) nofun
  | refreshTokens body =>
      refine pledges_map _ (pledges_mono (refresh_honest body (owns body rfl)) ?_)
      rintro (error | response) holds
      · trivial
      · refine ⟨holds.1, fun other same limited => ?_⟩
        cases same
        exact holds.2 limited
  | background job => exact job_honest job

end Handlers

/-! The tasks of the server, each under the terms of its place. -/
section Runs
variable {kept : String → Time → Prop} (terms : Nat → Terms kept) (env : Env)

/-- Background jobs may run at any time. -/
def fairAt (index : Nat) (request : Request) (tick : Tick) : Prop :=
  external request = true → (terms index).fair tick

structure Upheld (state : Live.State) : Prop where
  coherent : (server env).Coherent state
  bound : Bound (fairAt terms) (fun index => Told (terms index))
    (fun index _ => (terms index).Allowed) (fun index request => (terms index).Promises request)
    state
  rows : ∀ row ∈ state.world.tokens.rows, kept row.token row.lastUsedAt

/-- The ticks of an action meet the terms of the tasks they reach. -/
structure OnTerms (state : Live.State) (action : Live.Action) : Prop where
  arrives : ∀ request tick, action = .arrive request tick → (terms state.tasks.length).fair tick
  answers : ∀ entry ∈ (server env).upcoming state action, external entry.request = true →
    (terms entry.task).fair entry.tick

/-- The terms say nothing of what is rotated or stored. -/
def Lenient : Prop := ∀ index token, (terms index).spent token ∧ (terms index).stored token

variable {terms env}

theorem handler_pledges (lenient : Lenient terms) (index : Nat) (request : Request) :
    Pledges (fairAt terms index request) (Told (terms index)) (terms index).Allowed
      ((server env).program request) ((terms index).Promises request) := by
  have owns : ∀ body, request = .refreshTokens body → (terms index).spent body.refreshToken :=
    fun body _ => (lenient index body.refreshToken).1
  cases request with
  | background job => exact job_honest job
  | requestOTP body => exact pledges_fair (fun tick fair => fair rfl) (handler_honest env _ owns)
  | phoneSignup body => exact pledges_fair (fun tick fair => fair rfl) (handler_honest env _ owns)
  | phoneSignIn body => exact pledges_fair (fun tick fair => fair rfl) (handler_honest env _ owns)
  | oauthSignIn provider body =>
      exact pledges_fair (fun tick fair => fair rfl) (handler_honest env _ owns)
  | oauthSignup body => exact pledges_fair (fun tick fair => fair rfl) (handler_honest env _ owns)
  | refreshTokens body => exact pledges_fair (fun tick fair => fair rfl) (handler_honest env _ owns)
  | logout body => exact pledges_fair (fun tick fair => fair rfl) (handler_honest env _ owns)

theorem background_quiet (request : Request) :
    Avoids (fun statement => external request = false ∧ UsesDraw statement)
      (handler env request) := by
  cases request with
  | background job =>
      exact avoids_map _ (avoids_mono (fun statement draws => draws.2) _ (job_quiet job))
  | _ => exact avoids_nothing (fun statement draws => by cases draws.1) _

theorem perform_told (lenient : Lenient terms) (index : Nat) (tick : Tick) (statement : Statement)
    (db : Db) (rows : ∀ row ∈ db.tokens.rows, kept row.token row.lastUsedAt) :
    Told (terms index) statement (perform tick statement db).1 := by
  cases statement with
  | selectToken token =>
      cases answered : (perform tick (.selectToken token) db).1 with
      | error error => trivial
      | ok found =>
          cases found with
          | none => trivial
          | some row =>
              obtain ⟨-, found⟩ := select_token_ok tick token db _ answered
              obtain ⟨member, rfl⟩ := (db.find_token_mem token row).mp found.symm
              exact rows row member
  | insertToken id authId token expiresAt deviceInfo =>
      cases (perform tick (.insertToken id authId token expiresAt deviceInfo) db).1 with
      | error error => trivial
      | ok answer => exact (lenient index token).2
  | rotateToken token newToken expiresAt lastUsedAt =>
      cases (perform tick (.rotateToken token newToken expiresAt lastUsedAt) db).1 with
      | error error => trivial
      | ok answer => exact (lenient index newToken).2
  | _ => trivial

theorem rows_written (index : Nat) (tick : Tick) (statement : Statement) (db : Db)
    (allowed : (terms index).Allowed statement)
    (fair : UsesDraw statement → (terms index).fair tick)
    (rows : ∀ row ∈ db.tokens.rows, kept row.token row.lastUsedAt) :
    ∀ row ∈ (perform tick statement db).2.tokens.rows, kept row.token row.lastUsedAt := by
  rcases perform_tokens tick statement db with same | same
  · rw [same]
    exact rows
  rw [same]
  cases statement with
  | insertToken id authId token expiresAt deviceInfo =>
      intro row member
      rcases List.mem_append.mp member with old | new
      · exact rows row old
      · obtain rfl := List.mem_singleton.mp new
        exact (terms index).inserts tick token (fair trivial) allowed
  | rotateToken token newToken expiresAt lastUsedAt =>
      intro row member
      obtain ⟨old, present, rfl⟩ := List.mem_map.mp member
      unfold Table.rewrite
      split
      · exact (terms index).rotates newToken lastUsedAt allowed.2.1 allowed.2.2
      · exact rows old present
  | revokeToken token revokedAt =>
      intro row member
      obtain ⟨old, present, rfl⟩ := List.mem_map.mp member
      unfold Table.rewrite
      split
      · exact rows old present
      · exact rows old present
  | deleteAuth id => exact fun row member => rows row (List.mem_filter.mp member).1
  | _ => exact rows

theorem upheld_start (db : Db) (rows : ∀ row ∈ db.tokens.rows, kept row.token row.lastUsedAt) :
    Upheld terms env (start db) := by
  refine ⟨(server env).coherent_start db, ?_, rows⟩
  intro index task found
  simp [start] at found

theorem upheld_step (lenient : Lenient terms) (state : Live.State) (action : Live.Action)
    (upheld : Upheld terms env state) (step : OnTerms terms env state action) :
    Upheld terms env ((server env).step state action) := by
  have fair : FairStep (server env) (fairAt terms) (fun index => Told (terms index)) state
    action := by
    constructor
    · exact fun request tick same _ => step.arrives request tick same
    · intro entry comes
      obtain ⟨task, resume, present, awaits, before, -⟩ :=
        (server env).upcoming_step state action entry comes
      exact ⟨step.answers entry comes, perform_told lenient _ _ _ _ (before ▸ upheld.rows)⟩
    · intro entry comes request spawns index counts
      cases query : entry.query with
      | waitUntil job =>
          rw [query] at spawns
          obtain rfl := List.mem_singleton.mp spawns
          cases counts
      | _ => rw [query] at spawns; cases spawns
  refine ⟨Machine.coherent_step state action upheld.coherent,
    bound_step (handler_pledges lenient) state action upheld.bound fair, ?_⟩
  have transition := (server env).step_transition state action
  generalize (server env).step state action = after at transition ⊢
  cases transition with
  | idle => exact upheld.rows
  | arrived request tick => exact upheld.rows
  | answered index tick task query resume present awaits ready =>
      have comes := (server env).upcoming_answered state index tick task query resume present
        awaits ready
      have awaiting : task.residual.awaiting = some query := by rw [awaits]; rfl
      have allowed := bound_asks state upheld.bound index task query present awaiting
      have outside := Machine.awaits_outside
        (fun request statement => external request = false ∧ UsesDraw statement)
        background_quiet state upheld.coherent index task query present awaiting
      -- Background jobs draw nothing, so whatever is drawn is drawn on terms.
      refine rows_written index tick query state.world allowed (fun draws => ?_) upheld.rows
      refine step.answers _ comes ?_
      cases counted : external task.request with
      | true => rfl
      | false => exact absurd ⟨counted, draws⟩ outside

theorem upheld_replied (state : Live.State) (upheld : Upheld terms env state) (index : Nat)
    (request : Request) (response : Response)
    (replied : Live.Replied state index request response) :
    (terms index).Promises request (.ok (some response)) := by
  obtain ⟨task, present, rfl, done⟩ := replied
  exact bound_done state upheld.bound index task _ present done

def recorded (spent stored : String → Prop) : Terms fun _ _ => True where
  fair _ := True
  spent := spent
  stored := stored
  token _ := True
  code _ := True
  access _ := True
  time _ := True
  draws_token _ _ := trivial
  draws_code _ _ := trivial
  clock _ _ := trivial
  signs _ _ _ := trivial
  inserts _ _ _ _ := trivial
  rotates _ _ _ _ := trivial

end Runs

end TopInspect.ServerTerms
