import TopInspect.AccountContract
import TopInspect.AuthExecution
import TopInspect.SessionRaces
import TopInspect.TickContracts

/-! Where the sessions come from, however the requests interleave and whatever fails. Each token
that is answered goes back, rotation by rotation, to a request that has shown an account to be
its own. The evidence is in the trace: statements that have been carried out, each before what
rests on it. The rows keep to their shapes on the way. -/
namespace TopInspect.SessionOrigins

open Resumption AuthSchema AuthStatements AuthHandlers AUTH_CONFIG TickContracts
open AccountContract (Opens)
open AuthExecution (otp_error_plain conflict_plain)
open OtpVerification (judge conclude dropRow verify_judges judge_right judge_wrong)
open RowTable (Table)
open Interleaving hiding Entry State Action Task
open Live

/-! The evidence of a trace. -/
section Evidence
variable (env : Env) (trace : List Entry)

/-- The entry's statement has been carried out, whether or not its answer came back. -/
def Done (entry : Entry) : Prop := Carried entry.tick entry.query entry.before

def Coded (phone code : String) : Prop :=
  ∃ entry ∈ trace, Done entry ∧ ∃ body row, entry.request = .requestOTP body ∧ body.phone = phone ∧
    entry.query = .upsertOtp row ∧ row.phone = phone ∧ row.code = code

def Opened (provider : Provider) (identifier account : String) : Prop :=
  ∃ entry ∈ trace, Done entry ∧ ∃ row, entry.query = .insertAuth row ∧ Opens entry.request row ∧
    row.provider = provider ∧ row.identifier = identifier ∧ row.id = account

def Did (index : Nat) (statement : Statement) : Prop :=
  ∃ entry ∈ trace, entry.task = index ∧ entry.query = statement ∧ Done entry

/-- The statement that stores the profile of the account has failed. -/
def Unprofiled (index : Nat) (account : String) : Prop :=
  ∃ entry ∈ trace, ∃ user error, entry.task = index ∧ entry.query = .insertUser user ∧
    user.id = account ∧ (perform entry.tick (.insertUser user) entry.before).1 = .error error

def profileOf : Request → Option (String × Gender × Int)
  | .phoneSignup body => some (body.name, body.gender, body.birthYear)
  | .oauthSignup body => some (body.name, body.gender, body.birthYear)
  | _ => none

/-- The task of a sign-up has inserted the account that the profile is for. -/
def Brings (index : Nat) (request : Request) (user : User) : Prop :=
  ∃ row, Did trace index (.insertAuth row) ∧ Opens request row ∧ row.id = user.id ∧
    profileOf request = some (user.name, user.gender, user.birthYear)

/-- What a task of the request hands to the background is its own: the code it has stored, the
account it has inserted and could not finish, the address it has brought. -/
def Backed (index : Nat) (request : Request) : Job → Prop
  | .sendOTP phone otp =>
      ∃ row, Did trace index (.upsertOtp row) ∧ row.phone = phone ∧ row.code = otp
  | .deleteAuth id => ∃ row, Did trace index (.insertAuth row) ∧ Opens request row ∧ row.id = id ∧
      Unprofiled trace index id
  | .sendEmail recipient _ _ => ∃ row, Did trace index (.insertAuth row) ∧ Opens request row ∧
      row.email = some recipient

/-- The request has shown that the account is its own. A sign-up at a provider shows nothing. -/
def Vouched : Request → String → Prop
  | .phoneSignup body, account =>
      Coded trace body.phone body.code ∧ Opened trace .phone body.phone account
  | .phoneSignIn body, account =>
      Coded trace body.phone body.code ∧ Opened trace .phone body.phone account
  | .oauthSignIn provider body, account =>
      ∃ present claims sub,
        verifyOAuthJWT env present body.idToken (OAUTH_VERIFIER_CONFIGS provider) = .ok claims ∧
          claims.sub = some sub ∧ Opened trace provider.toProvider sub account
  | .oauthSignup body, account => Opened trace body.provider.toProvider body.providerId account
  | _, _ => False

/-- The token is one of a session of the account: the trace holds its insertion, after what
vouches for it, or a rotation to it, after what makes the old token one. -/
inductive Session : List Entry → String → String → Prop where
  | opened (later earlier : List Entry) (entry : Entry) (id account token : String)
      (expiresAt : Time) (deviceInfo : Option DeviceInfo)
      (asked : entry.query = .insertToken id account token expiresAt deviceInfo) (done : Done entry)
      (vouched : Vouched env earlier entry.request account) :
      Session (later ++ entry :: earlier) token account
  | rotated (later earlier : List Entry) (entry : Entry) (body : RefreshTokensRequest)
      (newToken account : String) (expiresAt lastUsedAt : Time)
      (request : entry.request = .refreshTokens body)
      (asked : entry.query = .rotateToken body.refreshToken newToken expiresAt lastUsedAt)
      (done : Done entry) (before : Session earlier body.refreshToken account) :
      Session (later ++ entry :: earlier) newToken account

end Evidence

/-! Evidence stays as the trace grows. -/
section Growth
variable {env : Env} {short long : List Entry} (grows : short <:+ long)
include grows

theorem coded_grows (phone code : String) (coded : Coded short phone code) :
    Coded long phone code := by
  obtain ⟨entry, member, rest⟩ := coded
  exact ⟨entry, grows.mem member, rest⟩

theorem opened_grows (provider : Provider) (identifier account : String)
    (opened : Opened short provider identifier account) :
    Opened long provider identifier account := by
  obtain ⟨entry, member, rest⟩ := opened
  exact ⟨entry, grows.mem member, rest⟩

theorem did_grows (index : Nat) (statement : Statement) (did : Did short index statement) :
    Did long index statement := by
  obtain ⟨entry, member, rest⟩ := did
  exact ⟨entry, grows.mem member, rest⟩

theorem brings_grows (index : Nat) (request : Request) (user : User)
    (brings : Brings short index request user) :
    Brings long index request user := by
  obtain ⟨row, did, rest⟩ := brings
  exact ⟨row, did_grows grows _ _ did, rest⟩

theorem session_grows (token account : String) (session : Session env short token account) :
    Session env long token account := by
  obtain ⟨more, rfl⟩ := grows
  cases session with
  | opened later earlier entry id account token expiresAt deviceInfo asked done vouched =>
      rw [← List.append_assoc]
      exact .opened _ earlier entry id _ _ expiresAt deviceInfo asked done vouched
  | rotated later earlier entry body newToken account expiresAt lastUsedAt request asked
      done before =>
      rw [← List.append_assoc]
      exact .rotated _ earlier entry body _ _ expiresAt lastUsedAt request asked done before

end Growth

structure Draws where
  fair : Tick → Prop
  code : String → Prop
  token : String → Prop
  codes : ∀ tick, fair tick → code tick.otpCode
  tokens : ∀ tick, fair tick → token tick.refreshToken

section Contract
variable (env : Env) (trace : List Entry) (draws : Draws)

structure Shaped (row : Otp) : Prop where
  code : draws.code row.code
  attempts : row.attempts ≤ OTP_MAX_ATTEMPTS
  expires : row.expiresAt = row.createdAt + minutes OTP_EXPIRY_MINUTES

def Told (index : Nat) : (statement : Statement) → Except DbError statement.Answer → Prop
  | .selectOtp phone, .ok (some row) => Coded trace phone row.code
  | .selectAuth provider identifier, .ok (some row) => Opened trace provider identifier row.id
  | .upsertOtp row, .ok _ => Did trace index (.upsertOtp row)
  | .insertUser user, .error _ => Unprofiled trace index user.id
  | .insertAuth row, .ok stored => stored.id = row.id ∧
      Opened trace row.provider row.identifier row.id ∧ Did trace index (.insertAuth row)
  | .insertToken _ account token _ _, .ok _ => Session env trace token account
  | _, _ => True

def Asks (index : Nat) (request : Request) : Statement → Prop
  | .upsertOtp row =>
      (∃ body, request = .requestOTP body ∧ body.phone = row.phone) ∧ Shaped draws row
  | .updateOtpAttempts _ attempts => attempts ≤ OTP_MAX_ATTEMPTS
  | .insertAuth row => Opens request row
  | .insertUser user => Brings trace index request user
  | .waitUntil job => Backed trace index request job
  | .insertToken _ account token _ _ => Vouched env trace request account ∧ draws.token token
  | .rotateToken token newToken _ _ =>
      (∃ body, request = .refreshTokens body ∧ body.refreshToken = token) ∧ draws.token newToken
  | _ => True

/-- The tokens that a request is answered with. What those of a refresh go back to is told by its
own history. -/
structure Issued (request : Request) (access : AccessToken) (refresh : String) : Prop where
  drawn : draws.token refresh
  opened : (∃ body, request = .refreshTokens body) ∨
    Session env trace refresh access.sub ∧ Vouched env trace request access.sub

def Answers (request : Request) (response : Response) : Prop :=
  ∀ access refresh, response.body = .tokens access refresh →
    Issued env trace draws request access refresh

def Promises (request : Request) : Except DbError (Option Response) → Prop
  | .ok (some response) => Answers env trace draws request response
  | _ => True

def Replies (request : Request) : Except DbError Response → Prop
  | .ok response => Answers env trace draws request response
  | .error _ => True

end Contract

/-! The handlers under the contract. -/
section Handlers
variable {env : Env} {trace : List Entry} {draws : Draws} {index : Nat} {request : Request}

abbrev Meets (env : Env) (trace : List Entry) (draws : Draws) (index : Nat) (request : Request)
    {α : Type} (program : Handler α)
    (post : Except DbError α → Prop) : Prop :=
  Pledges draws.fair (Told env trace index) (Asks env trace draws index request) program post

theorem answers_plain (response : Response)
    (plain : ∀ access refresh, response.body ≠ .tokens access refresh) :
    Answers env trace draws request response :=
  fun access refresh same => absurd same (plain access refresh)

theorem meets_plain (response : Response)
    (plain : ∀ access refresh, response.body ≠ .tokens access refresh) :
    Meets env trace draws index request (pure response) (Replies env trace draws request) :=
  pledges_pure response (answers_plain response plain)

theorem meets_call {α : Type} (statement : Statement) (next : statement.Answer → Handler α)
    {post : Except DbError α → Prop} (asked : Asks env trace draws index request statement)
    (thrown : ∀ error, post (.error error))
    (second : ∀ answer, Told env trace index statement (.ok answer) →
      Meets env trace draws index request (next answer) post) :
    Meets env trace draws index request (call statement >>= next) post :=
  pledges_after (call statement) next (pledges_call statement asked fun _ told => told)
    thrown second

theorem meets_read {α β : Type} (read : Tick → α) (next : α → Handler β)
    {post : Except DbError β → Prop} (second : ∀ tick, draws.fair tick →
      Meets env trace draws index request (next (read tick)) post) :
    Meets env trace draws index request ((fun tick => .done (read tick)) >>= next) post :=
  fun tick fair => second tick fair tick fair

theorem drop_row_meets (phone : String) (result : OtpVerificationResult)
    {post : Except DbError OtpVerificationResult → Prop} (ends : post (.ok result))
    (thrown : ∀ error, post (.error error)) :
    Meets env trace draws index request (dropRow phone result) post :=
  meets_call (.deleteOtp phone) _ trivial thrown fun _ _ => pledges_pure result ends

theorem verify_meets (phone code : String) :
    Meets env trace draws index request (verifyOTPCode phone code) fun result =>
      result = .ok .success → Coded trace phone code := by
  rw [verify_judges]
  refine meets_call (.selectOtp phone) _ trivial nofun fun stored told => ?_
  refine meets_read Tick.now _ fun tick _ => ?_
  cases verdict : judge code tick.now stored with
  | missing => exact pledges_pure _ nofun
  | expired => exact drop_row_meets phone _ nofun nofun
  | exhausted => exact drop_row_meets phone _ nofun nofun
  | right =>
      obtain ⟨otp, rfl, -, -, rfl⟩ := (judge_right code tick.now stored).mp verdict
      exact drop_row_meets phone _ (fun _ => told) nofun
  | wrong newAttempts =>
      obtain ⟨otp, -, -, below, -, rfl⟩ := (judge_wrong code tick.now stored newAttempts).mp verdict
      refine meets_call (.updateOtpAttempts phone (otp.attempts + 1)) _ below nofun
        fun count _ => ?_
      exact pledges_ite _ _ _ (drop_row_meets phone _ nofun nofun) (pledges_pure _ nofun)

def access (account : String) (tick : Tick) : AccessToken where
  sub := account
  iat := tick.now / 1000
  exp := tick.now / 1000 + ACCESS_TOKEN_EXPIRY_MINUTES * 60

theorem issue_meets (account : String) (deviceInfo : Option DeviceInfo)
    (vouched : Vouched env trace request account) :
    Meets env trace draws index request (issueTokens account deviceInfo) fun result =>
      ∀ issued, result = .ok issued → Issued env trace draws request issued.1 issued.2 := by
  refine meets_read (access account) _ fun tick _ => ?_
  refine meets_read Tick.refreshToken _ fun drawn fair => ?_
  refine meets_read (fun tick => tick.now + days REFRESH_TOKEN_EXPIRY_DAYS) _ fun _ _ => ?_
  refine meets_read Tick.id _ fun _ _ => ?_
  have genuine := draws.tokens drawn fair
  refine meets_call (.insertToken _ account drawn.refreshToken _ deviceInfo) _ ⟨vouched, genuine⟩
    nofun fun _ told => ?_
  refine pledges_pure _ fun issued same => ?_
  cases same
  exact ⟨genuine, Or.inr ⟨told, vouched⟩⟩

theorem opens_meets (account : String) (deviceInfo : Option DeviceInfo)
    (next : AccessToken × String → Handler Response) (vouched : Vouched env trace request account)
    (closes : ∀ issued, Issued env trace draws request issued.1 issued.2 →
      Meets env trace draws index request (next issued) (Replies env trace draws request)) :
    Meets env trace draws index request (issueTokens account deviceInfo >>= next)
      (Replies env trace draws request) :=
  pledges_after _ _ (issue_meets account deviceInfo vouched) (fun _ => trivial)
    fun issued holds => closes issued (holds issued rfl)

theorem answers_issued (status : Nat) (issued : AccessToken × String)
    (holds : Issued env trace draws request issued.1 issued.2) :
    Answers env trace draws request { status, body := .tokens issued.1 issued.2 } := by
  intro access refresh same
  cases same
  exact holds

theorem profile_meets (row : Auth) (name : String) (gender : Gender) (birthYear : Int)
    (brings : Brings trace index request { id := row.id, name, gender, birthYear }) :
    Meets env trace draws index request (createProfile row name gender birthYear)
      fun _ => True := by
  refine pledges_catch _ _ (pledges_call _ brings fun result told => ?_)
  cases result with
  | ok value => trivial
  | error error =>
      obtain ⟨account, inserted, opens, id, -⟩ := brings
      exact meets_call (.waitUntil (.deleteAuth row.id)) _ ⟨account, inserted, opens, id, told⟩
        (fun _ => trivial)
        fun _ _ => pledges_throw error trivial

theorem account_meets (row : Auth) (name : String) (gender : Gender) (birthYear : Int)
    (deviceInfo : Option DeviceInfo) (next : AccessToken × String → Handler Response)
    (own : Opens request row) (profile : profileOf request = some (name, gender, birthYear))
    (vouched : Opened trace row.provider row.identifier row.id → Vouched env trace request row.id)
    (closes : Did trace index (.insertAuth row) → ∀ issued,
      Issued env trace draws request issued.1 issued.2 →
      Meets env trace draws index request (next issued) (Replies env trace draws request)) :
    Meets env trace draws index request (insertAuth row >>= fun newAuth =>
      createProfile newAuth name gender birthYear >>= fun _ =>
      issueTokens newAuth.id deviceInfo >>= next)
      (Replies env trace draws request) := by
  refine meets_call (.insertAuth row) _ own (fun _ => trivial) fun newAuth told => ?_
  obtain ⟨stored, opened, inserted⟩ := told
  refine pledges_after _ _
    (profile_meets newAuth name gender birthYear ⟨row, inserted, own, stored.symm, profile⟩)
    (fun _ => trivial) fun _ _ => ?_
  exact opens_meets newAuth.id deviceInfo next (stored ▸ vouched opened) (closes inserted)

theorem verified_meets (phone code : String) (next : Handler Response)
    (second : Coded trace phone code →
      Meets env trace draws index request next (Replies env trace draws request)) :
    Meets env trace draws index request (verifyOTPCode phone code >>= fun result =>
      match result with
      | .failure errorCode error => pure (handleOtpError errorCode error)
      | .success => next) (Replies env trace draws request) := by
  refine pledges_after _ _ (verify_meets phone code) (fun _ => trivial) fun result coded => ?_
  cases result with
  | failure errorCode error => exact meets_plain _ (otp_error_plain errorCode error)
  | success => exact second (coded rfl)

theorem sign_up_meets (body : PhoneSignupRequest) :
    Meets env trace draws index (.phoneSignup body) (phoneSignup body)
      (Replies env trace draws (.phoneSignup body)) := by
  refine verified_meets body.phone body.code _ fun coded => ?_
  refine meets_call (.selectAuth .phone body.phone) _ trivial (fun _ => trivial) fun found _ => ?_
  cases found with
  | some existingAuth =>
      refine meets_call (.selectUser existingAuth.id) _ trivial (fun _ => trivial)
        fun profile _ => ?_
      cases profile with
      | some user => exact meets_plain _ nofun
      | none => exact meets_plain _ nofun
  | none =>
      refine meets_read Tick.id _ fun tick _ => ?_
      refine account_meets _ _ _ _ _ _ (Opens.phone body tick.id) rfl
        (fun opened => ⟨coded, opened⟩) fun _ issued holds => ?_
      exact pledges_pure _ (answers_issued 201 issued holds)

theorem sign_in_meets (body : PhoneSignInRequest) :
    Meets env trace draws index (.phoneSignIn body) (phoneSignIn body)
      (Replies env trace draws (.phoneSignIn body)) := by
  refine verified_meets body.phone body.code _ fun coded => ?_
  refine meets_call (.selectAuth .phone body.phone) _ trivial (fun _ => trivial)
    fun found told => ?_
  cases found with
  | none => exact meets_plain _ nofun
  | some existingAuth =>
      refine meets_call (.selectUser existingAuth.id) _ trivial (fun _ => trivial)
        fun profile _ => ?_
      cases profile with
      | none => exact meets_plain _ nofun
      | some user =>
          refine opens_meets _ _ _ ⟨coded, told⟩ fun issued holds => ?_
          exact pledges_pure _ (answers_issued 200 issued holds)

theorem fill_meets (existingAuth : Auth) (email : String) :
    Meets env trace draws index request (fillEmail existingAuth email) fun _ => True := by
  refine pledges_ite _ _ _ (pledges_pure _ trivial) ?_
  exact meets_call (.updateAuthEmail existingAuth.id email) _ trivial (fun _ => trivial) fun _ _ =>
    pledges_pure _ trivial

theorem session_meets (existingAuth : Auth) (email : String) (deviceInfo : Option DeviceInfo)
    (vouched : Vouched env trace request existingAuth.id) :
    Meets env trace draws index request (openSession existingAuth email deviceInfo)
      (Replies env trace draws request) := by
  refine meets_call (.selectUser existingAuth.id) _ trivial (fun _ => trivial) fun profile _ => ?_
  cases profile with
  | none => exact meets_plain _ nofun
  | some user =>
      refine pledges_after _ _ (fill_meets existingAuth email) (fun _ => trivial) fun _ _ => ?_
      refine opens_meets _ _ _ vouched fun issued holds => ?_
      exact pledges_pure _ (answers_issued 200 issued holds)

theorem oauth_sign_in_meets (provider : OAuthProvider) (body : OAuthSignInRequest) :
    Meets env trace draws index (.oauthSignIn provider body)
      (createOAuthSignInHandler env provider body)
      (Replies env trace draws (.oauthSignIn provider body)) := by
  refine meets_read Tick.now _ fun tick _ => ?_
  cases verified : verifyOAuthJWT env tick.now body.idToken (OAUTH_VERIFIER_CONFIGS provider) with
  | error thrown => exact meets_plain _ nofun
  | ok claims =>
      cases email : truthy claims.email with
      | none =>
          simp only [email]
          exact meets_plain _ nofun
      | some address =>
          cases sub : truthy claims.sub with
          | none =>
              simp only [email, sub]
              exact meets_plain _ nofun
          | some providerId =>
              simp only [email, sub]
              refine meets_call (.selectAuth provider.toProvider providerId) _ trivial
                (fun _ => trivial)
                fun found told => ?_
              cases found with
              | some existingAuth =>
                  exact session_meets _ _ _ ⟨tick.now, claims, providerId, verified,
                    truthy_some _ _ sub, told⟩
              | none =>
                  refine meets_call (.selectAuthByEmail address) _ trivial (fun _ => trivial)
                    fun holder _ => ?_
                  cases refused : emailConflict provider holder with
                  | some refusal =>
                      exact meets_plain _ (conflict_plain provider holder refusal refused)
                  | none => exact meets_plain _ nofun

theorem oauth_sign_up_meets (body : OAuthSignupRequest) :
    Meets env trace draws index (.oauthSignup body) (oauthSignup env body)
      (Replies env trace draws (.oauthSignup body)) := by
  refine meets_call (.selectAuth body.provider.toProvider body.providerId) _ trivial
    (fun _ => trivial)
    fun found told => ?_
  cases found with
  | some existingAuth => exact session_meets _ _ _ told
  | none =>
      refine meets_call (.selectAuthByEmail body.email) _ trivial (fun _ => trivial)
        fun holder _ => ?_
      cases refused : emailConflict body.provider holder with
      | some refusal => exact meets_plain _ (conflict_plain body.provider holder refusal refused)
      | none =>
          refine meets_read Tick.id _ fun tick _ => ?_
          refine account_meets _ _ _ _ _ _ (Opens.oauth body tick.id) rfl (fun opened => opened)
            fun inserted issued holds => ?_
          refine meets_call (.waitUntil (welcome env body.name body.email)) _
            ⟨_, inserted, Opens.oauth body tick.id, rfl⟩ (fun _ => trivial) fun _ _ => ?_
          exact pledges_pure _ (answers_issued 201 issued holds)

theorem exists_meets (existingAuth : Option Auth) :
    Meets env trace draws index request (profileExists existingAuth) fun _ => True := by
  cases existingAuth with
  | none => exact pledges_pure _ trivial
  | some row => exact meets_call (.selectUser row.id) _ trivial (fun _ => trivial) fun _ _ =>
      pledges_pure _ trivial

theorem otp_meets (body : OtpRequest) :
    Meets env trace draws index (.requestOTP body) (requestOTP body)
      (Replies env trace draws (.requestOTP body)) := by
  refine meets_call (.selectOtp body.phone) _ trivial (fun _ => trivial) fun recentOTP _ => ?_
  refine meets_read (fun tick => tick.now - minutes OTP_COOLDOWN_MINUTES) _ fun _ _ => ?_
  refine pledges_ite _ _ _ (meets_plain _ nofun) ?_
  refine meets_call (.selectAuth .phone body.phone) _ trivial (fun _ => trivial)
    fun existingAuth _ => ?_
  refine pledges_after _ _ (exists_meets existingAuth) (fun _ => trivial) fun userExists _ => ?_
  refine pledges_ite _ _ _ (meets_plain _ nofun) ?_
  refine pledges_ite _ _ _ (meets_plain _ nofun) ?_
  intro tick fair
  refine pledges_catch _ _ (pledges_bind _ _ (pledges_call _ ?_ fun result told => ?_)) tick fair
  · exact ⟨⟨body, rfl, rfl⟩, draws.codes tick fair, Nat.zero_le _, rfl⟩
  · cases result with
    | error error => exact meets_plain _ nofun
    | ok stored =>
        refine pledges_bind _ _ (pledges_call _ ⟨_, told, rfl, rfl⟩ fun result _ => ?_)
        cases result with
        | error error => exact meets_plain _ nofun
        | ok handed => exact fun _ _ => answers_plain _ nofun

theorem logout_meets (body : LogoutRequest) :
    Meets env trace draws index (.logout body) (logout body)
      (Replies env trace draws (.logout body)) := by
  refine meets_call (.selectToken body.refreshToken) _ trivial (fun _ => trivial) fun found _ => ?_
  cases found with
  | none => exact meets_plain _ nofun
  | some token =>
      refine pledges_ite _ _ _ (meets_plain _ nofun) ?_
      refine meets_read Tick.now _ fun tick _ => ?_
      exact meets_call (.revokeToken body.refreshToken tick.now) _ trivial (fun _ => trivial)
        fun _ _ => meets_plain _ nofun

theorem refresh_meets (body : RefreshTokensRequest) :
    Meets env trace draws index (.refreshTokens body) (refreshTokens body)
      (Replies env trace draws (.refreshTokens body)) := by
  refine meets_call (.selectToken body.refreshToken) _ trivial (fun _ => trivial) fun found _ => ?_
  cases found with
  | none => exact meets_plain _ nofun
  | some token =>
      refine meets_read Tick.now _ fun _ _ => ?_
      refine pledges_ite _ _ _ (meets_plain _ nofun) ?_
      refine meets_call (.selectAuthById token.authId) _ trivial (fun _ => trivial)
        fun owner _ => ?_
      cases owner with
      | none => exact meets_plain _ nofun
      | some auth =>
          refine meets_read
            (fun tick => decide (tick.now - token.lastUsedAt < minutes REFRESH_COOLDOWN_MINUTES)) _
            fun _ _ => ?_
          refine pledges_ite _ _ _ (meets_plain _ nofun) ?_
          refine meets_read Tick.refreshToken _ fun drawn fair => ?_
          refine meets_read (fun tick => tick.now + days REFRESH_TOKEN_EXPIRY_DAYS) _ fun _ _ => ?_
          refine meets_read Tick.now _ fun _ _ => ?_
          have genuine := draws.tokens drawn fair
          refine meets_call (.rotateToken body.refreshToken drawn.refreshToken _ _) _
            ⟨⟨body, rfl, rfl⟩, genuine⟩
            (fun _ => trivial) fun count _ => ?_
          refine meets_read (access token.authId) _ fun tick _ => pledges_pure _ ?_
          exact answers_issued 200 (access token.authId tick, drawn.refreshToken)
            ⟨genuine, Or.inl ⟨body, rfl⟩⟩

theorem job_meets (job : Job) : Meets env trace draws index request (runJob job) fun _ => True := by
  cases job with
  | deleteAuth id =>
      exact meets_call (.deleteAuth id) _ trivial (fun _ => trivial) fun _ _ =>
        pledges_pure _ trivial
  | sendOTP phone otp => exact pledges_pure _ trivial
  | sendEmail recipient subject template => exact pledges_pure _ trivial

theorem handler_meets (env : Env) (trace : List Entry) (draws : Draws) (index : Nat)
    (request : Request) :
    Meets env trace draws index request (handler env request)
      (Promises env trace draws request) := by
  have plain (program : Handler Response)
    (meets : Meets env trace draws index request program (Replies env trace draws request)) :
      Meets env trace draws index request (some <$> program)
        (Promises env trace draws request) := by
    refine pledges_map _ (pledges_mono meets ?_)
    rintro (error | response) holds
    · trivial
    · exact holds
  cases request with
  | requestOTP body => exact plain _ (otp_meets body)
  | phoneSignup body => exact plain _ (sign_up_meets body)
  | phoneSignIn body => exact plain _ (sign_in_meets body)
  | oauthSignIn provider body => exact plain _ (oauth_sign_in_meets provider body)
  | oauthSignup body => exact plain _ (oauth_sign_up_meets body)
  | refreshTokens body => exact plain _ (refresh_meets body)
  | logout body => exact plain _ (logout_meets body)
  | background job =>
      refine pledges_map _ (pledges_mono (job_meets job) ?_)
      rintro (error | value) -
      · trivial
      · trivial

end Handlers

/-! What the rows of the database and the answers to the tasks owe to the trace. -/
section Rows
variable (env : Env) (trace : List Entry) (draws : Draws)

def Brought (user : User) : Prop :=
  ∃ entry ∈ trace, Done entry ∧ entry.query = .insertUser user ∧
    Brings trace entry.task entry.request user

structure Rows (db : Db) : Prop where
  otps : ∀ phone otp, db.findOtp phone = some otp → Coded trace phone otp.code ∧ Shaped draws otp
  accounts : ∀ row ∈ db.auth.rows, Opened trace row.provider row.identifier row.id
  profiles : ∀ user ∈ db.users.rows, Brought trace user
  sessions : ∀ row ∈ db.tokens.rows, Session env trace row.token row.authId ∧ draws.token row.token

variable {env trace draws} {entry : Entry}

theorem rows_grow {long : List Entry} (grows : trace <:+ long) (db : Db)
    (rows : Rows env trace draws db) :
    Rows env long draws db where
  otps := fun phone otp found =>
    ⟨coded_grows grows phone otp.code (rows.otps phone otp found).1, (rows.otps phone otp found).2⟩
  accounts := fun row present => opened_grows grows _ _ _ (rows.accounts row present)
  profiles := by
    intro user present
    obtain ⟨entry, member, done, asked, brings⟩ := rows.profiles user present
    exact ⟨entry, grows.mem member, done, asked, brings_grows grows _ _ user brings⟩
  sessions := fun row present =>
    ⟨session_grows grows _ _ (rows.sessions row present).1, (rows.sessions row present).2⟩

/-- An answer tells what the rows and the entry itself bear out, as long as the trace has them. -/
theorem told_rows {long : List Entry} (grows : entry :: trace <:+ long)
    (asked : Asks env trace draws entry.task entry.request entry.query)
    (rows : Rows env trace draws entry.before) :
    Told env long entry.task entry.query (perform entry.tick entry.query entry.before).1 := by
  have member : entry ∈ long := grows.mem List.mem_cons_self
  have known := rows_grow ((List.suffix_cons _ _).trans grows) entry.before rows
  obtain ⟨⟨query, tick, before⟩, task, request, born⟩ := entry
  simp only at asked known ⊢
  cases answered : (perform tick query before).1 with
  | error error =>
      -- Only a profile that could not be stored leaves something to tell: its
      -- row may be cleaned up.
      cases query with
      | insertUser user => exact ⟨_, member, user, error, rfl, rfl, rfl, answered⟩
      | _ => trivial
  | ok answer =>
      have executed := perform_ok tick query before answer answered
      have done := answered_carried tick query before answer answered
      cases query with
      | selectOtp phone =>
          obtain ⟨rfl, -⟩ := Prod.mk.inj (Except.ok.inj executed)
          cases found : before.findOtp phone with
          | none => trivial
          | some otp => exact (known.otps phone otp found).1
      | selectAuth provider identifier =>
          obtain ⟨rfl, -⟩ := Prod.mk.inj (Except.ok.inj executed)
          cases found : before.findAuth provider identifier with
          | none => trivial
          | some row =>
              obtain ⟨present, rfl, rfl⟩ := before.find_auth_mem provider identifier row found
              exact known.accounts row present
      | upsertOtp row => exact ⟨_, member, rfl, rfl, done⟩
      | insertAuth row =>
          obtain ⟨source, -, same⟩ := (map_ok _ _ _).mp executed
          obtain ⟨rfl, -⟩ := Prod.mk.inj same
          exact ⟨rfl, ⟨_, member, done, row, rfl, asked, rfl, rfl, rfl⟩, _, member, rfl, rfl, done⟩
      | insertToken id account token expiresAt deviceInfo =>
          exact session_grows grows token account
            (.opened [] trace _ id account token expiresAt deviceInfo rfl done asked.1)
      | _ => trivial

section Writes
variable (done : Done entry) (asked : Asks env trace draws entry.task entry.request entry.query)
  (rows : Rows env trace draws entry.before)
include done asked rows

theorem otps_written (phone : String) (otp : Otp)
    (found : otpAfter phone entry.query (entry.before.findOtp phone) = some otp) :
    Coded (entry :: trace) phone otp.code ∧ Shaped draws otp := by
  have known := (rows_grow (List.suffix_cons entry trace) entry.before rows).otps
  have first : entry ∈ entry :: trace := List.mem_cons_self
  obtain ⟨⟨query, tick, before⟩, task, request, born⟩ := entry
  simp only at asked known found
  cases query with
  | upsertOtp row =>
      by_cases own : phone = row.phone
      · obtain rfl : row = otp := by simpa [otpAfter, own] using found
        obtain ⟨⟨body, sender, phoned⟩, shaped⟩ := asked
        exact ⟨⟨_, first, done, body, row, sender, phoned.trans own.symm, rfl, own.symm, rfl⟩,
          shaped⟩
      · exact known phone otp (by simpa [otpAfter, own] using found)
  | updateOtpAttempts other attempts =>
      by_cases own : phone = other
      · obtain ⟨old, stored, rfl⟩ :=
          Option.map_eq_some_iff.mp (by simpa [otpAfter, own] using found)
        obtain ⟨coded, shaped⟩ := known phone old (own ▸ stored)
        exact ⟨coded, shaped.code, asked, shaped.expires⟩
      · exact known phone otp (by simpa [otpAfter, own] using found)
  | deleteOtp other =>
      by_cases own : phone = other
      · simp [otpAfter, own] at found
      · exact known phone otp (by simpa [otpAfter, own] using found)
  | _ => exact known phone otp found

theorem accounts_written : ∀ row ∈ authAfter entry.query entry.before.auth.rows,
    Opened (entry :: trace) row.provider row.identifier row.id := by
  have known := (rows_grow (List.suffix_cons entry trace) entry.before rows).accounts
  have first : entry ∈ entry :: trace := List.mem_cons_self
  obtain ⟨⟨query, tick, before⟩, task, request, born⟩ := entry
  simp only at asked known ⊢
  cases query with
  | insertAuth account =>
      intro row present
      rcases List.mem_append.mp present with old | new
      · exact known row old
      · obtain rfl := List.mem_singleton.mp new
        exact ⟨_, first, done, row, rfl, asked, rfl, rfl, rfl⟩
  | updateAuthEmail id email =>
      intro row present
      obtain ⟨old, before, rfl⟩ := List.mem_map.mp present
      unfold Table.rewrite
      split <;> exact known old before
  | deleteAuth id => exact fun row present => known row (List.mem_filter.mp present).1
  | _ => exact known

theorem profiles_written :
    ∀ user ∈ usersAfter entry.query entry.before.users.rows, Brought (entry :: trace) user := by
  have known := (rows_grow (List.suffix_cons entry trace) entry.before rows).profiles
  have first : entry ∈ entry :: trace := List.mem_cons_self
  have grows : trace <:+ entry :: trace := List.suffix_cons entry trace
  obtain ⟨⟨query, tick, before⟩, task, request, born⟩ := entry
  simp only at asked known ⊢
  cases query with
  | insertUser profile =>
      intro user present
      rcases List.mem_append.mp present with old | new
      · exact known user old
      · obtain rfl := List.mem_singleton.mp new
        exact ⟨_, first, done, rfl, brings_grows grows task request user asked⟩
  | deleteAuth id => exact fun user present => known user (List.mem_filter.mp present).1
  | _ => exact known

theorem sessions_written : ∀ row ∈ tokensAfter entry.tick entry.query entry.before.tokens.rows,
    Session env (entry :: trace) row.token row.authId ∧ draws.token row.token := by
  have known := (rows_grow (List.suffix_cons entry trace) entry.before rows).sessions
  have held := rows.sessions
  obtain ⟨⟨query, tick, before⟩, task, request, born⟩ := entry
  simp only at asked known held ⊢
  cases query with
  | insertToken id account token expiresAt deviceInfo =>
      intro row present
      rcases List.mem_append.mp present with old | new
      · exact known row old
      · obtain rfl := List.mem_singleton.mp new
        exact ⟨.opened [] trace _ id account token expiresAt deviceInfo rfl done asked.1, asked.2⟩
  | rotateToken token newToken expiresAt lastUsedAt =>
      intro row present
      obtain ⟨old, before, rfl⟩ := List.mem_map.mp present
      unfold Table.rewrite
      split
      · next chosen =>
          -- The row held the token that was presented, so the new one goes on with its session.
          obtain ⟨⟨body, rfl, rfl⟩, drawn⟩ := asked
          have session := (held old before).1
          rw [of_decide_eq_true chosen] at session
          exact ⟨.rotated [] trace _ body newToken old.authId expiresAt lastUsedAt rfl rfl done
            session, drawn⟩
      · exact known old before
  | revokeToken token revokedAt =>
      intro row present
      obtain ⟨old, before, rfl⟩ := List.mem_map.mp present
      unfold Table.rewrite
      split <;> exact known old before
  | deleteAuth id => exact fun row present => known row (List.mem_filter.mp present).1
  | _ => exact known

end Writes

theorem rows_written (asked : Asks env trace draws entry.task entry.request entry.query)
    (rows : Rows env trace draws entry.before) :
    Rows env (entry :: trace) draws (perform entry.tick entry.query entry.before).2 := by
  rcases perform_carried entry.tick entry.query entry.before with same | ⟨done, answer, executed⟩
  · rw [same]
    exact rows_grow (List.suffix_cons _ _) entry.before rows
  · have after := execute_rows entry.tick entry.query entry.before _ answer executed
    refine ⟨fun phone otp found => ?_, ?_, ?_, ?_⟩
    · rw [execute_otp entry.tick entry.query entry.before _ answer executed phone] at found
      exact otps_written done asked rows phone otp found
    · rw [after.auth]
      exact accounts_written done asked rows
    · rw [after.users]
      exact profiles_written done asked rows
    · rw [execute_tokens entry.tick entry.query entry.before _ answer executed]
      exact sessions_written done asked rows

end Rows

/-! Runs of the server. -/
section Runs
variable (env : Env) (draws : Draws)

/-- Each task stands by its contract with whatever the trace may grow to, and each entry was
asked for with the trace before it, in a database which that part accounts for. -/
structure Upheld (state : State) : Prop where
  coherent : (server env).Coherent state
  bound : ∀ trace, state.trace <:+ trace → Bound (fun _ _ => draws.fair) (Told env trace)
    (Asks env trace draws) (fun _ => Promises env trace draws) state
  rows : Rows env state.trace draws state.world
  asked : ∀ later entry earlier, state.trace = later ++ entry :: earlier →
    Asks env earlier draws entry.task entry.request entry.query ∧
      Rows env earlier draws entry.before
  handed : ∀ (index : Nat) (task : Task) (job : Job), state.tasks[index]? = some task →
    task.request = .background job → ∃ entry ∈ state.trace, entry.query = .waitUntil job

/-- The generators draw what they should in the action's segment. -/
def Fair (draws : Draws) : Action → Prop
  | .arrive _ tick => draws.fair tick
  | .advance _ tick => draws.fair tick

variable {env draws}

theorem upheld_comes (state : State) (action : Action) (upheld : Upheld env draws state)
    (entry : Entry) (comes : (server env).upcoming state action = some entry) :
    Asks env state.trace draws entry.task entry.request entry.query ∧
      Rows env state.trace draws entry.before := by
  obtain ⟨-, task, present, same, awaits⟩ := (server env).upcoming_owner state action entry comes
  obtain ⟨-, -, -, -, before, -⟩ := (server env).upcoming_step state action entry comes
  have bound := upheld.bound state.trace List.suffix_rfl
  exact ⟨same ▸ bound_asks state bound entry.task task entry.query present awaits,
    before ▸ upheld.rows⟩

theorem fair_step (state : State) (action : Action) (fair : Fair draws action)
    (upheld : Upheld env draws state) (trace : List Entry)
    (grows : ((server env).step state action).trace <:+ trace) :
    FairStep (server env) (fun _ _ => draws.fair) (Told env trace) state action := by
  have ticks : ∀ entry ∈ (server env).upcoming state action, draws.fair entry.tick := by
    intro entry comes
    obtain ⟨rfl, -⟩ := (server env).upcoming_owner state action entry comes
    exact fair
  refine ⟨?_, fun entry comes => ⟨ticks entry comes, ?_⟩,
    fun entry comes _ _ _ => ticks entry comes⟩
  · rintro request tick rfl
    exact fair
  · obtain ⟨asked, rows⟩ := upheld_comes state action upheld entry comes
    rw [(server env).upcoming_trace state action entry comes] at grows
    exact told_rows grows asked rows

theorem upheld_step (state : State) (action : Action) (fair : Fair draws action)
    (upheld : Upheld env draws state) : Upheld env draws ((server env).step state action) := by
  have grows : state.trace <:+ ((server env).step state action).trace :=
    (server env).step_trace state action
  refine ⟨Machine.coherent_step state action upheld.coherent, fun trace longer => ?_, ?_, ?_, ?_⟩
  · exact bound_step (handler_meets env trace draws) state action
      (upheld.bound trace (grows.trans longer)) (fair_step state action fair upheld trace longer)
  · cases comes : (server env).upcoming state action with
    | none =>
        rw [((server env).quiet_step state action comes).1]
        exact rows_grow grows state.world upheld.rows
    | some entry =>
        obtain ⟨asked, rows⟩ := upheld_comes state action upheld entry comes
        obtain ⟨task, resume, -, -, before, after⟩ :=
          (server env).upcoming_step state action entry comes
        have written := rows_written asked rows
        rw [(server env).upcoming_trace state action entry comes, after]
        show Rows env (entry :: state.trace) draws (perform entry.tick entry.query state.world).2
        exact before ▸ written
  · intro later entry earlier same
    cases comes : (server env).upcoming state action with
    | none =>
        rw [(server env).step_entries state action, comes] at same
        exact upheld.asked later entry earlier same
    | some new =>
        rw [(server env).upcoming_trace state action new comes] at same
        rcases List.cons_eq_append_iff.mp same with ⟨rfl, cut⟩ | ⟨rest, rfl, cut⟩
        · obtain ⟨rfl, rfl⟩ := List.cons.inj cut
          exact upheld_comes state action upheld _ comes
        · exact upheld.asked rest entry earlier cut
  -- A job comes from a statement of the step, or it was there.
  · intro index task job found same
    rcases Machine.step_origin state action index task found with
      ⟨earlier, old, own⟩ | ⟨tick, -, external⟩ | ⟨entry, comes, spawns⟩
    · obtain ⟨entry, member, handed⟩ := upheld.handed index earlier job old (own.trans same)
      exact ⟨entry, grows.mem member, handed⟩
    · rw [same] at external
      cases external
    · refine ⟨entry, ?_, ?_⟩
      · rw [(server env).upcoming_trace state action entry comes]
        exact List.mem_cons_self
      · rw [same] at spawns
        cases query : entry.query with
        | waitUntil other =>
            rw [query] at spawns
            rw [Request.background.inj (List.mem_singleton.mp spawns)]
        | _ =>
            rw [query] at spawns
            exact absurd spawns List.not_mem_nil

theorem upheld_start (env : Env) (draws : Draws) : Upheld env draws (start Db.empty) := by
  refine ⟨(server env).coherent_start Db.empty,
    fun trace _ index task found => (by simp [start] at found), ?_,
    fun later entry earlier same => (by simp [start] at same),
    fun index task job found => (by simp [start] at found)⟩
  exact ⟨fun phone otp found => (by cases found), fun row member => (by cases member),
    fun user member => (by cases member), fun row member => (by cases member)⟩

theorem upheld_reached (env : Env) (draws : Draws) (schedule : List Action)
    (fair : ∀ action ∈ schedule, Fair draws action) :
    Upheld env draws ((server env).run (start Db.empty) schedule) :=
  (server env).guarded_run (fun _ => Fair draws) (Upheld env draws)
    (fun state action upheld fair => upheld_step state action fair upheld) _ schedule
      (upheld_start env draws)
    (Machine.guarded_actions _ _ _ fair)

def anyDraws : Draws where
  fair _ := True
  code _ := True
  token _ := True
  codes _ _ := trivial
  tokens _ _ := trivial

theorem upheld_any (env : Env) (schedule : List Action) :
    Upheld env anyDraws ((server env).run (start Db.empty) schedule) :=
  upheld_reached env anyDraws schedule fun action _ => by cases action <;> trivial

/-- A refresh has read a row of the session before its rotation was carried out. -/
theorem refreshed_session (state : State) (upheld : Upheld env draws state) (index : Nat)
    (body : RefreshTokensRequest) (access : AccessToken) (refresh : String)
    (refreshed : SessionPaths.Refreshed body.refreshToken refresh access.sub
      (history index state.trace))
    (own : ∀ entry ∈ state.trace, entry.task = index → entry.request = .refreshTokens body) :
    Session env state.trace refresh access.sub ∧
    Session env state.trace body.refreshToken access.sub := by
  generalize past : history index state.trace = steps at refreshed
  cases refreshed with
  | rotated select owner rotate row found usable cooled holder query answered =>
      obtain ⟨later, last, middle, trace, mine, rfl, before⟩ :=
        history_split index state.trace rotate [select, owner] [] past
      obtain ⟨more, first, earlier, rfl, -, rfl, -⟩ :=
        history_split index middle select [] [owner] before
      have behind : (later ++ [last]) ++ (more ++ first :: earlier) = later ++ last ::
        (more ++ first :: earlier) := by simp
      have rows := (upheld.asked (later ++ last :: more) first earlier (by rw [trace]; simp)).2
      obtain ⟨present, same⟩ := (first.before.find_token_mem body.refreshToken row).mp found.row
      have session := (rows.sessions row present).1
      rw [same, holder] at session
      have shown : Session env (more ++ first :: earlier) body.refreshToken access.sub :=
        session_grows ⟨more ++ [first], by simp⟩ _ _ session
      obtain ⟨count, executed⟩ := answered
      have request := own last (by rw [trace]; simp) mine
      have done : Done last := answered_carried last.tick last.query last.before count executed
      rw [trace]
      exact ⟨.rotated later _ last body refresh access.sub _ _ request query done shown,
        session_grows ⟨later ++ [last], behind⟩ _ _ shown⟩

theorem session_origin (state : State) (upheld : Upheld env draws state) (index : Nat)
    (request : Request) (response : Response) (access : AccessToken) (refresh : String)
    (replied : Replied state index request response)
    (tokens : response.body = .tokens access refresh) :
    Session env state.trace refresh access.sub ∧ (Vouched env state.trace request access.sub ∨
      ∃ body, request = .refreshTokens body ∧
        Session env state.trace body.refreshToken access.sub) := by
  obtain ⟨task, present, same, done⟩ := replied
  have bound := upheld.bound state.trace List.suffix_rfl
  have issued := bound_done state bound index task _ present done access refresh tokens
  rw [same] at issued
  rcases issued.opened with ⟨body, rfl⟩ | ⟨session, vouched⟩
  · have refreshed := SessionRaces.replied_refresh env state upheld.coherent index body response
      access refresh ⟨task, present, same, done⟩ tokens
    have own := Machine.task_entries state upheld.coherent index task present
    obtain ⟨handed, presented⟩ := refreshed_session state upheld index body access refresh refreshed
      fun entry member mine => (own entry member mine).trans same
    exact ⟨handed, Or.inr ⟨body, rfl, presented⟩⟩
  · exact ⟨session, Or.inl vouched⟩

theorem brought_once (state : State) (coherent : (server env).Coherent state) (user : User)
    (brought : Brought state.trace user) :
    ∃ entry ∈ state.trace, Done entry ∧ ∃ row, entry.query = .insertAuth row ∧
      Opens entry.request row ∧
      row.id = user.id ∧
      profileOf entry.request = some (user.name, user.gender, user.birthYear) := by
  obtain ⟨late, behind, -, -, row, ⟨entry, member, same, inserts, done⟩, opens, id, profile⟩ :=
    brought
  obtain ⟨task, found, own, -⟩ := coherent.owner late behind
  have request : entry.request = late.request :=
    (Machine.task_entries state coherent late.task task found entry member same).trans own
  exact ⟨entry, member, done, row, inserts, request ▸ opens, id, request ▸ profile⟩

/-- In every run, whatever interleaves or fails: each profile is the one of the sign-up that has
inserted the account of its id. -/
theorem profiles_own (env : Env) (schedule : List Action) (user : User)
    (stored : user ∈ ((server env).run (start Db.empty) schedule).world.users.rows) :
    ∃ entry ∈ ((server env).run (start Db.empty) schedule).trace, Done entry ∧ ∃ row,
      entry.query = .insertAuth row ∧ Opens entry.request row ∧ row.id = user.id ∧
        profileOf entry.request = some (user.name, user.gender, user.birthYear) :=
  have upheld := upheld_any env schedule
  brought_once _ upheld.coherent user (upheld.rows.profiles user stored)

/-- What a job of the background owes to the trace before it. -/
def Owed (trace : List Entry) : Job → Prop
  | .sendOTP phone otp => Coded trace phone otp
  | .deleteAuth id => ∃ entry ∈ trace, Done entry ∧ ∃ row, entry.query = .insertAuth row ∧
      Opens entry.request row ∧ row.id = id ∧ Unprofiled trace entry.task id
  | .sendEmail recipient _ _ => ∃ entry ∈ trace, Done entry ∧ ∃ row, entry.query = .insertAuth row ∧
      Opens entry.request row ∧ row.email = some recipient

theorem did_asked (state : State) (upheld : Upheld env draws state) (trace : List Entry)
    (within : trace <:+ state.trace) (index : Nat) (statement : Statement)
    (did : Did trace index statement) :
    ∃ entry ∈ trace, entry.task = index ∧ entry.query = statement ∧ Done entry ∧
      ∃ earlier, Asks env earlier draws index entry.request statement := by
  obtain ⟨entry, member, rfl, rfl, done⟩ := did
  obtain ⟨more, rest⟩ := within
  obtain ⟨later, earlier, cut⟩ := List.append_of_mem member
  have asked := (upheld.asked (more ++ later) entry earlier (by rw [← rest, cut]; simp)).1
  exact ⟨entry, member, rfl, rfl, done, earlier, asked⟩

theorem backed_owed (state : State) (upheld : Upheld env draws state) (trace : List Entry)
    (within : trace <:+ state.trace) (index : Nat) (request : Request) (job : Job)
    (backed : Backed trace index request job) : Owed trace job := by
  cases job with
  | sendOTP phone otp =>
      obtain ⟨row, did, rfl, rfl⟩ := backed
      obtain ⟨entry, member, -, query, done, -, ⟨body, asks, phoned⟩, -⟩ :=
        did_asked state upheld trace within index _ did
      exact ⟨entry, member, done, body, row, asks, phoned, query, rfl, rfl⟩
  | deleteAuth id =>
      obtain ⟨row, did, -, own, unprofiled⟩ := backed
      obtain ⟨entry, member, rfl, query, done, earlier, opens⟩ :=
        did_asked state upheld trace within index _ did
      exact ⟨entry, member, done, row, query, opens, own, unprofiled⟩
  | sendEmail recipient subject template =>
      obtain ⟨row, did, -, address⟩ := backed
      obtain ⟨entry, member, -, query, done, earlier, opens⟩ :=
        did_asked state upheld trace within index _ did
      exact ⟨entry, member, done, row, query, opens, address⟩

/-- In every run, whatever interleaves or fails: before a code is handed to the background it has
been stored for that phone, before a welcome its sign-up has inserted an account with the address,
and before a clean-up the statement that stores the profile of the account has failed, in the
sign-up that inserted it. -/
theorem jobs_owed (env : Env) (schedule : List Action) (index : Nat) (task : Task) (job : Job)
    (present : ((server env).run (start Db.empty) schedule).tasks[index]? = some task)
    (background : task.request = .background job) :
    ∃ later entry earlier,
      ((server env).run (start Db.empty) schedule).trace = later ++ entry :: earlier ∧
        entry.query = .waitUntil job ∧ Owed earlier job := by
  have upheld := upheld_any env schedule
  obtain ⟨entry, member, handed⟩ := upheld.handed index task job present background
  obtain ⟨later, earlier, cut⟩ := List.append_of_mem member
  have backed := (upheld.asked later entry earlier cut).1
  rw [handed] at backed
  refine ⟨later, entry, earlier, cut, handed,
    backed_owed _ upheld earlier ?_ entry.task entry.request job backed⟩
  rw [cut]
  exact (List.suffix_cons entry earlier).trans (List.suffix_append later _)

end Runs

/-! The accounts of phones. -/
section Phones
variable (phone : String)

/-- The request has presented a code that was stored for the phone. -/
def Presents (trace : List Entry) (request : Request) : Prop :=
  ∃ code, OtpVerification.verification request = some (phone, code) ∧ Coded trace phone code

/-- The token is one of a session that a code of the phone's has opened. -/
inductive PhoneSession (account : String) : List Entry → String → Prop where
  | opened (later earlier : List Entry) (entry : Entry) (id token : String) (expiresAt : Time)
      (deviceInfo : Option DeviceInfo)
      (asked : entry.query = .insertToken id account token expiresAt deviceInfo) (done : Done entry)
      (presents : Presents phone earlier entry.request) :
      PhoneSession account (later ++ entry :: earlier) token
  | rotated (later earlier : List Entry) (entry : Entry) (body : RefreshTokensRequest)
      (newToken : String)
      (expiresAt lastUsedAt : Time) (request : entry.request = .refreshTokens body)
      (asked : entry.query = .rotateToken body.refreshToken newToken expiresAt lastUsedAt)
      (done : Done entry) (before : PhoneSession account earlier body.refreshToken) :
      PhoneSession account (later ++ entry :: earlier) newToken

/-- No two accounts are inserted under one id. -/
def UniqueIds (trace : List Entry) : Prop :=
  ∀ provider other identifier another account, Opened trace provider identifier account →
    Opened trace other another account → provider = other ∧ identifier = another

variable {phone} {env : Env} {trace : List Entry} {account : String}

theorem toProvider_not_phone (provider : OAuthProvider) : provider.toProvider ≠ .phone := by
  cases provider <;> decide

theorem vouched_presents (unique : UniqueIds trace) (own : Opened trace .phone phone account)
    {earlier : List Entry} (within : earlier <:+ trace) (request : Request)
    (vouched : Vouched env earlier request account) : Presents phone earlier request := by
  cases request with
  | phoneSignup body =>
      obtain rfl := (unique _ _ _ _ _ own (opened_grows within _ _ _ vouched.2)).2
      exact ⟨body.code, rfl, vouched.1⟩
  | phoneSignIn body =>
      obtain rfl := (unique _ _ _ _ _ own (opened_grows within _ _ _ vouched.2)).2
      exact ⟨body.code, rfl, vouched.1⟩
  | oauthSignIn provider body =>
      obtain ⟨_, _, _, _, _, opened⟩ := vouched
      have other := opened_grows within _ _ _ opened
      exact absurd (unique _ _ _ _ _ other own).1 (toProvider_not_phone provider)
  | oauthSignup body =>
      have other := opened_grows within _ _ _ vouched
      exact absurd (unique _ _ _ _ _ other own).1 (toProvider_not_phone body.provider)
  | _ => cases vouched

theorem session_phone (unique : UniqueIds trace) {short : List Entry} (token : String)
    (session : Session env short token account) (within : short <:+ trace)
    (own : Opened trace .phone phone account) : PhoneSession phone account short token := by
  induction session with
  | opened later earlier entry id account token expiresAt deviceInfo asked done vouched =>
      have before : earlier <:+ later ++ entry :: earlier :=
        (List.suffix_cons entry earlier).trans (List.suffix_append later _)
      exact .opened later earlier entry id token expiresAt deviceInfo asked done
        (vouched_presents unique own (before.trans within) entry.request vouched)
  | rotated later earlier entry body newToken account expiresAt lastUsedAt request asked
      done _ ih =>
      have before : earlier <:+ later ++ entry :: earlier :=
        (List.suffix_cons entry earlier).trans (List.suffix_append later _)
      exact .rotated later earlier entry body newToken expiresAt lastUsedAt request asked done
        (ih (before.trans within) own)

/-- In every run that draws no account id twice, tokens for the account of a phone are answered to
none but requests that present a code stored for that phone, or a token of a session which such a
request has opened. -/
theorem phone_accounts_guarded (env : Env) (schedule : List Action) (index : Nat)
    (request : Request) (response : Response) (access : AccessToken) (refresh phone : String)
    (unique : UniqueIds ((server env).run (start Db.empty) schedule).trace)
    (replied : Replied ((server env).run (start Db.empty) schedule) index request response)
    (tokens : response.body = .tokens access refresh)
    (own : Opened ((server env).run (start Db.empty) schedule).trace .phone phone access.sub) :
    PhoneSession phone access.sub ((server env).run (start Db.empty) schedule).trace refresh ∧
      (Presents phone ((server env).run (start Db.empty) schedule).trace request ∨
        ∃ body, request = .refreshTokens body ∧ PhoneSession phone access.sub
          ((server env).run (start Db.empty) schedule).trace body.refreshToken) := by
  obtain ⟨session, shown⟩ :=
    session_origin _ (upheld_any env schedule) index request response access refresh replied tokens
  refine ⟨session_phone unique refresh session List.suffix_rfl own, ?_⟩
  rcases shown with vouched | ⟨body, same, presented⟩
  · exact Or.inl (vouched_presents unique own List.suffix_rfl request vouched)
  · exact Or.inr ⟨body, same, session_phone unique body.refreshToken presented List.suffix_rfl own⟩

end Phones

section Sample

def samplePhone : String := "2125550123"

def enroll : Request :=
  .phoneSignup { phone := samplePhone, code := "493021", name := "Ada",
                 gender := .female, birthYear := 1990
                 deviceInfo := none }

def enrolling : List Action :=
  .arrive (.requestOTP { phone := samplePhone, purpose := .signup }) (tickAt 0 "a") ::
    List.replicate 4 (.advance 0 (tickAt 0 "a")) ++
      .arrive enroll (tickAt 1 "b") :: List.replicate 6 (.advance 2 (tickAt 1 "b"))

def enrolled : State := (server sampleEnv).run (start Db.empty) enrolling

def insertsSample : Statement → Bool
  | .insertAuth row => row.provider = .phone ∧ row.identifier = samplePhone
  | _ => true

theorem enrolled_unique : UniqueIds enrolled.trace := by
  have only : ∀ entry ∈ enrolled.trace, insertsSample entry.query = true := by decide
  have sole : ∀ provider identifier account, Opened enrolled.trace provider identifier account →
      provider = .phone ∧ identifier = samplePhone := by
    rintro provider identifier account ⟨entry, member, -, row, asked, -, rfl, rfl, rfl⟩
    have holds := only entry member
    rw [asked] at holds
    simpa [insertsSample] using holds
  intro provider other identifier another account first second
  obtain ⟨rfl, rfl⟩ := sole _ _ _ first
  obtain ⟨rfl, rfl⟩ := sole _ _ _ second
  exact ⟨rfl, rfl⟩

theorem enrolled_opened : Opened enrolled.trace .phone samplePhone "b" :=
  ⟨enrolled.trace.get ⟨2, by decide⟩, List.get_mem _ _, ⟨by decide, _, _, rfl⟩, _, rfl,
    Opens.phone _ "b", rfl, rfl, rfl⟩

theorem profiles_own_enrolled :
    ∃ entry ∈ enrolled.trace, Done entry ∧ ∃ row, entry.query = .insertAuth row ∧
      Opens entry.request row ∧
      row.id = "b" ∧ profileOf entry.request = some ("Ada", .female, 1990) :=
  profiles_own sampleEnv enrolling { id := "b", name := "Ada", gender := .female,
                                     birthYear := 1990 } (by decide)

theorem jobs_owed_enrolled :
    ∃ later entry earlier, enrolled.trace = later ++ entry :: earlier ∧
      entry.query = .waitUntil (.sendOTP samplePhone "493021") ∧
      Owed earlier (.sendOTP samplePhone "493021") :=
  jobs_owed sampleEnv enrolling 1 _ (.sendOTP samplePhone "493021") rfl rfl

theorem enrolled_replied :
    Replied enrolled 2 enroll (res.created (.tokens (access "b" (tickAt 1 "b")) "b")) :=
  ⟨_, rfl, rfl, rfl⟩

theorem phone_accounts_guarded_enrolled :
    PhoneSession samplePhone "b" enrolled.trace "b" ∧
      (Presents samplePhone enrolled.trace enroll ∨
        ∃ body, enroll = .refreshTokens body ∧
          PhoneSession samplePhone "b" enrolled.trace body.refreshToken) :=
  phone_accounts_guarded sampleEnv enrolling 2 enroll _ (access "b" (tickAt 1 "b")) "b" samplePhone
    enrolled_unique enrolled_replied rfl enrolled_opened

end Sample

end TopInspect.SessionOrigins
