import TopInspect.EmailSchema
import TopInspect.SteadyServing

/-! A sign-in that asks for a sign-up, and the sign-up that follows it. The
first looks for the address of the ID token as it is, the second for the one
that the email schema makes of it, and both overlook an account of their own
provider: the unique address of the table does not. -/
namespace TopInspect.SignUpAgreement

open Resumption AuthSchema AuthStatements AuthHandlers AUTH_CONFIG AuthExecution OtpServing
open SessionServing SteadyServing RowTable EmailSchema
open Serial hiding Run Served State Turn

variable (env : Env)

def asksSignup (provider : OAuthProvider) (providerId raw : String) : Except DbError Response :=
  .ok (res.ok (.needsSignup provider.toProvider providerId raw))

/-- An account with its profile has been added, and tokens for it are the answer. -/
def Joined (body : OAuthSignupRequest) (before : Db) (result : Except DbError Response)
    (last : Run) : Prop :=
  ∃ row access refresh, result = .ok (res.created (.tokens access refresh)) ∧
    access.sub = row.id ∧ row.provider = body.provider.toProvider ∧
    row.identifier = body.providerId ∧ row.email = some body.email ∧
    last.world.auth.rows = before.auth.rows ++ [row] ∧
    last.world.users.rows = before.users.rows ++
      [{ id := row.id, name := body.name, gender := body.gender, birthYear := body.birthYear }]

def SignedUp (run : Run) (body : OAuthSignupRequest) : Prop :=
  Joined body run.world (exec perform (oauthSignup env body) run).1
    (exec perform (oauthSignup env body) run).2

/-- Nothing fails, and what is drawn is new. -/
structure Undisturbed (run : Run) : Prop where
  steady : Steady run
  ids : ∀ n, ∀ row ∈ run.world.auth.rows, row.id ≠ (run.clock n).id
  sessions : ∀ n, ∀ row ∈ run.world.tokens.rows,
    row.id ≠ (run.clock n).id ∧ row.token ≠ (run.clock n).refreshToken

section SignIn
variable {run : Run} {α : Type} {post : Except DbError α → Run → Prop}

theorem ends_read (statement : Statement) (value : Db → statement.Answer)
    (reads : ∀ tick db, execute tick statement db = .ok (value db, db))
    (next : statement.Answer → Handler α) (thrown : ∀ error last, post (.error error) last)
    (rest : ∀ last : Run, last.world = run.world →
      Ends perform (next (value run.world)) last post) :
    Ends perform (call statement >>= next) run post := by
  apply ends_bind
  unfold Ends
  cases read : (exec perform (call statement) run).1 with
  | error error => exact thrown error _
  | ok answer =>
      obtain ⟨same, kept, -⟩ := read_exec statement value reads run answer read
      rw [same]
      exact rest _ kept

/-- What a sign-in that asks for a sign-up has found, and left alone. -/
structure Invited (provider : OAuthProvider) (providerId raw : String)
    (before after : Db) : Prop where
  kept : after = before
  absent : before.findAuth provider.toProvider providerId = none
  apart : emailConflict provider (before.findAuthByEmail raw) = none

theorem open_session_never_asks (existingAuth : Auth) (email : String)
    (deviceInfo : Option DeviceInfo) (provider : OAuthProvider) (providerId raw : String) :
    Ends perform (openSession existingAuth email deviceInfo) run fun result _ =>
      result ≠ asksSignup provider providerId raw := by
  apply ends_after
  · exact fun error after => by simp [asksSignup]
  · intro profile after
    cases profile with
    | none =>
        apply ends_pure
        simp [asksSignup, res.profileIncomplete, res.err, res.ok]
    | some user =>
        apply ends_after
        · exact fun error after => by simp [asksSignup]
        · intro filled after
          apply ends_after
          · exact fun error after => by simp [asksSignup]
          · intro session after
            apply ends_pure
            simp [asksSignup, res.ok]

theorem sign_in_invites (provider : OAuthProvider) (body : OAuthSignInRequest)
    (providerId raw : String) :
    Ends perform (createOAuthSignInHandler env provider body) run fun result last =>
      result = asksSignup provider providerId raw →
        Invited provider providerId raw run.world last.world := by
  have thrown : ∀ (error : DbError) (last : Run), Except.error error =
      asksSignup provider providerId raw → Invited provider providerId raw run.world last.world :=
    fun error last asks => by cases asks
  have refused : ∀ (text : String) (last : Run), Except.ok (res.unauthorized text) =
      asksSignup provider providerId raw → Invited provider providerId raw run.world last.world :=
    fun text last asks => by simp [asksSignup, res.unauthorized, res.err, res.ok] at asks
  apply ends_reading now (·.now) fun _ => rfl
  split
  · exact ends_pure _ (refused _ _)
  · split
    · next email sub address named =>
        apply ends_read (.selectAuth provider.toProvider sub)
          (·.findAuth provider.toProvider sub) (fun _ _ => rfl) _ thrown
        intro last kept
        cases found : run.world.findAuth provider.toProvider sub with
        | some existingAuth =>
            apply ends_mono (open_session_never_asks existingAuth email body.deviceInfo provider
              providerId raw)
            exact fun result after never asks => absurd asks never
        | none =>
            apply ends_read (.selectAuthByEmail email) (·.findAuthByEmail email) (fun _ _ => rfl)
              _ thrown
            intro final same
            cases apart : emailConflict provider (last.world.findAuthByEmail email) with
            | some refusal =>
                apply ends_pure
                intro asks
                obtain rfl := Except.ok.inj asks
                unfold emailConflict at apart
                split at apart
                · cases apart
                · split at apart
                  · simp [res.conflict, res.err, res.ok] at apart
                  · cases apart
            | none =>
                apply ends_pure
                intro asks
                simp only [asksSignup, res.ok, Except.ok.injEq, Response.mk.injEq, true_and,
                  Body.needsSignup.injEq] at asks
                obtain ⟨rfl, rfl⟩ := asks
                exact ⟨same.trans kept, found, kept ▸ apart⟩
    · exact ends_pure _ (refused _ _)

end SignIn

section SignUp
variable {run : Run} {body : OAuthSignupRequest}

/-- The auth row of the sign-up, its id drawn after the two selects. -/
def joinedRow (run : Run) (body : OAuthSignupRequest) : Auth :=
  { id := (run.clock 2).id, provider := body.provider.toProvider, identifier := body.providerId,
    email := some body.email }

theorem sign_up_done (undisturbed : Undisturbed run)
    (absent : run.world.findAuth body.provider.toProvider body.providerId = none)
    (free : ∀ row ∈ run.world.auth.rows, row.email ≠ some body.email) : SignedUp env run body := by
  have identity := (run.world.find_auth_none _ _).mp absent
  have unheld : run.world.findAuthByEmail body.email = none := by
    rw [Db.findAuthByEmail, run.world.auth.find_none]
    simpa using free
  have steady := steady_moved run undisturbed.steady
    (.selectAuth body.provider.toProvider body.providerId) run.world
  show Ends perform (oauthSignup env body) run (Joined body run.world)
  apply ends_step undisturbed.steady (.selectAuth body.provider.toProvider body.providerId) _ _
    run.world rfl
  rw [absent]
  apply ends_step steady (.selectAuthByEmail body.email) _ _ run.world rfl
  rw [moved_world, unheld]
  have calm := steady_moved _ steady (.selectAuthByEmail body.email) run.world
  apply ends_reading createId Tick.id fun _ => rfl
  apply ends_create calm
  · intro error refused
    obtain ⟨after, inserted⟩ := run.world.insert_auth_ok (joinedRow run body) (by
        rintro old member (same | same | ⟨-, same⟩)
        · exact undisturbed.ids 2 old member same
        · exact identity old member same
        · exact free old member same)
    have clash := inserted.symm.trans refused
    cases clash
  · intro middle onward _ opened
    have present : middle.tick = run.clock 4 := onward.clock 0
    apply ends_session onward.steady
    · intro session member
      rw [opened.tokens] at member
      rw [present]
      exact undisturbed.sessions 4 session member
    · exact ⟨_, by rw [opened.auth]; exact List.mem_append_right _ (List.mem_singleton_self _), rfl⟩
    · intro last settled stored
      apply ends_step settled.steady (.waitUntil (welcome env body.name body.email)) _ ()
        last.world rfl
      apply ends_pure
      refine ⟨joinedRow run body, _, _, rfl, rfl, rfl, rfl, rfl, ?_, ?_⟩
      · rw [moved_world, stored.auth, opened.auth]
        rfl
      · rw [moved_world, stored.users, opened.users]
        rfl

theorem signed_up_free (signedUp : SignedUp env run body) :
    ∀ row ∈ run.world.auth.rows, row.email ≠ some body.email := by
  obtain ⟨row, access, refresh, -, -, -, -, own, added, -⟩ := signedUp
  intro old member held
  have distinct := (exec perform (oauthSignup env body) run).2.world.auth.distinct
  rw [added, List.pairwise_append] at distinct
  apply distinct.2.2 old member row (List.mem_singleton_self row)
  exact Or.inr (Or.inr ⟨by simp [held], held.trans own.symm⟩)

end SignUp

/-- After a sign-in that asks for a sign-up, the sign-up with the values of its
answer creates the account exactly when no account holds the normal form of
the address. -/
theorem sign_up_follows (rules : EmailRules) (provider : OAuthProvider)
    (signIn : OAuthSignInRequest) (first next : Run) (providerId raw : String)
    (invited : (exec perform (createOAuthSignInHandler env provider signIn) first).1 =
      asksSignup provider providerId raw)
    (same : next.world =
      (exec perform (createOAuthSignInHandler env provider signIn) first).2.world)
    (undisturbed : Undisturbed next) (body : OAuthSignupRequest) (kind : body.provider = provider)
    (identifier : body.providerId = providerId) (normal : email rules raw = some body.email) :
    SignedUp env next body ↔ ∀ row ∈ next.world.auth.rows, row.email ≠ email rules raw := by
  rw [normal]
  obtain ⟨kept, absent, -⟩ := sign_in_invites env provider signIn providerId raw invited
  constructor
  · exact signed_up_free env
  · apply sign_up_done env undisturbed
    rw [same, kept, kind, identifier]
    exact absent

/-! An address is held by a Google account; an Apple and another Google identity
show ID tokens with it. -/

def tokenEnv : Env :=
  { sampleEnv with
    jwtVerify := fun _ token _ _ =>
      if token = "apple-token" then
        .ok { iss := some "https://appleid.apple.com", exp := some 3600, sub := some "000123.a1b2",
              email := some "Ada@Example.com" }
      else if token = "google-token" then
        .ok { iss := some "https://accounts.google.com", exp := some 3600,
              sub := some "118200000000000000000", email := some "ada@example.com" }
      else .error (some "signature verification failed") }

def joins (provider : OAuthProvider) (providerId email : String) : OAuthSignupRequest :=
  { provider, providerId, email, name := "Ada", gender := .female, birthYear := 1990,
    deviceInfo := none }

def held : State :=
  serveAll (server tokenEnv) (idle Db.empty)
    [{ caller := 0,
       request := .oauthSignup (joins .google "110169484474386276334" "ada@example.com"),
       present := 1000, draw := "a" : Visit }.turn]

def meeting (db : Db) (draw : String) : Run :=
  { world := db, tick := tickAt 5000 draw, ticks := fun _ => tickAt 5000 draw, log := [] }

theorem meeting_undisturbed (db : Db) (draw : String) (ids : ∀ row ∈ db.auth.rows, row.id ≠ draw)
    (sessions : ∀ row ∈ db.tokens.rows, row.id ≠ draw ∧ row.token ≠ draw) :
    Undisturbed (meeting db draw) := by
  have clock : ∀ n, (meeting db draw).clock n = tickAt 5000 draw := by
    intro n
    cases n <;> rfl
  constructor
  · exact fun _ => rfl
  · intro n
    rw [clock n]
    exact ids
  · intro n
    rw [clock n]
    exact sessions

def appleSignIn : OAuthSignInRequest := { idToken := "apple-token", deviceInfo := none }

def googleSignIn : OAuthSignInRequest := { idToken := "google-token", deviceInfo := none }

theorem sign_up_follows_first :
    SignedUp tokenEnv (meeting Db.empty "b") (joins .apple "000123.a1b2" "ada@example.com") :=
  (sign_up_follows tokenEnv asciiRules .apple appleSignIn (meeting Db.empty "a")
    (meeting Db.empty "b") "000123.a1b2" "Ada@Example.com" (by decide) rfl
    (meeting_undisturbed Db.empty "b" (by decide) (by decide))
    (joins .apple "000123.a1b2" "ada@example.com") rfl rfl (by decide)).mpr (by decide)

/-- Both identities are asked to sign up; one sign-up is then refused, the other throws. -/
theorem sign_up_fails :
    Undisturbed (meeting held.world "b") ∧
      ((exec perform (createOAuthSignInHandler tokenEnv .apple appleSignIn)
        (meeting held.world "b")).1 =
          asksSignup .apple "000123.a1b2" "Ada@Example.com" ∧
        email asciiRules "Ada@Example.com" = some "ada@example.com" ∧
        ¬ SignedUp tokenEnv (meeting held.world "b")
          (joins .apple "000123.a1b2" "ada@example.com")) ∧
      (exec perform (createOAuthSignInHandler tokenEnv .google googleSignIn)
          (meeting held.world "b")).1 =
          asksSignup .google "118200000000000000000" "ada@example.com" ∧
        email asciiRules "ada@example.com" = some "ada@example.com" ∧
        ¬ SignedUp tokenEnv (meeting held.world "b")
          (joins .google "118200000000000000000" "ada@example.com") := by
  have taken : held.world.auth.rows.map Auth.email = [some "ada@example.com"] := by decide
  have refused : ∀ body : OAuthSignupRequest, body.email = "ada@example.com" →
      ¬ SignedUp tokenEnv (meeting held.world "b") body := by
    intro body same signedUp
    have free := signed_up_free tokenEnv signedUp
    have holds : some "ada@example.com" ∈ held.world.auth.rows.map Auth.email := by simp [taken]
    obtain ⟨row, member, own⟩ := List.mem_map.mp holds
    exact free row member (by rw [own, same])
  constructor
  · exact meeting_undisturbed held.world "b" (by decide) (by decide)
  · constructor
    · exact ⟨by decide, by decide, refused _ rfl⟩
    · exact ⟨by decide, by decide, refused _ rfl⟩

end TopInspect.SignUpAgreement
