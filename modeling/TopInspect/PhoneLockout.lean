import TopInspect.AccountCleanups
import TopInspect.SteadyServing

/-! Whether a phone number can still get in. A sign-up takes a number without an
auth row, a sign-in one with a profile, and neither takes an auth row without a
profile: such a row locks its number out. It is left behind by a sign-up that
is cut off half-way or whose cleanup fails, and by nothing else. -/
namespace TopInspect.PhoneLockout

open Resumption AuthSchema AuthStatements AuthHandlers AUTH_CONFIG AuthExecution OtpVerification
open OtpServing SessionServing SteadyServing RowTable
open Serial hiding Run Served State Turn

/-- An auth row of the phone has no profile. -/
def LockedOut (db : Db) (phone : String) : Prop :=
  ∃ row ∈ db.auth.rows, row.provider = .phone ∧ row.identifier = phone ∧
    ∀ user ∈ db.users.rows, user.id ≠ row.id

/-- A fresh code is stored for the phone, nothing fails, and what is drawn is new. -/
structure Ready (run : Run) (phone code : String) : Prop where
  steady : Steady run
  stored : ∃ otp, run.world.findOtp phone = some otp ∧ otp.code = code ∧
    otp.attempts < OTP_MAX_ATTEMPTS ∧ (run.ticks 0).now ≤ otp.expiresAt
  ids : ∀ n, ∀ row ∈ run.world.auth.rows, row.id ≠ (run.clock n).id
  sessions : ∀ n, ∀ row ∈ run.world.tokens.rows,
    row.id ≠ (run.clock n).id ∧ row.token ≠ (run.clock n).refreshToken

def Tokens (result : Except DbError Response) : Prop :=
  ∃ response access refresh, result = .ok response ∧ response.body = .tokens access refresh

theorem refusal_bare (response : Response)
    (plain : ∀ access refresh, response.body ≠ .tokens access refresh) :
    ¬ Tokens (.ok response) := by
  rintro ⟨other, access, refresh, same, body⟩
  obtain rfl := Except.ok.inj same
  exact plain access refresh body

section Attempts
variable {run : Run} {phone code : String}

theorem ends_accepted (ready : Ready run phone code) {α : Type}
    {post : Except DbError α → Run → Prop} (next : OtpVerificationResult → Handler α)
    (rest : ∀ last, Steady last → SameTables last.world run.world →
      (∀ n, last.clock n = run.clock (n + 2)) → Ends perform (next .success) last post) :
    Ends perform (verifyOTPCode phone code >>= next) run post := by
  obtain ⟨otp, found, same, spare, timely⟩ := ready.stored
  have right : judge code (run.ticks 0).now (run.world.findOtp phone) = .right :=
    (judge_right _ _ _).mpr ⟨otp, found, Int.not_lt.mpr timely, spare, same⟩
  apply ends_verify ready.steady
  rw [right]
  intro last spent onward judged exact_
  obtain rfl := exact_ rfl
  exact rest last onward.steady judged.tables onward.clock

theorem sign_up_ends (ready : Ready run phone code) (body : PhoneSignupRequest)
    (own : body.phone = phone) (given : body.code = code) :
    Ends perform (phoneSignup body) run fun result _ =>
      Tokens result ↔ run.world.findAuth .phone phone = none := by
  subst own given
  apply ends_accepted ready
  intro last steady tables clock
  have lookup : last.world.findAuth .phone body.phone = run.world.findAuth .phone body.phone := by
    simp only [Db.findAuth, tables.auth]
  apply ends_step steady (.selectAuth .phone body.phone) _ _ last.world rfl
  rw [lookup]
  have steady' := steady_moved last steady (.selectAuth .phone body.phone) last.world
  cases found : run.world.findAuth .phone body.phone with
  | some row =>
      apply ends_step steady' (.selectUser row.id) _ _ last.world rfl
      cases (moved last (.selectAuth .phone body.phone) last.world).world.findUser row.id with
      | none =>
          apply ends_pure
          simpa using refusal_bare _ (by simp [res.profileIncomplete, res.err])
      | some user =>
          apply ends_pure
          simpa using refusal_bare _ (by simp [res.userExists, res.err])
  | none =>
      have free := (run.world.find_auth_none _ _).mp found
      have drawn : last.ticks 0 = run.clock 3 := clock 1
      -- The phone has no account, so nothing clashes with the new one.
      have fresh : ∀ old ∈ last.world.auth.rows, ¬ Auth.Clash old
          { id := (last.ticks 0).id, provider := .phone, identifier := body.phone,
            email := none } := by
        intro old member clash
        rw [tables.auth] at member
        rw [drawn] at clash
        rcases clash with same | same | ⟨present, same⟩
        · exact ready.ids 3 old member same
        · exact free old member same
        · exact present same
      apply ends_reading createId Tick.id fun _ => rfl
      apply ends_create steady'
      · intro error refused
        obtain ⟨after, inserted⟩ := last.world.insert_auth_ok _ fresh
        have clash := inserted.symm.trans refused
        cases clash
      · intro final onward _ opened
        have present : final.tick = run.clock 5 := (onward.clock 0).trans (clock 3)
        apply ends_session onward.steady
        · intro row member
          rw [opened.tokens, moved_world, tables.tokens] at member
          rw [present]
          exact ready.sessions 5 row member
        · exact ⟨_, by rw [opened.auth]; exact List.mem_append_right _ (List.mem_singleton_self _),
            rfl⟩
        · intro closed _ _
          apply ends_pure
          exact ⟨fun _ => rfl, fun _ => ⟨_, _, _, rfl, rfl⟩⟩

theorem sign_in_ends (ready : Ready run phone code) (body : PhoneSignInRequest)
    (own : body.phone = phone) (given : body.code = code) :
    Ends perform (phoneSignIn body) run fun result _ =>
      Tokens result ↔ ∃ row, run.world.findAuth .phone phone = some row ∧
        run.world.findUser row.id ≠ none := by
  subst own given
  apply ends_accepted ready
  intro last steady tables clock
  have lookup : last.world.findAuth .phone body.phone = run.world.findAuth .phone body.phone := by
    simp only [Db.findAuth, tables.auth]
  apply ends_step steady (.selectAuth .phone body.phone) _ _ last.world rfl
  rw [lookup]
  have steady' := steady_moved last steady (.selectAuth .phone body.phone) last.world
  cases found : run.world.findAuth .phone body.phone with
  | none =>
      apply ends_pure
      simpa using refusal_bare _ (by simp [res.userNotFound, res.err])
  | some row =>
      have profile : last.world.findUser row.id = run.world.findUser row.id := by
        simp only [Db.findUser, tables.users]
      apply ends_step steady' (.selectUser row.id) _ _ last.world rfl
      rw [moved_world, profile]
      cases known : run.world.findUser row.id with
      | none =>
          apply ends_pure
          simpa [known] using refusal_bare _ (by simp [res.profileIncomplete, res.err])
      | some user =>
          have present : last.ticks 1 = run.clock 4 := clock 2
          apply ends_session (steady_moved _ steady' _ _)
          · intro session member
            rw [moved_world, tables.tokens] at member
            rw [moved_tick, moved_ticks, present]
            exact ready.sessions 4 session member
          · refine ⟨row, ?_, rfl⟩
            rw [moved_world, tables.auth]
            exact (run.world.find_auth_mem _ _ row found).1
          · intro closed _ _
            apply ends_pure
            simpa [known] using show Tokens _ from ⟨_, _, _, rfl, rfl⟩

end Attempts

def LetIn (run : Run) (signUp : PhoneSignupRequest) (signIn : PhoneSignInRequest) : Prop :=
  Tokens (exec perform (phoneSignup signUp) run).1 ∨
    Tokens (exec perform (phoneSignIn signIn) run).1

theorem locked_out_row (db : Db) (phone : String) :
    LockedOut db phone ↔ ∃ row, db.findAuth .phone phone = some row ∧
    db.findUser row.id = none := by
  constructor
  · rintro ⟨row, member, provider, identifier, bare⟩
    cases found : db.findAuth .phone phone with
    | none => exact absurd ⟨provider, identifier⟩ ((db.find_auth_none _ _).mp found row member)
    | some other =>
        obtain ⟨stored, kind, name⟩ := db.find_auth_mem _ _ other found
        have same := db.auth_identity_inj row other member stored (provider.trans kind.symm)
          (identifier.trans name.symm)
        subst same
        exact ⟨row, rfl, (db.find_user_none row.id).mpr bare⟩
  · rintro ⟨row, found, bare⟩
    obtain ⟨stored, kind, name⟩ := db.find_auth_mem _ _ row found
    exact ⟨row, stored, kind, name, (db.find_user_none row.id).mp bare⟩

/-- A phone gets in unless it is locked out. -/
theorem let_in_iff (run : Run) (phone code : String) (ready : Ready run phone code)
    (signUp : PhoneSignupRequest) (signIn : PhoneSignInRequest)
    (phones : signUp.phone = phone ∧ signIn.phone = phone)
    (codes : signUp.code = code ∧ signIn.code = code) :
    LetIn run signUp signIn ↔ ¬ LockedOut run.world phone := by
  have up : Tokens (exec perform (phoneSignup signUp) run).1 ↔ _ :=
    sign_up_ends ready signUp phones.1 codes.1
  have back : Tokens (exec perform (phoneSignIn signIn) run).1 ↔ _ :=
    sign_in_ends ready signIn phones.2 codes.2
  rw [LetIn, up, back, locked_out_row]
  cases found : run.world.findAuth .phone phone with
  | none => simp
  | some row => simp

section Runs
open Interleaving Live AccountContract AccountTraces AccountIntegrity AccountCleanups

def JobsDone (state : Live.State) : Prop :=
  ∀ (index : Nat) (task : Task), state.tasks[index]? = some task →
    (∃ job, task.request = .background job) → task.residual.awaiting = none

/-- No sign-up for the phone stands between its auth row and its profile or the
hand-over of its cleanup, and no cleanup of a row of the phone has thrown. -/
structure Whole (state : Live.State) (phone : String) : Prop where
  finished : ∀ index row,
    progress state.trace index = .opened row ∨ progress state.trace index = .unprofiled row →
    ¬ (row.provider = .phone ∧ row.identifier = phone)
  cleaned : ∀ entry ∈ state.trace, ∀ row ∈ entry.before.auth.rows,
    entry.query = .deleteAuth row.id → row.provider = .phone ∧ row.identifier = phone →
    Effective entry

theorem whole_open (env : Env) (state : Live.State) (coherent : (server env).Coherent state)
    (accounted : Accounted state) (done : JobsDone state) (phone : String)
    (whole : Whole state phone) : ¬ LockedOut state.world phone := by
  rintro ⟨row, stored, provider, identifier, bare⟩
  rcases accounted row stored with ⟨user, known, same⟩ | excused
  · exact bare user known same
  · cases excused with
    | opened index made stage same =>
        exact whole.finished index made (Or.inl stage)
          ⟨same.provider.trans provider, same.identifier.trans identifier⟩
    | unprofiled index made stage same =>
        exact whole.finished index made (Or.inr stage)
          ⟨same.provider.trans provider, same.identifier.trans identifier⟩
    | cleaning index task present awaits =>
        have asks := task_asks anyFacts env state coherent index task _
          (fun entry _ => told_any entry.tick entry.query entry.before) present awaits
        have settled := done index task present ⟨_, asks_deletes _ _ _ _ asks⟩
        rw [settled] at awaits
        cases awaits
    | kept entry member deletes threw known =>
        obtain ⟨old, held, same⟩ := known
        obtain ⟨answer, took⟩ := whole.cleaned entry member old held (same.id ▸ deletes)
          ⟨same.provider.trans provider, same.identifier.trans identifier⟩
        obtain ⟨error, threw⟩ := threw
        rw [took] at threw
        cases threw

/-- In every state that a run reaches with its jobs done, a phone gets in exactly
when it is not locked out, and it never is while its sign-ups are whole. -/
theorem phones_let_in (env : Env) (schedule : List Action)
    (honest : ∀ action ∈ schedule, Honest action)
    (done : JobsDone ((server env).run (start Db.empty) schedule)) (phone code : String)
    (run : Run) (tables : SameTables run.world ((server env).run (start Db.empty) schedule).world)
    (ready : Ready run phone code) (signUp : PhoneSignupRequest) (signIn : PhoneSignInRequest)
    (phones : signUp.phone = phone ∧ signIn.phone = phone)
    (codes : signUp.code = code ∧ signIn.code = code) :
    (LetIn run signUp signIn ↔
        ¬ LockedOut ((server env).run (start Db.empty) schedule).world phone) ∧
      (Whole ((server env).run (start Db.empty) schedule) phone → LetIn run signUp signIn) := by
  have decides : LetIn run signUp signIn ↔
      ¬ LockedOut ((server env).run (start Db.empty) schedule).world phone := by
    rw [let_in_iff run phone code ready signUp signIn phones codes, LockedOut, LockedOut,
      tables.auth, tables.users]
  constructor
  · exact decides
  · intro whole
    apply decides.mpr
    exact whole_open env _ (Machine.coherent_run _ _ ((server env).coherent_start _))
      (accounted_run env schedule honest) done phone whole

/-! A sign-up is cut off right after its insert; a later code does not help. -/

def phone : String := "4155550199"

def joining : PhoneSignupRequest :=
  { phone, code := "493021", name := "Ada Lovelace", gender := .female, birthYear := 1985,
    deviceInfo := none }

def returning : PhoneSignInRequest := { phone, code := "493021", deviceInfo := none }

def sends (index : Nat) (purpose : OtpRequestPurpose) (present : Time) (draw : String) :
    List Action :=
  .arrive (.requestOTP { phone, purpose }) (tickAt present draw) ::
    List.replicate 5 (.advance index (tickAt present draw))

/-- The sign-up, its task at place 2, gets as many answers as given. -/
def interrupted (answers : Nat) : List Action :=
  sends 0 .signup 0 "a" ++ .arrive (.phoneSignup joining) (tickAt 0 "b") ::
    List.replicate answers (.advance 2 (tickAt 0 "c"))

def cutOff : List Action := interrupted 4 ++ sends 3 .signup 100000 "d"

def completed : List Action := interrupted 6 ++ sends 3 .login 100000 "d"

def meeting (state : Live.State) : Run :=
  { world := state.world, tick := tickAt 100000 "e",
    ticks := fun _ => tickAt 100000 "e", log := [] }

theorem meeting_ready (state : Live.State)
    (stored : (state.world.findOtp phone).any fun otp =>
      otp.code = "493021" ∧ otp.attempts < OTP_MAX_ATTEMPTS ∧ 100000 ≤ otp.expiresAt)
    (ids : ∀ row ∈ state.world.auth.rows, row.id ≠ "e")
    (sessions : ∀ row ∈ state.world.tokens.rows, row.id ≠ "e" ∧ row.token ≠ "e") :
    Ready (meeting state) phone "493021" := by
  have clock : ∀ n, (meeting state).clock n = tickAt 100000 "e" := by
    intro n
    cases n <;> rfl
  constructor
  · exact fun _ => rfl
  · cases found : state.world.findOtp phone with
    | none => simp [found] at stored
    | some otp => exact ⟨otp, found, by simpa [found, meeting, tickAt] using stored⟩
  · intro n
    rw [clock n]
    exact ids
  · intro n
    rw [clock n]
    exact sessions

theorem jobs_done_all (state : Live.State)
    (all : ∀ task ∈ state.tasks, external task.request = false → task.residual.awaiting = none) :
    JobsDone state := by
  rintro index task present ⟨job, background⟩
  exact all task (List.mem_of_getElem? present) (by rw [background]; rfl)

theorem whole_settled (env : Env) (state : Live.State) (coherent : (server env).Coherent state)
    (settled : ∀ task ∈ state.tasks, task.residual.awaiting = none)
    (undeleted : ∀ entry ∈ state.trace, ∀ row ∈ entry.before.auth.rows,
      entry.query ≠ .deleteAuth row.id) (phone : String) : Whole state phone := by
  constructor
  · intro index row stage
    have ends := settled_ends env state coherent index fun task present =>
      settled task (List.mem_of_getElem? present)
    rcases stage with stage | stage <;> rw [stage] at ends <;> cases ends
  · exact fun entry member row stored deletes => absurd deletes (undeleted entry member row stored)

def leaves (schedule : List Action) : Live.State := (server sampleEnv).run (start Db.empty) schedule

theorem leaves_coherent (schedule : List Action) :
    (server sampleEnv).Coherent (leaves schedule) :=
  Machine.coherent_run _ _ ((server sampleEnv).coherent_start _)

theorem completed_settled : ∀ task ∈ (leaves completed).tasks, task.residual.awaiting = none := by
  decide

theorem completed_ready : Ready (meeting (leaves completed)) phone "493021" := by
  apply meeting_ready
  · decide
  · decide
  · decide

theorem completed_whole : Whole (leaves completed) phone := by
  apply whole_settled sampleEnv (leaves completed) (leaves_coherent completed) completed_settled
  decide

theorem phones_let_in_completed :
    Whole (leaves completed) phone ∧ LetIn (meeting (leaves completed)) joining returning :=
  ⟨completed_whole, (phones_let_in sampleEnv completed (by decide)
    (jobs_done_all (leaves completed) fun task present _ => completed_settled task present) phone
    "493021" (meeting (leaves completed)) (.refl _) completed_ready joining returning ⟨rfl, rfl⟩
    ⟨rfl, rfl⟩).2 completed_whole⟩

def carriesTokens : Except DbError Response → Bool
  | .ok { body := .tokens _ _, .. } => true
  | _ => false

theorem carries_tokens (result : Except DbError Response) (bare : carriesTokens result = false) :
    ¬ Tokens result := by
  rintro ⟨⟨status, body⟩, access, refresh, rfl, rfl⟩
  cases bare

theorem cut_off_ready : Ready (meeting (leaves cutOff)) phone "493021" := by
  apply meeting_ready
  · decide
  · decide
  · decide

/-- The number of a sign-up that was cut off gets in no more. -/
theorem phone_locked_out :
    (∀ action ∈ cutOff, Honest action) ∧
      JobsDone ((server sampleEnv).run (start Db.empty) cutOff) ∧
      Ready (meeting ((server sampleEnv).run (start Db.empty) cutOff)) phone "493021" ∧
      ¬ LetIn (meeting ((server sampleEnv).run (start Db.empty) cutOff)) joining returning := by
  constructor
  · decide
  · constructor
    · exact jobs_done_all (leaves cutOff) (by decide)
    · constructor
      · exact cut_off_ready
      · rintro (tokens | tokens)
        · exact carries_tokens _ (by decide) tokens
        · exact carries_tokens _ (by decide) tokens

end Runs
end TopInspect.PhoneLockout
