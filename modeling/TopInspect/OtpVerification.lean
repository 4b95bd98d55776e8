import TopInspect.AuthHandlers

/-! How a one-time code is checked. The read of the stored row decides a verdict,
and everything verifyOTPCode does afterwards follows from the verdict alone. The
statements on the otps table are thereby placed in the runs of the handlers:
which handler can issue them, after which reads and with which values. -/
namespace TopInspect.OtpVerification

open Resumption Interleaving AuthSchema AuthStatements AuthHandlers AUTH_CONFIG

inductive Verdict where
  | missing
  | expired
  | exhausted
  | wrong (newAttempts : Nat)
  | right
  deriving DecidableEq

def judge (code : String) (present : Time) : Option Otp → Verdict
  | none => .missing
  | some otp =>
      if otp.expiresAt < present then .expired
      else if OTP_MAX_ATTEMPTS ≤ otp.attempts then .exhausted
      else if otp.code ≠ code then .wrong (otp.attempts + 1)
      else .right

/-- A deletion that ends a verification with a known result. -/
def dropRow (phone : String) (result : OtpVerificationResult) : Handler OtpVerificationResult := do
  let _ ← deleteOtp phone
  return result

def conclude (phone : String) : Verdict → Handler OtpVerificationResult
  | .missing => pure (.failure .OTP_NOT_FOUND "No OTP found for this phone number")
  | .expired => dropRow phone (.failure .OTP_EXPIRED "OTP has expired")
  | .exhausted =>
      dropRow phone (.failure .OTP_MAX_ATTEMPTS
        "Too many failed attempts. Please request a new OTP.")
  | .wrong newAttempts => do
      let _ ← updateOtpAttempts phone newAttempts
      if OTP_MAX_ATTEMPTS ≤ newAttempts then
        dropRow phone (.failure .OTP_MAX_ATTEMPTS
          "Too many failed attempts. Please request a new OTP.")
      else
        return .failure .OTP_INVALID "Invalid OTP! Please check and try again."
  | .right => dropRow phone .success

theorem verify_judges (phone code : String) :
    verifyOTPCode phone code = (do
      let stored ← selectOtp phone
      let present ← now
      conclude phone (judge code present stored)) := by
  unfold verifyOTPCode
  congr 1
  funext stored
  cases stored with
  | none => rfl
  | some otp =>
      funext tick
      simp only [judge, bind, Residual.bindAt, now, currentTick, pure]
      by_cases late : otp.expiresAt < tick.now
      · simp [late, conclude]
        rfl
      · by_cases spent : OTP_MAX_ATTEMPTS ≤ otp.attempts
        · simp [late, spent, conclude]
          rfl
        · by_cases other : otp.code = code
          · simp [late, spent, other, conclude]
            rfl
          · simp [late, spent, other, conclude, bind, pure]
            rfl

theorem judge_wrong (code : String) (present : Time) (stored : Option Otp) (newAttempts : Nat) :
    judge code present stored = .wrong newAttempts ↔
      ∃ otp, stored = some otp ∧ ¬ otp.expiresAt < present ∧ otp.attempts < OTP_MAX_ATTEMPTS ∧
        otp.code ≠ code ∧ newAttempts = otp.attempts + 1 := by
  cases stored with
  | none => simp [judge]
  | some otp =>
      simp only [judge, Option.some.injEq, exists_eq_left']
      split_ifs with late spent other
      · simp [late]
      · simp [Nat.not_lt.mpr spent]
      · simp [late, Nat.not_le.mp spent, other, eq_comm]
      · simp [other]

theorem judge_right (code : String) (present : Time) (stored : Option Otp) :
    judge code present stored = .right ↔
      ∃ otp, stored = some otp ∧ ¬ otp.expiresAt < present ∧ otp.attempts < OTP_MAX_ATTEMPTS ∧
        otp.code = code := by
  cases stored with
  | none => simp [judge]
  | some otp =>
      simp only [judge, Option.some.injEq, exists_eq_left']
      split_ifs with late spent other
      · simp [late]
      · simp [Nat.not_lt.mpr spent]
      · simp [other]
      · simpa [late, Nat.not_le.mp spent] using other

/-! The statements of one verification, in order. -/

def Reads (phone : String) (event : Step) : Prop :=
  event.query = .selectOtp phone ∧ event.tick.outage = .none

instance (phone : String) : DecidablePred (Reads phone) := fun event =>
  inferInstanceAs (Decidable (event.query = .selectOtp phone ∧ event.tick.outage = .none))

def Step.verdict (phone code : String) (event : Step) : Verdict :=
  judge code event.tick.now (event.before.findOtp phone)

theorem select_ok (tick : Tick) (phone : String) (db : Db) (stored : Option Otp)
    (answered : (perform tick (.selectOtp phone) db).1 = .ok stored) :
    tick.outage = .none ∧ stored = db.findOtp phone := by
  have executed := perform_ok tick (.selectOtp phone) db stored answered
  have same : stored = db.findOtp phone := by
    simp only [execute, Except.ok.injEq, Prod.mk.injEq] at executed
    exact executed.1.symm
  exact ⟨answered_steady _ _ _ _ (by simp) answered, same⟩

/-- The parts of a verification: its read, then its verdict's statements. -/
theorem verify_follows (phone code : String) (tick : Tick) (history : List Step)
    (last : Residual Statement Statement.Answer DbError Tick OtpVerificationResult)
    (follows : Follows perform (verifyOTPCode phone code tick) history last) :
    (history = [] ∧ last.awaiting = some (.selectOtp phone)) ∨
      (∃ error, last = .throw error) ∨
      ∃ select rest, history = select :: rest ∧ Reads phone select ∧
        Follows perform (conclude phone (Step.verdict phone code select) select.tick) rest
        last := by
  rw [verify_judges] at follows
  rcases follows_call perform (.selectOtp phone) _ tick history last follows with
    start | ⟨select, rest, rfl, asked, ⟨error, -, -, rfl⟩ | ⟨stored, answered, follows⟩⟩
  · exact Or.inl start
  · exact Or.inr (Or.inl ⟨error, rfl⟩)
  · obtain ⟨steady, same⟩ := select_ok select.tick phone select.before stored answered
    subst same
    exact Or.inr (Or.inr ⟨select, rest, rfl, ⟨asked, steady⟩, follows⟩)

theorem delete_follows (phone : String) (result : OtpVerificationResult) (tick : Tick)
    (history : List Step)
    (last : Residual Statement Statement.Answer DbError Tick OtpVerificationResult)
    (follows : Follows perform (dropRow phone result tick) history last) :
    (history = [] ∧ last.awaiting = some (.deleteOtp phone)) ∨
      (∃ delete error, history = [delete] ∧ delete.query = .deleteOtp phone ∧
        last = .throw error) ∨
      ∃ delete, history = [delete] ∧ delete.query = .deleteOtp phone ∧
        delete.tick.outage = .none ∧ last = .done result := by
  rcases follows_call perform (.deleteOtp phone) _ tick history last follows with
    start | ⟨delete, rest, rfl, asked, ⟨error, -, rfl, rfl⟩ | ⟨count, answered, follows⟩⟩
  · exact Or.inl start
  · exact Or.inr (Or.inl ⟨delete, error, rfl, asked, rfl⟩)
  · obtain ⟨rfl, rfl⟩ := follows_settled perform _ last rest rfl follows
    refine Or.inr (Or.inr ⟨delete, rfl, asked, ?_, rfl⟩)
    cases outage : delete.tick.outage <;> simp_all [perform, Tick.fate, execute]

/-- The statement a verification awaits tells what it has read. -/
inductive Awaits (phone code : String) : List Step → Statement → Prop where
  | read : Awaits phone code [] (.selectOtp phone)
  | update (select : Step) (newAttempts : Nat) (reads : Reads phone select)
      (verdict : Step.verdict phone code select = .wrong newAttempts) :
      Awaits phone code [select] (.updateOtpAttempts phone newAttempts)
  | discard (select : Step) (reads : Reads phone select)
      (verdict : Step.verdict phone code select = .expired ∨
        Step.verdict phone code select = .exhausted) :
      Awaits phone code [select] (.deleteOtp phone)
  | consume (select : Step) (reads : Reads phone select)
      (verdict : Step.verdict phone code select = .right) :
      Awaits phone code [select] (.deleteOtp phone)
  | retire (select update : Step) (newAttempts : Nat) (reads : Reads phone select)
      (verdict : Step.verdict phone code select = .wrong newAttempts)
      (updated : update.query = .updateOtpAttempts phone newAttempts)
      (spent : OTP_MAX_ATTEMPTS ≤ newAttempts) :
      Awaits phone code [select, update] (.deleteOtp phone)

theorem delete_awaits (phone : String) (result : OtpVerificationResult) (tick : Tick)
    (history : List Step)
    (last : Residual Statement Statement.Answer DbError Tick OtpVerificationResult)
    (statement : Statement)
    (follows : Follows perform (dropRow phone result tick) history last)
    (awaits : last.awaiting = some statement) :
    history = [] ∧ statement = .deleteOtp phone := by
  rcases delete_follows phone result tick history last follows with
    ⟨rfl, awaiting⟩ | ⟨delete, error, -, -, rfl⟩ | ⟨delete, -, -, -, rfl⟩
  · exact ⟨rfl, Option.some.inj (awaits.symm.trans awaiting)⟩
  · simp [Residual.awaiting] at awaits
  · simp [Residual.awaiting] at awaits

theorem verify_awaits (phone code : String) (tick : Tick) (history : List Step)
    (last : Residual Statement Statement.Answer DbError Tick OtpVerificationResult)
    (statement : Statement)
    (follows : Follows perform (verifyOTPCode phone code tick) history last)
    (awaits : last.awaiting = some statement) : Awaits phone code history statement := by
  rcases verify_follows phone code tick history last follows with
    ⟨rfl, awaiting⟩ | ⟨error, rfl⟩ | ⟨select, rest, rfl, reads, follows⟩
  · rw [Option.some.inj (awaits.symm.trans awaiting)]
    exact .read
  · simp [Residual.awaiting] at awaits
  · cases verdict : Step.verdict phone code select with
    | missing =>
        rw [verdict] at follows
        obtain ⟨-, rfl⟩ := follows_settled perform _ last rest rfl follows
        simp [conclude, pure, Residual.awaiting] at awaits
    | expired =>
        rw [verdict] at follows
        obtain ⟨rfl, rfl⟩ := delete_awaits phone _ select.tick rest last statement follows awaits
        exact .discard select reads (Or.inl verdict)
    | exhausted =>
        rw [verdict] at follows
        obtain ⟨rfl, rfl⟩ := delete_awaits phone _ select.tick rest last statement follows awaits
        exact .discard select reads (Or.inr verdict)
    | right =>
        rw [verdict] at follows
        obtain ⟨rfl, rfl⟩ := delete_awaits phone _ select.tick rest last statement follows awaits
        exact .consume select reads verdict
    | wrong newAttempts =>
        rw [verdict] at follows
        rcases follows_call perform (.updateOtpAttempts phone newAttempts) _ select.tick rest last
          follows with
          ⟨rfl, awaiting⟩ | ⟨update, later, rfl, asked, ⟨error, -, -, rfl⟩ | ⟨count, -, follows⟩⟩
        · rw [Option.some.inj (awaits.symm.trans awaiting)]
          exact .update select newAttempts reads verdict
        · simp [Residual.awaiting] at awaits
        · by_cases spent : OTP_MAX_ATTEMPTS ≤ newAttempts
          · simp only [spent, if_true] at follows
            obtain ⟨rfl, rfl⟩ :=
              delete_awaits phone _ update.tick later last statement follows awaits
            exact .retire select update newAttempts reads verdict asked spent
          · simp only [spent, if_false] at follows
            obtain ⟨-, rfl⟩ := follows_settled perform _ last later rfl follows
            simp [pure, Residual.awaiting] at awaits

theorem verify_success (phone code : String) (tick : Tick) (history : List Step)
    (follows : Follows perform (verifyOTPCode phone code tick) history (.done .success)) :
    ∃ select delete, history = [select, delete] ∧ Reads phone select ∧
      Step.verdict phone code select = .right ∧ delete.query = .deleteOtp phone ∧
      delete.tick.outage = .none := by
  rcases verify_follows phone code tick history _ follows with
    ⟨-, awaiting⟩ | ⟨error, impossible⟩ | ⟨select, rest, rfl, reads, follows⟩
  · simp [Residual.awaiting] at awaiting
  · cases impossible
  · cases verdict : Step.verdict phone code select with
    | missing =>
        rw [verdict] at follows
        obtain ⟨-, same⟩ := follows_settled perform _ _ rest rfl follows
        simp [conclude, pure] at same
    | expired =>
        rw [verdict] at follows
        rcases delete_follows phone _ select.tick rest _ follows with
          ⟨-, awaiting⟩ | ⟨_, _, -, -, same⟩ | ⟨-, -, -, -, same⟩ <;> simp_all [Residual.awaiting]
    | exhausted =>
        rw [verdict] at follows
        rcases delete_follows phone _ select.tick rest _ follows with
          ⟨-, awaiting⟩ | ⟨_, _, -, -, same⟩ | ⟨-, -, -, -, same⟩ <;> simp_all [Residual.awaiting]
    | right =>
        rw [verdict] at follows
        rcases delete_follows phone _ select.tick rest _ follows with
          ⟨-, awaiting⟩ | ⟨_, _, -, -, same⟩ | ⟨delete, rfl, asked, steady, -⟩
        · simp [Residual.awaiting] at awaiting
        · cases same
        · exact ⟨select, delete, rfl, reads, verdict, asked, steady⟩
    | wrong newAttempts =>
        rw [verdict] at follows
        rcases follows_call perform (.updateOtpAttempts phone newAttempts) _ select.tick rest _
          follows with
          ⟨-, awaiting⟩ | ⟨update, later, -, -, ⟨error, -, -, same⟩ | ⟨count, -, follows⟩⟩
        · simp [Residual.awaiting] at awaiting
        · cases same
        · by_cases spent : OTP_MAX_ATTEMPTS ≤ newAttempts
          · simp only [spent, if_true] at follows
            rcases delete_follows phone _ update.tick later _ follows with
              ⟨-, awaiting⟩ | ⟨_, _, -, -, same⟩ | ⟨-, -, -, -, same⟩ <;>
              simp_all [Residual.awaiting]
          · simp only [spent, if_false] at follows
            obtain ⟨-, same⟩ := follows_settled perform _ _ later rfl follows
            simp [pure] at same

/-! Which handler can issue which statement on the otps table. -/

def TouchesOtps : Statement → Prop
  | .selectOtp _ => True
  | .upsertOtp _ => True
  | .updateOtpAttempts _ _ => True
  | .deleteOtp _ => True
  | _ => False

/-- Statements on the otps table, and the deletion of an account. No handler
comes to them once it is past a verification. -/
def OutsideAccounts : Statement → Prop
  | .selectOtp _ => True
  | .upsertOtp _ => True
  | .updateOtpAttempts _ _ => True
  | .deleteOtp _ => True
  | .deleteAuth _ => True
  | _ => False

theorem touches_outside (statement : Statement) (touches : TouchesOtps statement) :
    OutsideAccounts statement := by
  cases statement <;> trivial

def verification : Request → Option (String × String)
  | .phoneSignup body => some (body.phone, body.code)
  | .phoneSignIn body => some (body.phone, body.code)
  | _ => none

/-- The statements that a send may issue. -/
def OfSend (phone : String) : Statement → Prop
  | .selectOtp other => other = phone
  | .selectAuth provider identifier => provider = .phone ∧ identifier = phone
  | .selectUser _ => True
  | .upsertOtp row => row.phone = phone ∧ row.attempts = 0
  | .waitUntil (.sendOTP recipient _) => recipient = phone
  | _ => False

section Avoidance
variable {kind : Statement → Prop}

theorem issue_tokens_avoids (authId : String) (deviceInfo : Option DeviceInfo)
    (other : ∀ id token expiresAt, ¬ kind (.insertToken id authId token expiresAt deviceInfo)) :
    Avoids kind (issueTokens authId deviceInfo) := by
  intro tick
  exact ⟨other _ _ _, fun result now => by cases result <;> trivial⟩

theorem create_profile_avoids (newAuth : Auth) (name : String) (gender : Gender)
    (birthYear : Int) (insert : ∀ row, ¬ kind (.insertUser row))
    (defer : ∀ job, ¬ kind (.waitUntil job)) :
    Avoids kind (createProfile newAuth name gender birthYear) :=
  avoids_catch _ _ (avoids_call _ (insert _)) fun error =>
    avoids_bind _ _ (avoids_call _ (defer _)) fun _ => avoids_throw error

theorem drop_row_avoids (phone : String) (result : OtpVerificationResult)
    (delete : ¬ kind (.deleteOtp phone)) : Avoids kind (dropRow phone result) :=
  avoids_bind _ _ (avoids_call _ delete) fun _ => avoids_pure _

theorem verify_avoids (phone code : String) (select : ¬ kind (.selectOtp phone))
    (update : ∀ attempts, ¬ kind (.updateOtpAttempts phone attempts))
    (delete : ¬ kind (.deleteOtp phone)) : Avoids kind (verifyOTPCode phone code) := by
  rw [verify_judges]
  refine avoids_bind _ _ (avoids_call _ select) fun stored => ?_
  refine avoids_bind _ _ (fun _ => trivial) fun present => ?_
  cases judge code present stored with
  | missing => exact avoids_pure _
  | expired => exact drop_row_avoids phone _ delete
  | exhausted => exact drop_row_avoids phone _ delete
  | right => exact drop_row_avoids phone _ delete
  | wrong newAttempts =>
      refine avoids_bind _ _ (avoids_call _ (update newAttempts)) fun _ => ?_
      exact avoids_ite _ _ _ (drop_row_avoids phone _ delete) (avoids_pure _)

end Avoidance

theorem complete_signup_avoids (body : PhoneSignupRequest) :
    Avoids OutsideAccounts (completeSignup body) := by
  refine avoids_bind _ _ (avoids_call _ id) fun found => ?_
  cases found with
  | some existingAuth =>
      refine avoids_bind _ _ (avoids_call _ id) fun profile => ?_
      cases profile <;> exact avoids_pure _
  | none =>
      refine avoids_bind _ _ (fun _ => trivial) fun id => ?_
      refine avoids_bind _ _ (avoids_call _ not_false) fun newAuth => ?_
      refine avoids_bind _ _ (create_profile_avoids _ _ _ _ (fun _ => not_false)
        fun _ => not_false) fun _ => ?_
      exact avoids_bind _ _ (issue_tokens_avoids _ _ fun _ _ _ => not_false) fun _ =>
        avoids_pure _

theorem complete_sign_in_avoids (body : PhoneSignInRequest) :
    Avoids OutsideAccounts (completeSignIn body) := by
  refine avoids_bind _ _ (avoids_call _ id) fun found => ?_
  cases found with
  | none => exact avoids_pure _
  | some existingAuth =>
      refine avoids_bind _ _ (avoids_call _ id) fun profile => ?_
      cases profile with
      | none => exact avoids_pure _
      | some user =>
          exact avoids_bind _ _ (issue_tokens_avoids _ _ fun _ _ _ => not_false) fun _ =>
            avoids_pure _

theorem open_session_avoids (existingAuth : Auth) (email : String)
    (deviceInfo : Option DeviceInfo) :
    Avoids OutsideAccounts (openSession existingAuth email deviceInfo) := by
  refine avoids_bind _ _ (avoids_call _ id) fun profile => ?_
  cases profile with
  | none => exact avoids_pure _
  | some user =>
      have fill : Avoids OutsideAccounts (fillEmail existingAuth email) :=
        avoids_ite _ _ _ (avoids_pure _)
          (avoids_bind _ _ (avoids_call _ id) fun _ => avoids_pure _)
      refine avoids_bind _ _ fill fun _ => ?_
      exact avoids_bind _ _ (issue_tokens_avoids _ _ fun _ _ _ => not_false) fun _ =>
        avoids_pure _

theorem oauth_sign_in_avoids (env : Env) (provider : OAuthProvider) (body : OAuthSignInRequest) :
    Avoids OutsideAccounts (createOAuthSignInHandler env provider body) := by
  refine avoids_bind _ _ (fun _ => trivial) fun present => ?_
  cases verifyOAuthJWT env present body.idToken (OAUTH_VERIFIER_CONFIGS provider) with
  | error thrown => exact avoids_pure _
  | ok claims =>
      dsimp only
      cases truthy claims.email with
      | none => exact avoids_pure _
      | some email =>
          cases truthy claims.sub with
          | none => exact avoids_pure _
          | some providerId =>
              refine avoids_bind _ _ (avoids_call _ id) fun found => ?_
              cases found with
              | some existingAuth => exact open_session_avoids existingAuth email body.deviceInfo
              | none =>
                  refine avoids_bind _ _ (avoids_call _ id) fun holder => ?_
                  cases emailConflict provider holder <;> exact avoids_pure _

theorem oauth_signup_avoids (env : Env) (body : OAuthSignupRequest) :
    Avoids OutsideAccounts (oauthSignup env body) := by
  refine avoids_bind _ _ (avoids_call _ id) fun found => ?_
  cases found with
  | some existingAuth => exact open_session_avoids existingAuth body.email body.deviceInfo
  | none =>
      refine avoids_bind _ _ (avoids_call _ id) fun holder => ?_
      cases emailConflict body.provider holder with
      | some refusal => exact avoids_pure _
      | none =>
          refine avoids_bind _ _ (fun _ => trivial) fun id => ?_
          refine avoids_bind _ _ (avoids_call _ not_false) fun newAuth => ?_
          refine avoids_bind _ _ (create_profile_avoids _ _ _ _ (fun _ => not_false)
            fun _ => not_false) fun _ => ?_
          refine avoids_bind _ _ (issue_tokens_avoids _ _ fun _ _ _ => not_false) fun _ => ?_
          exact avoids_bind _ _ (avoids_call _ not_false) fun _ => avoids_pure _

theorem refresh_tokens_avoids (body : RefreshTokensRequest) :
    Avoids OutsideAccounts (refreshTokens body) := by
  refine avoids_bind _ _ (avoids_call _ id) fun found => ?_
  cases found with
  | none => exact avoids_pure _
  | some token =>
      refine avoids_bind _ _ (fun _ => trivial) fun present => ?_
      refine avoids_ite _ _ _ (avoids_pure _) (avoids_bind _ _ (avoids_call _ id) fun owner => ?_)
      cases owner with
      | none => exact avoids_pure _
      | some row =>
          refine avoids_bind _ _ (fun _ => trivial) fun recent => ?_
          refine avoids_ite _ _ _ (avoids_pure _) ?_
          refine avoids_bind _ _ (fun _ => trivial) fun newRefreshToken => ?_
          refine avoids_bind _ _ (fun _ => trivial) fun expiresAt => ?_
          refine avoids_bind _ _ (fun _ => trivial) fun lastUsedAt => ?_
          refine avoids_bind _ _ (avoids_call _ id) fun _ => ?_
          exact avoids_bind _ _ (fun _ => trivial) fun _ => avoids_pure _

theorem logout_avoids (body : LogoutRequest) : Avoids OutsideAccounts (logout body) := by
  refine avoids_bind _ _ (avoids_call _ id) fun found => ?_
  cases found with
  | none => exact avoids_pure _
  | some token =>
      refine avoids_ite _ _ _ (avoids_pure _) ?_
      refine avoids_bind _ _ (fun _ => trivial) fun revokedAt => ?_
      exact avoids_bind _ _ (avoids_call _ id) fun _ => avoids_pure _

theorem run_job_avoids (job : Job) : Avoids TouchesOtps (runJob job) := by
  cases job with
  | deleteAuth id => exact avoids_bind _ _ (avoids_call _ not_false) fun _ => avoids_pure _
  | sendOTP phone otp => exact avoids_pure _
  | sendEmail recipient subject template => exact avoids_pure _

theorem request_otp_avoids (body : OtpRequest) :
    Avoids (fun statement => ¬ OfSend body.phone statement) (requestOTP body) := by
  refine avoids_bind _ _ (avoids_call _ (by simp [OfSend])) fun recentOTP => ?_
  refine avoids_bind _ _ (fun _ => trivial) fun threshold => ?_
  refine avoids_ite _ _ _ (avoids_pure _) ?_
  refine avoids_bind _ _ (avoids_call _ (by simp [OfSend])) fun existingAuth => ?_
  have profile : Avoids (fun statement => ¬ OfSend body.phone statement)
      (profileExists existingAuth) := by
    cases existingAuth with
    | none => exact avoids_pure _
    | some row => exact avoids_bind _ _ (avoids_call _ (by simp [OfSend])) fun _ => avoids_pure _
  refine avoids_bind _ _ profile fun userExists => ?_
  refine avoids_ite _ _ _ (avoids_pure _) (avoids_ite _ _ _ (avoids_pure _) ?_)
  refine avoids_bind _ _ (fun _ => trivial) fun otpCode => ?_
  refine avoids_bind _ _ (fun _ => trivial) fun expiresAt => ?_
  refine avoids_bind _ _ (fun _ => trivial) fun createdAt => ?_
  refine avoids_catch _ _ ?_ fun _ => avoids_pure _
  refine avoids_bind _ _ (avoids_call _ (by simp [OfSend])) fun _ => ?_
  exact avoids_bind _ _ (avoids_call _ (by simp [OfSend])) fun _ => avoids_pure _

/-- A verifying handler starts with the verification and never returns to the
table once it is over. -/
theorem verification_first (env : Env) (request : Request) (phone code : String)
    (verifies : verification request = some (phone, code)) :
    ∃ rest : OtpVerificationResult → Handler (Option Response),
      handler env request = verifyOTPCode phone code >>= rest ∧
      ∀ result, Avoids TouchesOtps (rest result) := by
  cases request with
  | phoneSignup body =>
      cases verifies
      refine ⟨_, map_bind some _ _, fun result => ?_⟩
      cases result with
      | success =>
          exact avoids_mono touches_outside _ (avoids_map some (complete_signup_avoids body))
      | failure errorCode error => exact avoids_pure _
  | phoneSignIn body =>
      cases verifies
      refine ⟨_, map_bind some _ _, fun result => ?_⟩
      cases result with
      | success =>
          exact avoids_mono touches_outside _ (avoids_map some (complete_sign_in_avoids body))
      | failure errorCode error => exact avoids_pure _
  | requestOTP body => cases verifies
  | oauthSignIn provider body => cases verifies
  | oauthSignup body => cases verifies
  | refreshTokens body => cases verifies
  | logout body => cases verifies
  | background job => cases verifies

theorem others_avoid (env : Env) (request : Request) (silent : verification request = none)
    (other : ∀ body, request ≠ .requestOTP body) : Avoids TouchesOtps (handler env request) := by
  cases request with
  | requestOTP body => exact absurd rfl (other body)
  | phoneSignup body => cases silent
  | phoneSignIn body => cases silent
  | oauthSignIn provider body =>
      exact avoids_mono touches_outside _ (avoids_map some (oauth_sign_in_avoids env provider body))
  | oauthSignup body =>
      exact avoids_mono touches_outside _ (avoids_map some (oauth_signup_avoids env body))
  | refreshTokens body =>
      exact avoids_mono touches_outside _ (avoids_map some (refresh_tokens_avoids body))
  | logout body => exact avoids_mono touches_outside _ (avoids_map some (logout_avoids body))
  | background job => exact avoids_map _ (run_job_avoids job)

theorem otp_statement (env : Env) (request : Request) (tick : Tick) (history : List Step)
    (last : Residual Statement Statement.Answer DbError Tick (Option Response))
    (statement : Statement) (follows : Follows perform (handler env request tick) history last)
    (awaits : last.awaiting = some statement) (touches : TouchesOtps statement) :
    (∃ phone code, verification request = some (phone, code) ∧
      Awaits phone code history statement) ∨
    ∃ body, request = .requestOTP body ∧ OfSend body.phone statement := by
  cases verifies : verification request with
  | some pair =>
      obtain ⟨phone, code⟩ := pair
      obtain ⟨rest, same, avoids⟩ := verification_first env request phone code verifies
      rw [same] at follows
      obtain ⟨middle, follows, awaits⟩ := bind_awaits_first perform _ rest avoids tick history last
        statement follows awaits touches
      exact Or.inl ⟨phone, code, rfl,
        verify_awaits phone code tick history middle statement follows awaits⟩
  | none =>
      by_cases send : ∃ body, request = .requestOTP body
      · obtain ⟨body, rfl⟩ := send
        obtain ⟨middle, follows, awaits⟩ :=
          map_awaits perform _ some tick history last statement follows awaits
        have avoids :=
          (avoids_follows perform _ middle history (request_otp_avoids body tick) follows).1
        have other := avoids_awaiting middle statement avoids awaits
        exact Or.inr ⟨body, rfl, by_contra other⟩
      · have avoids := others_avoid env request verifies fun body same => send ⟨body, same⟩
        have other := (avoids_follows perform _ last history (avoids tick) follows).1
        exact absurd touches (avoids_awaiting last statement other awaits)

theorem verification_read (env : Env) (request : Request) (phone code : String)
    (verifies : verification request = some (phone, code)) (tick : Tick) (select : Step)
    (reads : Reads phone select)
    (last : Residual Statement Statement.Answer DbError Tick (Option Response))
    (follows : Follows perform (handler env request tick) [select] last) :
    ∃ rest : OtpVerificationResult → Handler (Option Response),
      last = (conclude phone (Step.verdict phone code select) select.tick).bindAt rest select.tick ∧
      ∀ result, Avoids TouchesOtps (rest result) := by
  obtain ⟨rest, same, avoids⟩ := verification_first env request phone code verifies
  refine ⟨rest, ?_, avoids⟩
  have answered : perform select.tick (.selectOtp phone) select.before =
      (.ok (select.before.findOtp phone), select.before) :=
    perform_steady select.tick (.selectOtp phone) select.before _ _ reads.2 rfl
  have read : Follows perform (verifyOTPCode phone code tick) [select]
      (conclude phone (Step.verdict phone code select) select.tick) := by
    rw [verify_judges]
    refine ⟨reads.1, ?_⟩
    rw [answered]
    exact (follows_nil _ _ _).mpr rfl
  rw [same] at follows
  exact follows_unique perform _ _ _ [select] follows
    (bind_follows perform rest _ _ tick [select] read)

end TopInspect.OtpVerification
