import TopInspect.AuthExecution
import TopInspect.OtpVerification

/-! One-time codes served one request at a time: what a send and a verification
make of the stored row, statement outages included. -/
namespace TopInspect.OtpServing

open Resumption AuthSchema AuthStatements AuthHandlers AUTH_CONFIG AuthExecution OtpVerification
open Serial hiding Run Served State Turn

def upserted : Statement → Option Otp
  | .upsertOtp row => some row
  | _ => none

def storedRow (phone : String) (event : Step) : Option Otp :=
  (upserted event.query).filter fun row => row.phone = phone ∧ event.tick.outage = .none

def issued (phone : String) (log : List Step) : Option Otp := log.findSome? (storedRow phone)

theorem writes_touches (statement : Statement) (writes : WritesOtps statement) :
    TouchesOtps statement := by
  cases statement with
  | upsertOtp row => trivial
  | updateOtpAttempts phone attempts => trivial
  | deleteOtp phone => trivial
  | _ => exact absurd writes not_false

theorem issued_append (phone : String) (left right : List Step) :
    issued phone (left ++ right) = (issued phone left).or (issued phone right) := by
  simp [issued, List.findSome?_append]

theorem upserted_writes (statement : Statement) (other : ¬ WritesOtps statement) :
    upserted statement = none := by
  cases statement with
  | upsertOtp row => exact absurd trivial other
  | _ => rfl

theorem issued_none (phone : String) (log : List Step)
    (silent : ∀ event ∈ log, upserted event.query = none) : issued phone log = none := by
  refine List.findSome?_eq_none_iff.mpr fun event member => ?_
  simp [storedRow, silent event member]

/-! A send decides first, and only then stores. -/

def purposeRefuses (body : OtpRequest) (db : Db) : Bool :=
  let userExists := (db.findAuth .phone body.phone).any fun row => (db.findUser row.id).isSome
  decide (body.purpose = .login ∧ userExists = false) ||
    decide (body.purpose = .signup ∧ userExists = true)

def admission (body : OtpRequest) : Handler (Response ⊕ Bool) := do
  let recentOTP ← selectOtp body.phone
  let threshold ← minutesAgo OTP_COOLDOWN_MINUTES
  if recentOTP.any fun otp => otp.createdAt > threshold then
    return .inl res.otpRateLimited
  let existingAuth ← selectAuth .phone body.phone
  let userExists ← profileExists existingAuth
  if body.purpose = .login ∧ userExists = false then
    return .inl (res.ok (.otp userExists))
  if body.purpose = .signup ∧ userExists = true then
    return .inl (res.userExists "User already exists. Please login instead.")
  return .inr userExists

def freshRow (body : OtpRequest) (tick : Tick) : Otp :=
  { phone := body.phone, code := tick.otpCode, attempts := 0,
    expiresAt := tick.now + minutes OTP_EXPIRY_MINUTES, createdAt := tick.now }

def sendCode (body : OtpRequest) (userExists : Bool) : Handler Response := do
  let tick ← currentTick
  try
    upsertOtp (freshRow body tick)
    waitUntil (.sendOTP body.phone tick.otpCode)
    pure (res.ok (.otp userExists))
  catch _ => pure (res.databaseError "Failed to process OTP request")

theorem request_admits (body : OtpRequest) :
    requestOTP body = (do
      match ← admission body with
      | .inl response => return response
      | .inr userExists => sendCode body userExists) := by
  unfold requestOTP admission
  simp only [bind_assoc]
  congr 1
  funext recentOTP
  congr 1
  funext threshold
  split
  · simp
  · simp only [bind_assoc]
    congr 1
    funext existingAuth
    congr 1
    funext userExists
    split
    · simp
    · split
      · simp
      · simp only [pure_bind]
        rfl

theorem admission_avoids (body : OtpRequest) : Avoids WritesOtps (admission body) := by
  refine avoids_bind _ _ (avoids_call _ not_false) fun recentOTP => ?_
  refine avoids_bind _ _ (fun _ => trivial) fun threshold => ?_
  refine avoids_ite _ _ _ (avoids_pure _) ?_
  refine avoids_bind _ _ (avoids_call _ not_false) fun existingAuth => ?_
  have profile : Avoids WritesOtps (profileExists existingAuth) := by
    cases existingAuth with
    | none => exact avoids_pure _
    | some row => exact avoids_bind _ _ (avoids_call _ not_false) fun _ => avoids_pure _
  refine avoids_bind _ _ profile fun userExists => ?_
  exact avoids_ite _ _ _ (avoids_pure _) (avoids_ite _ _ _ (avoids_pure _) (avoids_pure _))

theorem profile_exec (existingAuth : Option Auth) (run : Run) (userExists : Bool)
    (known : (exec perform (profileExists existingAuth) run).1 = .ok userExists) :
    userExists = existingAuth.any fun row => (run.world.findUser row.id).isSome := by
  cases existingAuth with
  | none =>
      obtain rfl : false = userExists := by simpa [profileExists] using known
      rfl
  | some row =>
      obtain ⟨profile, read, answered, -⟩ := exec_bind_ok perform _ _ run _ known
      obtain ⟨rfl, -⟩ :=
        read_exec (.selectUser row.id) (·.findUser row.id) (fun _ _ => rfl) run _ read
      obtain rfl := Except.ok.inj answered
      rfl

theorem select_exec (phone : String) (run : Run) (stored : Option Otp)
    (read : (exec perform (selectOtp phone) run).1 = .ok stored) :
    stored = run.world.findOtp phone ∧ (exec perform (selectOtp phone) run).2.world = run.world ∧
      (exec perform (selectOtp phone) run).2.tick = run.ticks 0 :=
  read_exec (.selectOtp phone) (·.findOtp phone) (fun _ _ => rfl) run stored read

theorem account_exec (provider : Provider) (identifier : String) (run : Run)
    (existingAuth : Option Auth)
    (read : (exec perform (selectAuth provider identifier) run).1 = .ok existingAuth) :
    existingAuth = run.world.findAuth provider identifier ∧
      (exec perform (selectAuth provider identifier) run).2.world = run.world := by
  obtain ⟨same, kept, -⟩ := read_exec (.selectAuth provider identifier)
    (·.findAuth provider identifier) (fun _ _ => rfl) run existingAuth read
  exact ⟨same, kept⟩

theorem admission_exec (body : OtpRequest) (run : Run) (userExists : Bool)
    (admitted : (exec perform (admission body) run).1 = .ok (.inr userExists)) :
    (∀ otp, run.world.findOtp body.phone = some otp →
      otp.createdAt ≤ (run.ticks 0).now - minutes OTP_COOLDOWN_MINUTES) ∧
    purposeRefuses body run.world = false := by
  obtain ⟨recentOTP, read, admitted, -⟩ := exec_bind_ok perform _ _ run _ admitted
  obtain ⟨rfl, kept, present⟩ := select_exec body.phone run recentOTP read
  generalize (exec perform (selectOtp body.phone) run).2 = after at admitted kept present
  obtain ⟨threshold, clock, admitted, -⟩ := exec_bind_ok perform _ _ after _ admitted
  obtain rfl : after.tick.now - minutes OTP_COOLDOWN_MINUTES = threshold := by
    simpa using clock
  simp only [exec_minutes_ago] at admitted
  rw [exec_ite] at admitted
  split at admitted
  · simp at admitted
  · next calm =>
      refine ⟨fun otp found => ?_, ?_⟩
      · rw [found] at calm
        simpa [present] using calm
      · obtain ⟨existingAuth, account, admitted, -⟩ := exec_bind_ok perform _ _ after _ admitted
        obtain ⟨rfl, same⟩ := account_exec .phone body.phone after existingAuth account
        generalize (exec perform (selectAuth .phone body.phone) after).2 = later at admitted same
        obtain ⟨known, profile, admitted, -⟩ := exec_bind_ok perform _ _ later _ admitted
        have exact_ := profile_exec _ later known profile
        rw [same, kept] at exact_
        rw [exec_ite] at admitted
        split at admitted
        · simp at admitted
        · next login =>
            rw [exec_ite] at admitted
            split at admitted
            · simp at admitted
            · next signup =>
                simp only [purposeRefuses, Bool.or_eq_false_iff, decide_eq_false_iff_not]
                rw [← exact_]
                exact ⟨login, signup⟩

structure Sent (body : OtpRequest) (run : Run) (row : Otp) : Prop where
  phone : row.phone = body.phone
  attempts : row.attempts = 0
  expiresAt : row.expiresAt = row.createdAt + minutes OTP_EXPIRY_MINUTES
  clock : ∃ n, row.createdAt = (run.clock (n + 1)).now
  cooled : ∀ otp, run.world.findOtp body.phone = some otp →
    otp.createdAt ≤ (run.ticks 0).now - minutes OTP_COOLDOWN_MINUTES
  meant : purposeRefuses body run.world = false

theorem wait_until_ran (tick : Tick) (job : Job) (db : Db) :
    perform tick (.waitUntil job) db = (.ok (), db) := rfl

theorem send_runs (body : OtpRequest) (userExists : Bool) (run : Run) :
    exec perform (sendCode body userExists) run =
      match (perform (run.ticks 0) (.upsertOtp (freshRow body run.tick)) run.world).1 with
      | .ok _ => (.ok (res.ok (.otp userExists)),
          (run.after perform (.upsertOtp (freshRow body run.tick))).after perform
            (.waitUntil (.sendOTP body.phone run.tick.otpCode)))
      | .error _ => (.ok (res.databaseError "Failed to process OTP request"),
          run.after perform (.upsertOtp (freshRow body run.tick))) := by
  simp only [sendCode, exec_bind, exec_catch, exec_current_tick, upsertOtp, waitUntil, exec_call,
    exec_pure, wait_until_ran]
  cases (perform (run.ticks 0) (.upsertOtp (freshRow body run.tick)) run.world).1 <;> rfl

theorem send_exec (body : OtpRequest) (userExists : Bool) (run : Run) (phone : String) :
    ∃ history, (exec perform (sendCode body userExists) run).2.log = run.log ++ history ∧
      issued phone history =
        storedRow phone ⟨.upsertOtp (freshRow body run.tick), run.ticks 0, run.world⟩ ∧
      (exec perform (sendCode body userExists) run).2.world =
        (perform (run.ticks 0) (.upsertOtp (freshRow body run.tick)) run.world).2 := by
  rw [send_runs]
  cases (perform (run.ticks 0) (.upsertOtp (freshRow body run.tick)) run.world).1 with
  | error error => exact ⟨[_], rfl, by simp [issued], rfl⟩
  | ok _ =>
      refine ⟨[_, ⟨.waitUntil (.sendOTP body.phone run.tick.otpCode), run.ticks 1, _⟩],
        by simp [Run.after]; exact ⟨rfl, rfl⟩, ?_, rfl⟩
      simp only [issued, List.findSome?_cons, List.findSome?_nil]
      cases storedRow phone
        ⟨.upsertOtp (freshRow body run.tick), run.ticks 0, run.world⟩ <;> rfl

theorem read_of_admission (body : OtpRequest) (run : Run) :
    (exec perform (admission body) run).2.world.findOtp = run.world.findOtp := by
  funext phone
  exact exec_keeps perform (fun db => db.findOtp phone) WritesOtps
    (fun tick statement db other => perform_otp_other tick statement db other phone)
    (admission body) run (admission_avoids body)

theorem request_exec (body : OtpRequest) (run : Run) (phone : String) :
    ∃ history, (exec perform (requestOTP body) run).2.log = run.log ++ history ∧
      ((issued phone history = none ∧
          (exec perform (requestOTP body) run).2.world.findOtp phone = run.world.findOtp phone) ∨
        ∃ row, phone = body.phone ∧ Sent body run row ∧
          (exec perform (requestOTP body) run).2.world.findOtp phone = some row ∧
          (issued phone history = some row ∨
            issued phone history = none ∧ ∃ n, (run.ticks n).outage ≠ .none)) := by
  obtain ⟨before, grows, silent⟩ := exec_log perform WritesOtps (admission body) run
    (admission_avoids body)
  have quiet : issued phone before = none :=
    issued_none phone before fun event member => upserted_writes _ (silent event member)
  have same := congrFun (read_of_admission body run) phone
  rw [request_admits, exec_bind]
  rcases admitted : exec perform (admission body) run with ⟨error | response | userExists, after⟩
  · rw [admitted] at grows same
    exact ⟨before, grows, Or.inl ⟨quiet, same⟩⟩
  · rw [admitted] at grows same
    exact ⟨before, grows, Or.inl ⟨quiet, same⟩⟩
  · obtain ⟨cooled, meant⟩ := admission_exec body run userExists (by rw [admitted])
    obtain ⟨spent, clock⟩ : ∃ spent, ∀ n, (exec perform (admission body) run).2.clock n =
      run.clock (n + spent + 1) := call_clock perform (.selectOtp body.phone) _ run
    rw [admitted] at grows same clock
    have present : after.tick = run.clock (spent + 1) := (clock 0).trans (by rw [Nat.zero_add])
    have coming : after.ticks 0 = run.ticks (spent + 1) :=
      (clock 1).trans (by rw [Nat.add_comm 1 spent]; rfl)
    obtain ⟨written, extends_, issues, world⟩ := send_exec body userExists after phone
    refine ⟨before ++ written, by rw [extends_, grows, List.append_assoc], ?_⟩
    rw [issued_append, quiet, Option.none_or, issues, world]
    have row : Sent body run (freshRow body after.tick) :=
      ⟨rfl, rfl, rfl, ⟨spent, by rw [← present]; rfl⟩, cooled, meant⟩
    by_cases own : phone = body.phone
    · subst own
      by_cases reached : (after.ticks 0).outage = .refused
      · refine Or.inl ⟨by simp [storedRow, upserted, reached], ?_⟩
        rw [← same]
        simp [perform, Tick.fate, reached]
      · refine Or.inr ⟨_, rfl, row, ?_, ?_⟩
        · exact (perform_otp_written (after.ticks 0) (.upsertOtp (freshRow body after.tick))
            after.world trivial reached body.phone).trans (by simp [otpAfter, freshRow])
        · by_cases steady : (after.ticks 0).outage = .none
          · exact Or.inl (by simp [storedRow, upserted, freshRow, steady])
          · exact Or.inr ⟨by simp [storedRow, upserted, steady], spent + 1, coming ▸ steady⟩
    · refine Or.inl ⟨by simp [storedRow, upserted, freshRow, Ne.symm own], ?_⟩
      rw [← same]
      rcases perform_otp (after.ticks 0) (.upsertOtp (freshRow body after.tick)) after.world phone
        with kept | kept
      · exact kept
      · rw [kept]
        simp [otpAfter, freshRow, own]

/-! A verification never stores a code; it discards the row, counts in it, or
leaves it. -/

def Upserts (statement : Statement) : Prop := upserted statement ≠ none

theorem upserts_touches (statement : Statement) (writes : Upserts statement) :
    TouchesOtps statement := by
  cases statement with
  | upsertOtp row => trivial
  | _ => exact absurd rfl writes

theorem others_avoid_upserts (env : Env) (request : Request)
    (other : ∀ body, request ≠ .requestOTP body) : Avoids Upserts (handler env request) := by
  cases verifies : verification request with
  | none => exact avoids_mono upserts_touches _ (others_avoid env request verifies other)
  | some pair =>
      obtain ⟨rest, same, avoids⟩ := verification_first env request pair.1 pair.2 verifies
      rw [same]
      have quiet : Avoids Upserts (verifyOTPCode pair.1 pair.2) :=
        verify_avoids _ _ (fun writes => writes rfl) (fun _ writes => writes rfl)
          fun writes => writes rfl
      exact avoids_bind _ _ quiet fun result => avoids_mono upserts_touches _ (avoids result)

def rowAfter (stored : Option Otp) : Verdict → Option Otp
  | .missing => stored
  | .expired => none
  | .exhausted => none
  | .wrong newAttempts =>
      if OTP_MAX_ATTEMPTS ≤ newAttempts then none
      else stored.map fun otp => { otp with attempts := newAttempts }
  | .right => none

theorem written_ok (tick : Tick) (statement : Statement) (db : Db) (writes : WritesOtps statement)
    (steady : tick.outage = .none) : ∃ answer, (perform tick statement db).1 = .ok answer := by
  obtain ⟨answer, after, executed⟩ := execute_writes tick statement db writes
  exact ⟨answer, by rw [perform_steady tick statement db after answer steady executed]⟩

theorem delete_exec (phone : String) (result : OtpVerificationResult) (run : Run)
    (steady : Steady run) :
    (exec perform (dropRow phone result) run).1 = .ok result ∧
      ∀ other, (exec perform (dropRow phone result) run).2.world.findOtp other =
        if other = phone then none else run.world.findOtp other := by
  obtain ⟨count, answered⟩ :=
    written_ok (run.ticks 0) (.deleteOtp phone) run.world trivial (steady 0)
  have row := perform_otp_written (run.ticks 0) (.deleteOtp phone) run.world trivial
    (by simp [steady 0])
  simp only [dropRow, deleteOtp, exec_bind, exec_call, answered]
  exact ⟨rfl, row⟩

theorem conclude_exec (phone : String) (run : Run) (steady : Steady run) (verdict : Verdict) :
    ((exec perform (conclude phone verdict) run).1 = .ok .success ↔ verdict = .right) ∧
      ∀ other, (exec perform (conclude phone verdict) run).2.world.findOtp other =
        if other = phone then rowAfter (run.world.findOtp phone) verdict
        else run.world.findOtp other := by
  cases verdict with
  | missing =>
      refine ⟨by simp [conclude], fun other => ?_⟩
      by_cases same : other = phone
      · simp [conclude, rowAfter, same]
      · simp [conclude, same]
  | expired =>
      obtain ⟨result, row⟩ := delete_exec phone (.failure .OTP_EXPIRED "OTP has expired") run steady
      exact ⟨by simp [conclude, result], row⟩
  | exhausted =>
      obtain ⟨result, row⟩ := delete_exec phone (.failure .OTP_MAX_ATTEMPTS
        "Too many failed attempts. Please request a new OTP.") run steady
      exact ⟨by simp [conclude, result], row⟩
  | right =>
      obtain ⟨result, row⟩ := delete_exec phone .success run steady
      exact ⟨by simp [conclude, result], row⟩
  | wrong newAttempts =>
      obtain ⟨count, answered⟩ := written_ok (run.ticks 0) (.updateOtpAttempts phone newAttempts)
        run.world trivial (steady 0)
      have written := perform_otp_written (run.ticks 0) (.updateOtpAttempts phone newAttempts)
        run.world trivial (by simp [steady 0])
      simp only [conclude, updateOtpAttempts, exec_bind, exec_call, answered]
      by_cases spent : OTP_MAX_ATTEMPTS ≤ newAttempts
      · obtain ⟨result, row⟩ := delete_exec phone (.failure .OTP_MAX_ATTEMPTS
          "Too many failed attempts. Please request a new OTP.")
          (run.after perform (.updateOtpAttempts phone newAttempts)) (steady_after run steady _)
        simp only [spent, if_true]
        refine ⟨by simp [result], fun other => (row other).trans ?_⟩
        by_cases same : other = phone
        · simp [same, rowAfter, spent]
        · simpa [same, Run.after, otpAfter] using written other
      · simp only [spent, if_false]
        refine ⟨by simp, fun other => (written other).trans ?_⟩
        by_cases same : other = phone
        · simp [same, otpAfter, rowAfter, spent]
        · simp [same, otpAfter]

theorem verify_exec (phone code : String) (run : Run) (steady : Steady run) :
    ((exec perform (verifyOTPCode phone code) run).1 = .ok .success ↔
        judge code (run.ticks 0).now (run.world.findOtp phone) = .right) ∧
      ∀ other, (exec perform (verifyOTPCode phone code) run).2.world.findOtp other =
        if other = phone then
          rowAfter (run.world.findOtp phone)
          (judge code (run.ticks 0).now (run.world.findOtp phone))
        else run.world.findOtp other := by
  have read : perform (run.ticks 0) (.selectOtp phone) run.world =
      (.ok (run.world.findOtp phone), run.world) :=
    perform_steady _ (.selectOtp phone) _ _ _ (steady 0) rfl
  have kept : (run.after perform (.selectOtp phone)).world = run.world := by simp [Run.after, read]
  have concluded := conclude_exec phone (run.after perform (.selectOtp phone))
    (steady_after run steady _) (judge code (run.ticks 0).now (run.world.findOtp phone))
  rw [kept] at concluded
  rw [verify_judges]
  simp only [selectOtp, exec_bind, exec_call, read, exec_now]
  exact concluded

theorem verifying_exec (env : Env) (request : Request) (phone code : String)
    (verifies : verification request = some (phone, code)) (run : Run) (steady : Steady run)
    (other : String) :
    (exec perform (handler env request) run).2.world.findOtp other =
      if other = phone then
        rowAfter (run.world.findOtp phone) (judge code (run.ticks 0).now (run.world.findOtp phone))
      else run.world.findOtp other := by
  obtain ⟨rest, same, avoids⟩ := verification_first env request phone code verifies
  rw [same, exec_bind, ← (verify_exec phone code run steady).2 other]
  rcases exec perform (verifyOTPCode phone code) run with ⟨error | result, last⟩
  · rfl
  · exact exec_keeps perform (fun db => db.findOtp other) TouchesOtps
      (fun tick statement db silent => perform_otp_other tick statement db
        (fun writes => silent (writes_touches statement writes)) other)
      (rest result) last (avoids result)

end TopInspect.OtpServing
