import TopInspect.OtpServing

/-! One-time codes over whole runs of requests served one after another. The
stored row is compared with the history it stands for: which code was sent last,
how often it was missed since, and whether it is used up. -/
namespace TopInspect.OtpHistory

open Resumption AuthSchema AuthStatements AuthHandlers AUTH_CONFIG AuthExecution OtpVerification
open OtpServing
open Serial hiding Run Served State Turn

section Clocks

/-- The clock of a turn runs forward, from no earlier than any turn before it. -/
def Forward (state : State) (turn : Turn) : Prop :=
  (∀ m n, m ≤ n → (turn.clock m).now ≤ (turn.clock n).now) ∧
    ∀ record ∈ state.served, ∀ m n, (record.clock m).now ≤ (turn.clock n).now

def Undisturbed (state : State) (turn : Turn) : Prop := Forward state turn ∧ Reliable turn

end Clocks

section Specification
variable (phone : String)

def Succeeds (record : Served) : Prop :=
  ∃ code, verification record.request = some (phone, code) ∧
    (exec perform (verifyOTPCode phone code) record.opening).1 = .ok .success

def differs (code : String) (record : Served) : Bool :=
  (verification record.request).any fun pair => pair.1 = phone ∧ pair.2 ≠ code

/-- What the served requests say about a code: it was sent last, is not expired,
was not accepted since and was missed fewer than three times since. -/
def Accepts (code : String) (present : Time) (served : List Served) : Prop :=
  ∃ later issue older row, served = later ++ issue :: older ∧
    issued phone issue.log = some row ∧ (∀ record ∈ later, issued phone record.log = none) ∧
    row.code = code ∧ present ≤ row.createdAt + minutes OTP_EXPIRY_MINUTES ∧
    (∀ record ∈ later, ¬ Succeeds phone record) ∧
    later.countP (differs phone code) < OTP_MAX_ATTEMPTS

theorem last_issue (later later' : List Served) (issue issue' : Served) (older older' : List Served)
    (same : later ++ issue :: older = later' ++ issue' :: older')
    (silent : ∀ record ∈ later, issued phone record.log = none)
    (silent' : ∀ record ∈ later', issued phone record.log = none)
    (issues : issued phone issue.log ≠ none) (issues' : issued phone issue'.log ≠ none) :
    later = later' ∧ issue = issue' := by
  induction later generalizing later' with
  | nil =>
      cases later' with
      | nil => exact ⟨rfl, (List.cons.inj same).1⟩
      | cons first rest =>
          obtain ⟨rfl, -⟩ := List.cons.inj same
          exact absurd (silent' issue List.mem_cons_self) issues
  | cons first rest ih =>
      cases later' with
      | nil =>
          obtain ⟨rfl, -⟩ := List.cons.inj same
          exact absurd (silent first List.mem_cons_self) issues'
      | cons first' rest' =>
          obtain ⟨rfl, tails⟩ := List.cons.inj same
          obtain ⟨rfl, rfl⟩ := ih rest' tails
            (fun record member => silent record (List.mem_cons_of_mem _ member))
            (fun record member => silent' record (List.mem_cons_of_mem _ member))
          exact ⟨rfl, rfl⟩

theorem accepts_nil (code : String) (present : Time) : ¬ Accepts phone code present [] := by
  rintro ⟨later, issue, older, row, split, -⟩
  cases later <;> cases split

theorem accepts_cons (code : String) (present : Time) (record : Served) (served : List Served)
    (silent : issued phone record.log = none)
    (accepts : Accepts phone code present (record :: served)) :
    Accepts phone code present served ∧ ¬ Succeeds phone record := by
  obtain ⟨later, issue, older, row, split, issues, quiet, same, timely, unused, few⟩ := accepts
  cases later with
  | nil =>
      obtain ⟨rfl, -⟩ := List.cons.inj split
      rw [silent] at issues
      cases issues
  | cons first rest =>
      obtain ⟨rfl, rfl⟩ := List.cons.inj split
      refine ⟨⟨rest, issue, older, row, rfl, issues,
        fun member present => quiet member (List.mem_cons_of_mem _ present), same, timely,
        fun member present => unused member (List.mem_cons_of_mem _ present), ?_⟩,
        unused record List.mem_cons_self⟩
      rw [List.countP_cons] at few
      omega

/-- How the stored row stands for the served requests. Without a row no code is
accepted any more; a row carries the last code sent and its misses since. -/
def Summary (served : List Served) : Option Otp → Prop
  | none => ∀ code present, (∀ record ∈ served, ∀ n, (record.clock n).now ≤ present) →
      ¬ Accepts phone code present served
  | some otp => ∃ later issue older row, served = later ++ issue :: older ∧
      issued phone issue.log = some row ∧ (∀ record ∈ later, issued phone record.log = none) ∧
      (∀ record ∈ later, ¬ Succeeds phone record) ∧
      later.countP (differs phone row.code) = otp.attempts ∧ otp.attempts < OTP_MAX_ATTEMPTS ∧
      otp.code = row.code ∧ otp.expiresAt = row.createdAt + minutes OTP_EXPIRY_MINUTES

/-- Judging the row is judging the history. -/
theorem summary_accepts (served : List Served) (stored : Option Otp) (code : String)
    (present : Time) (summary : Summary phone served stored)
    (latest : ∀ record ∈ served, ∀ n, (record.clock n).now ≤ present) :
    judge code present stored = .right ↔ Accepts phone code present served := by
  cases stored with
  | none => simpa [judge] using summary code present latest
  | some otp =>
      obtain ⟨later, issue, older, row, rfl, issues, silent, unused, missed, few, same, expiry⟩ :=
        summary
      rw [judge_right]
      constructor
      · rintro ⟨other, equal, timely, -, right⟩
        obtain rfl := Option.some.inj equal
        exact ⟨later, issue, older, row, rfl, issues, silent, same ▸ right,
          expiry ▸ Int.not_lt.mp timely, unused,
          by rw [← right, same, missed]; exact few⟩
      · rintro ⟨later', issue', older', row', split, issues', silent', right, timely, -⟩
        obtain ⟨rfl, rfl⟩ := last_issue phone later later' issue issue' older older' split silent
          silent' (by simp [issues]) (by simp [issues'])
        obtain rfl : row = row' := Option.some.inj (issues.symm.trans issues')
        exact ⟨otp, rfl, Int.not_lt.mpr (expiry ▸ timely), few, same.trans right⟩

end Specification

/-! One served request moves the summary along. -/
section Serving
variable (phone : String) (served : List Served) (record : Served)

theorem summary_quiet (stored : Option Otp) (silent : issued phone record.log = none)
    (other : ∀ code, verification record.request ≠ some (phone, code))
    (summary : Summary phone served stored) : Summary phone (record :: served) stored := by
  cases stored with
  | none =>
      intro code present latest accepts
      exact summary code present (fun member found => latest member (List.mem_cons_of_mem _ found))
        (accepts_cons phone code present record served silent accepts).1
  | some otp =>
      obtain ⟨later, issue, older, row, rfl, issues, quiet, unused, missed, rest⟩ := summary
      refine ⟨record :: later, issue, older, row, rfl, issues, ?_, ?_, ?_, rest⟩
      · exact List.forall_mem_cons.mpr ⟨silent, quiet⟩
      · exact List.forall_mem_cons.mpr ⟨fun ⟨code, verifies, _⟩ => other code verifies, unused⟩
      · have plain : differs phone row.code record = false := by
          unfold differs
          cases pair : verification record.request with
          | none => rfl
          | some pair' =>
              have apart : pair'.1 ≠ phone := fun same => other pair'.2 (by rw [pair, ← same])
              simp [apart]
        rw [List.countP_cons, missed, plain]
        rfl

theorem summary_sent (row : Otp) (sent : issued phone record.log = some row)
    (attempts : row.attempts = 0)
    (expiry : row.expiresAt = row.createdAt + minutes OTP_EXPIRY_MINUTES) :
    Summary phone (record :: served) (some row) :=
  ⟨[], record, served, row, rfl, sent, by simp, by simp, by simp [attempts],
    by rw [attempts]; decide, rfl, expiry⟩

theorem summary_verified (code : String) (stored : Option Otp)
    (silent : issued phone record.log = none)
    (verifies : verification record.request = some (phone, code))
    (success : (exec perform (verifyOTPCode phone code) record.opening).1 = .ok .success ↔
      judge code record.readAt stored = .right)
    (latest : ∀ earlier ∈ served, ∀ n, (earlier.clock n).now ≤ record.readAt)
    (summary : Summary phone served stored) :
    Summary phone (record :: served) (rowAfter stored (judge code record.readAt stored)) := by
  -- A code that is accepted later on was acceptable before, and this attempt has not used it.
  have missing : ∀ code' present,
    (∀ member ∈ record :: served, ∀ n, (member.clock n).now ≤ present) →
      Accepts phone code' present (record :: served) → record.readAt ≤ present ∧
        judge code' present stored = .right ∧ ¬ Succeeds phone record := by
    intro code' present bound accepts
    obtain ⟨before, unused⟩ := accepts_cons phone code' present record served silent accepts
    refine ⟨bound record List.mem_cons_self 1, ?_, unused⟩
    exact (summary_accepts phone served stored code' present summary
      fun member found => bound member (List.mem_cons_of_mem _ found)).mpr before
  cases stored with
  | none =>
      intro code' present bound accepts
      exact absurd (missing code' present bound accepts).2.1 (by simp [judge])
  | some otp =>
      obtain ⟨later, issue, older, row, rfl, issues, quiet, unused, missed, few, same, expiry⟩ :=
        summary
      by_cases late : otp.expiresAt < record.readAt
      · -- Expired now, and later on all the more.
        have verdict : judge code record.readAt (some otp) = .expired := by simp [judge, late]
        rw [verdict]
        intro code' present bound accepts
        obtain ⟨after, right, -⟩ := missing code' present bound accepts
        obtain ⟨other, equal, timely, -⟩ := (judge_right _ _ _).mp right
        obtain rfl := Option.some.inj equal
        exact timely (Int.lt_of_lt_of_le late after)
      · by_cases right : otp.code = code
        · -- Accepted, and so used up.
          have verdict : judge code record.readAt (some otp) = .right :=
            (judge_right _ _ _).mpr ⟨otp, rfl, late, few, right⟩
          rw [verdict]
          intro code' present bound accepts
          exact (missing code' present bound accepts).2.2 ⟨code, verifies, success.mpr verdict⟩
        · have verdict : judge code record.readAt (some otp) = .wrong (otp.attempts + 1) :=
            (judge_wrong _ _ _ _).mpr ⟨otp, rfl, late, few, right, rfl⟩
          have failed : ¬ Succeeds phone record := by
            rintro ⟨code', verifies', succeeds⟩
            obtain rfl : code = code' := by simpa [verifies] using verifies'
            have impossible := success.mp succeeds
            rw [verdict] at impossible
            cases impossible
          have counted : (record :: later).countP (differs phone row.code) = otp.attempts + 1 := by
            have other : differs phone row.code record = true := by
              simp [differs, verifies, ← same, Ne.symm right]
            rw [List.countP_cons, missed, other]
            rfl
          rw [verdict]
          by_cases spent : OTP_MAX_ATTEMPTS ≤ otp.attempts + 1
          · -- The third miss is part of every history from here on.
            simp only [rowAfter, spent, if_true]
            rintro code' present - ⟨later', issue', older', row', split, issues', quiet', right', -,
              -, few'⟩
            obtain ⟨rfl, rfl⟩ := last_issue phone (record :: later) later' issue issue' older older'
              split (List.forall_mem_cons.mpr ⟨silent, quiet⟩) quiet' (by simp [issues])
              (by simp [issues'])
            obtain rfl : row = row' := Option.some.inj (issues.symm.trans issues')
            rw [← right', counted] at few'
            omega
          · simp only [rowAfter, spent, if_false, Option.map_some]
            exact ⟨record :: later, issue, older, row, rfl, issues,
              List.forall_mem_cons.mpr ⟨silent, quiet⟩, List.forall_mem_cons.mpr ⟨failed, unused⟩,
              counted, Nat.not_le.mp spent, same, expiry⟩

end Serving

section Runs
variable (env : Env) (phone : String)

theorem quiet_log (run : Run) (request : Request) (empty : run.log = [])
    (other : ∀ body, request ≠ .requestOTP body) :
    issued phone (exec perform (handler env request) run).2.log = none := by
  obtain ⟨history, grows, silent⟩ := exec_log perform Upserts (handler env request) run
    (others_avoid_upserts env request other)
  rw [grows, empty]
  exact issued_none phone history fun event member => not_not.mp (silent event member)

theorem summary_served (state : State) (caller : Option Nat) (request : Request) (tick : Tick)
    (ticks : Nat → Tick) (steady : ∀ n, (ticks n).outage = .none)
    (latest : ∀ record ∈ state.served, ∀ n, (record.clock n).now ≤ (ticks 0).now)
    (summary : Summary phone state.served (state.world.findOtp phone)) :
    Summary phone (recordOf env state caller request tick ticks :: state.served)
      ((serve (server env) state caller request tick ticks).world.findOtp phone) := by
  rw [serve_world]
  -- Only a request for a code issues one; of the others only a verification touches the row.
  by_cases send : ∃ body, request = .requestOTP body
  · obtain ⟨body, rfl⟩ := send
    have other : ∀ code, verification (Request.requestOTP body) ≠ some (phone, code) :=
      fun code verifies => by cases verifies
    obtain ⟨history, grows, outcome⟩ := request_exec body
      (recordOf env state caller (.requestOTP body) tick ticks).opening phone
    obtain ⟨-, logged, world⟩ := record_map env state caller (.requestOTP body) tick ticks some
      (requestOTP body) rfl
    have log : (recordOf env state caller (.requestOTP body) tick ticks).log = history :=
      logged.trans grows
    rw [← serve_world, world]
    rcases outcome with ⟨silent, same⟩ | ⟨row, rfl, sent, stored, issues | ⟨-, n, outage⟩⟩
    · rw [same]
      exact summary_quiet phone state.served _ _ (log ▸ silent) other summary
    · rw [stored]
      exact summary_sent body.phone state.served _ row (log ▸ issues) sent.attempts sent.expiresAt
    · exact absurd (steady n) outage
  · have other : ∀ body, request ≠ .requestOTP body := fun body same => send ⟨body, same⟩
    have silent := quiet_log env phone (recordOf env state caller request tick ticks).opening
      request
      rfl other
    cases verifies : verification request with
    | none =>
        have kept := exec_keeps perform (fun db => db.findOtp phone) TouchesOtps
          (fun tick statement db silent => perform_otp_other tick statement db
            (fun writes => silent (writes_touches statement writes)) phone)
          (handler env request) (recordOf env state caller request tick ticks).opening
          (others_avoid env request verifies other)
        rw [kept]
        refine summary_quiet phone state.served _ _ silent (fun code same => ?_) summary
        have pair : verification request = some (phone, code) := same
        rw [verifies] at pair
        cases pair
    | some pair =>
        obtain ⟨own, code⟩ := pair
        have row := verifying_exec env request own code verifies
          (recordOf env state caller request tick ticks).opening steady phone
        rw [row]
        by_cases same : phone = own
        · subst same
          rw [if_pos rfl]
          exact summary_verified phone state.served _ code _ silent verifies
            (verify_exec phone code (recordOf env state caller request tick ticks).opening
              steady).1 latest summary
        · rw [if_neg same]
          refine summary_quiet phone state.served _ _ silent (fun code' pair => same ?_) summary
          have equal : verification request = some (phone, code') := pair
          rw [verifies] at equal
          exact (Prod.mk.inj (Option.some.inj equal)).1.symm

/-- What the history says of a verification is what the verification found. -/
def Judged (record : Served) (earlier : List Served) : Prop :=
  ∀ code, verification record.request = some (phone, code) →
    ((exec perform (verifyOTPCode phone code) record.opening).1 = .ok .success ↔
      Accepts phone code record.readAt earlier) ∧
    ¬ ∃ otp, record.before.findOtp phone = some otp ∧ OTP_MAX_ATTEMPTS ≤ otp.attempts

structure Refined (state : State) : Prop where
  summary : Summary phone state.served (state.world.findOtp phone)
  judged : ∀ later record earlier, state.served = later ++ record :: earlier →
    Judged phone record earlier

theorem refined_served (state : State) (caller : Option Nat) (request : Request) (tick : Tick)
    (ticks : Nat → Tick) (steady : ∀ n, (ticks n).outage = .none)
    (latest : ∀ record ∈ state.served, ∀ n, (record.clock n).now ≤ (ticks 0).now)
    (refined : Refined phone state) :
    Refined phone (serve (server env) state caller request tick ticks) where
  summary := summary_served env phone state caller request tick ticks steady latest refined.summary
  judged := by
    intro later record earlier split
    cases later with
    | cons first rest =>
        exact refined.judged rest record earlier (List.cons.inj split).2
    | nil =>
        obtain ⟨rfl, rfl⟩ := List.cons.inj split
        intro code verifies
        refine ⟨?_, ?_⟩
        · exact (verify_exec phone code (recordOf env state caller request tick ticks).opening
            steady).1.trans (summary_accepts phone state.served _ code _ refined.summary latest)
        · rintro ⟨otp, found, spent⟩
          have summary := refined.summary
          rw [show state.world.findOtp phone = some otp from found] at summary
          obtain ⟨-, -, -, -, -, -, -, -, -, few, -⟩ := summary
          omega

/-- Every verification of a run is decided by the history before it, and none
ever meets an exhausted row. -/
theorem otp_refines_history (db : Db) (fresh : ∀ phone, db.findOtp phone = none)
    (turns : List Turn) (guarded : Guarded (server env) Undisturbed (idle db) turns)
    (later : List Served) (record : Served) (earlier : List Served)
    (split : (serveAll (server env) (idle db) turns).served = later ++ record :: earlier) :
    Judged phone record earlier := by
  have initial : Refined phone (idle db : State) :=
    { summary := by
        rw [show (idle db : State).world.findOtp phone = none from fresh phone]
        exact fun code present _ => accepts_nil phone code present
      judged := fun later record earlier split => by cases later <;> cases split }
  have refined := guarded_serve (server env) Undisturbed (Refined phone)
    (fun state caller request tick ticks refined _ undisturbed =>
      refined_served env phone state (some caller) request tick ticks
        (fun n => undisturbed.2 (n + 1))
        (fun record member n => undisturbed.1.2 record member n 1) refined)
    (fun state request rest tick ticks refined _ undisturbed =>
      refined_served env phone { state with queue := rest } none request tick ticks
        (fun n => undisturbed.2 (n + 1))
        (fun record member n => undisturbed.1.2 record member n 1)
        ⟨refined.summary, refined.judged⟩)
    (idle db) turns initial guarded
  exact refined.judged later record earlier split

end Runs

/-! Requests that each happen at one instant. -/
section Instants

theorem turn_served (env : Env) (state : State) (visit : Visit) (record : Served)
    (member : record ∈ (turn (server env) state visit.turn).served) :
    record ∈ state.served ∨ ∀ n, record.clock n = tickAt visit.present visit.draw := by
  simp only [Visit.turn, turn] at member
  split at member
  · rcases List.mem_cons.mp member with rfl | old
    · exact Or.inr fun n => by cases n <;> rfl
    · exact Or.inl old
  · exact Or.inl member

theorem visits_undisturbed (env : Env) (visits : List Visit) (state : State)
    (ordered : visits.Pairwise fun earlier later => earlier.present ≤ later.present)
    (past : ∀ record ∈ state.served, ∀ n, ∀ visit ∈ visits,
      (record.clock n).now ≤ visit.present) :
    Guarded (server env) Undisturbed state (visits.map Visit.turn) := by
  induction visits generalizing state with
  | nil => trivial
  | cons visit rest ih =>
      obtain ⟨before, ordered⟩ := List.pairwise_cons.mp ordered
      refine ⟨⟨⟨fun m n _ => ?_, fun record member m n => ?_⟩, fun n => ?_⟩, ih _ ordered ?_⟩
      · simp [Visit.clock_turn]
      · rw [Visit.clock_turn]
        exact past record member m visit List.mem_cons_self
      · rw [Visit.clock_turn]
        rfl
      · intro record member n other found
        rcases turn_served env state visit record member with old | new
        · exact past record old n other (List.mem_cons_of_mem _ found)
        · rw [new]
          exact before other found

def sample : String := "2125550123"

def sendAt (present : Time) : Visit :=
  { caller := 0, request := .requestOTP { phone := sample, purpose := .signup }, present,
    draw := "a" }

def tryAt (code : String) (present : Time) : Visit :=
  { caller := 0, request := .phoneSignIn { phone := sample, code, deviceInfo := none }, present,
    draw := "b" }

-- A miss, then the code that was sent, in the last instant of its validity.
def timeline : List Visit := [sendAt 0, tryAt "000000" 1000, tryAt "493021" 300000]

theorem otp_refines_timeline :
    ∃ record earlier,
      (serveAll (server sampleEnv) (idle Db.empty) (timeline.map Visit.turn)).served =
        record :: earlier ∧ Judged sample record earlier :=
  ⟨_, _, rfl, otp_refines_history sampleEnv sample Db.empty (fun _ => rfl)
    (timeline.map Visit.turn)
    (visits_undisturbed sampleEnv timeline (idle Db.empty) (by decide) (by simp [idle]))
    [] _ _ rfl⟩

end Instants
end TopInspect.OtpHistory
