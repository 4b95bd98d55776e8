import TopInspect.OtpHistory

/-! The pause between two sends to one phone. The stored row is the only record
of the last send, so the pause holds as long as the row is still there when the
next send reads it. -/
namespace TopInspect.OtpCooldown

open Resumption AuthSchema AuthStatements AuthHandlers AUTH_CONFIG AuthExecution OtpVerification
open OtpServing OtpHistory
open Serial hiding Run Served State Turn

section Cooldown
variable (env : Env) (phone : String)

/-- Two sends to the phone are a minute apart. -/
def Paused (served : List Served) : Prop :=
  ∀ later second middle first earlier, served = later ++ second :: middle ++ first :: earlier →
    ∀ old new, issued phone first.log = some old → issued phone second.log = some new →
      old.createdAt + minutes OTP_COOLDOWN_MINUTES ≤ new.createdAt

def sendOf : Turn → Option (OtpRequest × Time)
  | .visit _ (.requestOTP body) _ ticks => some (body, (ticks 0).now)
  | _ => none

/-- A send within a minute of an earlier one to the phone finds its row, unless
its purpose is refused anyway. -/
def OnRecord (state : State) (turn : Turn) : Prop :=
  ∀ send ∈ sendOf turn, send.1.phone = phone → state.world.findOtp phone = none →
    purposeRefuses send.1 state.world = false →
      ∀ record ∈ state.served, ∀ old ∈ issued phone record.log,
        old.createdAt ≤ send.2 - minutes OTP_COOLDOWN_MINUTES

instance (state : State) (turn : Turn) : Decidable (OnRecord phone state turn) :=
  inferInstanceAs (Decidable (∀ send ∈ sendOf turn, _))

/-- What every write but a send does to the row: it goes or keeps its date. -/
def KeepsDate (before after : Db) : Prop :=
  ∀ otp, after.findOtp phone = some otp →
    ∃ old, before.findOtp phone = some old ∧ old.createdAt = otp.createdAt

theorem keeps_date (tick : Tick) (statement : Statement) (db : Db) (other : ¬ Upserts statement) :
    KeepsDate phone db (perform tick statement db).2 := by
  intro otp found
  rcases perform_otp tick statement db phone with same | same
  · exact ⟨otp, same ▸ found, rfl⟩
  · rw [same] at found
    cases statement with
    | upsertOtp row => exact absurd (by simp [Upserts, upserted]) other
    | updateOtpAttempts own attempts =>
        simp only [otpAfter] at found
        split at found
        · obtain ⟨old, stored, rfl⟩ := Option.map_eq_some_iff.mp found
          exact ⟨old, stored, rfl⟩
        · exact ⟨otp, found, rfl⟩
    | deleteOtp own =>
        simp only [otpAfter] at found
        split at found
        · cases found
        · exact ⟨otp, found, rfl⟩
    | _ => exact ⟨otp, found, rfl⟩

/-- The row, while there is one, is no older than any send of the run. -/
structure Dated (state : State) : Prop where
  latest : ∀ record ∈ state.served, ∀ old, issued phone record.log = some old →
    ∀ otp, state.world.findOtp phone = some otp → old.createdAt ≤ otp.createdAt
  paused : Paused phone state.served

theorem dated_idle (db : Db) : Dated phone (idle db) where
  latest := by simp [idle]
  paused := by
    intro later second middle first earlier split
    cases later <;> cases split

theorem paused_cons (record : Served) (served : List Served) (paused : Paused phone served)
    (newest : ∀ new, issued phone record.log = some new → ∀ earlier ∈ served, ∀ old,
      issued phone earlier.log = some old →
        old.createdAt + minutes OTP_COOLDOWN_MINUTES ≤ new.createdAt) :
    Paused phone (record :: served) := by
  intro later second middle first earlier split old new sent resent
  cases later with
  | cons head rest =>
      exact paused rest second middle first earlier (List.cons.inj split).2 old new sent resent
  | nil =>
      obtain ⟨rfl, rfl⟩ := List.cons.inj split
      exact newest new resent first (by simp) old sent

section Serving
variable (state : State) (caller : Option Nat) (request : Request) (tick : Tick)
  (ticks : Nat → Tick)

theorem dated_quiet (dated : Dated phone state)
    (silent : issued phone (recordOf env state caller request tick ticks).log = none)
    (keeps : KeepsDate phone state.world
      (serve (server env) state caller request tick ticks).world) :
    Dated phone (serve (server env) state caller request tick ticks) where
  latest := by
    intro record member old sent otp found
    obtain ⟨before, stored, same⟩ := keeps otp found
    rcases List.mem_cons.mp member with rfl | earlier
    · exact absurd (silent.symm.trans sent) (by simp)
    · exact same ▸ dated.latest record earlier old sent before stored
  paused := paused_cons phone _ _ dated.paused fun new sent =>
    absurd (silent.symm.trans sent) (by simp)

theorem dated_other (other : ∀ body, request ≠ .requestOTP body) (dated : Dated phone state) :
    Dated phone (serve (server env) state caller request tick ticks) := by
  refine dated_quiet env phone state caller request tick ticks dated
    (quiet_log env phone _ request rfl other) ?_
  exact exec_relates perform (KeepsDate phone) Upserts (fun _ otp found => ⟨otp, found, rfl⟩)
    (fun _ _ _ first second otp found => by
      obtain ⟨middle, stored, same⟩ := second otp found
      obtain ⟨old, before, equal⟩ := first middle stored
      exact ⟨old, before, equal.trans same⟩)
    (fun tick statement db silent => keeps_date phone tick statement db silent)
    (handler env request) _ (others_avoid_upserts env request other)

theorem dated_send (body : OtpRequest)
    (forward : ∀ n, (ticks 0).now ≤ (ticks n).now) (dated : Dated phone state)
    (onRecord : body.phone = phone → state.world.findOtp phone = none →
      purposeRefuses body state.world = false → ∀ record ∈ state.served,
        ∀ old ∈ issued phone record.log,
          old.createdAt ≤ (ticks 0).now - minutes OTP_COOLDOWN_MINUTES) :
    Dated phone (serve (server env) state caller (.requestOTP body) tick ticks) := by
  obtain ⟨history, grows, outcome⟩ := request_exec body
    (recordOf env state caller (.requestOTP body) tick ticks).opening phone
  obtain ⟨-, logged, world⟩ := record_map env state caller (.requestOTP body) tick ticks some
    (requestOTP body) rfl
  have log : (recordOf env state caller (.requestOTP body) tick ticks).log = history :=
    logged.trans grows
  rcases outcome with ⟨silent, same⟩ | ⟨row, rfl, sent, stored, issues⟩
  · refine dated_quiet env phone state caller _ tick ticks dated (log ▸ silent) ?_
    intro otp found
    rw [world, same] at found
    exact ⟨otp, found, rfl⟩
  · -- Every earlier send is a minute back: by the row it left, or by assumption.
    have back : ∀ record ∈ state.served, ∀ old, issued body.phone record.log = some old →
        old.createdAt ≤ (ticks 0).now - minutes OTP_COOLDOWN_MINUTES := by
      intro record member old resent
      cases before : state.world.findOtp body.phone with
      | none => exact onRecord rfl before sent.meant record member old resent
      | some otp =>
          exact Int.le_trans (dated.latest record member old resent otp before)
            (sent.cooled otp before)
    have after : (ticks 0).now ≤ row.createdAt := by
      obtain ⟨n, clock⟩ := sent.clock
      exact clock ▸ forward n
    have pause : (0 : Time) ≤ minutes OTP_COOLDOWN_MINUTES := by decide
    have apart : ∀ record ∈ state.served, ∀ old, issued body.phone record.log = some old →
        old.createdAt + minutes OTP_COOLDOWN_MINUTES ≤ row.createdAt := by
      intro record member old resent
      have early := back record member old resent
      simp only [Time] at *
      omega
    have resent : ∀ new,
        issued body.phone (recordOf env state caller (.requestOTP body) tick ticks).log = some new →
          new = row := by
      intro new found
      rw [log] at found
      rcases issues with same | ⟨silent, -⟩
      · exact Option.some.inj (found.symm.trans same)
      · rw [silent] at found
        cases found
    refine ⟨?_, paused_cons _ _ _ dated.paused fun new found => resent new found ▸ apart⟩
    intro record member old found otp present
    rw [world, stored] at present
    obtain rfl := Option.some.inj present
    rcases List.mem_cons.mp member with rfl | earlier
    · exact resent old found ▸ Int.le_refl _
    · have early := apart record earlier old found
      simp only [Time] at *
      omega

end Serving

/-- While no recent send loses its record, two sends to a phone are a minute apart. -/
theorem sends_paused (db : Db) (turns : List Turn)
    (guarded : Guarded (server env) (fun state turn => Forward state turn ∧
      OnRecord phone state turn) (idle db) turns) :
    Paused phone (serveAll (server env) (idle db) turns).served := by
  refine (guarded_serve (server env) _
    (fun state => Dated phone state ∧ JobsQueued state.queue) ?_ ?_ (idle db) turns
    ⟨dated_idle phone db, by simp [JobsQueued, idle]⟩ guarded).1.paused
  · rintro state caller request tick ticks ⟨dated, jobs⟩ - ⟨forward, onRecord⟩
    refine ⟨?_, jobs_queued env state (some caller) request tick ticks jobs⟩
    by_cases send : ∃ body, request = .requestOTP body
    · obtain ⟨body, rfl⟩ := send
      exact dated_send env phone state (some caller) tick ticks body
        (fun n => forward.1 1 (n + 1) (by omega)) dated (onRecord _ rfl)
    · exact dated_other env phone state (some caller) request tick ticks
        (fun body same => send ⟨body, same⟩) dated
  · rintro state request rest tick ticks ⟨dated, jobs⟩ pending -
    rw [pending] at jobs
    obtain ⟨job, rfl⟩ := jobs request List.mem_cons_self
    have left : JobsQueued rest := fun waiting member =>
      jobs waiting (List.mem_cons_of_mem _ member)
    exact ⟨dated_other env phone { state with queue := rest } none (.background job) tick ticks
      (fun body same => by cases same) ⟨dated.latest, dated.paused⟩,
      jobs_queued env { state with queue := rest } none (.background job) tick ticks left⟩

end Cooldown

section Sending

-- The second send is refused, the third comes after a full minute.
def patient : List Visit := [sendAt 0, sendAt 59999, sendAt 60000]

theorem sends_paused_patient :
    Paused sample (serveAll (server sampleEnv) (idle Db.empty) (patient.map Visit.turn)).served :=
  sends_paused sampleEnv sample Db.empty (patient.map Visit.turn)
    (guarded_and (idle Db.empty) _
      (guarded_mono (fun _ _ undisturbed => undisturbed.1) _ _
        (visits_undisturbed sampleEnv patient (idle Db.empty) (by decide) (by simp [idle])))
      (by decide))

-- Using the code removes the record of its sending.
def hasty : List Visit := [sendAt 0, tryAt "493021" 1000, sendAt 2000]

def hastyServed : List Served :=
  (serveAll (server sampleEnv) (idle Db.empty) (hasty.map Visit.turn)).served

theorem sends_unpaused : ¬ ∀ (env : Env) (phone : String) (db : Db) (turns : List Turn),
    Guarded (server env) Undisturbed (idle db) turns →
      Paused phone (serveAll (server env) (idle db) turns).served := by
  intro paused
  have calm := visits_undisturbed sampleEnv hasty (idle Db.empty) (by decide) (by simp [idle])
  have split : hastyServed = [] ++ hastyServed.get ⟨0, by decide⟩ ::
      [hastyServed.get ⟨1, by decide⟩] ++ hastyServed.get ⟨2, by decide⟩ :: [] := rfl
  have apart := paused sampleEnv sample Db.empty _ calm _ _ _ _ _ split
    { phone := sample, code := "493021", attempts := 0, expiresAt := 300000, createdAt := 0 }
    { phone := sample, code := "493021", attempts := 0, expiresAt := 302000, createdAt := 2000 }
    (by decide) (by decide)
  exact absurd apart (by decide)

end Sending
end TopInspect.OtpCooldown
