import TopInspect.ServerTerms
import TopInspect.SessionRaces
import TopInspect.SessionServing

/-! Where the refresh tokens of the server stay. A token that has been written is in the row of
its session until a refresh with it takes it away. -/
namespace TopInspect.TokenLedger

open Resumption AuthSchema AuthStatements AuthHandlers
open RowTable (Table)
open SessionServing (writtenToken)
open SessionRaces (rotatedToken)
open TickContracts (Pledges pledged_follows pledges_avoids)
open ServerTerms (Told recorded handler_honest)
open Interleaving hiding Entry State Action Task
open Live (State Action Entry Task Replied)

def Stored (token : String) (db : Db) : Prop := ∃ row ∈ db.tokens.rows, row.token = token

instance (token : String) (db : Db) : Decidable (Stored token db) :=
  inferInstanceAs (Decidable (∃ row ∈ db.tokens.rows, row.token = token))

def deletedAccount : Statement → Option String
  | .deleteAuth id => some id
  | _ => none

/-- The statement was answered, so its token was written. -/
def Writes (token : String) (entry : Entry) : Prop :=
  writtenToken entry.query = some token ∧
    ∃ answer, (perform entry.tick entry.query entry.before).1 = .ok answer

/-- The rotation took the token away, answered or not. -/
def Rotates (token : String) (entry : Entry) : Prop :=
  rotatedToken entry.query = some token ∧
    ¬ Stored token (perform entry.tick entry.query entry.before).2

instance (token : String) (entry : Entry) : Decidable (Rotates token entry) :=
  inferInstanceAs (Decidable (_ ∧ ¬ _))

section Statements
variable (tick : Tick) (statement : Statement) (db : Db) (token : String)

/-- Only a rotation of the token, or the end of its account, takes it away. -/
theorem stored_after (stored : Stored token db)
    (spares : ∀ id ∈ deletedAccount statement, ∀ row ∈ db.tokens.rows, row.authId ≠ id)
    (other : rotatedToken statement ≠ some token) : Stored token (perform tick statement db).2 := by
  rcases perform_tokens tick statement db with same | same
  · unfold Stored
    rw [same]
    exact stored
  unfold Stored
  rw [same]
  obtain ⟨row, member, own⟩ := stored
  cases statement with
  | insertToken id authId text expiresAt deviceInfo =>
      exact ⟨row, List.mem_append_left _ member, own⟩
  | rotateToken text newToken expiresAt lastUsedAt =>
      have apart : row.token ≠ text := fun clash => other (by rw [← own, clash]; rfl)
      exact ⟨row, List.mem_map.mpr ⟨row, member, by simp [Table.rewrite, apart]⟩, own⟩
  | revokeToken text revokedAt =>
      refine ⟨_, List.mem_map_of_mem member, ?_⟩
      unfold Table.rewrite
      split
      · exact own
      · exact own
  | deleteAuth id =>
      exact ⟨row, List.mem_filter.mpr ⟨member, by simpa using spares id rfl row member⟩, own⟩
  | _ => exact ⟨row, member, own⟩

theorem stored_written (answer : statement.Answer)
    (answered : (perform tick statement db).1 = .ok answer)
    (writes : writtenToken statement = some token)
    (found : ∀ old ∈ rotatedToken statement, Stored old db) :
    Stored token (perform tick statement db).2 := by
  have rows := execute_tokens tick statement db _ answer
    (perform_ok tick statement db answer answered)
  unfold Stored
  rw [rows]
  cases statement with
  | insertToken id authId text expiresAt deviceInfo =>
      obtain rfl := Option.some.inj writes
      exact ⟨_, List.mem_append_right _ List.mem_cons_self, rfl⟩
  | rotateToken text newToken expiresAt lastUsedAt =>
      obtain rfl := Option.some.inj writes
      obtain ⟨row, member, own⟩ := found text rfl
      exact ⟨_, List.mem_map_of_mem member, by simp [Table.rewrite, own]⟩
  | _ => cases writes

end Statements

section Runs
variable (env : Env)

/-- The tokens that are drawn are new, and no account is deleted that has sessions. -/
structure Sparing (state : State) (action : Action) : Prop where
  fresh : ∀ entry ∈ (server env).upcoming state action, ∀ token ∈ writtenToken entry.query,
    ∀ earlier ∈ state.trace, token ∉ writtenToken earlier.query
  spares : ∀ entry ∈ (server env).upcoming state action, ∀ id ∈ deletedAccount entry.query,
    ∀ row ∈ state.world.tokens.rows, row.authId ≠ id

instance (state : State) (action : Action) : Decidable (Sparing env state action) :=
  decidable_of_iff
    ((∀ entry ∈ (server env).upcoming state action, ∀ token ∈ writtenToken entry.query,
        ∀ earlier ∈ state.trace, token ∉ writtenToken earlier.query) ∧
      ∀ entry ∈ (server env).upcoming state action, ∀ id ∈ deletedAccount entry.query,
        ∀ row ∈ state.world.tokens.rows, row.authId ≠ id)
    ⟨fun both => ⟨both.1, both.2⟩, fun sparing => ⟨sparing.fresh, sparing.spares⟩⟩

def Finds (state : State) (action : Action) : Prop :=
  ∀ entry ∈ (server env).upcoming state action, ∀ token ∈ rotatedToken entry.query,
    Stored token state.world

instance (state : State) (action : Action) : Decidable (Finds env state action) :=
  inferInstanceAs (Decidable (∀ entry ∈ (server env).upcoming state action,
    ∀ token ∈ rotatedToken entry.query, Stored token state.world))

/-- A written token is stored until it is rotated, and no token is written by two tasks. -/
structure Ledger (state : State) : Prop where
  coherent : (server env).Coherent state
  kept : ∀ entry ∈ state.trace, ∀ token, Writes token entry →
    Stored token state.world ∨ ∃ later ∈ state.trace, Rotates token later
  single : ∀ first ∈ state.trace, ∀ second ∈ state.trace, ∀ token,
    writtenToken first.query = some token → writtenToken second.query = some token →
    first.task = second.task

variable {env}

theorem ledger_start (db : Db) : Ledger env (start db) := by
  refine ⟨(server env).coherent_start db, ?_, ?_⟩
  · exact fun entry member => absurd member List.not_mem_nil
  · exact fun entry member => absurd member List.not_mem_nil

theorem stored_step (state : State) (action : Action) (sparing : Sparing env state action)
    (token : String) (stored : Stored token state.world) :
    Stored token ((server env).step state action).world ∨
      ∃ entry ∈ (server env).upcoming state action, Rotates token entry := by
  have transition := (server env).step_transition state action
  generalize (server env).step state action = after at transition ⊢
  cases transition with
  | idle => exact Or.inl stored
  | arrived request tick => exact Or.inl stored
  | answered index tick task query resume present awaits ready =>
      have comes := (server env).upcoming_answered state index tick task query resume present
        awaits ready
      by_cases rotates : rotatedToken query = some token
      · by_cases left : Stored token (perform tick query state.world).2
        · exact Or.inl left
        · exact Or.inr ⟨_, comes, rotates, left⟩
      · exact Or.inl (stored_after tick query state.world token stored (sparing.spares _ comes)
          rotates)

theorem ledger_step (state : State) (action : Action) (ledger : Ledger env state)
    (sparing : Sparing env state action) (finds : Finds env state action) :
    Ledger env ((server env).step state action) := by
  have coherent := Machine.coherent_step state action ledger.coherent
  have stays := stored_step state action sparing
  have entries := (server env).step_entries state action
  refine ⟨coherent, ?_, ?_⟩
  · intro entry member token writes
    rw [entries] at member ⊢
    rcases List.mem_append.mp member with new | old
    · have comes : (server env).upcoming state action = some entry := Option.mem_toList.mp new
      obtain ⟨task, resume, -, -, before, after⟩ :=
        (server env).upcoming_step state action entry comes
      obtain ⟨written, answer, answered⟩ := writes
      refine Or.inl ?_
      rw [after]
      rw [before] at answered
      exact stored_written entry.tick entry.query state.world token answer answered written
        (finds entry comes)
    · rcases ledger.kept entry old token writes with stored | ⟨later, known, rotates⟩
      · rcases stays token stored with still | ⟨later, comes, rotates⟩
        · exact Or.inl still
        · exact Or.inr ⟨later, List.mem_append_left _ (Option.mem_toList.mpr comes), rotates⟩
      · exact Or.inr ⟨later, List.mem_append_right _ known, rotates⟩
  · intro first left second right token one two
    rw [entries] at left right
    rcases List.mem_append.mp left with left | left <;> rcases List.mem_append.mp right with
      right | right
    · have same : first = second :=
        Option.some.inj ((Option.mem_toList.mp left).symm.trans (Option.mem_toList.mp right))
      rw [same]
    · exact absurd two (sparing.fresh first (Option.mem_toList.mp left) token one second right)
    · exact absurd one (sparing.fresh second (Option.mem_toList.mp right) token two first left)
    · exact ledger.single first left second right token one two

theorem told_writes (spent stored : String → Prop) (statement : Statement)
    (result : Except DbError statement.Answer)
    (writes : ∀ token ∈ writtenToken statement, ∀ answer, result = .ok answer → stored token) :
    Told (recorded spent stored) statement result := by
  cases statement with
  | selectToken text =>
      rcases result with error | (none | row)
      · trivial
      · trivial
      · trivial
  | insertToken id authId text expiresAt deviceInfo =>
      cases result with
      | error error => trivial
      | ok answer => exact writes text rfl answer rfl
  | rotateToken text newToken expiresAt lastUsedAt =>
      cases result with
      | error error => trivial
      | ok answer => exact writes newToken rfl answer rfl
  | _ => trivial

theorem handler_rotates (request : Request) :
    Avoids (fun statement => ∃ token ∈ rotatedToken statement,
      request ≠ .refreshTokens { refreshToken := token }) (handler env request) := by
  let terms := recorded (fun token => request = .refreshTokens { refreshToken := token })
    fun _ => True
  have pledges : Pledges terms.fair (Told terms) terms.Allowed (handler env request)
    (terms.Promises request) :=
    handler_honest env request fun body same => same
  refine avoids_mono ?_ _ (pledges_avoids (fun _ => trivial)
    (fun statement result => told_writes _ _ statement result fun _ _ _ _ => trivial) pledges)
  rintro statement ⟨token, rotates, other⟩ allowed
  cases statement with
  | rotateToken text newToken expiresAt lastUsedAt =>
      obtain rfl := Option.some.inj rotates
      exact other allowed.1
  | _ => cases rotates

theorem rotates_own (state : State) (coherent : (server env).Coherent state) (entry : Entry)
    (known : entry ∈ state.trace) (token : String)
    (rotates : rotatedToken entry.query = some token) :
    entry.request = .refreshTokens { refreshToken := token } := by
  obtain ⟨task, present, same, -⟩ := coherent.owner entry known
  obtain ⟨tick, follows⟩ := coherent.follows entry.task task present
  have outside := (avoids_follows perform _ _ _ (handler_rotates task.request tick) follows).2
    entry.toEvent ((mem_history entry.task state.trace entry.toEvent).mpr ⟨entry, known, rfl, rfl⟩)
  exact not_not.mp fun other => outside ⟨token, rotates, same ▸ other⟩

theorem replied_writes (state : State) (coherent : (server env).Coherent state) (index : Nat)
    (request : Request) (response : Response) (replied : Replied state index request response)
    (accessToken : AccessToken) (token : String)
    (body : response.body = .tokens accessToken token) :
    ∃ entry ∈ state.trace, entry.task = index ∧ Writes token entry := by
  obtain ⟨task, present, rfl, done⟩ := replied
  obtain ⟨tick, follows⟩ := coherent.follows index task present
  let terms := recorded (fun _ => True) fun token =>
    ∃ entry ∈ state.trace, entry.task = index ∧ Writes token entry
  have pledges : Pledges terms.fair (Told terms) terms.Allowed (handler env task.request)
      (terms.Promises task.request) := handler_honest env task.request fun _ _ => trivial
  have told : ∀ event ∈ history index state.trace, terms.fair event.tick ∧
      Told terms event.query (perform event.tick event.query event.before).1 := by
    intro event member
    obtain ⟨entry, known, own, rfl⟩ := (mem_history index state.trace event).mp member
    exact ⟨trivial, told_writes _ _ entry.query _ fun token written answer answered =>
      ⟨entry, known, own, written, answer, answered⟩⟩
  have pledged := pledged_follows perform _ _ _ (pledges tick trivial) told follows
  rw [done] at pledged
  exact (pledged.1 accessToken token body).stored

end Runs
end TopInspect.TokenLedger
