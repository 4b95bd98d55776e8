import TopInspect.EmailSchema
import TopInspect.AccountContract

/-! The addresses of accounts. A sign-up stores what the email schema has passed
on, and nothing else ever stores one: the updates that would write the address
of an ID token as it is wait for a row without an address, and no row that they
look at is without one. -/
namespace TopInspect.AccountEmails

open Resumption Interleaving AuthSchema AuthStatements AuthHandlers AccountContract EmailSchema
open Live

variable (rules : EmailRules)

/-- What the validator lets through to the handlers. -/
def Validated : Request → Prop
  | .oauthSignup body => ∃ input, email rules input = some body.email
  | _ => True

/-- A phone row has no address, any other row one that the schema has passed on. -/
structure Proper (row : Auth) : Prop where
  phone : row.provider = .phone → row.email = none
  oauth : row.provider ≠ .phone →
    ∃ input value, email rules input = some value ∧ row.email = some value

def facts : Facts where
  found := fun provider _ row => Proper rules row ∧ row.provider = provider
  profiled := fun _ => True

def Updates : Statement → Prop
  | .updateAuthEmail _ _ => True
  | _ => False

structure Clean (db : Db) (trace : List Entry) : Prop where
  rows : ∀ row ∈ db.auth.rows, Proper rules row
  told : ∀ entry ∈ trace,
    Told (facts rules) entry.query (perform entry.tick entry.query entry.before).1
  untouched : ∀ entry ∈ trace, ¬ Updates entry.query

theorem proper_value (row : Auth) (proper : Proper rules row) (value : String)
    (stored : row.email = some value) : ∃ input, email rules input = some value := by
  by_cases phone : row.provider = .phone
  · rw [proper.phone phone] at stored
    cases stored
  · obtain ⟨input, other, passes, same⟩ := proper.oauth phone
    obtain rfl : other = value := Option.some.inj (same.symm.trans stored)
    exact ⟨input, passes⟩

theorem proper_email (row : Auth) (proper : Proper rules row) (oauth : row.provider ≠ .phone) :
    ∃ value, row.email = some value ∧ Normal rules value := by
  obtain ⟨input, value, passes, same⟩ := proper.oauth oauth
  exact ⟨value, same, email_normal rules input value passes⟩

theorem proper_truthy (row : Auth) (proper : Proper rules row) (provider : OAuthProvider)
    (same : row.provider = provider.toProvider) : truthy row.email ≠ none := by
  have oauth : row.provider ≠ .phone := by
    rw [same]
    cases provider <;> decide
  obtain ⟨value, stored, nonempty, -⟩ := proper_email rules row proper oauth
  simp [truthy, stored, nonempty]

theorem opens_proper (request : Request) (row : Auth) (validated : Validated rules request)
    (opens : Opens request row) : Proper rules row := by
  cases opens with
  | phone body id => exact ⟨fun _ => rfl, fun other => absurd rfl other⟩
  | oauth body id =>
      obtain ⟨input, passes⟩ := validated
      constructor
      · intro same
        cases provider : body.provider <;> simp [provider, OAuthProvider.toProvider] at same
      · exact fun _ => ⟨input, body.email, passes, rfl⟩

/-- No row is found without an address, so no handler ever asks for the update. -/
theorem asks_no_update (request : Request) (stage : Stage) (statement : Statement)
    (asks : Asks (facts rules) request stage statement) : ¬ Updates statement := by
  intro updates
  cases statement with
  | updateAuthEmail id text =>
      cases asks with
      | calm _ _ ends calm =>
          obtain ⟨provider, identifier, row, ⟨proper, same⟩, -, empty⟩ := calm
          exact proper_truthy rules row proper provider same empty
  | _ => exact updates

section Run
variable (env : Env)

theorem clean_answered (state : State) (coherent : (server env).Coherent state) (index : Nat)
    (tick : Tick) (task : Task) (query : Statement) (present : state.tasks[index]? = some task)
    (awaits : task.residual.awaiting = some query) (validated : Validated rules task.request)
    (clean : Clean rules state.world state.trace) :
    Clean rules (perform tick query state.world).2
      (entryOf state index tick task query :: state.trace) := by
  have asks := task_asks (facts rules) env state coherent index task query clean.told present awaits
  have inside := asks_no_update rules task.request _ query asks
  constructor
  · intro row member
    rcases perform_rows tick query state.world with same | after
    · exact clean.rows row (same ▸ member)
    · rw [after.auth] at member
      cases query with
      -- A new account brings the address its request was validated with.
      | insertAuth added =>
          rcases List.mem_append.mp member with old | new
          · exact clean.rows row old
          · obtain rfl := List.mem_singleton.mp new
            exact opens_proper rules task.request row validated (asks_opens _ _ _ row asks).2
      | updateAuthEmail id text => exact absurd trivial inside
      | deleteAuth id => exact clean.rows row (List.mem_filter.mp member).1
      | _ => exact clean.rows row member
  · intro entry member
    rcases List.mem_cons.mp member with rfl | old
    · apply told_answer
      · intro provider identifier row lookup
        obtain ⟨stored, same, -⟩ := Db.find_auth_mem _ provider identifier row lookup
        exact ⟨clean.rows row stored, same⟩
      all_goals intros; trivial
    · exact clean.told entry old
  · intro entry member
    rcases List.mem_cons.mp member with rfl | old
    · exact inside
    · exact clean.untouched entry old

theorem validated_step (state : State) (action : Action)
    (validated : ∀ (index : Nat) (task : Task), state.tasks[index]? = some task →
      Validated rules task.request)
    (arrives : ∀ request tick, action = .arrive request tick → Validated rules request)
    (index : Nat) (task : Task)
    (found : ((server env).step state action).tasks[index]? = some task) :
    Validated rules task.request := by
  rcases Machine.step_origin state action index task found with
    ⟨earlier, old, same⟩ | ⟨tick, arrived, -⟩ | ⟨entry, -, spawns⟩
  · exact same ▸ validated index earlier old
  · exact arrives task.request tick arrived
  · cases query : entry.query with
    | waitUntil job =>
        rw [query] at spawns
        rw [List.mem_singleton.mp spawns]
        trivial
    | _ => rw [query] at spawns; exact absurd spawns List.not_mem_nil

theorem clean_run (schedule : List Action)
    (validated : ∀ request tick, Interleaving.Action.arrive request tick ∈ schedule →
      Validated rules request) :
    Clean rules ((server env).run (start Db.empty) schedule).world
      ((server env).run (start Db.empty) schedule).trace := by
  have arrives : (server env).Guarded
      (fun _ action => ∀ request tick, action = .arrive request tick → Validated rules request)
      (start Db.empty) schedule :=
    Machine.guarded_actions _ _ _ fun action member request tick same =>
      validated request tick (same ▸ member)
  have guarded := Machine.guarded_invariant
    (fun state => ∀ (index : Nat) (task : Task), state.tasks[index]? = some task →
      Validated rules task.request)
    (fun state action holds allowed => validated_step rules env state action holds allowed)
    _ _ (by simp [start]) arrives
  apply Machine.trace_invariant (Clean rules) _ _ _ ((server env).coherent_start _) _ guarded
  · intro state index tick task query resume coherent present awaits allowed clean
    exact clean_answered rules env state coherent index tick task query present
      (by rw [awaits]; rfl) (allowed.2 index task present) clean
  · constructor
    · simp [start, Db.empty, RowTable.Table.empty]
    · simp [start]
    · simp [start]

end Run

/-- From an empty database, under any interleaving and any outages: phone rows
have no address, the others a normal one that the schema has passed on, no two
rows share an address up to letter case, and no address is ever updated. -/
theorem emails_normal (env : Env) (schedule : List Action)
    (validated : ∀ request tick, Interleaving.Action.arrive request tick ∈ schedule →
      Validated rules request) :
    let state : State := (server env).run (start Db.empty) schedule
    (∀ row ∈ state.world.auth.rows, row.provider = .phone → row.email = none) ∧
      (∀ row ∈ state.world.auth.rows, row.provider ≠ .phone →
        ∃ value, row.email = some value ∧ Normal rules value) ∧
      (∀ left ∈ state.world.auth.rows, ∀ right ∈ state.world.auth.rows, ∀ first second,
        left.email = some first → right.email = some second →
        rules.toLowerCase first = rules.toLowerCase second → left = right) ∧
      (∀ row ∈ state.world.auth.rows, ∀ value, row.email = some value →
        ∃ input, email rules input = some value) ∧
      (∀ entry ∈ state.trace, ¬ Updates entry.query) ∧
      ∀ (index : Nat) (task : Task) (query : Statement), state.tasks[index]? = some task →
        task.residual.awaiting = some query → ¬ Updates query := by
  intro state
  have clean : Clean rules state.world state.trace := clean_run rules env schedule validated
  have coherent : (server env).Coherent state :=
    Machine.coherent_run _ _ ((server env).coherent_start _)
  refine ⟨fun row member => (clean.rows row member).phone,
    fun row member => proper_email rules row (clean.rows row member), ?_, ?_, clean.untouched, ?_⟩
  · intro left first right second one two own other same
    obtain ⟨input, passes⟩ := proper_value rules left (clean.rows left first) one own
    obtain ⟨input', passes'⟩ := proper_value rules right (clean.rows right second) two other
    -- Neither address changes when it is lowered once more.
    rw [(email_plain rules input one passes).2.2,
      (email_plain rules input' two passes').2.2] at same
    exact Db.auth_email_inj _ left right first second one own (same ▸ other)
  · exact fun row member value stored => proper_value rules row (clean.rows row member) value stored
  · intro index task query present awaits
    exact asks_no_update rules task.request _ query
      (task_asks (facts rules) env state coherent index task query clean.told present awaits)

/-! An account is opened with an address that needs trimming and lowering. -/

def signUp : OAuthSignupRequest :=
  { provider := .google, providerId := "110169484474386276334", email := "ada@example.com",
    name := "Ada Lovelace", gender := .female, birthYear := 1985, deviceInfo := none }

def signedUp : List Action :=
  .arrive (.oauthSignup signUp) (tickAt 0 "f0") ::
    (List.range 6).map fun n => .advance 0 (tickAt 0 ("f" ++ toString (n + 1)))

theorem signed_up_validated (request : Request) (tick : Tick)
    (arrives : Interleaving.Action.arrive request tick ∈ signedUp) :
    Validated asciiRules request := by
  simp only [signedUp, List.mem_cons, List.mem_map, reduceCtorEq, and_false, exists_false, or_false,
    Interleaving.Action.arrive.injEq] at arrives
  rw [arrives.1]
  exact ⟨" Ada@Example.com ", by decide⟩

theorem emails_normal_signed_up :
    ((server sampleEnv).run (start Db.empty) signedUp).world.auth.rows.map Auth.email =
        [some "ada@example.com"] ∧
      ∀ row ∈ ((server sampleEnv).run (start Db.empty) signedUp).world.auth.rows,
        row.provider ≠ .phone → ∃ value, row.email = some value ∧ Normal asciiRules value :=
  ⟨by decide, (emails_normal asciiRules sampleEnv signedUp signed_up_validated).2.1⟩

end TopInspect.AccountEmails
