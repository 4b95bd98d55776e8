import TopInspect.ProtectedRoutes

/-! What requireAuth makes of a token that fails verification. The library tells the
causes apart; requireAuth sees the message only, which quotes the token offered. -/
namespace TopInspect.TokenCauses

open AuthSchema ProtectedRoutes

inductive Cause where
  | malformed
  | expired
  | badSignature
  | notYetValid
  deriving DecidableEq

/-- `verify` of hono/jwt with its messages, each a phrase with the token inserted. -/
structure JwtLibrary where
  check : Time → String → Except Cause JwtPayload
  before : Cause → String
  after : Cause → String
  only_expiry : ∀ cause,
    (includes (before cause) "expired" || includes (after cause) "expired") = true ↔
    cause = .expired

section Library
variable (library : JwtLibrary)

def JwtLibrary.message (cause : Cause) (token : String) : String :=
  library.before cause ++ token ++ library.after cause

def JwtLibrary.verify (now : Time) (token : String) : Except String JwtPayload :=
  (library.check now token).mapError fun cause => library.message cause token

/-- Every token that a header presents fails verification. -/
def Fails (now : Time) (authHeader : Option String) : Prop :=
  ∀ token, authHeader.bind bearerToken = some token →
    ∃ cause, library.check now token = .error cause

/-- The answer tells the cause of the failure. -/
structure Classified (now : Time) (authHeader : Option String) (response : Response) : Prop where
  missing : response = res.missingToken ↔
    ∀ header, authHeader = some header → ¬ "Bearer ".toList <+: header.toList
  expired : ∀ token cause, authHeader.bind bearerToken = some token →
    library.check now token = .error cause → (response = res.expiredToken ↔ cause = .expired)
  invalid : ∀ token cause, authHeader.bind bearerToken = some token →
    library.check now token = .error cause → (response = res.invalidToken ↔ cause ≠ .expired)

/-- No message for another cause says "expired" by quoting the token. -/
def PlainlyQuoted (now : Time) (authHeader : Option String) : Prop :=
  ∀ token ∈ authHeader.bind bearerToken, ∀ cause, library.check now token = .error cause →
    cause ≠ .expired → includes (library.message cause token) "expired" = false

end Library

section Answers
variable (library : JwtLibrary)

theorem includes_iff (text part : String) :
    includes text part = true ↔ part.toList <:+: text.toList := by
  simp [includes]

theorem expiry_told (token : String) :
    includes (library.message .expired token) "expired" = true := by
  have told := (library.only_expiry .expired).mpr rfl
  simp only [Bool.or_eq_true, includes_iff] at told
  rw [includes_iff, JwtLibrary.message, String.toList_append, String.toList_append]
  rcases told with before | after
  · exact List.infix_append_of_infix_left (List.infix_append_of_infix_left before)
  · exact List.infix_append_of_infix_right after

theorem bearer_none (header : String) :
    bearerToken header = none ↔ ¬ "Bearer ".toList <+: header.toList := by
  unfold bearerToken
  constructor
  · rintro absent ⟨rest, same⟩
    have found := List.dropPrefix?_eq_some_iff.mpr ⟨"Bearer ".toList, same.symm, BEq.rfl⟩
    simp only [found, Option.map_some] at absent
    cases absent
  · intro apart
    cases found : header.toList.dropPrefix? "Bearer ".toList with
    | none => rfl
    | some rest =>
        obtain ⟨start, same, equal⟩ := List.dropPrefix?_eq_some_iff.mp found
        obtain rfl := eq_of_beq equal
        exact absurd ⟨rest, same.symm⟩ apart

theorem refused_cases (deployment : Deployment) (verifies : deployment.verify = library.verify)
    (visit : Visit) (authHeader : Option String) (proceed response : Response)
    (fails : Fails library visit.now authHeader)
    (answers : requireAuth deployment visit authHeader proceed = .ok response) :
    (authHeader.bind bearerToken = none ∧ response = res.missingToken) ∨
      ∃ token cause, authHeader.bind bearerToken = some token ∧
        library.check visit.now token = .error cause ∧
        response = if includes (library.message cause token) "expired" then res.expiredToken
          else res.invalidToken := by
  unfold requireAuth at answers
  cases connected : getDb deployment visit with
  | error err => simp [connected, bind, Except.bind] at answers
  | ok _ =>
      simp only [connected, bind, Except.bind] at answers
      cases presented : authHeader.bind bearerToken with
      | none =>
          simp only [presented] at answers
          exact Or.inl ⟨rfl, (Except.ok.inj answers).symm⟩
      | some token =>
          obtain ⟨cause, failed⟩ := fails token presented
          have thrown : checkToken deployment visit token proceed =
              .error (.error (library.message cause token)) := by
            simp [checkToken, outside, verifies, JwtLibrary.verify, failed, Except.mapError, bind,
              Except.bind]
          simp only [presented, thrown, Thrown.message] at answers
          refine Or.inr ⟨token, cause, rfl, failed, ?_⟩
          cases told : includes (library.message cause token) "expired" with
          | true =>
              simp only [told] at answers
              exact (Except.ok.inj answers).symm
          | false =>
              simp only [told] at answers
              exact (Except.ok.inj answers).symm

/-- An answer about a failed token is right exactly when the message for its cause says
"expired" for no other reason than expiry. -/
theorem causes_classified (deployment : Deployment) (verifies : deployment.verify = library.verify)
    (visit : Visit) (authHeader : Option String) (proceed response : Response)
    (fails : Fails library visit.now authHeader)
    (answers : requireAuth deployment visit authHeader proceed = .ok response) :
    Classified library visit.now authHeader response ↔
      PlainlyQuoted library visit.now authHeader := by
  have absent : authHeader.bind bearerToken = none ↔
      ∀ header, authHeader = some header → ¬ "Bearer ".toList <+: header.toList := by
    cases authHeader with
    | none => simp
    | some header =>
        simp only [Option.bind_some, bearer_none, Option.some.injEq, forall_eq']
  have apart : res.missingToken ≠ res.expiredToken ∧ res.missingToken ≠ res.invalidToken ∧
      res.expiredToken ≠ res.invalidToken := by
    simp [res.missingToken, res.expiredToken, res.invalidToken, res.err]
  obtain ⟨missingExpired, missingInvalid, expiredInvalid⟩ := apart
  rcases refused_cases library deployment verifies visit authHeader proceed response fails answers
    with ⟨none, rfl⟩ | ⟨token, cause, presented, failed, told⟩
  · constructor
    · intro _ token offered
      simp [none] at offered
    · intro _
      constructor
      · exact ⟨fun _ => absent.mp none, fun _ => rfl⟩
      · intro token cause offered
        simp [none] at offered
      · intro token cause offered
        simp [none] at offered
  -- A token was presented, so the answer tells of what is wrong with it.
  · have unmissed : response ≠ res.missingToken := by
      rw [told]
      split
      · exact missingExpired.symm
      · exact missingInvalid.symm
    constructor
    · intro classified other offered reason refused unexpired
      obtain rfl : token = other := Option.some.inj (presented.symm.trans offered)
      have invalid := (classified.invalid token reason presented refused).mpr unexpired
      obtain rfl : cause = reason := Except.error.inj (failed.symm.trans refused)
      cases quoted : includes (library.message cause token) "expired" with
      | false => rfl
      | true =>
          rw [quoted, if_pos rfl] at told
          exact absurd (told.symm.trans invalid) expiredInvalid
    · intro plain
      -- The answer is the one for expired tokens just where the message says so.
      have expires : response = res.expiredToken ↔ cause = .expired := by
        constructor
        · intro same
          by_contra unexpired
          have quiet := plain token presented cause failed unexpired
          rw [quiet, if_neg Bool.false_ne_true] at told
          exact expiredInvalid (same.symm.trans told)
        · rintro rfl
          rw [told, expiry_told, if_pos rfl]
      have invalidates : response = res.invalidToken ↔ cause ≠ .expired := by
        rw [ne_eq, ← expires, told]
        split
        · simp [expiredInvalid]
        · simp [expiredInvalid.symm]
      constructor
      · constructor
        · exact fun same => absurd same unmissed
        · intro free
          rw [absent.mpr free] at presented
          cases presented
      · intro other reason offered refused
        obtain rfl : token = other := Option.some.inj (presented.symm.trans offered)
        obtain rfl : cause = reason := Except.error.inj (failed.symm.trans refused)
        exact expires
      · intro other reason offered refused
        obtain rfl : token = other := Option.some.inj (presented.symm.trans offered)
        obtain rfl : cause = reason := Except.error.inj (failed.symm.trans refused)
        exact invalidates

end Answers

/-! A library that quotes tokens the way the real one does. -/
section Quoting

def quoting : JwtLibrary where
  check _ token := if token = "stale" then .error .expired else .error .malformed
  before
    | .malformed => "invalid JWT token: "
    | .expired => "token ("
    | .badSignature => "token("
    | .notYetValid => "token ("
  after
    | .malformed => ""
    | .expired => ") expired"
    | .badSignature => ") signature mismatched"
    | .notYetValid => ") is being used before it's valid"
  only_expiry cause := by cases cause <;> decide

def guarded : Deployment where
  env :=
    { ENV := some "production", DATABASE_URL := some "postgres://db.example/app",
      R2_ACCESS_KEY_ID := none, R2_SECRET_ACCESS_KEY := none, R2_BUCKET_NAME := none,
      R2_PUBLIC_URL := none, R2_ENDPOINT := none }
  isJson := fun _ => true
  verify := quoting.verify

def emptyVisit : Visit where
  now := 0
  connect := .ok ()
  outage := none
  db := Db.empty
  rawBody := none
  presigned := none
  query := none
  arrayBuffer := .ok ()
  signature := .ok ()
  fetch := .error "fetch failed"

theorem quoting_fails (header : String) : Fails quoting 0 (some header) := by
  intro token _
  by_cases stale : token = "stale"
  · exact ⟨.expired, by simp [quoting, stale]⟩
  · exact ⟨.malformed, by simp [quoting, stale]⟩

theorem causes_classified_garbage : Classified quoting 0 (some "Bearer garbage") res.invalidToken :=
  (causes_classified quoting guarded rfl emptyVisit (some "Bearer garbage") res.validationError _
    (quoting_fails _) rfl).mpr (by
      intro token offered cause _ unexpired
      obtain rfl : "garbage" = token := Option.some.inj offered
      cases cause with
      | expired => exact absurd rfl unexpired
      | malformed => decide
      | badSignature => decide
      | notYetValid => decide)

theorem cause_mistaken : ¬ ∀ (library : JwtLibrary) (deployment : Deployment) (visit : Visit)
    (authHeader : Option String) (proceed response : Response),
    deployment.verify = library.verify → Fails library visit.now authHeader →
    requireAuth deployment visit authHeader proceed = .ok response →
    Classified library visit.now authHeader response := by
  intro classified
  have answered : requireAuth guarded emptyVisit (some "Bearer expired") res.validationError =
      .ok res.expiredToken := rfl
  have told := classified quoting guarded emptyVisit (some "Bearer expired") _ _ rfl
    (quoting_fails _) answered
  have expired := (told.expired "expired" .malformed rfl rfl).mp rfl
  cases expired

end Quoting
end TopInspect.TokenCauses
