import TopInspect.ClientPromises

/-! How a failed refresh is reported. A request that was answered 401 rejects with the
failure itself. A request that was still in the request interceptor goes through
handleError, which finds neither an answer nor an axios code on the failure. -/
namespace TopInspect.RefreshReports

open Resumption
open AuthHandlers (truthy truthy_some)
open ClientStore ClientApi ClientSegments ClientFailures ClientPromises
open ClientLock (ownPromise)
open Interleaving hiding Entry State Action Task

inductive Way where
  | noToken
  | answered (reply : Reply)

/-- Where a request waits for a refresh: in the request interceptor or after a 401. -/
inductive Layer where
  | proactive
  | reactive

def Layer.awaited : Layer → Query → Option Nat
  | .proactive, .resumeRequest promise _ => some promise
  | .reactive, .resumeResponse promise _ => some promise
  | _, _ => none

section Reports
variable (device : Device)

/-- The way the refresh behind a promise failed. A refresh whose own request was answered
that its token has expired shares the way of the refresh it joined. -/
inductive FailedBy (trace : List Entry) : Nat → Way → Prop where
  | noToken (entry : Entry) (known : entry ∈ trace) (refuses : Refuses device entry) :
      FailedBy trace entry.before.promises.length .noToken
  | answered (entry : Entry) (known : entry ∈ trace) (promise : Nat)
      (own : ownPromise entry.request = some promise) (reply : Reply)
      (answers : entry.tick.reply = reply) (final : endsWith reply entry.query = true) :
      FailedBy trace promise (.answered reply)
  | joined (entry : Entry) (known : entry ∈ trace) (promise other : Nat)
      (own : ownPromise entry.request = some promise)
      (resumes : Layer.reactive.awaited entry.query = some other) (refreshError : ErrorResponse)
      (rejected : entry.before.promises[other]? = some (.rejected refreshError)) (way : Way)
      (failed : FailedBy trace other way) : FailedBy trace promise way

def Layer.rejection : Layer → ErrorResponse → ErrorResponse
  | .proactive, refreshError => noResponse refreshError.code
  | .reactive, refreshError => refreshError

def rejection (task : Task) : Option ErrorResponse :=
  match task.request, task.residual with
  | .call _, .throw error => some error
  | _, _ => none

/-- A request that waited for a refresh, and what it rejected with when the refresh failed. -/
inductive Reported (state : State) (layer : Layer) (way : Way)
    (refreshError shown : ErrorResponse) : Prop where
  | waited (entry : Entry) (known : entry ∈ state.trace) (promise : Nat)
      (resumes : layer.awaited entry.query = some promise)
      (rejected : entry.before.promises[promise]? = some (.rejected refreshError))
      (failed : FailedBy device state.trace promise way)
      (ended : state.tasks[entry.task]?.bind rejection = some shown)

def report (error : ErrorResponse) : Option String × Option String := (error.code, error.error)

/-- Both layers report the failure of the refresh. -/
structure Alike (ahead behind early late : ErrorResponse) : Prop where
  proactive : report early = report ahead
  reactive : report late = report behind
  same : report early = report late

/-- A failure that is an unknown error already. -/
def Unknown : Way → Prop
  | .noToken => False
  | .answered (.failure code) =>
      ∀ known ∈ ["ERR_NETWORK", "ECONNABORTED", "ETIMEDOUT"], code ≠ some known
  | .answered (.response _ none) => False
  | .answered (.response _ (some body)) =>
      match truthy body.code with
      | some code => code = "UNKNOWN_ERROR" ∧
          (body.error <|> body.message).getD "An unexpected error occurred." =
            "An unexpected error occurred."
      | none => body.data = none ∧ device.typeError = "An unexpected error occurred."
  | .answered (.success data) => data = none ∧ device.typeError = "An unexpected error occurred."

/-- What the try block of refreshTokens throws. -/
def thrownFor : Except ErrorResponse (Option ResponseData) → Option ErrorResponse
  | .error thrown => some thrown
  | .ok none => some (.plain device.typeError)
  | .ok (some _) => none

def throws : Way → Option ErrorResponse
  | .noToken => some (.plain "No refresh token found, logging out")
  | .answered reply => thrownFor device (answerOf reply)

end Reports

section Failures
variable {device : Device}

theorem settled_thrown (outcome : Except ErrorResponse (Option ResponseData))
    (refreshError : ErrorResponse)
    (rejects : settlementOf device outcome = .rejected refreshError) :
    ∃ thrown, thrownFor device outcome = some thrown ∧ refreshError = errorOf thrown := by
  rcases outcome with thrown | (none | data)
  · exact ⟨thrown, rfl, (Settlement.rejected.inj rejects).symm⟩
  · exact ⟨_, rfl, (Settlement.rejected.inj rejects).symm⟩
  · cases rejects

theorem rejected_ends (layer : Layer) (entry : Entry) (promise : Nat) (refreshError : ErrorResponse)
    (resumes : layer.awaited entry.query = some promise)
    (rejected : entry.before.promises[promise]? = some (.rejected refreshError)) :
    ending entry.query (perform device entry.tick entry.query entry.before).1 =
      some (.error (layer.rejection refreshError)) := by
  cases layer with
  | proactive =>
      cases query : entry.query with
      | resumeRequest other config =>
          rw [query] at resumes
          obtain rfl := Option.some.inj resumes
          simp [perform, segmentOf, resume, rejected, ending, Layer.rejection]
      | _ =>
          rw [query] at resumes
          cases resumes
  | reactive =>
      cases query : entry.query with
      | resumeResponse other config =>
          rw [query] at resumes
          obtain rfl := Option.some.inj resumes
          simp [perform, segmentOf, resume, rejected, ending, Layer.rejection]
      | _ =>
          rw [query] at resumes
          cases resumes

theorem rejection_thrown (task : Task) (shown : ErrorResponse)
    (ended : rejection task = some shown) :
    ∃ sent, task.request = .call sent ∧ task.residual = .throw shown := by
  unfold rejection at ended
  split at ended
  · next sent error request residual =>
      obtain rfl := Option.some.inj ended
      exact ⟨sent, request, residual⟩
  · cases ended

theorem failure_thrown (state : State) (promised : Promised device state) (promise : Nat)
    (way : Way) (failed : FailedBy device state.trace promise way) :
    ∀ refreshError, state.world.promises[promise]? = some (.rejected refreshError) →
      ∃ thrown, throws device way = some thrown ∧ refreshError = errorOf thrown := by
  -- Where the request of the refresh has ended, the promise is settled with its outcome.
  have settled : ∀ entry ∈ state.trace, ∀ promise,
      ownPromise entry.request = some promise → ∀ outcome refreshError,
      ending entry.query (perform device entry.tick entry.query entry.before).1 = some outcome →
      state.world.promises[promise]? = some (.rejected refreshError) →
      settlementOf device outcome = .rejected refreshError := by
    intro entry known promise own outcome refreshError ends rejected
    obtain ⟨refreshToken, request⟩ := own_refresh entry.request promise own
    rcases promised.handed entry known promise refreshToken request outcome ends with
      ⟨task, found, same, awaits⟩ | handed
    · rw [← same] at own
      have pending := promised.pending task (List.mem_of_getElem? found) promise own
        (by rw [awaits]; nofun)
      cases pending.symm.trans rejected
    · exact Option.some.inj (handed.symm.trans rejected)
  induction failed with
  | noToken entry known refuses =>
      intro refreshError rejected
      have refused := promised.refused entry known refuses
      obtain rfl := Settlement.rejected.inj (Option.some.inj (rejected.symm.trans refused))
      exact ⟨_, rfl, rfl⟩
  | answered entry known promise own reply answers final =>
      intro refreshError rejected
      subst answers
      have same := settled entry known promise own _ refreshError
        (final_answer device entry.tick entry.query entry.before final) rejected
      exact settled_thrown (answerOf entry.tick.reply) refreshError same
  | joined entry known promise other own resumes joinError joined way _ ih =>
      intro refreshError rejected
      have ends : ending entry.query (perform device entry.tick entry.query entry.before).1 =
          some (.error joinError) := rejected_ends .reactive entry other joinError resumes joined
      have same := settled entry known promise own _ refreshError ends rejected
      obtain ⟨thrown, throws, rfl⟩ :=
        ih joinError (promised.kept entry known other _ joined nofun)
      exact ⟨thrown, throws, (Settlement.rejected.inj same).symm⟩

theorem shown_by (state : State) (coherent : (client device).Coherent state)
    (promised : Promised device state) (layer : Layer) (way : Way)
    (refreshError shown : ErrorResponse)
    (reported : Reported device state layer way refreshError shown) :
    (∃ thrown, throws device way = some thrown ∧ refreshError = errorOf thrown) ∧
      shown = layer.rejection refreshError := by
  obtain ⟨entry, known, promise, resumes, rejected, failed, ended⟩ := reported
  refine ⟨failure_thrown state promised promise way failed refreshError
    (promised.kept entry known promise _ rejected nofun), ?_⟩
  obtain ⟨task, found, shows⟩ := Option.bind_eq_some_iff.mp ended
  obtain ⟨sent, request, thrown⟩ := rejection_thrown task shown shows
  obtain ⟨first, follows⟩ := coherent.follows entry.task task found
  have member : entry.toEvent ∈ history entry.task state.trace :=
    (mem_history _ _ _).mpr ⟨entry, known, rfl, rfl⟩
  have closes : Closes (fun query result => (ending query result).map (Except.map Result.data))
      (program device (.call sent)) := closes_map _ (closes_api sent)
  rw [← request] at closes
  have last := (closes_follows (perform device) _ _ _ _ (closes first) follows).1 _ member
    (.error (layer.rejection refreshError))
    (by rw [rejected_ends layer entry promise refreshError resumes rejected]; rfl)
  rw [thrown] at last
  exact Residual.throw.inj last

theorem report_error (thrown : ErrorResponse) : report (errorOf thrown) =
    (some (thrown.code.getD "UNKNOWN_ERROR"),
      some ((thrown.error <|> thrown.message).getD "An unexpected error occurred.")) := rfl

theorem no_response_cases (code : Option String) :
    (code = some "ERR_NETWORK" ∧ noResponse code = err "NETWORK_ERROR") ∨
      ((code = some "ECONNABORTED" ∨ code = some "ETIMEDOUT") ∧
        noResponse code = err "TIMEOUT_ERROR") ∨
      ((∀ known ∈ ["ERR_NETWORK", "ECONNABORTED", "ETIMEDOUT"], code ≠ some known) ∧
        noResponse code = UNKNOWN_ERROR) := by
  by_cases network : code = some "ERR_NETWORK"
  · subst network
    exact Or.inl ⟨rfl, by decide⟩
  · by_cases timeout : code = some "ECONNABORTED" ∨ code = some "ETIMEDOUT"
    · refine Or.inr (Or.inl ⟨timeout, ?_⟩)
      rcases timeout with rfl | rfl
      · decide
      · decide
    · refine Or.inr (Or.inr ⟨by simp_all, ?_⟩)
      unfold noResponse
      split
      · rfl
      · next present found =>
          obtain rfl := truthy_some code present found
          simp only [Option.some.injEq] at network timeout
          rw [if_neg network, if_neg timeout]

/-- The second run of the error mapper keeps unknown errors only. -/
theorem mapped_again (thrown : ErrorResponse) :
    report (noResponse (errorOf thrown).code) = report (errorOf thrown) ↔
      report (errorOf thrown) = report UNKNOWN_ERROR := by
  have unmapped : ∀ code message, report (err code) = report (errorOf thrown) →
      (errorOf thrown).code = some message → (err code).code = some message := by
    intro code message same named
    exact (congrArg Prod.fst same).trans named
  rcases no_response_cases (errorOf thrown).code with
    ⟨named, mapped⟩ | ⟨named, mapped⟩ | ⟨-, mapped⟩
  · rw [mapped]
    constructor
    · intro same
      exact absurd (unmapped _ _ same named) (by decide)
    · intro same
      exact absurd (named.symm.trans (congrArg Prod.fst same)) (by decide)
  · rw [mapped]
    constructor
    · intro same
      rcases named with named | named
      · exact absurd (unmapped _ _ same named) (by decide)
      · exact absurd (unmapped _ _ same named) (by decide)
    · intro same
      rcases named with named | named
      · exact absurd (named.symm.trans (congrArg Prod.fst same)) (by decide)
      · exact absurd (named.symm.trans (congrArg Prod.fst same)) (by decide)
  · rw [mapped]
    exact eq_comm

theorem plain_unknown (message : String) :
    report (errorOf (.plain message)) = report UNKNOWN_ERROR ↔
    message = "An unexpected error occurred." := by
  rw [report_error]
  simp [report, UNKNOWN_ERROR, ErrorResponse.plain, ErrorResponse.coded]

theorem unknown_iff (way : Way) (thrown : ErrorResponse) (fails : throws device way = some thrown) :
    Unknown device way ↔ report (errorOf thrown) = report UNKNOWN_ERROR := by
  cases way with
  | noToken =>
      obtain rfl := Option.some.inj fails
      rw [plain_unknown]
      exact ⟨False.elim, fun same => absurd same (by decide)⟩
  | answered reply =>
      cases reply with
      | success data =>
          cases data with
          | none =>
              obtain rfl := Option.some.inj fails
              rw [plain_unknown]
              exact ⟨And.right, fun same => ⟨rfl, same⟩⟩
          | some data => cases fails
      | failure code =>
          obtain rfl := Option.some.inj fails
          -- The codes of axios that are mapped to a message of their own.
          rcases no_response_cases code with ⟨rfl, mapped⟩ | ⟨timeout, mapped⟩ | ⟨other, mapped⟩
          · rw [mapped]
            exact ⟨fun other => absurd rfl (other "ERR_NETWORK" (by simp)),
              fun same => absurd same (by decide)⟩
          · rw [mapped]
            refine ⟨fun other => ?_, fun same => absurd same (by decide)⟩
            rcases timeout with rfl | rfl
            · exact absurd rfl (other "ECONNABORTED" (by simp))
            · exact absurd rfl (other "ETIMEDOUT" (by simp))
          · rw [mapped]
            exact ⟨fun _ => rfl, fun _ => other⟩
      | response status data =>
          cases data with
          | none =>
              obtain rfl := Option.some.inj fails
              exact ⟨False.elim, fun same => absurd same (by decide)⟩
          | some body =>
              have answer : answerOf (.response status (some body)) = deliver body := rfl
              simp only [throws, answer, deliver] at fails
              cases code : truthy body.code with
              | none =>
                  simp only [code, Option.isSome_none, Bool.false_eq_true, if_false] at fails
                  simp only [Unknown, code]
                  cases data : body.data with
                  | none =>
                      rw [data] at fails
                      obtain rfl := Option.some.inj fails
                      rw [plain_unknown]
                      exact ⟨And.right, fun same => ⟨rfl, same⟩⟩
                  | some data' =>
                      rw [data] at fails
                      cases fails
              | some named =>
                  simp only [code, Option.isSome_some, if_true] at fails
                  obtain rfl := Option.some.inj fails
                  simp only [Unknown, code]
                  rw [report_error, truthy_some _ _ code]
                  simp [report, UNKNOWN_ERROR, ErrorResponse.coded]

end Failures

theorem failures_alike (device : Device) (firstStore secondStore : AuthStore)
    (firstSchedule secondSchedule : List Action) (way : Way)
    (ahead behind early late : ErrorResponse)
    (proactive : Reported device ((client device).run (start (opened firstStore)) firstSchedule)
      .proactive way ahead early)
    (reactive : Reported device ((client device).run (start (opened secondStore)) secondSchedule)
      .reactive way behind late) :
    Alike ahead behind early late ↔ Unknown device way := by
  obtain ⟨⟨thrown, fails, rfl⟩, rfl⟩ := shown_by _
    (Machine.coherent_run _ firstSchedule ((client device).coherent_start _))
    (promised_run firstStore firstSchedule) _ way ahead early proactive
  obtain ⟨⟨other, same, rfl⟩, rfl⟩ := shown_by _
    (Machine.coherent_run _ secondSchedule ((client device).coherent_start _))
    (promised_run secondStore secondSchedule) _ way behind late reactive
  obtain rfl := Option.some.inj (fails.symm.trans same)
  rw [unknown_iff way thrown fails, ← mapped_again thrown]
  exact ⟨Alike.proactive, fun mapped => ⟨mapped, rfl, mapped⟩⟩

/-! A request for the profile whose refresh gets no answer. -/
section Unanswered

def waiting : Request := .call (.post "~/users/me" (.app ""))

def early (code : Option String) : List Action :=
  let quiet := at0 (.success none)
  [.arrive waiting quiet, .advance 0 quiet, .advance 1 quiet, .advance 1 (at0 (.failure code)),
    .advance 1 quiet, .advance 0 quiet]

def expired : Reply :=
  .response 401 (some { ErrorResponse.coded "Token expired" "EXPIRED_TOKEN" with data := none })

def late (code : Option String) : List Action :=
  let quiet := at0 (.success none)
  [.arrive waiting quiet, .advance 0 quiet, .advance 0 (at0 expired), .advance 1 quiet,
    .advance 1 (at0 (.failure code)), .advance 1 quiet, .advance 0 quiet]

def freshlySigned : AuthStore := { signedIn with accessToken := some "fresh" }

deriving instance DecidableEq for Reply

theorem reported_of (device : Device) (state : State) (layer : Layer) (promise : Nat)
    (reply : Reply) (refreshError shown : ErrorResponse)
    (waited : ∃ entry ∈ state.trace, layer.awaited entry.query = some promise ∧
      entry.before.promises[promise]? = some (.rejected refreshError) ∧
      state.tasks[entry.task]?.bind rejection = some shown)
    (answered : ∃ entry ∈ state.trace, ownPromise entry.request = some promise ∧
      entry.tick.reply = reply ∧ endsWith reply entry.query = true) :
    Reported device state layer (.answered reply) refreshError shown := by
  obtain ⟨answer, made, own, answers, final⟩ := answered
  obtain ⟨entry, known, resumes, rejected, ended⟩ := waited
  exact .waited entry known promise resumes rejected
    (.answered answer made promise own reply answers final) ended

def canceled : ErrorResponse := errorOf (noResponse (some "ERR_CANCELED"))

theorem failures_alike_canceled :
    Alike canceled canceled (noResponse canceled.code) canceled ↔
      Unknown phone (.answered (.failure (some "ERR_CANCELED"))) :=
  failures_alike phone signedIn freshlySigned (early (some "ERR_CANCELED"))
    (late (some "ERR_CANCELED")) _ _ _ _ _
    (reported_of _ _ _ 0 _ _ _ (by decide) (by decide))
    (reported_of _ _ _ 0 _ _ _ (by decide) (by decide))

def offline : ErrorResponse := errorOf (noResponse (some "ERR_NETWORK"))

theorem failures_differ : ¬ ∀ (device : Device) (firstStore secondStore : AuthStore)
    (firstSchedule secondSchedule : List Action) (way : Way)
    (ahead behind early late : ErrorResponse),
    Reported device ((client device).run (start (opened firstStore)) firstSchedule)
      .proactive way ahead early →
    Reported device ((client device).run (start (opened secondStore)) secondSchedule)
      .reactive way behind late →
    Alike ahead behind early late := by
  intro alike
  have same := (alike phone signedIn freshlySigned (early (some "ERR_NETWORK"))
    (late (some "ERR_NETWORK")) (.answered (.failure (some "ERR_NETWORK"))) offline offline
    (noResponse offline.code) offline (reported_of _ _ _ 0 _ _ _ (by decide) (by decide))
    (reported_of _ _ _ 0 _ _ _ (by decide) (by decide))).proactive
  exact absurd same (by decide)

end Unanswered
end TopInspect.RefreshReports
