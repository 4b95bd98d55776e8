import TopInspect.ClientSegments

/-! What becomes of a failed exchange. The server, a proxy or a crashed worker may
answer with any JSON value, and the response interceptor tells success from failure
by the code field of whatever handleError returns. -/
namespace TopInspect.ClientFailures

open Resumption
open AuthHandlers (truthy)
open ClientStore ClientApi ClientSegments

inductive Json where
  | null
  | bool (value : Bool)
  | number (value : Rat)
  | string (value : String)
  | array (elements : List Json)
  | object (fields : List (String × Json))

namespace Json

def isTruthy : Json → Bool
  | null => false
  | bool value => value
  | number value => value ≠ 0
  | string value => value ≠ ""
  | array _ => true
  | object _ => true

/-- `typeof value === "object"`, which null passes. -/
def isObject : Json → Bool
  | null => true
  | array _ => true
  | object _ => true
  | _ => false

-- A repeated name has its last value.
def field (name : String) : Json → Option Json
  | object fields => fields.reverse.lookup name
  | _ => none

def text : Json → Option String
  | string value => some value
  | _ => none

/-- A value to compare with texts. What is no text keeps being null or falsy. -/
def asText : Json → Option String
  | null => none
  | string value => some value
  | value => some (if value.isTruthy then "[object]" else "")

def responseData : Json → Option ResponseData
  | null => none
  | value =>
      let read (name : String) := (value.field name).bind asText
      some {
        accessToken := read "accessToken"
        refreshToken := read "refreshToken"
        userExists := (value.field "userExists").map isTruthy
        needsSignup := (value.field "needsSignup").any isTruthy
        provider := read "provider"
        providerId := read "providerId"
        email := read "email" }

def errorBody (value : Json) : ErrorBody where
  error := (value.field "error").bind asText
  code := (value.field "code").bind asText
  message := (value.field "message").bind asText
  data := (value.field "data").bind responseData

def ofError (error : ErrorResponse) : Json :=
  object ((error.error.map fun text => ("error", string text)).toList ++
    (error.code.map fun code => ("code", string code)).toList)

end Json

/-- How an exchange ends; an error answer may come without a body. -/
inductive Ending where
  | success (data : Option ResponseData)
  | response (status : Nat) (data : Option Json)
  | failure (code : Option String)

def invalidBody (data : Option Json) : Bool := !data.any fun value =>
    value.isTruthy && value.isObject

def replyOf : Ending → Reply
  | .success data => .success data
  | .response status data =>
      .response status (if invalidBody data then none else data.map Json.errorBody)
  | .failure code => .failure code

/-- What handleError returns for a failed exchange that it does not retry. -/
def handleError : Ending → Json
  | .success _ => .null
  | .response _ data =>
      if invalidBody data then .ofError (err "INVALID_RESPONSE") else data.getD .null
  | .failure code => .ofError (noResponse code)

def rejects (response : Json) : Bool := (response.field "code").any Json.isTruthy

def isReported (response : Json) : Bool :=
  ((response.field "code").bind Json.text).any (· ≠ "") &&
    ((response.field "error").bind Json.text).any (· ≠ "")

/-- An answer that is not followed by a refresh and a retry. -/
def endsWith (reply : Reply) : Query → Bool
  | .receive config => !(isExpired reply && !config.retry)
  | .receiveAgain _ => true
  | _ => false

structure Exchange where
  query : Query
  now : Int
  ending : Ending
  before : World

namespace Exchange

def event (exchange : Exchange) : Event Query Tick World where
  query := exchange.query
  tick := { now := exchange.now, reply := replyOf exchange.ending }
  before := exchange.before

def answers (exchange : Exchange) : Bool :=
  match exchange.query with
  | .receive _ => true
  | .receiveAgain _ => true
  | _ => false

def succeeds (exchange : Exchange) : Bool :=
  match exchange.ending with
  | .success _ => exchange.answers
  | _ => false

def isFinal (exchange : Exchange) : Bool := endsWith (replyOf exchange.ending) exchange.query

/-- What handleError returns to the response interceptor. A refresh that fails before
the request is sent reaches it as an error without an answer. -/
def handled (exchange : Exchange) : Option Json :=
  match exchange.query with
  | .resumeRequest promise _ =>
      match exchange.before.promises[promise]? with
      | some (.rejected refreshError) => some (handleError (.failure refreshError.code))
      | _ => none
  | _ => if exchange.isFinal then some (handleError exchange.ending) else none

end Exchange

/-- The caller's promise rejects, and what handleError makes the response interceptor
reject with has a code and an error message. -/
structure FailureShown (exchanges : List Exchange)
    (last : Residual Query Query.Answer ErrorResponse Tick (Option ResponseData)) : Prop where
  rejected : ∃ error, last = .throw error
  reported : ∀ exchange ∈ exchanges, ∀ response ∈ exchange.handled,
    rejects response = true → isReported response = true

/-- Every final error answer with an object for a body has a code and an error message. -/
def BodiesReport (exchanges : List Exchange) : Prop :=
  ∀ exchange ∈ exchanges, exchange.isFinal = true → ∀ status body,
    exchange.ending = .response status (some body) → body.isTruthy = true → body.isObject = true →
    isReported body = true

section Endings

def ending : (query : Query) → Except ErrorResponse query.Answer →
    Option (Except ErrorResponse (Option ResponseData))
  | .intercept _, .error error => some (.error (noResponse error.code))
  | .resumeRequest _ _, .error error => some (.error (noResponse error.code))
  | .receive _, .error error => some (.error error)
  | .receive _, .ok (.resolved data) => some (.ok data)
  | .resumeResponse _ _, .error error => some (.error error)
  | .receiveAgain _, result => some result
  | _, _ => none

theorem closes_sent (config : Config) (next : Config → Client (Option ResponseData))
    (awaits : ∀ sending tick, (next sending tick).awaiting ≠ none)
    (closes : ∀ sending, Closes ending (next sending)) : Closes ending (sent config >>= next) := by
  intro tick result now
  rcases result with error | answer
  · rfl
  · cases answer with
    | proceed sending => exact ⟨awaits sending now, closes sending now⟩
    | wait promise sending =>
        refine ⟨nofun, fun result now => ?_⟩
        rcases result with error | answer
        · rfl
        · exact ⟨awaits answer now, closes answer now⟩

theorem closes_retried (config : Config) : Closes ending (retried config) := by
  apply closes_sent
  · intro sending tick
    nofun
  · intro sending tick result now
    rcases result with error | data
    · rfl
    · rfl

theorem closes_api (config : Config) : Closes ending (api config) := by
  apply closes_sent
  · intro sending tick
    nofun
  · intro sending tick result now
    rcases result with error | answer
    · rfl
    · cases answer with
      | resolved data => rfl
      | expired promise sending =>
          refine ⟨nofun, fun result now => ?_⟩
          rcases result with error | answer
          · rfl
          · exact ⟨nofun, closes_retried answer now⟩

end Endings

section Exchanges
variable (device : Device)

def answerOf (reply : Reply) : Except ErrorResponse (Option ResponseData) :=
  (receiveAgain reply (opened AuthStore.initial)).outcome

theorem receive_outcome (reply : Reply) (world : World) :
    (receiveAgain reply world).outcome = answerOf reply := by
  unfold answerOf receiveAgain
  split
  · rfl
  · rfl
  · rfl
  · rfl

theorem final_answer (tick : Tick) (query : Query) (world : World)
    (final : endsWith tick.reply query = true) :
    ending query (perform device tick query world).1 = some (answerOf tick.reply) := by
  cases query with
  | receive config =>
      have unexpired : ¬ (isExpired tick.reply = true ∧ config.retry = false) := by
        rintro ⟨expired, first⟩
        simp [endsWith, expired, first] at final
      simp only [perform, segmentOf, receive, if_neg unexpired, Segment.map, receive_outcome]
      cases answerOf tick.reply <;> rfl
  | receiveAgain config =>
      simp only [perform, segmentOf, receive_outcome]
      rfl
  | _ => cases final

theorem asText_truthy (value : Json) : (truthy value.asText).isSome = value.isTruthy := by
  cases value with
  | null => rfl
  | bool value => cases value <;> rfl
  | number value =>
      by_cases zero : value = 0
      · simp [Json.asText, Json.isTruthy, zero, truthy]
      · simp [Json.asText, Json.isTruthy, zero, truthy]
  | string value =>
      by_cases empty : value = ""
      · simp [Json.asText, Json.isTruthy, empty, truthy]
      · simp [Json.asText, Json.isTruthy, empty, truthy]
  | array elements => rfl
  | object fields => rfl

theorem code_truthy (response : Json) :
    (truthy response.errorBody.code).isSome = rejects response := by
  unfold rejects Json.errorBody
  cases response.field "code" with
  | none => rfl
  | some code => exact asText_truthy code

theorem no_response_coded (code : Option String) : ∃ error errorCode,
    noResponse code = .coded error errorCode ∧ error ≠ "" ∧ errorCode ≠ "" := by
  unfold noResponse
  split
  · exact ⟨_, _, rfl, by decide, by decide⟩
  · split
    · exact ⟨_, _, rfl, by decide, by decide⟩
    · split
      · exact ⟨_, _, rfl, by decide, by decide⟩
      · exact ⟨_, _, rfl, by decide, by decide⟩

theorem coded_handled (error code : String) (message : error ≠ "") (named : code ≠ "") :
    rejects (.ofError (.coded error code)) = true ∧
      isReported (.ofError (.coded error code)) = true ∧
      (Json.ofError (.coded error code)).errorBody.toErrorResponse = .coded error code := by
  have coded : (Json.ofError (.coded error code)).field "code" = some (.string code) := rfl
  have told : (Json.ofError (.coded error code)).field "error" = some (.string error) := rfl
  refine ⟨?_, ?_, ?_⟩
  · simp [rejects, coded, Json.isTruthy, named]
  · simp [isReported, coded, told, Json.text, message, named]
  · rfl

theorem failure_reported (code : Option String) :
    rejects (handleError (.failure code)) = true ∧
      isReported (handleError (.failure code)) = true := by
  obtain ⟨error, errorCode, coded, message, named⟩ := no_response_coded code
  obtain ⟨rejected, reported, -⟩ := coded_handled error errorCode message named
  simp only [handleError, coded]
  exact ⟨rejected, reported⟩

theorem invalid_reported (status : Nat) (data : Option Json) (invalid : invalidBody data = true) :
    rejects (handleError (.response status data)) = true ∧
      isReported (handleError (.response status data)) = true := by
  obtain ⟨rejected, reported, -⟩ :=
    coded_handled "An unexpected error occurred." "INVALID_RESPONSE" (by decide) (by decide)
  simp only [handleError, invalid, if_true]
  exact ⟨rejected, reported⟩

theorem reported_rejects (response : Json) (reported : isReported response = true) :
    rejects response = true := by
  simp only [isReported, Bool.and_eq_true, Option.any_eq_true, Option.bind_eq_some_iff] at reported
  obtain ⟨⟨code, ⟨value, named, text⟩, present⟩, -⟩ := reported
  simp only [rejects, named, Option.any_some]
  cases value with
  | string value =>
      obtain rfl := Option.some.inj text
      exact present
  | _ => cases text

theorem refused_outcome (status : Nat) (body : Json) (world : World) :
    (refuse status body.errorBody world).outcome =
      if rejects body then .error body.errorBody.toErrorResponse else .ok body.errorBody.data := by
  simp [refuse, deliver, code_truthy]

/-- What the interceptors make of an error answer is what handleError returns. -/
theorem handled_outcome (ending : Ending) (failed : ∀ data, ending ≠ .success data) :
    answerOf (replyOf ending) =
      if rejects (handleError ending) then .error (handleError ending).errorBody.toErrorResponse
      else .ok (handleError ending).errorBody.data := by
  cases ending with
  | success data => exact absurd rfl (failed data)
  | failure code =>
      obtain ⟨error, errorCode, coded, message, named⟩ := no_response_coded code
      obtain ⟨rejected, -, same⟩ := coded_handled error errorCode message named
      simp only [handleError, coded, rejected, if_true, same]
      simp [answerOf, receiveAgain, replyOf, coded]
  | response status data =>
      by_cases invalid : invalidBody data = true
      · obtain ⟨rejected, -, same⟩ :=
          coded_handled "An unexpected error occurred." "INVALID_RESPONSE" (by decide) (by decide)
        have made : err "INVALID_RESPONSE" =
            .coded "An unexpected error occurred." "INVALID_RESPONSE" := rfl
        simp only [handleError, invalid, if_true, made, rejected, same]
        simp [answerOf, receiveAgain, replyOf, invalid, made]
      · cases data with
        | none => exact absurd rfl invalid
        | some body =>
            simp only [handleError, invalid, Bool.false_eq_true, if_false, Option.getD_some]
            rw [← refused_outcome status body (opened AuthStore.initial)]
            simp [answerOf, receiveAgain, replyOf, invalid]

theorem final_answers (exchange : Exchange) (final : exchange.isFinal = true) :
    exchange.answers = true := by
  obtain ⟨query, now, how, before⟩ := exchange
  cases query with
  | receive config => rfl
  | receiveAgain config => rfl
  | _ => cases final

theorem final_closes (exchange : Exchange) (final : exchange.isFinal = true)
    (failed : exchange.succeeds = false) :
    ending exchange.query (perform device exchange.event.tick exchange.query exchange.before).1 =
      some (if rejects (handleError exchange.ending) then
        .error (handleError exchange.ending).errorBody.toErrorResponse
        else .ok (handleError exchange.ending).errorBody.data) := by
  have answered := final_answer device exchange.event.tick exchange.query exchange.before final
  rw [answered]
  refine congrArg some (handled_outcome exchange.ending fun data success => ?_)
  have answers : exchange.answers = true := final_answers exchange final
  simp [Exchange.succeeds, success, answers] at failed

theorem final_handled (exchange : Exchange) (final : exchange.isFinal = true) :
    exchange.handled = some (handleError exchange.ending) := by
  obtain ⟨query, now, how, before⟩ := exchange
  cases query with
  | resumeRequest promise config => cases final
  | _ => simp only [Exchange.handled, final, if_true]

theorem handled_cases (exchange : Exchange) (response : Json)
    (handled : exchange.handled = some response) :
    (exchange.isFinal = true ∧ response = handleError exchange.ending) ∨
      ∃ code, response = handleError (.failure code) := by
  obtain ⟨query, now, how, before⟩ := exchange
  by_cases final : Exchange.isFinal ⟨query, now, how, before⟩ = true
  · have same := final_handled _ final
    exact Or.inl ⟨final, (Option.some.inj (same.symm.trans handled)).symm⟩
  · cases query with
    | resumeRequest promise config =>
        simp only [Exchange.handled] at handled
        split at handled
        · next refreshError rejected => exact Or.inr ⟨_, (Option.some.inj handled).symm⟩
        · cases handled
    | _ => simp only [Exchange.handled, final, Bool.false_eq_true, if_false,
        reduceCtorEq] at handled

theorem unfinished_error (exchange : Exchange) (unfinal : exchange.isFinal = false)
    (outcome : Except ErrorResponse (Option ResponseData))
    (closes : ending exchange.query
      (perform device exchange.event.tick exchange.query exchange.before).1 = some outcome) :
    ∃ error, outcome = .error error := by
  obtain ⟨query, now, how, before⟩ := exchange
  generalize performed : (perform device (Exchange.event ⟨query, now, how, before⟩).tick
    query before).1 = result at closes
  cases query with
  | intercept config =>
      rcases result with error | answer
      · exact ⟨_, (Option.some.inj closes).symm⟩
      · cases closes
  | resumeRequest promise config =>
      rcases result with error | answer
      · exact ⟨_, (Option.some.inj closes).symm⟩
      · cases closes
  | resumeResponse promise config =>
      rcases result with error | answer
      · exact ⟨_, (Option.some.inj closes).symm⟩
      · cases closes
  | receive config =>
      have expired : isExpired (replyOf how) = true ∧ config.retry = false := by
        simpa [Exchange.isFinal, endsWith] using unfinal
      rcases result with error | answer
      · exact ⟨_, (Option.some.inj closes).symm⟩
      · cases answer with
        | expired promise sending => cases closes
        | resolved data =>
            obtain ⟨promise, taken⟩ := lock_promise before
            simp only [perform, segmentOf, Exchange.event, receive, if_pos expired, Segment.map,
              taken] at performed
            cases performed
  | receiveAgain config => cases unfinal
  | _ => cases closes

end Exchanges

theorem failures_shown (device : Device) (config : Config) (tick : Tick) (exchanges : List Exchange)
    (last : Residual Query Query.Answer ErrorResponse Tick (Option ResponseData))
    (follows : Follows (perform device) (api config tick) (exchanges.map Exchange.event) last)
    (ended : last.awaiting = none)
    (failed : ∀ exchange ∈ exchanges, exchange.succeeds = false) :
    FailureShown exchanges last ↔ BodiesReport exchanges := by
  obtain ⟨closes, closed⟩ :=
    closes_follows (perform device) ending _ last _ (closes_api config tick) follows
  constructor
  · intro shown exchange member final status body answered genuine object
    -- A body that reports nothing is returned as it is, and then delivered.
    have valid : handleError exchange.ending = body := by
      simp [handleError, answered, invalidBody, genuine, object]
    by_cases rejected : rejects body = true
    · exact shown.reported exchange member body (valid ▸ final_handled exchange final) rejected
    · have settled := closes exchange.event (List.mem_map_of_mem member) _
        (final_closes device exchange final (failed exchange member))
      obtain ⟨error, same⟩ := shown.rejected
      rw [valid, if_neg rejected, same] at settled
      cases settled
  · intro report
    have reported : ∀ exchange ∈ exchanges, exchange.isFinal = true →
        rejects (handleError exchange.ending) = true ∧
          isReported (handleError exchange.ending) = true := by
      intro exchange member final
      cases answered : exchange.ending with
      | success data =>
          have failed := failed exchange member
          simp [Exchange.succeeds, answered, final_answers exchange final] at failed
      | failure code => exact failure_reported code
      | response status data =>
          by_cases invalid : invalidBody data = true
          · exact invalid_reported status data invalid
          · cases data with
            | none => exact absurd rfl invalid
            | some body =>
                simp only [invalidBody, Option.any_some, Bool.not_eq_true', Bool.not_eq_false,
                  Bool.and_eq_true] at invalid
                have own := report exchange member final status body answered invalid.1 invalid.2
                simp only [handleError, invalidBody, Option.any_some, invalid, Bool.and_self,
                  Bool.not_true, Bool.false_eq_true, if_false, Option.getD_some]
                exact ⟨reported_rejects body own, own⟩
    -- Failures without a response are always explained, those with one by assumption.
    have told : ∀ exchange ∈ exchanges, ∀ response ∈ exchange.handled,
        rejects response = true → isReported response = true := by
      intro exchange member response handled _
      rcases handled_cases exchange response handled with ⟨final, rfl⟩ | ⟨code, rfl⟩
      · exact (reported exchange member final).2
      · exact (failure_reported code).2
    refine ⟨?_, told⟩
    obtain ⟨event, member, outcome, same⟩ := closed nofun ended
    obtain ⟨exchange, known, rfl⟩ := List.mem_map.mp member
    have settled := closes exchange.event member outcome same
    by_cases final : exchange.isFinal = true
    · have own := final_closes device exchange final (failed exchange known)
      rw [if_pos (reported exchange known final).1] at own
      obtain rfl := Option.some.inj (same.symm.trans own)
      exact ⟨_, settled⟩
    · obtain ⟨error, rfl⟩ := unfinished_error device exchange (by simpa using final) outcome same
      exact ⟨error, settled⟩

/-! A health check that a crashed server answers. -/
section Crashed

def health : Config := .post "/health" (.app "")

def crashed (body : Json) : List Exchange :=
  let before := opened AuthStore.initial
  [{ query := .intercept health, now := 0, ending := .failure none, before },
    { query := .receive health, now := 0, ending := .response 500 (some body), before }]

def explained : Json := .object [("error", .string "Service Unavailable"), ("code", .string "DOWN")]

theorem failures_shown_explained :
    FailureShown (crashed explained) (.throw (.coded "Service Unavailable" "DOWN")) ↔
      BodiesReport (crashed explained) :=
  failures_shown phone health (at0 (.success none)) (crashed explained)
    (.throw (.coded "Service Unavailable" "DOWN")) ⟨rfl, rfl, rfl⟩ rfl
      (by simp [crashed, Exchange.succeeds])

theorem failures_hidden : ¬ ∀ (device : Device) (config : Config) (tick : Tick)
    (exchanges : List Exchange)
    (last : Residual Query Query.Answer ErrorResponse Tick (Option ResponseData)),
    Follows (perform device) (api config tick) (exchanges.map Exchange.event) last →
    last.awaiting = none → (∀ exchange ∈ exchanges, exchange.succeeds = false) →
    FailureShown exchanges last := by
  intro shown
  obtain ⟨error, same⟩ := (shown phone health (at0 (.success none)) (crashed (.object []))
    (.done none) ⟨rfl, rfl, rfl⟩ rfl (by simp [crashed, Exchange.succeeds])).rejected
  cases same

end Crashed
end TopInspect.ClientFailures
