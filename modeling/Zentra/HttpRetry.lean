import Mathlib.Data.Nat.Find
import Zentra.JsonDocument

/-!
# Retries of the HTTP client

The retry interceptor sends a request again from inside the chain of response interceptors, so
the interceptors behind it see the outcome of a retried request once for every attempt.

* `request_eq` — what the chain makes of the answer to it;
* `settlesOnce_iff` — where the handler of unauthorized requests is called as often as meant.
-/

open JsonDocument

namespace Zentra

namespace HttpClient

/-- `AxiosResponse`. -/
structure HttpResponse where
  status : Nat
  data : Json

structure AxiosError where
  code : Option String
  message : String
  response : Option HttpResponse := none
  hasConfig : Bool := true

/-- What a host gives to one dispatch. -/
inductive Answer
  | responded (response : HttpResponse)
  | failed (error : AxiosError)
  /-- an error that is none of axios -/
  | threw (message : String)

/-- `HTTP_ERROR_CODE`, of the errors that the normalizer makes. -/
inductive HttpErrorCode
  | requestFailed
  | timeout
  | networkError
  | cancelled
  | unauthorized
  | forbidden
  | notFound
  | serverError
  deriving DecidableEq, Repr

structure HttpError where
  httpCode : HttpErrorCode
  message : String
  statusCode : Option Nat := none
  url : Option String
  method : Option String

/-- How the promise of a request settles. -/
inductive Outcome
  | fulfilled (response : HttpResponse)
  | axiosRejected (error : AxiosError)
  | httpRejected (error : HttpError)
  | rejected (message : String)

def Answer.outcome : Answer → Outcome
  | responded response => .fulfilled response
  | failed error => .axiosRejected error
  | threw message => .rejected message

/-- `HttpRetryConfig`, without what only the delays depend on. -/
structure HttpRetryConfig where
  enabled : Bool := true
  maxRetries : Int := 3
  retryableStatusCodes : List Nat := [408, 429, 500, 502, 503, 504]
  retryOnNetworkError : Bool := true

/-- The client, and the request: `url` as it was given and as it is resolved. -/
structure RetryingClient where
  retry : HttpRetryConfig
  authEnabled : Bool
  url : Option String := none
  requestUrl : Option String := none
  method : Option String := none
  timeout : Nat := 30000

section Chain

variable (client : RetryingClient)

def isRetriableHttpStatus (status : Nat) : Bool :=
  500 ≤ status || status = 408 || status = 429 || status = 0

def isRetryableStatusCode (status : Nat) (retryableStatusCodes : List Nat) : Bool :=
  if retryableStatusCodes = [] then isRetriableHttpStatus status
  else retryableStatusCodes.contains status

def isRetryableAxiosError (error : AxiosError) (retryOnNetworkError : Bool) : Bool :=
  if error.code = some "ERR_CANCELED" then false
  else retryOnNetworkError && (error.code = some "ERR_NETWORK" ||
    error.code = some "ECONNABORTED" || error.code = some "ETIMEDOUT")

/-- The two handlers of the interceptor send the request again, if there is an attempt left. -/
def retries : Answer → Bool
  | .responded response => client.retry.enabled &&
      isRetryableStatusCode response.status client.retry.retryableStatusCodes
  | .failed error => client.retry.enabled &&
      isRetryableAxiosError error client.retry.retryOnNetworkError && error.hasConfig
  | .threw _ => false

/-- The answer to an attempt makes another one. -/
def Retried (answers : Nat → Answer) (retryCount : Nat) : Prop :=
  retries client (answers retryCount) = true ∧ (retryCount : Int) < client.retry.maxRetries

instance (answers : Nat → Answer) (retryCount : Nat) :
    Decidable (Retried client answers retryCount) := inferInstanceAs (Decidable (_ ∧ _))

/-- What `handleUnauthorized` is called with, and the code it invalidates with. -/
structure Invalidation where
  code : String
  statusCode : Nat
  url : Option String

def handleUnauthorized (statusCode : Nat) (url : Option String) : Invalidation where
  code := if statusCode = 403 then "forbidden" else "unauthorized"
  statusCode := statusCode
  url := url

/-- The calls of the handler when an outcome passes. -/
def unauthorizedCalls : Outcome → List Invalidation
  | .fulfilled response =>
      if client.authEnabled = true ∧ (response.status = 401 ∨ response.status = 403) then
        [handleUnauthorized response.status client.url]
      else []
  | .httpRejected error =>
      if client.authEnabled then
        match error.httpCode with
        | .unauthorized => [handleUnauthorized (error.statusCode.getD 401) error.url]
        | .forbidden => [handleUnauthorized (error.statusCode.getD 403) error.url]
        | _ => []
      else []
  | _ => []

def extractErrorMessage : Json → Option String
  | .string text => some text
  | .object members =>
      match Object.get "message" members, Object.get "error" members,
        Object.get "errorMessage" members, Object.get "errors" members with
      | some (.string text), _, _, _ => some text
      | _, some (.string text), _, _ => some text
      | _, _, some (.string text), _ => some text
      | _, _, _, some (.array (.object first :: _)) =>
          match Object.get "message" first with
          | some (.string text) => some text
          | _ => none
      | _, _, _, _ => none
  | _ => none

def mapStatusToError (status : Nat) (message : String) (url method : Option String) : HttpError :=
  match status with
  | 401 => ⟨.unauthorized, "Unauthorized - authentication required", some 401, url, method⟩
  | 403 => ⟨.forbidden, "Forbidden - insufficient permissions", some 403, url, method⟩
  | 404 => ⟨.notFound, "Resource not found", some 404, url, method⟩
  | _ =>
      if 500 ≤ status then ⟨.serverError, message, some status, url, method⟩
      else ⟨.requestFailed, message, some status, url, method⟩

def convertAxiosError (error : AxiosError) : HttpError :=
  let url := if error.hasConfig then client.requestUrl else none
  let method := if error.hasConfig then client.method else none
  let timeout := if error.hasConfig then client.timeout else 0
  if error.code = some "ERR_CANCELED" then ⟨.cancelled, "Request was cancelled", none, url, method⟩
  else if error.code = some "ECONNABORTED" ∨ error.code = some "ETIMEDOUT" then
    ⟨.timeout, s!"Request timed out after {timeout}ms", none, url, method⟩
  else
    match error.code, error.response with
    | some "ERR_NETWORK", _ | _, none => ⟨.networkError, error.message, none, url, method⟩
    | _, some response =>
        mapStatusToError response.status ((extractErrorMessage response.data).getD error.message)
          url method

def convertResponseError (response : HttpResponse) : HttpError :=
  mapStatusToError response.status
    ((extractErrorMessage response.data).getD s!"HTTP {response.status}")
    client.requestUrl client.method

def normalize : Outcome → Outcome
  | .fulfilled response =>
      if 400 ≤ response.status then .httpRejected (convertResponseError client response)
      else .fulfilled response
  | .axiosRejected error => .httpRejected (convertAxiosError client error)
  | outcome => outcome

/-- A request as it has settled: how often it was dispatched, and the calls of the handler. -/
structure Exchange where
  outcome : Outcome
  dispatches : Nat
  invalidations : List Invalidation

/-- The interceptors behind the retries. -/
def Exchange.intercepted (exchange : Exchange) : Exchange where
  outcome := normalize client exchange.outcome
  dispatches := exchange.dispatches
  invalidations := exchange.invalidations ++ unauthorizedCalls client exchange.outcome

/-- `instance.request`, where the host gives `answers k` to the attempt `k`. -/
def request (answers : Nat → Answer) (retryCount : Nat) : Exchange :=
  if hretried : Retried client answers retryCount then
    let retried := request answers (retryCount + 1)
    { retried with dispatches := retried.dispatches + 1 }.intercepted client
  else Exchange.intercepted client ⟨(answers retryCount).outcome, 1, []⟩
termination_by (client.retry.maxRetries - retryCount).toNat
decreasing_by
  have := hretried.2
  omega

end Chain

section Last

variable {client : RetryingClient} {answers : Nat → Answer} {n : Nat}

/-- The attempt that is not tried again. -/
structure Last (client : RetryingClient) (answers : Nat → Answer) (n : Nat) : Prop where
  before : ∀ k < n, Retried client answers k
  not_retried : ¬ Retried client answers n

theorem exists_last (client : RetryingClient) (answers : Nat → Answer) :
    ∃ n, Last client answers n := by
  have hsome : ∃ n, ¬ Retried client answers n :=
    ⟨client.retry.maxRetries.toNat, fun h => by have := h.2; omega⟩
  exact ⟨Nat.find hsome, fun k hk => not_not.1 (Nat.find_min hsome hk), Nat.find_spec hsome⟩

theorem Last.le (h : Last client answers n) : n ≤ client.retry.maxRetries.toNat := by
  by_contra hmore
  have hbefore := (h.before client.retry.maxRetries.toNat (by omega)).2
  omega

theorem normalize_fulfilled (response : HttpResponse) :
    normalize client (.fulfilled response) =
      if 400 ≤ response.status then .httpRejected (convertResponseError client response)
      else .fulfilled response := rfl

@[simp] theorem normalize_idem (outcome : Outcome) :
    normalize client (normalize client outcome) = normalize client outcome := by
  cases outcome with
  | fulfilled response =>
      rw [normalize_fulfilled]
      split
      · rfl
      next hstatus => rw [normalize_fulfilled, if_neg hstatus]
  | axiosRejected error => rfl
  | httpRejected error => rfl
  | rejected message => rfl

/-- The calls for an answer: those at its own level, and those of the attempts around it. -/
def callsFor (client : RetryingClient) (answer : Answer) (outer : Nat) : List Invalidation :=
  unauthorizedCalls client answer.outcome ++
    (List.replicate outer (unauthorizedCalls client (normalize client answer.outcome))).flatten

/-- **A request with its retries** ends with the last answer; every attempt before it calls the
handler once more. -/
theorem request_eq (hlast : Last client answers n) {retryCount outer : Nat}
    (hn : retryCount + outer = n) :
    request client answers retryCount =
      ⟨normalize client (answers n).outcome, outer + 1, callsFor client (answers n) outer⟩ := by
  induction outer generalizing retryCount with
  | zero =>
      obtain rfl : retryCount = n := hn
      rw [request, dif_neg hlast.not_retried]
      simp [Exchange.intercepted, callsFor]
  | succ outer ih =>
      rw [request, dif_pos (hlast.before retryCount (by omega)), ih (by omega)]
      simp [Exchange.intercepted, callsFor, List.replicate_succ']

def Outcome.Unauthorized : Outcome → Prop
  | .httpRejected error => error.httpCode = .unauthorized ∨ error.httpCode = .forbidden
  | _ => False

instance (outcome : Outcome) : Decidable outcome.Unauthorized :=
  match outcome with
  | .httpRejected _ => inferInstanceAs (Decidable (_ ∨ _))
  | .fulfilled _ | .axiosRejected _ | .rejected _ => inferInstanceAs (Decidable False)

def Answer.Responds : Answer → Prop
  | .responded _ => True
  | _ => False

instance (answer : Answer) : Decidable answer.Responds :=
  match answer with
  | .responded _ => inferInstanceAs (Decidable True)
  | .failed _ | .threw _ => inferInstanceAs (Decidable False)

theorem unauthorized_mapStatusToError {status : Nat} {message : String}
    {url method : Option String} :
    (Outcome.httpRejected (mapStatusToError status message url method)).Unauthorized ↔
      status = 401 ∨ status = 403 := by
  unfold mapStatusToError
  split
  · simp [Outcome.Unauthorized]
  · simp [Outcome.Unauthorized]
  · simp [Outcome.Unauthorized]
  next hunauthorized hforbidden _ =>
    refine iff_of_false ?_ (by simp_all)
    split <;> simp [Outcome.Unauthorized]

theorem length_unauthorizedCalls_normalize (answer : Answer) :
    (unauthorizedCalls client (normalize client answer.outcome)).length =
      if client.authEnabled = true ∧ (normalize client answer.outcome).Unauthorized then 1
      else 0 := by
  cases hnormalized : normalize client answer.outcome with
  | fulfilled response =>
      have hstatus : response.status < 400 := by
        cases answer with
        | responded other =>
            rw [Answer.outcome, normalize_fulfilled] at hnormalized
            split at hnormalized
            · cases hnormalized
            · cases hnormalized
              omega
        | failed error => cases hnormalized
        | threw message => cases hnormalized
      rw [unauthorizedCalls, if_neg (by omega), if_neg fun h => h.2]
      rfl
  | httpRejected error =>
      obtain ⟨httpCode, message, statusCode, url, method⟩ := error
      unfold unauthorizedCalls Outcome.Unauthorized
      cases client.authEnabled with
      | false => simp
      | true => cases httpCode <;> simp
  | axiosRejected error => simp [unauthorizedCalls, Outcome.Unauthorized]
  | rejected message => simp [unauthorizedCalls, Outcome.Unauthorized]

theorem unauthorized_responded {response : HttpResponse} :
    (normalize client (.fulfilled response)).Unauthorized ↔
      response.status = 401 ∨ response.status = 403 := by
  rw [normalize_fulfilled]
  split
  · exact unauthorized_mapStatusToError
  · exact iff_of_false id (by omega)

theorem length_unauthorizedCalls_outcome (answer : Answer) :
    (unauthorizedCalls client answer.outcome).length =
      if client.authEnabled = true ∧ (normalize client answer.outcome).Unauthorized ∧
        answer.Responds then 1 else 0 := by
  cases answer with
  | responded response =>
      simp only [Answer.outcome, unauthorized_responded, Answer.Responds, and_true]
      rw [unauthorizedCalls, apply_ite List.length]
      rfl
  | failed error => simp [Answer.outcome, unauthorizedCalls, Answer.Responds]
  | threw message => simp [Answer.outcome, unauthorizedCalls, Answer.Responds]

/-- The request is dispatched as often as allowed, the caller gets the last outcome, and the
handler is called once for an unauthorized one. -/
structure SettlesOnce (client : RetryingClient) (answers : Nat → Answer)
    (exchange : Exchange) : Prop where
  bounded : (exchange.dispatches : Int) ≤ client.retry.maxRetries + 1
  last : exchange.outcome = normalize client (answers (exchange.dispatches - 1)).outcome
  notified : exchange.invalidations.length = if exchange.outcome.Unauthorized then 1 else 0

/-- **Requests settle once** exactly where the last answer, if it is unauthorized, is a response
to the first attempt, or the error of the second with such a response in it. -/
theorem settlesOnce_iff (client : RetryingClient) (answers : Nat → Answer) :
    SettlesOnce client answers (request client answers 0) ↔
      0 ≤ client.retry.maxRetries ∧ ∀ n, Last client answers n →
        (normalize client (answers n).outcome).Unauthorized → client.authEnabled = true ∧
          ((answers n).Responds ∧ n = 0 ∨ ¬ (answers n).Responds ∧ n = 1) := by
  obtain ⟨n, hlast⟩ := exists_last client answers
  have hunique (m : Nat) (hm : Last client answers m) : m = n := by
    obtain hlt | heq | hgt := Nat.lt_trichotomy m n
    · exact absurd (hlast.before m hlt) hm.not_retried
    · exact heq
    · exact absurd (hm.before n hgt) hlast.not_retried
  have hle := hlast.le
  have hcalls : (callsFor client (answers n) n).length =
      (if client.authEnabled = true ∧ (normalize client (answers n).outcome).Unauthorized ∧
        (answers n).Responds then 1 else 0) +
      n * if client.authEnabled = true ∧ (normalize client (answers n).outcome).Unauthorized then 1
        else 0 := by
    rw [callsFor, List.length_append, length_unauthorizedCalls_outcome,
      ← length_unauthorizedCalls_normalize]
    simp
  rw [request_eq hlast (Nat.zero_add n)]
  constructor
  · intro h
    have hbounded := h.bounded
    refine ⟨by simp only at hbounded; omega, fun m hm hunauthorized => ?_⟩
    rw [hunique m hm] at hunauthorized ⊢
    have hnotified := h.notified
    simp only [hcalls, hunauthorized, if_true, true_and, and_true] at hnotified
    cases hauth : client.authEnabled with
    | false => simp [hauth] at hnotified
    | true =>
        refine ⟨rfl, ?_⟩
        by_cases hresponds : (answers n).Responds
        · exact .inl ⟨hresponds, by simpa [hauth, hresponds] using hnotified⟩
        · exact .inr ⟨hresponds, by simpa [hauth, hresponds] using hnotified⟩
  · intro ⟨hpositive, hcondition⟩
    refine ⟨by simp only; omega, rfl, ?_⟩
    simp only [hcalls]
    by_cases hunauthorized : (normalize client (answers n).outcome).Unauthorized
    · obtain ⟨hauth, ⟨hresponds, hzero⟩ | ⟨hresponds, hone⟩⟩ := hcondition n hlast hunauthorized
      · rw [if_pos ⟨hauth, hunauthorized, hresponds⟩, if_pos hunauthorized, hzero]
        simp
      · rw [if_neg fun h => hresponds h.2.2, if_pos ⟨hauth, hunauthorized⟩, if_pos hunauthorized,
          hone]
    · simp [hunauthorized]

/-- A server that is unavailable for a moment, and asks for a login afterwards. -/
theorem unauthorizedAfterRetry_notifies_twice :
    ¬ SettlesOnce ⟨{}, true, none, none, none, 30000⟩
      (fun k => .responded ⟨if k = 0 then 503 else 401, .null⟩)
      (request ⟨{}, true, none, none, none, 30000⟩
        (fun k => .responded ⟨if k = 0 then 503 else 401, .null⟩) 0) := by
  intro h
  have hnotified := h.notified
  rw [request, dif_pos (by decide), request, dif_neg (by decide)] at hnotified
  exact absurd hnotified (by decide)

end Last

end HttpClient

end Zentra
