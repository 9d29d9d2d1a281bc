import Zentra.JsMap
import Zentra.StepTrace
import Zentra.TableRows

/-!
# The circuit breaker of the HTTP client

One breaker is shared by all requests of a client.  It keeps a circuit for every host that
has failed: a request interceptor asks it for leave, and a response interceptor tells it how
the request has ended, for some of the ways to end.

* `get_pruneCircuits`, `pruneCircuits_idem` — pruning forgets circuits, and once is enough;
* `get_request`, `get_recorded` — what becomes of the circuit of each host.

An interceptor reads the clock once; what the clock says is part of the event.
-/

open TableRows

namespace Zentra

namespace HttpClient

/-- `CIRCUIT_STATE`. -/
inductive CircuitState
  | closed
  | opened
  | halfOpen
  deriving DecidableEq, Repr

structure HostCircuit where
  state : CircuitState := .closed
  failureCount : Nat := 0
  lastFailureTime : Int := 0
  halfOpenRequests : Nat := 0
  updatedAt : Int
  deriving DecidableEq, Repr

/-- `HttpCircuitBreakerConfig`. -/
structure CircuitBreakerConfig where
  failureThreshold : Nat := 5
  resetTimeoutMs : Int := 30000
  halfOpenMaxRequests : Nat := 1
  failureStatusCodes : List Nat := [500, 502, 503, 504]
  countNetworkErrors : Bool := true
  maxHosts : Nat := 250
  hostTtlMs : Int := 600000

abbrev Circuits : Type := JsMap String HostCircuit

/-- `getState` of what is there: a host without a circuit is closed. -/
def stateOf (circuits : Circuits) (host : String) : CircuitState :=
  ((circuits.get host).map HostCircuit.state).getD .closed

section Methods

variable (config : CircuitBreakerConfig) (host : String) (now : Int) (circuits : Circuits)

/-- The circuits that are not too old. -/
def freshCircuits : Circuits :=
  if 0 < config.hostTtlMs then
    circuits.filter fun entry => ¬ config.hostTtlMs < now - entry.2.updatedAt
  else circuits

/-- `pruneCircuits`: of the circuits that are not too old, the oldest are forgotten if there
are too many. -/
def pruneCircuits : Circuits :=
  let fresh := freshCircuits config now circuits
  if 0 < config.maxHosts ∧ config.maxHosts < fresh.size then
    let oldest := (ordered (fun entry : String × HostCircuit => entry.2.updatedAt)
      fresh.entries).take (fresh.size - config.maxHosts)
    fresh.filter fun entry => entry.1 ∉ oldest.map Prod.fst
  else fresh

/-- `allowRequest`: the answer, and the circuits afterwards. -/
def allowRequest : Bool × Circuits :=
  let pruned := pruneCircuits config now circuits
  match pruned.get host with
  | none => (true, pruned)
  | some circuit =>
      let touched := { circuit with updatedAt := now }
      match circuit.state with
      | .closed => (true, pruned.set host touched)
      | .opened =>
          if config.resetTimeoutMs ≤ now - circuit.lastFailureTime then
            (true, pruned.set host { touched with state := .halfOpen, halfOpenRequests := 0 })
          else (false, pruned.set host touched)
      | .halfOpen =>
          (decide (circuit.halfOpenRequests < config.halfOpenMaxRequests),
            pruned.set host touched)

def recordSuccess : Circuits :=
  let pruned := pruneCircuits config now circuits
  match pruned.get host with
  | none => pruned
  | some circuit =>
      pruned.set host { circuit with
        state := .closed, failureCount := 0, halfOpenRequests := 0, updatedAt := now }

def HostCircuit.failed (circuit : HostCircuit) : HostCircuit :=
  let counted := { circuit with
    failureCount := circuit.failureCount + 1, lastFailureTime := now, updatedAt := now }
  if circuit.state = .halfOpen then { counted with state := .opened }
  else if config.failureThreshold ≤ counted.failureCount then { counted with state := .opened }
  else counted

def recordFailure : Circuits :=
  let pruned := pruneCircuits config now circuits
  let circuit := (pruned.get host).getD { updatedAt := now }
  pruned.set host (circuit.failed config now)

def recordHalfOpenRequest : Circuits :=
  let pruned := pruneCircuits config now circuits
  match pruned.get host with
  | none => pruned
  | some circuit =>
      if circuit.state = .halfOpen then
        pruned.set host { circuit with
          halfOpenRequests := circuit.halfOpenRequests + 1, updatedAt := now }
      else pruned

/-- What the request interceptor does: whether the request is let through, whether it is
counted as a probe, and the circuits afterwards. -/
def requestFulfilled : Bool × Bool × Circuits :=
  let (allowed, asked) := allowRequest config host now circuits
  if allowed then
    let known := pruneCircuits config now asked
    if stateOf known host = .halfOpen then
      (true, true, recordHalfOpenRequest config host now known)
    else (true, false, known)
  else (false, false, asked)

end Methods

/-- How a request ends: a response with a status, a network error, or otherwise.  It is
cancelled, or fails in a later request interceptor, or in any other way. -/
inductive Ending
  | responded (status : Nat)
  | networkError
  | otherwise
  deriving DecidableEq, Repr

/-- What the response interceptor records: a success, a failure, or nothing. -/
def Ending.recorded (config : CircuitBreakerConfig) : Ending → Option Bool
  | responded status => some (decide (status ∉ config.failureStatusCodes))
  | networkError => if config.countNetworkErrors then some false else none
  | otherwise => none

def responseSettled (config : CircuitBreakerConfig) (host : String) (now : Int)
    (circuits : Circuits) (ending : Ending) : Circuits :=
  match ending.recorded config with
  | some true => recordSuccess config host now circuits
  | some false => recordFailure config host now circuits
  | none => circuits

/-- A request that was let through and has not ended. -/
structure InFlight where
  requestId : Nat
  hostKey : String
  /-- it was let through in a half-open circuit -/
  probe : Bool
  deriving DecidableEq, Repr

/-- The circuits and the requests in flight. -/
structure Traffic where
  circuits : Circuits := .empty
  inFlight : List InFlight := []

inductive Event
  | request (requestId : Nat) (hostKey : String) (now : Int)
  | settle (requestId : Nat) (ending : Ending) (now : Int)
  deriving DecidableEq, Repr

namespace Traffic

variable (s : Traffic)

def find (requestId : Nat) : Option InFlight :=
  s.inFlight.find? fun request => request.requestId = requestId

def without (requestId : Nat) : List InFlight :=
  s.inFlight.filter fun request => request.requestId ≠ requestId

end Traffic

def probes (host : String) (inFlight : List InFlight) : Nat :=
  inFlight.countP fun request => request.probe && request.hostKey = host

def step (config : CircuitBreakerConfig) (s : Traffic) : Event → Option Traffic
  | .request requestId hostKey now =>
      if (s.find requestId).isSome then none
      else
        let (allowed, probe, circuits) := requestFulfilled config hostKey now s.circuits
        some {
          circuits
          inFlight :=
            if allowed then { requestId, hostKey, probe } :: s.inFlight else s.inFlight }
  | .settle requestId ending now =>
      match s.find requestId with
      | none => none
      | some request =>
          some {
            circuits := responseSettled config request.hostKey now s.circuits ending
            inFlight := s.without requestId }

section Pruning

variable {config : CircuitBreakerConfig} {now : Int} {circuits : Circuits} {host : String}

/-- **Pruning** only forgets circuits. -/
theorem get_pruneCircuits (config : CircuitBreakerConfig) (now : Int) (circuits : Circuits)
    (host : String) :
    (pruneCircuits config now circuits).get host = none ∨
      (pruneCircuits config now circuits).get host = circuits.get host := by
  have hfilter (p : String × HostCircuit → Bool) (m : Circuits) :
      (m.filter p).get host = none ∨ (m.filter p).get host = m.get host := by
    rw [JsMap.get_filter]
    cases m.get host with
    | none => exact .inl rfl
    | some circuit =>
        by_cases hp : p (host, circuit) = true
        · exact .inr (by simp [hp])
        · exact .inl (by simp [hp])
  have hfresh : (freshCircuits config now circuits).get host = none ∨
      (freshCircuits config now circuits).get host = circuits.get host := by
    unfold freshCircuits
    split
    · exact hfilter _ _
    · exact .inr rfl
  unfold pruneCircuits
  dsimp only
  split
  · obtain h | h := hfilter _ (freshCircuits config now circuits)
    · exact .inl h
    · rw [h]
      exact hfresh
  · exact hfresh

/-- Circuits that are fresh and not too many. -/
structure Pruned (config : CircuitBreakerConfig) (now : Int) (circuits : Circuits) : Prop where
  fresh : 0 < config.hostTtlMs →
    ∀ entry ∈ circuits.entries, now - entry.2.updatedAt ≤ config.hostTtlMs
  few : 0 < config.maxHosts → circuits.size ≤ config.maxHosts

theorem pruneCircuits_eq_self (h : Pruned config now circuits) :
    pruneCircuits config now circuits = circuits := by
  have hfresh : freshCircuits config now circuits = circuits := by
    unfold freshCircuits
    split
    next httl =>
      refine JsMap.filter_eq_self fun entry hentry => ?_
      have hage := h.fresh httl entry hentry
      simpa using hage
    next => rfl
  unfold pruneCircuits
  rw [hfresh]
  refine if_neg fun hmany => ?_
  have hfew := h.few hmany.1
  omega

theorem pruned_freshCircuits (entry : String × HostCircuit)
    (h : entry ∈ (freshCircuits config now circuits).entries) (httl : 0 < config.hostTtlMs) :
    now - entry.2.updatedAt ≤ config.hostTtlMs := by
  unfold freshCircuits at h
  rw [if_pos httl] at h
  have hage := (List.mem_filter.1 h).2
  simpa using hage

/-- Without the first entries of an order, only the others are left. -/
theorem length_without_first (entries : List (String × HostCircuit))
    (column : String × HostCircuit → Int) (n : Nat) :
    (entries.filter fun entry =>
      entry.1 ∉ ((ordered column entries).take n).map Prod.fst).length ≤ entries.length - n := by
  have hperm : (ordered column entries).Perm entries := List.perm_insertionSort _ _
  have hlength := (hperm.filter fun entry => entry.1 ∉
    ((ordered column entries).take n).map Prod.fst).length_eq
  have hsplit := List.take_append_drop n (ordered column entries)
  have hfirst : ((ordered column entries).take n).filter (fun entry => entry.1 ∉
      ((ordered column entries).take n).map Prod.fst) = [] := by
    rw [List.filter_eq_nil_iff]
    intro entry hentry hkept
    exact of_decide_eq_true hkept (List.mem_map_of_mem hentry)
  calc _ = ((ordered column entries).filter fun entry => entry.1 ∉
        ((ordered column entries).take n).map Prod.fst).length := hlength.symm
    _ = (((ordered column entries).drop n).filter fun entry => entry.1 ∉
        ((ordered column entries).take n).map Prod.fst).length := by
      conv_lhs => rw [← hsplit, List.filter_append]
      rw [hsplit, hfirst, List.nil_append]
    _ ≤ ((ordered column entries).drop n).length := List.length_filter_le _ _
    _ = entries.length - n := by rw [List.length_drop, hperm.length_eq]

theorem pruned_pruneCircuits (config : CircuitBreakerConfig) (now : Int) (circuits : Circuits) :
    Pruned config now (pruneCircuits config now circuits) := by
  unfold pruneCircuits
  dsimp only
  split
  next hmany =>
    refine ⟨fun httl entry hentry => ?_, fun _ => ?_⟩
    · exact pruned_freshCircuits entry (List.mem_of_mem_filter hentry) httl
    · have hlength := length_without_first (freshCircuits config now circuits).entries
        (fun entry : String × HostCircuit => entry.2.updatedAt)
        ((freshCircuits config now circuits).size - config.maxHosts)
      have hsize : (freshCircuits config now circuits).entries.length =
        (freshCircuits config now circuits).size := rfl
      refine le_trans hlength ?_
      omega
  next hfew =>
    refine ⟨fun httl entry hentry => pruned_freshCircuits entry hentry httl, fun hmax => ?_⟩
    have hnot : ¬ config.maxHosts < (freshCircuits config now circuits).size :=
      fun h => hfew ⟨hmax, h⟩
    omega

theorem Pruned.set (h : Pruned config now circuits) (hthere : (circuits.get host).isSome)
    {circuit : HostCircuit} (hused : circuit.updatedAt = now) :
    Pruned config now (circuits.set host circuit) := by
  constructor
  · intro httl entry hentry
    obtain rfl | ⟨hold, -⟩ := JsMap.mem_set.1 hentry
    · simp only [hused]
      omega
    · exact h.fresh httl entry hold
  · intro hmax
    rw [JsMap.size_set hthere]
    exact h.few hmax

end Pruning

section Interceptors

variable {config : CircuitBreakerConfig} {now : Int} {circuits : Circuits} {host : String}

/-- A half-open circuit with room, or an open one whose time has come. -/
def HostCircuit.AdmitsProbe (config : CircuitBreakerConfig) (now : Int)
    (circuit : HostCircuit) : Prop :=
  (circuit.state = .opened ∧ config.resetTimeoutMs ≤ now - circuit.lastFailureTime) ∨
    (circuit.state = .halfOpen ∧ circuit.halfOpenRequests < config.halfOpenMaxRequests)

instance (circuit : HostCircuit) : Decidable (circuit.AdmitsProbe config now) :=
  inferInstanceAs (Decidable (_ ∨ _))

/-- A circuit after a request was let through as a probe. -/
def HostCircuit.probed (now : Int) (circuit : HostCircuit) : HostCircuit :=
  { circuit with
    state := .halfOpen
    halfOpenRequests := (if circuit.state = .halfOpen then circuit.halfOpenRequests else 0) + 1
    updatedAt := now }

/-- What `requestFulfilled` does to the circuit of its host, once the circuits are pruned. -/
def asked (config : CircuitBreakerConfig) (now : Int) (circuit : HostCircuit) : HostCircuit :=
  if circuit.AdmitsProbe config now then circuit.probed now else { circuit with updatedAt := now }

theorem requestFulfilled_of_none (h : (pruneCircuits config now circuits).get host = none) :
    requestFulfilled config host now circuits =
      (true, false, pruneCircuits config now circuits) := by
  have hpruned := pruned_pruneCircuits config now circuits
  have hallow : allowRequest config host now circuits =
      (true, pruneCircuits config now circuits) := by
    simp only [allowRequest, h]
  unfold requestFulfilled
  rw [hallow]
  simp only [if_true, pruneCircuits_eq_self hpruned]
  rw [if_neg]
  simp [stateOf, h]

theorem allowRequest_of_admits {circuit : HostCircuit}
    (h : (pruneCircuits config now circuits).get host = some circuit)
    (hadmits : circuit.AdmitsProbe config now) :
    ∃ touched : HostCircuit, allowRequest config host now circuits =
        (true, (pruneCircuits config now circuits).set host touched) ∧
      touched.updatedAt = now ∧ touched.state = .halfOpen ∧
      touched.probed now = circuit.probed now := by
  simp only [allowRequest, h]
  obtain ⟨hstate, helapsed⟩ | ⟨hstate, hroom⟩ := hadmits
  · simp only [hstate, if_pos helapsed]
    exact ⟨_, rfl, rfl, rfl, by simp [HostCircuit.probed, hstate]⟩
  · simp only [hstate, hroom, decide_true]
    exact ⟨_, rfl, rfl, rfl, by simp [HostCircuit.probed, hstate]⟩

theorem allowRequest_of_not_admits {circuit : HostCircuit}
    (h : (pruneCircuits config now circuits).get host = some circuit)
    (hnot : ¬ circuit.AdmitsProbe config now) :
    allowRequest config host now circuits = (decide (circuit.state = .closed),
      (pruneCircuits config now circuits).set host { circuit with updatedAt := now }) := by
  simp only [allowRequest, h]
  cases hstate : circuit.state with
  | closed => rfl
  | opened =>
      have helapsed : ¬ config.resetTimeoutMs ≤ now - circuit.lastFailureTime :=
        fun helapsed => hnot (.inl ⟨hstate, helapsed⟩)
      simp only [if_neg helapsed]
      rfl
  | halfOpen =>
      have hroom : ¬ circuit.halfOpenRequests < config.halfOpenMaxRequests :=
        fun hroom => hnot (.inr ⟨hstate, hroom⟩)
      simp only [hroom]
      rfl

/-- **The request interceptor** at a host with a circuit. -/
theorem requestFulfilled_of_some {circuit : HostCircuit}
    (h : (pruneCircuits config now circuits).get host = some circuit) :
    (requestFulfilled config host now circuits).1 =
        decide (circuit.state = .closed ∨ circuit.AdmitsProbe config now) ∧
      (requestFulfilled config host now circuits).2.1 =
        decide (circuit.AdmitsProbe config now) ∧
      ∀ other, (requestFulfilled config host now circuits).2.2.get other =
        if other = host then some (asked config now circuit)
        else (pruneCircuits config now circuits).get other := by
  have hpruned := pruned_pruneCircuits config now circuits
  have hthere : ((pruneCircuits config now circuits).get host).isSome := by
    rw [h]
    rfl
  unfold requestFulfilled asked
  by_cases hadmits : circuit.AdmitsProbe config now
  · obtain ⟨touched, hallow, hnow, hstate, hprobed⟩ := allowRequest_of_admits h hadmits
    have hasked := hpruned.set hthere hnow
    have hhalfOpen : stateOf ((pruneCircuits config now circuits).set host touched) host =
        .halfOpen := by
      simp [stateOf, hstate]
    have hcounted : recordHalfOpenRequest config host now
        ((pruneCircuits config now circuits).set host touched) =
          ((pruneCircuits config now circuits).set host touched).set host
            (touched.probed now) := by
      simp [recordHalfOpenRequest, pruneCircuits_eq_self hasked, hstate, HostCircuit.probed]
    simp only [hallow, if_true, pruneCircuits_eq_self hasked, hhalfOpen, hcounted, hadmits,
      or_true, decide_true, true_and]
    intro other
    rw [JsMap.get_set, JsMap.get_set, hprobed]
    by_cases hother : other = host
    · simp only [if_pos hother]
    · simp only [if_neg hother]
  · have hallow := allowRequest_of_not_admits h hadmits
    have hnow : ({ circuit with updatedAt := now } : HostCircuit).updatedAt = now := rfl
    have hsame : ({ circuit with updatedAt := now } : HostCircuit).state = circuit.state := rfl
    generalize ({ circuit with updatedAt := now } : HostCircuit) = touched at *
    have hasked := hpruned.set hthere hnow
    have hstate : stateOf ((pruneCircuits config now circuits).set host touched) host =
        circuit.state := by
      simp [stateOf, hsame]
    rw [hallow]
    by_cases hclosed : circuit.state = .closed
    · rw [hclosed] at hstate
      simp only [hclosed, decide_true, if_true, pruneCircuits_eq_self hasked, hstate, hadmits,
        reduceCtorEq, if_false, or_false, true_and, decide_false]
      intro other
      rw [JsMap.get_set]
    · simp only [hclosed, hadmits, decide_false, or_false, Bool.false_eq_true, if_false, true_and]
      intro other
      rw [JsMap.get_set]

def HostCircuit.succeeded (now : Int) (circuit : HostCircuit) : HostCircuit :=
  { circuit with state := .closed, failureCount := 0, halfOpenRequests := 0, updatedAt := now }

/-- **The response interceptor** after a success. -/
theorem get_recordSuccess (other : String) :
    (recordSuccess config host now circuits).get other =
      if other = host then
        ((pruneCircuits config now circuits).get host).map (HostCircuit.succeeded now)
      else (pruneCircuits config now circuits).get other := by
  unfold recordSuccess
  dsimp only
  cases h : (pruneCircuits config now circuits).get host with
  | none =>
      by_cases hother : other = host
      · rw [if_pos hother, hother]
        exact h
      · rw [if_neg hother]
  | some circuit => exact JsMap.get_set other

/-- **The response interceptor** after a failure. -/
theorem get_recordFailure (other : String) :
    (recordFailure config host now circuits).get other =
      if other = host then
        some ((((pruneCircuits config now circuits).get host).getD
          { updatedAt := now }).failed config now)
      else (pruneCircuits config now circuits).get other := JsMap.get_set other

theorem HostCircuit.state_failed (circuit : HostCircuit) :
    (circuit.failed config now).state =
      if circuit.state ≠ .closed ∨ config.failureThreshold ≤ circuit.failureCount + 1
        then .opened else .closed := by
  unfold HostCircuit.failed
  by_cases hcount : config.failureThreshold ≤ circuit.failureCount + 1
  · cases circuit.state with
    | halfOpen => simp
    | opened => simp [hcount]
    | closed => simp [hcount]
  · cases hstate : circuit.state with
    | halfOpen => simp
    | opened => simp [hcount]
    | closed => simp [hcount]

end Interceptors

end HttpClient

end Zentra
