import Zentra.HttpCircuitBreaker

/-!
# What the circuit breaker of the HTTP client promises

An open circuit becomes half-open once its time has come, only a successful probe closes it,
there are never too many probes, and a half-open circuit that admits no more of them has one
in flight.

* `respectsContract_iff` — the runs that keep it are those of orderly events;
* `cancelledProbe_stuck` — a probe that is cancelled is never counted back.
-/

open StepTrace

namespace Zentra

namespace HttpClient

def Event.clock : Event → Int
  | request _ _ now => now
  | settle _ _ now => now

def ProbeSucceeds (config : CircuitBreakerConfig) (s : Traffic) (host : String) :
    Event → Prop
  | .request .. => False
  | .settle requestId ending _ => ending.recorded config = some true ∧
      ∃ request ∈ s.find requestId, request.hostKey = host ∧ request.probe = true

/-- There are never too many probes of a host. -/
def Bounded (config : CircuitBreakerConfig) (s : Traffic) : Prop :=
  ∀ host, probes host s.inFlight ≤ config.halfOpenMaxRequests

/-- A half-open circuit that admits no further probe has one in flight. -/
def Recoverable (config : CircuitBreakerConfig) (s : Traffic) : Prop :=
  ∀ host, ∀ circuit ∈ s.circuits.get host, circuit.state = .halfOpen →
    config.halfOpenMaxRequests ≤ circuit.halfOpenRequests → 0 < probes host s.inFlight

/-- **What is promised** of an event. -/
structure Contract (config : CircuitBreakerConfig) (s : Traffic) (e : Event) (t : Traffic) :
    Prop where
  opened : ∀ host, ∀ circuit ∈ s.circuits.get host, circuit.state = .opened →
    stateOf t.circuits host ≠ .opened →
    stateOf t.circuits host = .halfOpen ∧
      config.resetTimeoutMs ≤ e.clock - circuit.lastFailureTime
  closed : ∀ host, stateOf s.circuits host ≠ .closed → stateOf t.circuits host = .closed →
    ProbeSucceeds config s host e
  bounded : Bounded config t
  recoverable : Recoverable config t

/-- Pruning spares the circuit of the host, or it is closed. -/
def Spares (config : CircuitBreakerConfig) (now : Int) (circuits : Circuits) (host : String) :
    Prop :=
  stateOf circuits host = .closed ∨ ((pruneCircuits config now circuits).get host).isSome

/-- Pruning spares the circuits of the hosts but for one of them. -/
def SparesOthers (config : CircuitBreakerConfig) (now : Int) (circuits : Circuits)
    (host : String) : Prop :=
  ∀ entry ∈ circuits.entries, entry.1 ≠ host → Spares config now circuits entry.1

/-- A request may end so that this is recorded: a success never in an open circuit, and in a
half-open one for a probe; nothing not for the last probe of a half-open circuit without
room. -/
def EndsOrderly (config : CircuitBreakerConfig) (s : Traffic) (request : InFlight) (now : Int) :
    Option Bool → Prop
  | some true =>
      SparesOthers config now s.circuits request.hostKey ∧
        stateOf s.circuits request.hostKey ≠ .opened ∧
        (stateOf s.circuits request.hostKey = .halfOpen → request.probe = true)
  | some false =>
      SparesOthers config now s.circuits request.hostKey ∧
        (Spares config now s.circuits request.hostKey ∨ config.failureThreshold ≤ 1)
  | none => request.probe = true →
      ∀ circuit ∈ s.circuits.get request.hostKey, circuit.state = .halfOpen →
        config.halfOpenMaxRequests ≤ circuit.halfOpenRequests →
        0 < probes request.hostKey (s.without request.requestId)

/-- **The condition.**  No circuit is forgotten before it is closed, a probe is admitted only
while there are not too many, and every request ends in order. -/
def Orderly (config : CircuitBreakerConfig) (s : Traffic) : Event → Prop
  | .request _ host now =>
      Spares config now s.circuits host ∧ SparesOthers config now s.circuits host ∧
        ∀ circuit ∈ (pruneCircuits config now s.circuits).get host,
          circuit.AdmitsProbe config now →
            probes host s.inFlight < config.halfOpenMaxRequests
  | .settle requestId ending now =>
      ∀ request ∈ s.find requestId, EndsOrderly config s request now (ending.recorded config)

section Probes

variable {s : Traffic} {request : InFlight} {requestId : Nat} {host : String}

/-- The requests in flight have identifiers of their own. -/
def DistinctIds (s : Traffic) : Prop := (s.inFlight.map InFlight.requestId).Nodup

theorem countP_without (p : InFlight → Bool) {inFlight : List InFlight}
    (hdistinct : (inFlight.map InFlight.requestId).Nodup)
    (hfind : (inFlight.find? fun other => other.requestId = requestId) = some request) :
    inFlight.countP p = (inFlight.filter fun other => other.requestId ≠ requestId).countP p +
      if p request then 1 else 0 := by
  induction inFlight with
  | nil => simp at hfind
  | cons first rest ih =>
      rw [List.map_cons, List.nodup_cons] at hdistinct
      obtain ⟨hfirst, hrest⟩ := hdistinct
      by_cases hid : first.requestId = requestId
      · rw [List.find?_cons_of_pos (by simpa using hid)] at hfind
        obtain rfl := Option.some.inj hfind
        have hothers : (rest.filter fun other => other.requestId ≠ requestId) = rest := by
          refine List.filter_eq_self.2 fun other hother => ?_
          have hne : other.requestId ≠ requestId := by
            intro heq
            exact hfirst (hid.trans heq.symm ▸ List.mem_map_of_mem hother)
          simpa using hne
        rw [List.filter_cons_of_neg (by simpa using hid), hothers, List.countP_cons]
      · rw [List.find?_cons_of_neg (by simpa using hid)] at hfind
        rw [List.filter_cons_of_pos (by simpa using hid), List.countP_cons, List.countP_cons,
          ih hrest hfind]
        omega

theorem probes_without (host : String) (hdistinct : DistinctIds s)
    (hfind : s.find requestId = some request) :
    probes host s.inFlight = probes host (s.without requestId) +
      if request.probe = true ∧ request.hostKey = host then 1 else 0 := by
  have hcount := countP_without (fun other => other.probe && other.hostKey = host) hdistinct hfind
  simpa [probes, Traffic.without] using hcount

theorem distinctIds_without (hdistinct : DistinctIds s) (circuits : Circuits) :
    DistinctIds { circuits, inFlight := s.without requestId } :=
  hdistinct.sublist (List.filter_sublist.map _)

end Probes

section Circuits

variable {config : CircuitBreakerConfig} {now : Int} {circuits after : Circuits} {host : String}
  {circuit : HostCircuit}

theorem stateOf_of_some (h : circuits.get host = some circuit) :
    stateOf circuits host = circuit.state := by
  rw [stateOf, h]
  rfl

theorem stateOf_of_none (h : circuits.get host = none) : stateOf circuits host = .closed := by
  rw [stateOf, h]
  rfl

theorem stateOf_congr (h : after.get host = circuits.get host) :
    stateOf after host = stateOf circuits host := by
  rw [stateOf, stateOf, h]

theorem exists_of_not_closed (h : stateOf circuits host ≠ .closed) :
    ∃ circuit, circuits.get host = some circuit := by
  cases hget : circuits.get host with
  | none => exact absurd (stateOf_of_none hget) h
  | some circuit => exact ⟨circuit, rfl⟩

theorem Spares.get (h : Spares config now circuits host) (hne : stateOf circuits host ≠ .closed) :
    (pruneCircuits config now circuits).get host = circuits.get host := by
  obtain hclosed | hthere := h
  · exact absurd hclosed hne
  · obtain hnone | hsame := get_pruneCircuits config now circuits host
    · rw [hnone] at hthere
      cases hthere
    · exact hsame

theorem sparesOthers_iff : SparesOthers config now circuits host ↔
    ∀ other, other ≠ host → Spares config now circuits other := by
  constructor
  · intro h other hother
    cases hget : circuits.get other with
    | none => exact .inl (stateOf_of_none hget)
    | some circuit => exact h (other, circuit) (JsMap.get_eq_some.1 hget) hother
  · intro h entry _ hother
    exact h entry.1 hother

theorem get_of_pruned (h : (pruneCircuits config now circuits).get host = some circuit) :
    circuits.get host = some circuit := by
  obtain hnone | hsame := get_pruneCircuits config now circuits host
  · rw [h] at hnone
    cases hnone
  · rw [← hsame]
    exact h

/-- The circuit of a host is pruned and nothing else, and pruning spares it. -/
theorem stateOf_spared (hafter : after.get host = (pruneCircuits config now circuits).get host)
    (hspares : Spares config now circuits host) : stateOf after host = stateOf circuits host := by
  by_cases hclosed : stateOf circuits host = .closed
  · rw [stateOf_congr hafter, hclosed]
    obtain hnone | hsame := get_pruneCircuits config now circuits host
    · exact stateOf_of_none hnone
    · rw [stateOf_congr hsame, hclosed]
  · exact stateOf_congr (hafter.trans (hspares.get hclosed))

theorem spares_of_stateOf (hafter : after.get host = (pruneCircuits config now circuits).get host)
    (h : stateOf circuits host ≠ .closed → stateOf after host ≠ .closed) :
    Spares config now circuits host := by
  by_cases hclosed : stateOf circuits host = .closed
  · exact .inl hclosed
  · obtain ⟨circuit, hthere⟩ := exists_of_not_closed (h hclosed)
    rw [hafter] at hthere
    exact .inr (by rw [hthere]; rfl)

end Circuits

section Steps

variable {config : CircuitBreakerConfig} {s t : Traffic} {requestId : Nat} {host : String}
  {now : Int} {ending : Ending}

theorem step_request (h : step config s (.request requestId host now) = some t) :
    s.find requestId = none ∧
      t.circuits = (requestFulfilled config host now s.circuits).2.2 ∧
      t.inFlight = if (requestFulfilled config host now s.circuits).1 = true then
          ⟨requestId, host, (requestFulfilled config host now s.circuits).2.1⟩ :: s.inFlight
        else s.inFlight := by
  unfold step at h
  dsimp only at h
  split at h
  · cases h
  next hnew =>
    cases h
    exact ⟨by simpa using hnew, rfl, rfl⟩

theorem requestId_of_find {request : InFlight} (h : s.find requestId = some request) :
    request.requestId = requestId := by
  simpa using List.find?_some h

theorem step_settle (h : step config s (.settle requestId ending now) = some t) :
    ∃ request, s.find requestId = some request ∧
      t.circuits = responseSettled config request.hostKey now s.circuits ending ∧
      t.inFlight = s.without requestId := by
  unfold step at h
  dsimp only at h
  split at h
  · cases h
  next request hfind =>
    cases h
    exact ⟨request, hfind, rfl, rfl⟩

theorem get_others_request {other : String} (hother : other ≠ host) :
    (requestFulfilled config host now s.circuits).2.2.get other =
      (pruneCircuits config now s.circuits).get other := by
  cases h : (pruneCircuits config now s.circuits).get host with
  | none => rw [requestFulfilled_of_none h]
  | some circuit => rw [(requestFulfilled_of_some h).2.2 other, if_neg hother]

theorem probes_request (h : step config s (.request requestId host now) = some t)
    (other : String) :
    probes other t.inFlight = probes other s.inFlight +
      if (requestFulfilled config host now s.circuits).2.1 = true ∧ other = host then 1 else 0 := by
  obtain ⟨-, -, hflight⟩ := step_request h
  rw [hflight]
  cases hget : (pruneCircuits config now s.circuits).get host with
  | none =>
      rw [requestFulfilled_of_none hget]
      simp [probes]
  | some circuit =>
      obtain ⟨hallowed, hprobe, -⟩ := requestFulfilled_of_some hget
      rw [hallowed, hprobe]
      by_cases hadmits : circuit.AdmitsProbe config now
      · by_cases hother : other = host
        · simp [hadmits, probes, hother]
        · simp [hadmits, probes, hother, Ne.symm hother]
      · by_cases hclosed : circuit.state = .closed
        · simp [hadmits, hclosed, probes]
        · simp [hadmits, hclosed, probes]

/-- What a request does to the circuit of its host: a probe is let through, or the circuit
only says that it was used. -/
theorem get_host_request (config : CircuitBreakerConfig) (s : Traffic) (host : String)
    (now : Int) :
    (∃ circuit, (pruneCircuits config now s.circuits).get host = some circuit ∧
        circuit.AdmitsProbe config now ∧
        (requestFulfilled config host now s.circuits).2.1 = true ∧
        (requestFulfilled config host now s.circuits).2.2.get host =
          some (circuit.probed now)) ∨
      (requestFulfilled config host now s.circuits).2.1 = false ∧
        (requestFulfilled config host now s.circuits).2.2.get host =
          ((pruneCircuits config now s.circuits).get host).map fun circuit =>
            { circuit with updatedAt := now } := by
  cases hget : (pruneCircuits config now s.circuits).get host with
  | none =>
      right
      rw [requestFulfilled_of_none hget]
      exact ⟨rfl, hget⟩
  | some circuit =>
      obtain ⟨-, hprobe, hafter⟩ := requestFulfilled_of_some hget
      rw [hprobe, hafter host, if_pos rfl, asked]
      by_cases hadmits : circuit.AdmitsProbe config now
      · left
        exact ⟨circuit, rfl, hadmits, by simpa using hadmits, by rw [if_pos hadmits]⟩
      · right
        exact ⟨by simpa using hadmits, by rw [if_neg hadmits]; rfl⟩

/-- What the runs keep. -/
structure Inv (config : CircuitBreakerConfig) (s : Traffic) : Prop where
  distinct : DistinctIds s
  bounded : Bounded config s
  recoverable : Recoverable config s

theorem distinct_request (hdistinct : DistinctIds s)
    (h : step config s (.request requestId host now) = some t) : DistinctIds t := by
  obtain ⟨hnew, -, hflight⟩ := step_request h
  unfold DistinctIds
  rw [hflight]
  split
  · rw [List.map_cons, List.nodup_cons]
    refine ⟨fun hmem => ?_, hdistinct⟩
    obtain ⟨other, hother, hid⟩ := List.mem_map.1 hmem
    have hne := List.find?_eq_none.1 hnew other hother
    exact hne (by simpa using hid)
  · exact hdistinct

/-- **An orderly request** keeps the promise. -/
theorem Inv.request (hinv : Inv config s) (hcond : Orderly config s (.request requestId host now))
    (h : step config s (.request requestId host now) = some t) :
    Inv config t ∧ Contract config s (.request requestId host now) t := by
  obtain ⟨hspares, hothers, hroom⟩ := hcond
  have hprobes := probes_request h
  have hdistinct := distinct_request hinv.distinct h
  obtain ⟨-, hcircuits, -⟩ := step_request h
  have hother (other : String) (hne : other ≠ host) :
      t.circuits.get other = (pruneCircuits config now s.circuits).get other := by
    rw [hcircuits]
    exact get_others_request hne
  have hstate (other : String) (hne : other ≠ host) :
      stateOf t.circuits other = stateOf s.circuits other :=
    stateOf_spared (hother other hne) (sparesOthers_iff.1 hothers other hne)
  have hrest (other : String) (hne : other ≠ host) : ∀ circuit ∈ t.circuits.get other,
      circuit.state = .halfOpen → config.halfOpenMaxRequests ≤ circuit.halfOpenRequests →
        0 < probes other t.inFlight := by
    intro circuit hcircuit hhalf hfull
    have hold := get_of_pruned ((hother other hne).symm.trans hcircuit)
    have hpositive := hinv.recoverable other circuit hold hhalf hfull
    have hmore := hprobes other
    omega
  obtain ⟨circuit, hpruned, hadmits, hprobe, hafter⟩ | ⟨hprobe, hafter⟩ :=
    get_host_request config s host now
  · -- a probe is let through
    rw [hprobe] at hprobes
    rw [← hcircuits] at hafter
    have hold := get_of_pruned hpruned
    have hhost : stateOf t.circuits host = .halfOpen := stateOf_of_some hafter
    have hbounded : Bounded config t := by
      intro other
      have hmore := hprobes other
      by_cases hne : other = host
      · subst hne
        have hless := hroom circuit hpruned hadmits
        simp only [and_self, if_true] at hmore
        omega
      · have hsame := hinv.bounded other
        simp only [hne, and_false, if_false] at hmore
        omega
    have hrecoverable : Recoverable config t := by
      intro other
      by_cases hne : other = host
      · subst hne
        intro _ _ _ _
        have hmore := hprobes other
        simp only [and_self, if_true] at hmore
        omega
      · exact hrest other hne
    refine ⟨⟨hdistinct, hbounded, hrecoverable⟩, ?_, ?_, hbounded, hrecoverable⟩
    · intro other opened hget hopened hleft
      by_cases hne : other = host
      · subst hne
        obtain rfl : opened = circuit := Option.some.inj (hget.symm.trans hold)
        obtain ⟨-, helapsed⟩ | ⟨hhalf, -⟩ := hadmits
        · exact ⟨hhost, helapsed⟩
        · rw [hopened] at hhalf
          cases hhalf
      · rw [hstate other hne, stateOf_of_some hget] at hleft
        exact absurd hopened hleft
    · intro other hnot hclosed
      by_cases hne : other = host
      · subst hne
        rw [hhost] at hclosed
        cases hclosed
      · rw [hstate other hne] at hclosed
        exact absurd hclosed hnot
  · -- no probe is let through
    rw [hprobe] at hprobes
    simp only [Bool.false_eq_true, false_and, if_false, Nat.add_zero] at hprobes
    rw [← hcircuits] at hafter
    have hhost : stateOf t.circuits host = stateOf s.circuits host := by
      have hsame : stateOf t.circuits host =
          stateOf (pruneCircuits config now s.circuits) host := by
        unfold stateOf
        rw [hafter, Option.map_map]
        rfl
      exact hsame.trans (stateOf_spared rfl hspares)
    have hall (other : String) : stateOf t.circuits other = stateOf s.circuits other := by
      by_cases hne : other = host
      · rw [hne]
        exact hhost
      · exact hstate other hne
    have hbounded : Bounded config t := by
      intro other
      rw [hprobes other]
      exact hinv.bounded other
    have hrecoverable : Recoverable config t := by
      intro other
      by_cases hne : other = host
      · subst hne
        intro circuit hcircuit hhalf hfull
        obtain ⟨before, hbefore, rfl⟩ := Option.map_eq_some_iff.1 (hafter.symm.trans hcircuit)
        have hpositive := hinv.recoverable other before (get_of_pruned hbefore) hhalf hfull
        rw [hprobes other]
        exact hpositive
      · exact hrest other hne
    refine ⟨⟨hdistinct, hbounded, hrecoverable⟩, ?_, ?_, hbounded, hrecoverable⟩
    · intro other opened hget hopened hleft
      rw [hall other, stateOf_of_some hget] at hleft
      exact absurd hopened hleft
    · intro other hnot hclosed
      rw [hall other] at hclosed
      exact absurd hclosed hnot

/-- The end of a request keeps the promise if it does at the host of the request, and leaves
the other hosts alone. -/
theorem Inv.settle_of {request : InFlight} (hinv : Inv config s)
    (hfind : s.find requestId = some request) (hflight : t.inFlight = s.without requestId)
    (hothers : ∀ other, other ≠ request.hostKey →
      stateOf t.circuits other = stateOf s.circuits other ∧
        ∀ circuit, t.circuits.get other = some circuit → s.circuits.get other = some circuit)
    (hopened : stateOf s.circuits request.hostKey = .opened →
      stateOf t.circuits request.hostKey = .opened)
    (hclosed : stateOf s.circuits request.hostKey ≠ .closed →
      stateOf t.circuits request.hostKey = .closed →
        ProbeSucceeds config s request.hostKey (.settle requestId ending now))
    (hhalf : ∀ circuit ∈ t.circuits.get request.hostKey, circuit.state = .halfOpen →
      config.halfOpenMaxRequests ≤ circuit.halfOpenRequests →
        0 < probes request.hostKey t.inFlight) :
    Inv config t ∧ Contract config s (.settle requestId ending now) t := by
  have hprobes (other : String) := probes_without other hinv.distinct hfind
  have hbounded : Bounded config t := by
    intro other
    have hless := hprobes other
    have hsame := hinv.bounded other
    rw [hflight]
    omega
  have hrecoverable : Recoverable config t := by
    intro other
    by_cases hne : other = request.hostKey
    · rw [hne]
      exact hhalf
    · intro circuit hcircuit hstate hfull
      have hold := (hothers other hne).2 circuit hcircuit
      have hpositive := hinv.recoverable other circuit hold hstate hfull
      have hsame := hprobes other
      rw [if_neg fun h => hne h.2.symm] at hsame
      rw [hflight]
      omega
  have hdistinct : DistinctIds t := by
    unfold DistinctIds
    rw [hflight]
    exact distinctIds_without hinv.distinct t.circuits
  refine ⟨⟨hdistinct, hbounded, hrecoverable⟩, ?_, ?_, hbounded, hrecoverable⟩
  · intro other circuit hget hstate hleft
    by_cases hne : other = request.hostKey
    · subst hne
      exact absurd (hopened ((stateOf_of_some hget).trans hstate)) hleft
    · rw [(hothers other hne).1, stateOf_of_some hget] at hleft
      exact absurd hstate hleft
  · intro other hnot hafter
    by_cases hne : other = request.hostKey
    · subst hne
      exact hclosed hnot hafter
    · rw [(hothers other hne).1] at hafter
      exact absurd hafter hnot

theorem others_spared {circuits after : Circuits}
    (hafter : ∀ other, other ≠ host →
      after.get other = (pruneCircuits config now circuits).get other)
    (hothers : SparesOthers config now circuits host) :
    ∀ other, other ≠ host → stateOf after other = stateOf circuits other ∧
      ∀ circuit, after.get other = some circuit → circuits.get other = some circuit := by
  intro other hne
  refine ⟨stateOf_spared (hafter other hne) (sparesOthers_iff.1 hothers other hne), ?_⟩
  intro circuit hcircuit
  exact get_of_pruned ((hafter other hne).symm.trans hcircuit)

theorem stateOf_recordFailure (circuits : Circuits)
    (hspares : Spares config now circuits host ∨ config.failureThreshold ≤ 1)
    (hnot : stateOf circuits host ≠ .closed) :
    stateOf (recordFailure config host now circuits) host = .opened := by
  unfold stateOf
  rw [get_recordFailure, if_pos rfl, Option.map_some, Option.getD_some, HostCircuit.state_failed]
  refine if_pos ?_
  obtain hspares | hthreshold := hspares
  · left
    obtain ⟨circuit, hget⟩ := exists_of_not_closed hnot
    rw [hspares.get hnot, hget, Option.getD_some]
    rw [stateOf_of_some hget] at hnot
    exact hnot
  · exact .inr (by omega)

theorem stateOf_recordSuccess (circuits : Circuits) :
    stateOf (recordSuccess config host now circuits) host = .closed := by
  unfold stateOf
  rw [get_recordSuccess, if_pos rfl]
  cases (pruneCircuits config now circuits).get host with
  | none => rfl
  | some circuit => rfl

/-- **An orderly end of a request** keeps the promise. -/
theorem Inv.settle (hinv : Inv config s)
    (hcond : Orderly config s (.settle requestId ending now))
    (h : step config s (.settle requestId ending now) = some t) :
    Inv config t ∧ Contract config s (.settle requestId ending now) t := by
  obtain ⟨request, hfind, hcircuits, hflight⟩ := step_settle h
  have hcond := hcond request hfind
  unfold responseSettled at hcircuits
  cases hrecorded : ending.recorded config with
  | none =>
      simp only [hrecorded, EndsOrderly] at hcond hcircuits
      refine hinv.settle_of hfind hflight ?_ ?_ ?_ ?_
      · intro other _
        rw [hcircuits]
        exact ⟨rfl, fun circuit hcircuit => hcircuit⟩
      · rw [hcircuits]
        exact id
      · rw [hcircuits]
        exact fun hnot hclosed => absurd hclosed hnot
      · rw [hcircuits, hflight]
        intro circuit hcircuit hstate hfull
        by_cases hprobe : request.probe = true
        · rw [← requestId_of_find hfind]
          exact hcond hprobe circuit hcircuit hstate hfull
        · have hpositive := hinv.recoverable _ circuit hcircuit hstate hfull
          have hsame := probes_without request.hostKey hinv.distinct hfind
          rw [if_neg fun h => hprobe h.1] at hsame
          omega
  | some succeeded =>
      cases succeeded with
      | true =>
          simp only [hrecorded, EndsOrderly] at hcond hcircuits
          obtain ⟨hothers, hopened, hprobe⟩ := hcond
          have hclosed : stateOf t.circuits request.hostKey = .closed := by
            rw [hcircuits]
            exact stateOf_recordSuccess s.circuits
          refine hinv.settle_of hfind hflight ?_ ?_ ?_ ?_
          · refine others_spared (fun other hne => ?_) hothers
            rw [hcircuits, get_recordSuccess, if_neg hne]
          · exact fun h => absurd h hopened
          · intro hnot _
            have hhalf : stateOf s.circuits request.hostKey = .halfOpen := by
              cases hstate : stateOf s.circuits request.hostKey with
              | closed => exact absurd hstate hnot
              | opened => exact absurd hstate hopened
              | halfOpen => rfl
            exact ⟨hrecorded, request, hfind, rfl, hprobe hhalf⟩
          · intro circuit hcircuit hstate
            rw [stateOf_of_some hcircuit, hstate] at hclosed
            cases hclosed
      | false =>
          simp only [hrecorded, EndsOrderly] at hcond hcircuits
          obtain ⟨hothers, hspares⟩ := hcond
          have hafter (hnot : stateOf s.circuits request.hostKey ≠ .closed) :
              stateOf t.circuits request.hostKey = .opened := by
            rw [hcircuits]
            exact stateOf_recordFailure s.circuits hspares hnot
          refine hinv.settle_of hfind hflight ?_ ?_ ?_ ?_
          · refine others_spared (fun other hne => ?_) hothers
            rw [hcircuits, get_recordFailure, if_neg hne]
          · intro hopened
            refine hafter ?_
            rw [hopened]
            decide
          · intro hnot hclosed
            rw [hafter hnot] at hclosed
            cases hclosed
          · intro circuit hcircuit hstate
            rw [hcircuits, get_recordFailure, if_pos rfl] at hcircuit
            obtain rfl := Option.some.inj hcircuit
            rw [HostCircuit.state_failed] at hstate
            split at hstate
            · cases hstate
            · cases hstate

/-- **An event keeps the promise** if it is orderly. -/
theorem step_keeps {e : Event} (hinv : Inv config s) (hcond : Orderly config s e)
    (h : step config s e = some t) : Inv config t ∧ Contract config s e t := by
  cases e with
  | request requestId host now => exact hinv.request hcond h
  | settle requestId ending now => exact hinv.settle hcond h

theorem orderly_of_request (h : step config s (.request requestId host now) = some t)
    (hcontract : Contract config s (.request requestId host now) t) :
    Orderly config s (.request requestId host now) := by
  obtain ⟨-, hcircuits, -⟩ := step_request h
  have hkept (other : String) (hnot : stateOf s.circuits other ≠ .closed) :
      stateOf t.circuits other ≠ .closed := fun hclosed => hcontract.closed other hnot hclosed
  refine ⟨?_, ?_, ?_⟩
  · obtain ⟨circuit, hpruned, -⟩ | ⟨-, hafter⟩ :=
      get_host_request config s host now
    · exact .inr (by rw [hpruned]; rfl)
    · by_cases hclosed : stateOf s.circuits host = .closed
      · exact .inl hclosed
      · obtain ⟨circuit, hget⟩ := exists_of_not_closed (hkept host hclosed)
        rw [hcircuits, hafter] at hget
        obtain ⟨before, hbefore, -⟩ := Option.map_eq_some_iff.1 hget
        exact .inr (by rw [hbefore]; rfl)
  · refine sparesOthers_iff.2 fun other hne => ?_
    refine spares_of_stateOf ?_ (hkept other)
    rw [hcircuits]
    exact get_others_request hne
  · intro circuit hcircuit hadmits
    obtain ⟨-, hprobe, -⟩ := requestFulfilled_of_some hcircuit
    have hmore := probes_request h host
    have hbound := hcontract.bounded host
    rw [hprobe, if_pos ⟨by simpa using hadmits, rfl⟩] at hmore
    omega

theorem orderly_of_settle (h : step config s (.settle requestId ending now) = some t)
    (hcontract : Contract config s (.settle requestId ending now) t) :
    Orderly config s (.settle requestId ending now) := by
  obtain ⟨request, hfind, hcircuits, hflight⟩ := step_settle h
  intro other hother
  obtain rfl := Option.some.inj (hfind.symm.trans hother)
  unfold responseSettled at hcircuits
  -- a circuit that is not closed stays so, unless a probe of its host succeeds
  have hkept (other : String) (hne : other ≠ request.hostKey ∨ ending.recorded config ≠ some true)
      (hnot : stateOf s.circuits other ≠ .closed) : stateOf t.circuits other ≠ .closed := by
    intro hclosed
    obtain ⟨hsuccess, found, hfound, hhost, -⟩ := hcontract.closed other hnot hclosed
    obtain rfl := Option.some.inj (hfind.symm.trans hfound)
    obtain hne | hne := hne
    · exact hne hhost.symm
    · exact hne hsuccess
  cases hrecorded : ending.recorded config with
  | none =>
      simp only [hrecorded, EndsOrderly] at hcircuits ⊢
      intro _ circuit hcircuit hstate hfull
      rw [← hcircuits] at hcircuit
      have hpositive := hcontract.recoverable _ circuit hcircuit hstate hfull
      rw [hflight, ← requestId_of_find hfind] at hpositive
      exact hpositive
  | some succeeded =>
      cases succeeded with
      | true =>
          simp only [hrecorded, EndsOrderly] at hcircuits ⊢
          have hclosed : stateOf t.circuits request.hostKey = .closed := by
            rw [hcircuits]
            exact stateOf_recordSuccess s.circuits
          refine ⟨sparesOthers_iff.2 fun other hne => ?_, fun hopened => ?_, fun hhalf => ?_⟩
          · refine spares_of_stateOf ?_ (hkept other (.inl hne))
            rw [hcircuits, get_recordSuccess, if_neg hne]
          · obtain ⟨circuit, hget⟩ : ∃ circuit, s.circuits.get request.hostKey = some circuit :=
              exists_of_not_closed (by rw [hopened]; decide)
            have hleft := (hcontract.opened request.hostKey circuit hget
              ((stateOf_of_some hget).symm.trans hopened) (by rw [hclosed]; decide)).1
            rw [hclosed] at hleft
            cases hleft
          · obtain ⟨-, found, hfound, -, hprobe⟩ := hcontract.closed request.hostKey
              (by rw [hhalf]; decide) hclosed
            obtain rfl := Option.some.inj (hfind.symm.trans hfound)
            exact hprobe
      | false =>
          simp only [hrecorded, EndsOrderly] at hcircuits ⊢
          refine ⟨sparesOthers_iff.2 fun other hne => ?_, ?_⟩
          · refine spares_of_stateOf ?_ (hkept other (.inl hne))
            rw [hcircuits, get_recordFailure, if_neg hne]
          · by_cases hnot : stateOf s.circuits request.hostKey = .closed
            · exact .inl (.inl hnot)
            · cases hpruned : (pruneCircuits config now s.circuits).get request.hostKey with
              | some circuit => exact .inl (.inr (by rw [hpruned]; rfl))
              | none =>
                  right
                  have hopen := hkept request.hostKey (.inr (by rw [hrecorded]; decide)) hnot
                  rw [hcircuits, stateOf, get_recordFailure, if_pos rfl, Option.map_some,
                    Option.getD_some, HostCircuit.state_failed, hpruned] at hopen
                  by_cases hthreshold : config.failureThreshold ≤ 1
                  · exact hthreshold
                  · refine absurd (if_neg ?_) hopen
                    simpa using hthreshold

theorem orderly_of_step {e : Event} (h : step config s e = some t)
    (hcontract : Contract config s e t) : Orderly config s e := by
  cases e with
  | request requestId host now => exact orderly_of_request h hcontract
  | settle requestId ending now => exact orderly_of_settle h hcontract

end Steps

theorem inv_start (config : CircuitBreakerConfig) : Inv config {} where
  distinct := List.nodup_nil
  bounded := fun _ => Nat.zero_le _
  recoverable := fun _ _ hcircuit => by cases hcircuit

/-- **When the breaker keeps its promise**: along exactly the runs whose events are all
orderly. -/
theorem respectsContract_iff (config : CircuitBreakerConfig) (events : List Event) (t : Traffic)
    (hrun : run (step config) {} events = some t) :
    Respects (step config) (Contract config) {} events ↔
      Allowed (step config) (Orderly config) {} events := by
  refine respects_iff_allowed (Inv config) ?_ ?_ events {} t (inv_start config) hrun
  · intro s e u hinv hcond hstep
    exact step_keeps hinv hcond hstep
  · intro s e u _ hstep hcontract
    exact orderly_of_step hstep hcontract

/-- One failure opens the circuit. -/
def nervous : CircuitBreakerConfig := { failureThreshold := 1 }

/-- A request fails; half a minute later a probe is let through, and cancelled. -/
def cancelledProbe : List Event :=
  [.request 1 "api" 0, .settle 1 (.responded 503) 10, .request 2 "api" 30010,
    .settle 2 .otherwise 30020]

/-- A request fails, and a probe that is let through in time succeeds. -/
def successfulProbe : List Event :=
  [.request 1 "api" 0, .settle 1 (.responded 503) 10, .request 2 "api" 30010,
    .settle 2 (.responded 200) 30020]

instance (config : CircuitBreakerConfig) (now : Int) (circuits : Circuits) (host : String) :
    Decidable (Spares config now circuits host) :=
  inferInstanceAs (Decidable (_ ∨ _))

instance (config : CircuitBreakerConfig) (now : Int) (circuits : Circuits) (host : String) :
    Decidable (SparesOthers config now circuits host) :=
  inferInstanceAs (Decidable (∀ entry ∈ circuits.entries, _))

instance (config : CircuitBreakerConfig) (s : Traffic) (request : InFlight) (now : Int) :
    ∀ recorded, Decidable (EndsOrderly config s request now recorded)
  | some true => inferInstanceAs (Decidable (_ ∧ _ ∧ _))
  | some false => inferInstanceAs (Decidable (_ ∧ _))
  | none => inferInstanceAs (Decidable (_ → ∀ circuit ∈ s.circuits.get request.hostKey, _))

instance (config : CircuitBreakerConfig) (s : Traffic) :
    ∀ e, Decidable (Orderly config s e)
  | .request _ host now => inferInstanceAs (Decidable (_ ∧ _ ∧
      ∀ circuit ∈ (pruneCircuits config now s.circuits).get host, _))
  | .settle requestId ending now => inferInstanceAs (Decidable (∀ request ∈ s.find requestId,
      EndsOrderly config s request now (ending.recorded config)))

/-- A probe that succeeds in time keeps the promise. -/
theorem successfulProbe_respectsContract :
    Respects (step nervous) (Contract nervous) {} successfulProbe :=
  (respectsContract_iff nervous successfulProbe _ (Option.some_get
    (by decide : (run (step nervous) {} successfulProbe).isSome = true)).symm).2 (by decide)

/-- **A probe that is cancelled** leaves its host without a probe and without room for
another. -/
theorem cancelledProbe_stuck :
    (run (step nervous) {} cancelledProbe).isSome = true ∧
      ¬ Respects (step nervous) (Contract nervous) {} cancelledProbe := by
  refine ⟨by decide, fun h => ?_⟩
  have hlast := (((h.2 _ rfl).2 _ rfl).2 _ rfl).1 _ rfl
  have hpositive := hlast.recoverable "api" _ rfl rfl (by decide)
  exact absurd hpositive (by decide)

end HttpClient

end Zentra
