import Mathlib.Algebra.Order.Ring.Rat

/-!
# Who decides whether a Draft Finding becomes a Finding

Deterministic policy, not an Agent.  Four conditions are evaluated
independently; a Draft Finding publishes itself only when all four hold, and
every failure is recorded, not just the first.
-/

namespace Zentra

/-- The four things that must hold before a conclusion publishes itself. -/
inductive PublicationCondition
  | converged
  | confident
  | evidenced
  | uncontradicted
  deriving DecidableEq, Repr

/-- What the policy decided, and everything that made it decide so. -/
structure PublicationDecision where
  failed : List PublicationCondition
  deriving DecidableEq, Repr

/-- `publishes`: nothing failed. -/
def PublicationDecision.publishes (decision : PublicationDecision) : Bool :=
  decision.failed.isEmpty

/-- The facts that `evaluate_publication` is given. -/
structure PublicationFacts where
  converged : Bool
  confidence : Option ℚ
  confidenceThreshold : ℚ
  substantiveClaims : Nat
  resolvableClaims : Nat
  unresolvedContradictions : Nat
  evidenceApplicable : Bool := true

/-- The confidence is known and clears the threshold. -/
def PublicationFacts.Confident (facts : PublicationFacts) : Prop :=
  ∃ score ∈ facts.confidence, facts.confidenceThreshold ≤ score

/-- There is no evidence to ask for, or there is a substantive claim and every
one of them resolves. -/
def PublicationFacts.Evidenced (facts : PublicationFacts) : Prop :=
  facts.evidenceApplicable = true →
    facts.substantiveClaims ≠ 0 ∧ facts.substantiveClaims ≤ facts.resolvableClaims

def evaluatePublication (facts : PublicationFacts) : PublicationDecision where
  failed :=
    (if !facts.converged then [.converged] else []) ++
    (if facts.confidence.all fun score => score < facts.confidenceThreshold then
      [.confident] else []) ++
    (if facts.evidenceApplicable ∧ (facts.substantiveClaims = 0 ∨
        facts.resolvableClaims < facts.substantiveClaims) then
      [.evidenced] else []) ++
    (if 0 < facts.unresolvedContradictions then [.uncontradicted] else [])

variable {facts : PublicationFacts}

theorem confidence_fails_iff :
    (facts.confidence.all fun score => score < facts.confidenceThreshold) = true ↔
      ¬ facts.Confident := by
  unfold PublicationFacts.Confident
  cases facts.confidence with
  | none => simp
  | some score => simp

theorem evidence_fails_iff :
    (facts.evidenceApplicable = true ∧ (facts.substantiveClaims = 0 ∨
        facts.resolvableClaims < facts.substantiveClaims)) ↔
      ¬ facts.Evidenced := by
  unfold PublicationFacts.Evidenced
  cases facts.evidenceApplicable with
  | false => simp
  | true =>
      simp only [true_and, true_implies, not_and_or, not_not, Nat.not_le]

/-- **The failed conditions are exactly those that do not hold.** -/
theorem mem_failed_iff (condition : PublicationCondition) :
    condition ∈ (evaluatePublication facts).failed ↔
      match condition with
      | .converged => facts.converged = false
      | .confident => ¬ facts.Confident
      | .evidenced => ¬ facts.Evidenced
      | .uncontradicted => 0 < facts.unresolvedContradictions := by
  unfold evaluatePublication
  rw [← confidence_fails_iff, ← evidence_fails_iff]
  cases condition <;> simp

end Zentra
