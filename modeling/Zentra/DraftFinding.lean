import Mathlib.Data.List.Sort
import Zentra.AgentOutcome
import Zentra.ExecutionJob

/-!
# Draft Findings and the evidence they cite

What the Insight Agent proposes, before anything decides.  A draft is never
built in a shape a reviewer could not trust: its claims are numbered without
gaps, and an observed claim carries a measurement and cites evidence.  These
conditions are fields of `DraftFinding`, and `DraftFinding.new` is the check
that the constructor makes.
-/

namespace Zentra

inductive ClaimKind
  | observed
  | interpretation
  deriving DecidableEq, Repr

/-- `unresolved` is the only honest answer so far. -/
inductive RootCauseState
  | unresolved
  deriving DecidableEq, Repr

/-- One substantive statement, and the evidence that backs it. -/
structure Claim where
  claimId : UUID
  kind : ClaimKind
  text : String
  position : Int
  metric : Option String := none
  value : Option String := none
  period : Option String := none
  citationIds : List UUID := []
  deriving DecidableEq, Repr

/-- A disagreement that synthesis must not smooth away. -/
structure Contradiction where
  detail : String
  resolved : Bool := false
  deriving DecidableEq, Repr

/-- The claim names a metric and has a value; an empty value counts. -/
def Claim.Measured (claim : Claim) : Prop :=
  (claim.metric.any fun metric => metric ≠ "") ∧ claim.value.isSome

instance : DecidablePred Claim.Measured :=
  fun _ => inferInstanceAs (Decidable (_ ∧ _))

structure DraftFindingError where
  message : String
  deriving DecidableEq, Repr

structure DraftFinding where
  draftFindingId : UUID
  organizationId : UUID
  analysisRunId : UUID
  version : Int
  createdAt : Int
  producedByExecutionId : Option UUID
  headline : String
  summary : String
  claims : List Claim
  contradictions : List Contradiction
  rootCause : RootCauseState
  confidence : Option ConfidenceOutcome
  positions_contiguous : (claims.map Claim.position).insertionSort (· ≤ ·) =
    (List.range claims.length).map Int.ofNat
  observed_measured : ∀ claim ∈ claims, claim.kind = .observed → claim.Measured
  observed_cited : ∀ claim ∈ claims, claim.kind = .observed →
    claim.citationIds ≠ []
  deriving DecidableEq

/-- The loop of the check over the claims, in their order. -/
def checkClaims : List Claim → Except DraftFindingError Unit
  | [] => .ok ()
  | claim :: claims =>
      if claim.kind ≠ .observed then checkClaims claims
      else if ¬ claim.Measured then
        .error ⟨"Claim " ++ toString claim.position ++
          " is observed but carries no measurement"⟩
      else if claim.citationIds = [] then
        .error ⟨"Claim " ++ toString claim.position ++
          " is observed but cites no evidence"⟩
      else checkClaims claims

theorem checkClaims_ok {claims : List Claim} (h : checkClaims claims = .ok ()) :
    ∀ claim ∈ claims, claim.kind = .observed →
      claim.Measured ∧ claim.citationIds ≠ [] := by
  induction claims with
  | nil => simp
  | cons first rest ih =>
      unfold checkClaims at h
      intro claim hclaim hobserved
      by_cases hkind : first.kind = .observed
      · rw [if_neg (not_not.2 hkind)] at h
        by_cases hmeasured : first.Measured
        · rw [if_neg (not_not.2 hmeasured)] at h
          by_cases hcited : first.citationIds = []
          · rw [if_pos hcited] at h
            cases h
          · rw [if_neg hcited] at h
            rcases List.mem_cons.1 hclaim with rfl | hrest
            · exact ⟨hmeasured, hcited⟩
            · exact ih h claim hrest hobserved
        · rw [if_pos hmeasured] at h
          cases h
      · rw [if_pos hkind] at h
        rcases List.mem_cons.1 hclaim with rfl | hrest
        · exact absurd hobserved hkind
        · exact ih h claim hrest hobserved

/-- `DraftFinding(...)` with its `__post_init__`. -/
def DraftFinding.new (draftFindingId organizationId analysisRunId : UUID)
    (version createdAt : Int) (producedByExecutionId : Option UUID)
    (headline summary : String) (claims : List Claim)
    (contradictions : List Contradiction) (rootCause : RootCauseState)
    (confidence : Option ConfidenceOutcome) :
    Except DraftFindingError DraftFinding :=
  let positions := (claims.map Claim.position).insertionSort (· ≤ ·)
  if hpositions : positions = (List.range claims.length).map Int.ofNat then
    match hclaims : checkClaims claims with
    | .error e => .error e
    | .ok () => .ok {
        draftFindingId, organizationId, analysisRunId, version, createdAt
        producedByExecutionId, headline, summary, claims, contradictions
        rootCause, confidence
        positions_contiguous := hpositions
        observed_measured := fun claim hclaim hobserved =>
          (checkClaims_ok hclaims claim hclaim hobserved).1
        observed_cited := fun claim hclaim hobserved =>
          (checkClaims_ok hclaims claim hclaim hobserved).2 }
  else
    .error ⟨"Claim positions must be contiguous from zero; a gap or a " ++
      "duplicate means a claim was lost. Got " ++ toString positions ++ "."⟩

/-- What the constructor returns has the claims and the contradictions it was
given. -/
theorem DraftFinding.new_eq_ok {draftFindingId organizationId analysisRunId : UUID}
    {version createdAt : Int} {producedByExecutionId : Option UUID}
    {headline summary : String} {claims : List Claim}
    {contradictions : List Contradiction} {rootCause : RootCauseState}
    {confidence : Option ConfidenceOutcome} {draft : DraftFinding}
    (h : DraftFinding.new draftFindingId organizationId analysisRunId version
      createdAt producedByExecutionId headline summary claims contradictions
      rootCause confidence = .ok draft) :
    draft.claims = claims ∧ draft.contradictions = contradictions := by
  unfold DraftFinding.new at h
  simp only at h
  split at h
  · split at h
    · cases h
    · cases h
      exact ⟨rfl, rfl⟩
  · cases h

/-- Whether the evidence behind a citation can still be reached. -/
inductive CitationState
  | active
  | unavailable
  | tombstoned
  deriving DecidableEq, Repr

structure CitationFilter where
  member : String
  operator : String
  values : List String
  deriving DecidableEq, Repr

/-- One validated measurement, addressable on its own. -/
structure EvidenceCitation where
  citationId : UUID
  organizationId : UUID
  analysisRunId : UUID
  metric : String
  filters : List CitationFilter
  period : Option String
  grain : Option String
  producingExecutionId : Option UUID
  aggregateValue : String
  evaluatorOutcome : Option OutcomeSignal
  state : CitationState := .active
  deriving DecidableEq

end Zentra
