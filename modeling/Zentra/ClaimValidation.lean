import Zentra.PipelineAssembly
import Zentra.PythonJson

/-!
# Which claims the Insight Agent accepts

The Insight Agent checks each claim that its model proposes against the metrics that the
Analyst measured: an observed claim must state a value that some metric of the name carries,
under the period of that value.

* `validatedClaims` — `_validated_claims` with its checks in their order;
* `validatedEvidenceFromState` — the evidence that the same metrics make for the assembly.
-/

open PythonJson

namespace PythonJson

namespace Json

/-- `str`; `render` is the text of a float, a list or an object. -/
def str (render : Json → String) : Json → String
  | null => "None"
  | bool value => if value then "True" else "False"
  | int value => toString value
  | string value => value
  | other => render other

mutual

/-- `==`. -/
def same : Json → Json → Bool
  | null, other => match other with
      | null => true
      | _ => false
  | string value, other => other.text = some value
  | list items, other => match other with
      | list others => sameItems items others
      | _ => false
  | object members, other => match other with
      | object others => members.length = others.length && sameMembers members others
      | _ => false
  | bool value, other => (bool value).number = other.number
  | int value, other => (int value).number = other.number
  | float value, other => (float value).number = other.number

def sameItems : List Json → List Json → Bool
  | [], others => others.isEmpty
  | item :: items, others => match others with
      | [] => false
      | other :: others => same item other && sameItems items others

def sameMembers : List (String × Json) → Object → Bool
  | [], _ => true
  | member :: members, others => (match Object.get others member.1 with
      | none => false
      | some other => same member.2 other) && sameMembers members others

end

end Json

end PythonJson

namespace Zentra

inductive UngroundedClaimError
  | noKind (position : Nat)
  | noText (position : Nat)
  | unknownMetric (position : Nat)
  | noMetric (position : Nat)
  | foreignValue (position : Nat) (metric : String)
  | missingPeriod (position : Nat) (metric : String)
  | foreignPeriod (position : Nat) (metric : String)
  deriving DecidableEq, Repr

/-- What the check of the claims raises. -/
inductive ClaimsError
  | ungroundedClaim (error : UngroundedClaimError)
  | typeError
  deriving DecidableEq, Repr

namespace InsightAgent

structure ValidatedClaim where
  kind : ClaimKind
  text : String
  metric : Option String
  value : Json
  period : Json

def mapping : Json → Object
  | .object members => members
  | _ => []

/-- `get` of a dictionary. -/
def member (key : String) (members : Object) : Json := (members.get key).getD .null

section Validation

variable (render : Json → String)

/-- The sides of a metric: what it carries, and under which label. -/
def sides (metric : Object) : List (String × Json) :=
  [((member "previous_value" metric).str render, member "previous_label" metric),
    ((member "current_value" metric).str render, member "current_label" metric)]

/-- The metrics under a name in `by_name`. -/
def named (name : String) (metrics : List Object) : List Object :=
  metrics.filter fun metric => (member "metric" metric).str render = name

/-- A value is in a set of texts; `none` is a `TypeError`. -/
def within (texts : List String) (value : Json) : Except ClaimsError Bool :=
  match value.key with
  | none => .error .typeError
  | some (.string text) => .ok (decide (text ∈ texts))
  | some _ => .ok false

def validatedKind (position : Nat) (claim : Object) : Except ClaimsError ClaimKind := do
  let kind := member "kind" claim
  let known ← within ["observed", "interpretation"] kind
  if known then .ok (if kind.text = some "observed" then .observed else .interpretation)
  else .error (.ungroundedClaim (.noKind position))

def validatedText (position : Nat) (claim : Object) : Except ClaimsError String :=
  match (member "text" claim).text.filter fun text => ¬ PythonText.Blank text with
  | some text => .ok text
  | none => .error (.ungroundedClaim (.noText position))

/-- The metric that a claim names, if it names one. -/
def validatedMetric (metrics : List Object) (position : Nat) (claim : Object) :
    Except ClaimsError (Option String) := do
  let metric := member "metric" claim
  if metric.truthy then do
    let known ← within (metrics.map fun metric => (member "metric" metric).str render) metric
    if known then .ok metric.text else .error (.ungroundedClaim (.unknownMetric position))
  else .ok none

def requireMatchingSide (position : Nat) (metric : String) (candidates : List Object)
    (claim : Object) : Except ClaimsError Unit :=
  let value := (member "value" claim).str render
  let period := member "period" claim
  let matched := (candidates.flatMap (sides render)).filter fun side => side.1 = value
  if matched.any fun side => side.2.same .null || period.same side.2 then .ok ()
  else if matched.isEmpty then .error (.ungroundedClaim (.foreignValue position metric))
  else if period.same .null then .error (.ungroundedClaim (.missingPeriod position metric))
  else .error (.ungroundedClaim (.foreignPeriod position metric))

/-- One round of the loop of `_validated_claims`. -/
def validatedClaim (metrics : List Object) (position : Nat) (raw : Json) :
    Except ClaimsError ValidatedClaim := do
  let claim := mapping raw
  let kind ← validatedKind position claim
  let text ← validatedText position claim
  let metric ← validatedMetric render metrics position claim
  match kind with
  | .interpretation => .ok { kind, text, metric, value := .null, period := .null }
  | .observed =>
      match metric with
      | none => .error (.ungroundedClaim (.noMetric position))
      | some name => do
          requireMatchingSide render position name (named render name metrics) claim
          .ok { kind, text, metric, value := member "value" claim
                period := member "period" claim }

/-- The loop of `_validated_claims`. -/
def validatedFrom (metrics : List Object) :
    Nat → List Json → Except ClaimsError (List ValidatedClaim)
  | _, [] => .ok []
  | position, raw :: rest => do
      let claim ← validatedClaim render metrics position raw
      let claims ← validatedFrom metrics (position + 1) rest
      return claim :: claims

def validatedClaims (draft : Object) (metrics : List Object) :
    Except ClaimsError (List ValidatedClaim) :=
  match ((draft.get "claims").getD (.list [])).items with
  | none => .error .typeError
  | some claims => validatedFrom render metrics 0 claims

/-- A value for `_optional_str`: the text of what is there. -/
def optionalText (value : Json) : Option String :=
  if value.same .null then none else some (value.str render)

/-- The claim as the assembly reads it. -/
def ValidatedClaim.raw (claim : ValidatedClaim) : RawClaim where
  kind := some (match claim.kind with
    | .observed => "observed"
    | .interpretation => "interpretation")
  text := some claim.text
  metric := claim.metric
  value := optionalText render claim.value
  period := optionalText render claim.period

/-- The state of the Analyst, as far as the evidence is made from it; its query gives the
filters and the grain. -/
structure AnalystState where
  executionId : Option UUID
  metrics : List Object
  filters : List CitationFilter := []
  grain : Option String := none

def validatedEvidenceFromState (analyst : AnalystState) : List ValidatedEvidence :=
  match analyst.executionId with
  | none => []
  | some executionId =>
      (analyst.metrics.filter fun metric => (member "metric" metric).truthy).map fun metric => {
        metric := (member "metric" metric).str render
        previousValue := (member "previous_value" metric).str render
        currentValue := (member "current_value" metric).str render
        previousPeriod := optionalText render (member "previous_label" metric)
        currentPeriod := optionalText render (member "current_label" metric)
        filters := analyst.filters
        grain := analyst.grain
        producingExecutionId := executionId }

end Validation

section Accepted

variable {render : Json → String} {metrics : List Object} {position : Nat} {raw : Json}
  {claim : ValidatedClaim}

end Accepted

end InsightAgent

end Zentra
