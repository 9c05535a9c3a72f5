import GaugeMesh.Proxy.Submission
import Mathlib.Data.List.Destutter
import Mathlib.Data.List.Sort

/-! `route.rs`: the choice of a route among candidates. The candidates are put in the order
of their ids before anything is digested, explained or scored. -/
namespace GaugeMesh
open Json

namespace Route

def maxScoreTerm : UInt64 := 100000000

@[ext] structure RouteId where
  text : String
  deriving DecidableEq

structure ConstraintResult where
  allowed : Bool
  rejections : List String
  deriving DecidableEq

structure RouteMetricSnapshot where
  latency : UInt32
  cost : UInt32
  failure : UInt32
  pressure : UInt32
  exposure : UInt32
  switching : UInt32
  deriving DecidableEq

structure RouteWeights where
  latency : UInt32
  cost : UInt32
  failure : UInt32
  semanticLoss : UInt32
  pressure : UInt32
  exposure : UInt32
  switching : UInt32
  deriving DecidableEq

structure RouteCandidate where
  routeId : RouteId
  endpointId : String
  hardConstraints : ConstraintResult
  metrics : RouteMetricSnapshot
  semanticLoss : UInt32
  deriving DecidableEq

structure ScoreTerms where
  latency : UInt64
  cost : UInt64
  failure : UInt64
  semanticLoss : UInt64
  pressure : UInt64
  exposure : UInt64
  switching : UInt64
  deriving DecidableEq

structure CandidateExplanation where
  routeId : RouteId
  allowed : Bool
  rejections : List String
  terms : Option ScoreTerms
  deriving DecidableEq

structure RouteExplanation where
  candidates : List CandidateExplanation
  selected : RouteId
  tieBreaker : String
  deriving DecidableEq

structure RoutePlan where
  selected : RouteId
  actionScore : UInt64
  explanation : RouteExplanation
  snapshotDigest : Sha256Digest
  routePolicyDigest : Sha256Digest
  metricSnapshotDigest : Sha256Digest
  deriving DecidableEq

/-- The only code of a denial, `GM_ROUTE_NO_ELIGIBLE_CANDIDATE`. -/
inductive RouteDenialCode where
  | noEligibleCandidate
  deriving DecidableEq

structure RouteDenial where
  code : RouteDenialCode
  candidates : List CandidateExplanation
  snapshotDigest : Sha256Digest
  routePolicyDigest : Sha256Digest
  metricSnapshotDigest : Sha256Digest
  deriving DecidableEq

inductive RouteDecision where
  | selected (schemaVersion : UInt16) (decisionDigest : Sha256Digest) (plan : RoutePlan)
  | denied (schemaVersion : UInt16) (decisionDigest : Sha256Digest) (denial : RouteDenial)
  deriving DecidableEq

inductive RouteError where
  | noEligibleCandidate
  | metricOutOfRange
  | duplicateRouteId
  | invalidRouteId
  | rejectionRequired
  | decisionDigestMismatch
  | decisionContractInvalid
  | decisionScoreOutOfRange
  | unsupportedDecisionSchema
  deriving DecidableEq

def RouteMetricSnapshot.encode (m : RouteMetricSnapshot) : Value := .object [
  ("cost",toValue m.cost.toNat),
  ("exposure",toValue m.exposure.toNat),
  ("failure",toValue m.failure.toNat),
  ("latency",toValue m.latency.toNat),
  ("pressure",toValue m.pressure.toNat),
  ("switching",toValue m.switching.toNat)]

def RouteWeights.encode (w : RouteWeights) : Value := .object [
  ("cost",toValue w.cost.toNat),
  ("exposure",toValue w.exposure.toNat),
  ("failure",toValue w.failure.toNat),
  ("latency",toValue w.latency.toNat),
  ("pressure",toValue w.pressure.toNat),
  ("semantic_loss",toValue w.semanticLoss.toNat),
  ("switching",toValue w.switching.toNat)]

def ConstraintResult.encode (c : ConstraintResult) : Value := .object [
  ("allowed",toValue c.allowed),
  ("rejections",toValue c.rejections)]

def RouteCandidate.encode (c : RouteCandidate) : Value := .object [
  ("endpoint_id",toValue c.endpointId),
  ("hard_constraints",c.hardConstraints.encode),
  ("metrics",c.metrics.encode),
  ("route_id",toValue c.routeId.text),
  ("semantic_loss",toValue c.semanticLoss.toNat)]

def ScoreTerms.encode (t : ScoreTerms) : Value := .object [
  ("cost",toValue t.cost.toNat),
  ("exposure",toValue t.exposure.toNat),
  ("failure",toValue t.failure.toNat),
  ("latency",toValue t.latency.toNat),
  ("pressure",toValue t.pressure.toNat),
  ("semantic_loss",toValue t.semanticLoss.toNat),
  ("switching",toValue t.switching.toNat)]

def CandidateExplanation.encode (e : CandidateExplanation) : Value := .object [
  ("allowed",toValue e.allowed),
  ("rejections",toValue e.rejections),
  ("route_id",toValue e.routeId.text),
  ("terms",(e.terms.map ScoreTerms.encode).getD .null)]

def RouteExplanation.encode (e : RouteExplanation) : Value := .object [
  ("candidates",.array (e.candidates.map CandidateExplanation.encode)),
  ("selected",toValue e.selected.text),
  ("tie_breaker",toValue e.tieBreaker)]

def RoutePlan.encode (p : RoutePlan) : Value := .object [
  ("action_score",toValue p.actionScore.toNat),
  ("explanation",p.explanation.encode),
  ("metric_snapshot_digest",toValue p.metricSnapshotDigest),
  ("route_policy_digest",toValue p.routePolicyDigest),
  ("selected",toValue p.selected.text),
  ("snapshot_digest",toValue p.snapshotDigest)]

def RouteDenialCode.name : RouteDenialCode → String
  | noEligibleCandidate => "GM_ROUTE_NO_ELIGIBLE_CANDIDATE"

def RouteDenial.encode (d : RouteDenial) : Value := .object [
  ("candidates",.array (d.candidates.map CandidateExplanation.encode)),
  ("code",toValue d.code.name),
  ("metric_snapshot_digest",toValue d.metricSnapshotDigest),
  ("route_policy_digest",toValue d.routePolicyDigest),
  ("snapshot_digest",toValue d.snapshotDigest)]

def RouteMetricSnapshot.validate (m : RouteMetricSnapshot) :
    Except RouteError RouteMetricSnapshot :=
  if [m.latency,m.cost,m.failure,m.pressure,m.exposure,m.switching].all (· ≤ 10000) then .ok m
  else .error .metricOutOfRange

def addTerm (sum term : UInt64) : Option UInt64 :=
  if sum.toNat + term.toNat < 2^64 then some (sum + term) else none

namespace ScoreTerms

def all (t : ScoreTerms) : List UInt64 :=
  [t.latency,t.cost,t.failure,t.semanticLoss,t.pressure,t.exposure,t.switching]

def total (t : ScoreTerms) : Except RouteError UInt64 :=
  if t.all.any (· > maxScoreTerm) then .error .decisionScoreOutOfRange
  else match t.all.foldlM addTerm 0 with
    | some sum => .ok sum
    | none => .error .decisionScoreOutOfRange

end ScoreTerms

/-- The products of a loop round of `decide`. -/
def scoreTerms (weights : RouteWeights) (candidate : RouteCandidate) : ScoreTerms where
  latency := weights.latency.toUInt64 * candidate.metrics.latency.toUInt64
  cost := weights.cost.toUInt64 * candidate.metrics.cost.toUInt64
  failure := weights.failure.toUInt64 * candidate.metrics.failure.toUInt64
  semanticLoss := weights.semanticLoss.toUInt64 * candidate.semanticLoss.toUInt64
  pressure := weights.pressure.toUInt64 * candidate.metrics.pressure.toUInt64
  exposure := weights.exposure.toUInt64 * candidate.metrics.exposure.toUInt64
  switching := weights.switching.toUInt64 * candidate.metrics.switching.toUInt64

def RouteWeights.all (w : RouteWeights) : List UInt32 :=
  [w.latency,w.cost,w.failure,w.semanticLoss,w.pressure,w.exposure,w.switching]

def sortById (candidates : List RouteCandidate) : List RouteCandidate :=
  candidates.mergeSort fun left right => decide (left.routeId.text ≤ right.routeId.text)

/-- Two neighbours of the sorted list with one id. -/
def duplicated : List RouteCandidate → Bool
  | left :: right :: rest => decide (left.routeId = right.routeId) || duplicated (right :: rest)
  | _ => false

/-- `rejection.trim().is_empty()`. -/
def blank (rejection : String) : Bool := rejection.toList.all TaskSubmission.isWhitespace

/-- A denied candidate needs reasons; they are sorted, each kept once. -/
def normalizeRejections (candidate : RouteCandidate) : Except RouteError RouteCandidate :=
  if candidate.hardConstraints.allowed then .ok candidate
  else if candidate.hardConstraints.rejections.isEmpty ||
      candidate.hardConstraints.rejections.any blank then .error .rejectionRequired
  else .ok { candidate with hardConstraints := { candidate.hardConstraints with
    rejections := (candidate.hardConstraints.rejections.mergeSort fun left right =>
      decide (left ≤ right)).destutter (· ≠ ·) } }

def normalizeAll : List RouteCandidate → Except RouteError (List RouteCandidate)
  | [] => .ok []
  | candidate :: rest => do
    let candidate ← normalizeRejections candidate
    return candidate :: (← normalizeAll rest)

/-- The explanations in the order of the candidates, and the scores of the allowed ones. -/
def explain (weights : RouteWeights) : List RouteCandidate →
    Except RouteError (List CandidateExplanation × List (UInt64 × RouteId))
  | [] => .ok ([],[])
  | candidate :: rest =>
    if ¬candidate.hardConstraints.allowed then do
      let (explanation,eligible) ← explain weights rest
      return (⟨candidate.routeId,false,candidate.hardConstraints.rejections,none⟩ :: explanation,
        eligible)
    else do
      let _ ← candidate.metrics.validate
      let terms := scoreTerms weights candidate
      let score ← terms.total
      let (explanation,eligible) ← explain weights rest
      return (⟨candidate.routeId,true,[],some terms⟩ :: explanation,
        (score,candidate.routeId) :: eligible)

/-- The order of pairs: by score, and by id among equal scores. -/
def noLater (left right : UInt64 × RouteId) : Bool :=
  decide (left.1 < right.1) || (decide (left.1 = right.1) && decide (left.2.text ≤ right.2.text))

def tieBreaker : String := "lexicographically smallest stable route_id"

variable [FloatText] [Sha256]

def selectedDigest (schemaVersion : UInt16) (plan : RoutePlan) : Sha256Digest :=
  .ofJson (.object [("plan",plan.encode),("schema_version",toValue schemaVersion),
    ("status",toValue "selected")])

def deniedDigest (schemaVersion : UInt16) (denial : RouteDenial) : Sha256Digest :=
  .ofJson (.object [("denial",denial.encode),("schema_version",toValue schemaVersion),
    ("status",toValue "denied")])

/-- The decision over candidates in their final order. -/
def conclude (candidates : List RouteCandidate) (weights : RouteWeights) :
    Except RouteError RouteDecision := do
  let snapshotDigest := Sha256Digest.ofJson
    (.array [.array (candidates.map RouteCandidate.encode),weights.encode])
  let routePolicyDigest := Sha256Digest.ofJson weights.encode
  let metricSnapshotDigest := Sha256Digest.ofJson (.array (candidates.map fun candidate =>
    .array [toValue candidate.routeId.text,toValue candidate.endpointId,
      candidate.metrics.encode,toValue candidate.semanticLoss.toNat]))
  let (explanation,eligible) ← explain weights candidates
  match (eligible.mergeSort noLater).head? with
  | none =>
    let denial := ⟨.noEligibleCandidate,explanation,snapshotDigest,routePolicyDigest,
      metricSnapshotDigest⟩
    return .denied 1 (deniedDigest 1 denial) denial
  | some (actionScore,selected) =>
    let plan := ⟨selected,actionScore,⟨explanation,selected,tieBreaker⟩,snapshotDigest,
      routePolicyDigest,metricSnapshotDigest⟩
    return .selected 1 (selectedDigest 1 plan) plan

protected def decide (candidates : List RouteCandidate) (weights : RouteWeights) :
    Except RouteError RouteDecision := do
  if weights.all.any (· > 10000) || candidates.any (·.semanticLoss > 10000) then
    throw .metricOutOfRange
  if candidates.any (·.routeId.text.isEmpty) then throw .invalidRouteId
  let candidates := sortById candidates
  if duplicated candidates then throw .duplicateRouteId
  let candidates ← normalizeAll candidates
  conclude candidates weights

def plan (candidates : List RouteCandidate) (weights : RouteWeights) :
    Except RouteError RoutePlan := do
  match ← Route.decide candidates weights with
  | .selected _ _ plan => return plan
  | .denied .. => throw .noEligibleCandidate

end Route
end GaugeMesh
