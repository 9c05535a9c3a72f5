import GaugeMesh.Task.Transition
import GaugeMesh.Json.Reference
import Mathlib.Data.List.Chain
import Mathlib.Logic.Relation

/-! Chains of transitions. What one transition keeps is said once; a history that starts
with a prepared record then never leaves the shape its first record gave it. -/
namespace GaugeMesh
open Json

theorem canTransition_target (allowed : canTransition source target = true) :
    target ≠ .prepared := by
  rintro rfl
  cases source <;> cases allowed

theorem canTransition_dispatching (allowed : canTransition source .dispatching = true) :
    source = .prepared := by
  cases source <;> first | rfl | cases allowed

theorem canTransition_cancelRequested (allowed : canTransition .cancelRequested target = true) :
    target = .cancelRequested ∨ target = .terminal := by
  cases target <;> simp_all [canTransition]

theorem canTransition_terminal (target : TaskRoutePhase) :
    canTransition .terminal target = false := by
  cases target <;> rfl

namespace TaskRouteRecord

/-- Two records of one route: whose it is, what it is bound to, and until when. -/
structure SameRoute (r s : TaskRouteRecord) : Prop where
  schemaVersion : s.schemaVersion = r.schemaVersion
  publicTaskId : s.publicTaskId = r.publicTaskId
  caller : s.caller = r.caller
  idempotencyKey : s.idempotencyKey = r.idempotencyKey
  requestDigest : s.requestDigest = r.requestDigest
  submissionBinding : s.submissionBinding = r.submissionBinding
  capability : s.capability = r.capability
  capabilitySource : s.capabilitySource = r.capabilitySource
  upstreamSessionId : s.upstreamSessionId = r.upstreamSessionId
  createdAtUnixMs : s.createdAtUnixMs = r.createdAtUnixMs
  ttlMs : s.ttlMs = r.ttlMs
  expiresAtUnixMs : s.expiresAtUnixMs = r.expiresAtUnixMs

theorem SameRoute.refl (r : TaskRouteRecord) : SameRoute r r := by
  constructor <;> rfl

theorem SameRoute.trans {r s t : TaskRouteRecord} (first : SameRoute r s)
    (second : SameRoute s t) : SameRoute r t where
  schemaVersion := second.schemaVersion.trans first.schemaVersion
  publicTaskId := second.publicTaskId.trans first.publicTaskId
  caller := second.caller.trans first.caller
  idempotencyKey := second.idempotencyKey.trans first.idempotencyKey
  requestDigest := second.requestDigest.trans first.requestDigest
  submissionBinding := second.submissionBinding.trans first.submissionBinding
  capability := second.capability.trans first.capability
  capabilitySource := second.capabilitySource.trans first.capabilitySource
  upstreamSessionId := second.upstreamSessionId.trans first.upstreamSessionId
  createdAtUnixMs := second.createdAtUnixMs.trans first.createdAtUnixMs
  ttlMs := second.ttlMs.trans first.ttlMs
  expiresAtUnixMs := second.expiresAtUnixMs.trans first.expiresAtUnixMs

theorem SameRoute.symm {r s : TaskRouteRecord} (same : SameRoute r s) : SameRoute s r where
  schemaVersion := same.schemaVersion.symm
  publicTaskId := same.publicTaskId.symm
  caller := same.caller.symm
  idempotencyKey := same.idempotencyKey.symm
  requestDigest := same.requestDigest.symm
  submissionBinding := same.submissionBinding.symm
  capability := same.capability.symm
  capabilitySource := same.capabilitySource.symm
  upstreamSessionId := same.upstreamSessionId.symm
  createdAtUnixMs := same.createdAtUnixMs.symm
  ttlMs := same.ttlMs.symm
  expiresAtUnixMs := same.expiresAtUnixMs.symm

section
variable [FloatText] [Sha256] {r s : TaskRouteRecord} {update : TaskRouteUpdate}

theorem Transitioned.sameRoute (step : Transitioned r update s) : SameRoute r s := by
  obtain ⟨upstream,digest,rfl⟩ := step.moved
  constructor <;> rfl

theorem Transitioned.version (step : Transitioned r update s) :
    s.transitionVersion = r.transitionVersion + 1 := by
  obtain ⟨upstream,digest,rfl⟩ := step.moved
  rfl

theorem Transitioned.updated (step : Transitioned r update s) :
    s.updatedAtUnixMs = update.updatedAtUnixMs := by
  obtain ⟨upstream,digest,rfl⟩ := step.moved
  rfl

theorem Transitioned.phase (step : Transitioned r update s) : s.phase = update.phase := by
  obtain ⟨upstream,digest,rfl⟩ := step.moved
  rfl

theorem Transitioned.cached (step : Transitioned r update s) :
    s.cachedTerminalState = update.cachedTerminalState := by
  obtain ⟨upstream,digest,rfl⟩ := step.moved
  rfl

theorem Transitioned.joins (step : Transitioned r update s) :
    canTransition r.phase s.phase = true := step.phase ▸ step.allowed

/-- Some transitions lead from the one record to the other. -/
def Leads : TaskRouteRecord → TaskRouteRecord → Prop :=
  Relation.ReflTransGen fun r s => ∃ update, Transitioned r update s

namespace Leads

theorem refl (r : TaskRouteRecord) : Leads r r := Relation.ReflTransGen.refl

theorem next {r s t : TaskRouteRecord} (leads : Leads r s) (step : Transitioned s update t) :
    Leads r t := Relation.ReflTransGen.tail leads ⟨update,step⟩

theorem sameRoute (leads : Leads r s) : SameRoute r s := by
  induction leads with
  | refl => exact .refl r
  | tail _ step ih =>
    obtain ⟨update,step⟩ := step
    exact ih.trans step.sameRoute

theorem version (leads : Leads r s) : r.transitionVersion ≤ s.transitionVersion := by
  induction leads with
  | refl => exact Nat.le_refl _
  | tail _ step ih =>
    obtain ⟨update,step⟩ := step
    have := step.version
    omega

/-- A record that was not moved since is the record itself. -/
theorem unmoved (leads : Leads r s) (same : s.transitionVersion ≤ r.transitionVersion) : s = r := by
  cases leads with
  | refl => rfl
  | tail leads step =>
    obtain ⟨update,step⟩ := step
    have := version leads
    have := step.version
    omega

theorem upstream {id : UpstreamTaskId} (leads : Leads r s) (known : r.upstreamTaskId = some id) :
    s.upstreamTaskId = some id := by
  induction leads with
  | refl => exact known
  | tail _ step ih =>
    obtain ⟨update,step⟩ := step
    exact step.upstream id ih

theorem cancelRequested (leads : Leads r s) (phase : r.phase = .cancelRequested) :
    s.phase = .cancelRequested ∨ s.phase = .terminal := by
  induction leads with
  | refl => exact .inl phase
  | tail _ step ih =>
    obtain ⟨update,step⟩ := step
    rcases ih with requested | terminal
    · exact canTransition_cancelRequested (requested ▸ step.joins)
    · have joins := step.joins
      rw [terminal,canTransition_terminal] at joins
      cases joins

theorem terminal (leads : Leads r s) (phase : r.phase = .terminal) : s = r := by
  induction leads with
  | refl => rfl
  | tail _ step ih =>
    obtain ⟨update,step⟩ := step
    have joins := step.joins
    rw [ih,phase,canTransition_terminal] at joins
    cases joins

end Leads

/-- Each record is the result of a transition of the one before it. -/
def Transitions (records : List TaskRouteRecord) : Prop :=
  records.IsChain fun r s => ∃ update, r.transition update = .ok s

/-- What holds along the whole history of a route. -/
structure RouteHistory (records : List TaskRouteRecord) : Prop where
  valid : ∀ r ∈ records, r.verifyIntegrity = .ok ()
  version : ∀ (i : Nat) r s, records[i]? = some r → records[i + 1]? = some s →
    s.transitionVersion = r.transitionVersion + 1
  updated : ∀ (i : Nat) r s, records[i]? = some r → records[i + 1]? = some s →
    r.updatedAtUnixMs ≤ s.updatedAtUnixMs
  route : ∀ r ∈ records, ∀ s ∈ records, SameRoute r s
  upstream : ∀ (i j : Nat) r s id, i ≤ j → records[i]? = some r → records[j]? = some s →
    r.upstreamTaskId = some id → s.upstreamTaskId = some id
  prepared : ∀ r ∈ records, r.phase = .prepared → r.transitionVersion = 0
  dispatching : ∀ (i j : Nat) r s, records[i]? = some r → records[j]? = some s →
    r.phase = .dispatching → s.phase = .dispatching → i = j
  cancelRequested : ∀ (i : Nat) r s, records[i]? = some r → records[i + 1]? = some s →
    r.phase = .cancelRequested → s.phase = .cancelRequested ∨ s.phase = .terminal
  terminal : ∀ r ∈ records, r.phase = .terminal → ∀ update s, r.transition update ≠ .ok s
  owner : ∀ r ∈ records, r.dispatchOwnerId.isSome ↔ r.phase = .dispatching

theorem Transitions.step {records : List TaskRouteRecord} (chain : Transitions records) (i : Nat)
    (here : records[i]? = some r) (next : records[i + 1]? = some s) :
    ∃ update, Transitioned r update s := by
  obtain ⟨bound,rfl⟩ := List.getElem?_eq_some_iff.mp here
  obtain ⟨nextBound,rfl⟩ := List.getElem?_eq_some_iff.mp next
  obtain ⟨update,made⟩ := List.isChain_iff_getElem.mp chain i nextBound
  exact ⟨update,transition_ok made⟩

/-- A fact that each transition carries over holds from any position on. -/
theorem Transitions.carry {records : List TaskRouteRecord} (chain : Transitions records)
    (fact : Nat → TaskRouteRecord → Prop) {i : Nat} (start : ∀ r, records[i]? = some r → fact i r)
    (step : ∀ j r s update, fact j r → Transitioned r update s → fact (j + 1) s) :
    ∀ (j : Nat) s, i ≤ j → records[j]? = some s → fact j s := by
  intro j s later found
  induction j, later using Nat.le_induction generalizing s with
  | base => exact start s found
  | succ j later ih =>
    have bound : j < records.length := by
      have := (List.getElem?_eq_some_iff.mp found).1
      omega
    have here : records[j]? = some records[j] := List.getElem?_eq_getElem bound
    obtain ⟨update,made⟩ := chain.step j here found
    exact step j _ s update (ih _ here) made

/-- What the position of a record says about it: only the first is prepared, and only
the second can be dispatching. -/
structure At (first : TaskRouteRecord) (i : Nat) (r : TaskRouteRecord) : Prop where
  valid : r.Valid
  version : r.transitionVersion = i
  route : SameRoute first r
  prepared : r.phase = .prepared ↔ i = 0
  dispatching : r.phase = .dispatching → i = 1

theorem At.next {first : TaskRouteRecord} {i : Nat} (here : At first i r)
    (step : Transitioned r update s) : At first (i + 1) s where
  valid := step.after
  version := by rw [step.version,here.version]
  route := here.route.trans step.sameRoute
  prepared := by
    have target := canTransition_target step.joins
    constructor
    · intro phase
      exact absurd phase target
    · intro zero
      omega
  dispatching := by
    intro phase
    have source := canTransition_dispatching (phase ▸ step.joins)
    have := here.prepared.mp source
    omega

/-- Every chain of transitions of a prepared record is a proper history. -/
theorem transitions_of_prepared {id : PublicTaskId} {caller : TaskRouteCaller}
    {capability : CapabilityId} {session : String} {created ttl : Nat} {first : TaskRouteRecord}
    {rest : List TaskRouteRecord}
    (made : prepareWithId id caller key request binding capability session created ttl = .ok first)
    (chain : Transitions (first :: rest)) : RouteHistory (first :: rest) := by
  obtain ⟨valid,phase,version,-⟩ := verifyPreparedForBegin_ok.mp (prepareWithId_ok made).1
  have start : At first 0 first :=
    ⟨valid,version,.refl first,by simp [phase],by simp [phase]⟩
  have placed : ∀ (j : Nat) s, 0 ≤ j → (first :: rest)[j]? = some s → At first j s :=
    chain.carry (At first) (by rintro r found; cases found; exact start)
      fun j r s update here step => here.next step
  have member : ∀ r ∈ first :: rest, ∃ j, At first j r := by
    intro r member
    obtain ⟨j,bound,rfl⟩ := List.getElem_of_mem member
    exact ⟨j,placed j _ (Nat.zero_le _) (List.getElem?_eq_getElem bound)⟩
  constructor
  case valid =>
    intro r found
    obtain ⟨j,place⟩ := member r found
    exact place.valid
  case version =>
    intro i r s here next
    obtain ⟨update,step⟩ := chain.step i here next
    exact step.version
  case updated =>
    intro i r s here next
    obtain ⟨update,step⟩ := chain.step i here next
    exact step.updated ▸ step.times
  case route =>
    intro r left s right
    obtain ⟨i,first⟩ := member r left
    obtain ⟨j,second⟩ := member s right
    exact first.route.symm.trans second.route
  case upstream =>
    intro i j r s id later here there known
    refine chain.carry (fun _ t => t.upstreamTaskId = some id) ?_ ?_ j s later there
    · intro t found
      rw [here] at found; cases found
      exact known
    · exact fun _ t u update holds step => step.upstream id holds
  case prepared =>
    intro r found phase
    obtain ⟨j,place⟩ := member r found
    rw [place.version]
    exact place.prepared.mp phase
  case dispatching =>
    intro i j r s here there left right
    have first := (placed i r (Nat.zero_le _) here).dispatching left
    have second := (placed j s (Nat.zero_le _) there).dispatching right
    omega
  case cancelRequested =>
    intro i r s here next phase
    obtain ⟨update,step⟩ := chain.step i here next
    exact canTransition_cancelRequested (phase ▸ step.joins)
  case terminal =>
    intro r _ phase update s made
    have joins := (transition_ok made).joins
    rw [phase,canTransition_terminal] at joins
    cases joins
  case owner =>
    intro r found
    obtain ⟨j,place⟩ := member r found
    exact place.valid.shaped.owner.symm

end

section Example
open Reference

/-- A route that is prepared, claimed and then cancelled. -/
theorem transitions_of_prepared_example : ∃ first claimed cancelled,
    prepareWithId ⟨"gmt_1"⟩ ⟨⟨"alice"⟩,⟨"tenant-a"⟩⟩ (some ⟨"key"⟩) (.ofJson .null) .null
        ⟨⟨"worker-a"⟩,.tool,.default,.default,⟨"v1"⟩,.default⟩ "session-1" 1000 10000 =
      .ok first ∧
    first.transition (.dispatching "gmi_1" 1001) = .ok claimed ∧
    claimed.transition (.cancelRequested 1002) = .ok cancelled ∧
    RouteHistory [first,claimed,cancelled] := by
  have made : prepareWithId ⟨"gmt_1"⟩ ⟨⟨"alice"⟩,⟨"tenant-a"⟩⟩ (some ⟨"key"⟩) (.ofJson .null) .null
      ⟨⟨"worker-a"⟩,.tool,.default,.default,⟨"v1"⟩,.default⟩ "session-1" 1000 10000 = .ok _ := rfl
  have prepared := verifyPreparedForBegin_ok.mp (prepareWithId_ok made).1
  have claim := transition_made (.dispatching "gmi_1" 1001) prepared.1 rfl (by decide) rfl rfl
  have cancel := transition_made (.cancelRequested 1002) (transition_ok claim).after rfl (by decide)
    rfl rfl
  refine ⟨_,_,_,made,claim,cancel,transitions_of_prepared made ?_⟩
  exact .cons_cons ⟨_,claim⟩ (.cons_cons ⟨_,cancel⟩ (.singleton _))

end Example
end TaskRouteRecord
end GaugeMesh
