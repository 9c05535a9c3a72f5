import GaugeMesh.Conserve.Report
import GaugeMesh.Json.Reference

/-! Hops put together. A hop that conserves delegates the delegation by a path from the
principal it received to the one it hands on, through principals nobody has named before,
within scopes that only shrink; so does every chain of such hops. -/
namespace GaugeMesh
open Delegation

/-- The links a hop adds. -/
structure Delegates (source target : RequestContext) (extension : List DelegationLink) : Prop where
  delegation : target.delegation = source.delegation ++ extension
  path : Path DelegationLink.from DelegationLink.to DelegationLink.scope source.principal.id
    source.scope extension target.principal.id target.scope
  fresh : Fresh DelegationLink.to source.seen extension
  principal : extension = [] → source.principal = target.principal

/-- What `conserve` demands of a hop. -/
structure Conserves (source target : RequestContext) : Prop where
  delegates : ∃ extension, Delegates source target extension
  requestId : source.requestId = target.requestId
  tenant : source.tenant = target.tenant
  causalRoot : source.causalRoot = target.causalRoot
  causalParent : source.causalParent = target.causalParent
  sideEffect : source.sideEffect = target.sideEffect
  schemaDigest : source.schemaDigest = target.schemaDigest
  traceParent : source.traceParent = target.traceParent
  dataProvenance : source.dataProvenanceDigest = target.dataProvenanceDigest
  routePolicy : source.routePolicyDigest = target.routePolicyDigest
  capability : source.capability = target.capability
  acyclic : target.CausallyAcyclic
  causalObservations : source.causalObservations <+: target.causalObservations
  routeDecisions : source.routeDecisions <+: target.routeDecisions
  policyDecisions : source.policyDecisions <+: target.policyDecisions
  retryAttempts : source.retryAttempts <+: target.retryAttempts
  budgetDebits : source.budgetDebits <+: target.budgetDebits
  deadline : target.deadline ≤ source.deadline
  monetaryBudget : target.monetaryBudget ≤ source.monetaryBudget
  tokenBudget : target.tokenBudget ≤ source.tokenBudget
  retryBudget : target.retryBudget ≤ source.retryBudget
  dataClassification : source.dataClassification ≤ target.dataClassification

/-- The loop accepts exactly the fresh paths. -/
theorem followDelegation_path (links : List DelegationLink) (n m : PrincipalId)
    (limit last : CapabilityScope) (seen : Finset PrincipalId) :
    (match followDelegation n limit seen links with
      | none => false
      | some (current,scope) => decide (current = m) && decide (last ≤ scope)) = true ↔
    Path DelegationLink.from DelegationLink.to DelegationLink.scope n limit links m last ∧
      Fresh DelegationLink.to seen links := by
  induction links generalizing n limit seen with
  | nil =>
    simp only [followDelegation,Bool.and_eq_true,decide_eq_true_eq]
    constructor
    · rintro ⟨rfl,narrower⟩
      exact ⟨.stop narrower,.nil⟩
    · rintro ⟨path,-⟩
      cases path with
      | stop narrower => exact ⟨rfl,narrower⟩
  | cons link rest ih =>
    rw [followDelegation,fresh_cons]
    by_cases refused : link.from ≠ n ∨ ¬link.scope ≤ limit ∨ link.to ∈ seen
    · rw [if_pos refused]
      refine ⟨nofun,?_⟩
      rintro ⟨path,unseen,-⟩
      cases path with
      | link joined narrower _ =>
        rcases refused with other | wider | again
        · exact absurd joined other
        · exact absurd narrower wider
        · exact absurd again unseen
    · rw [if_neg refused,ih]
      rw [not_or,not_or,not_not,not_not] at refused
      obtain ⟨joined,narrower,unseen⟩ := refused
      constructor
      · rintro ⟨path,fresh⟩
        exact ⟨.link joined narrower path,unseen,fresh⟩
      · rintro ⟨path,-,fresh⟩
        cases path with
        | link _ _ path => exact ⟨path,fresh⟩

theorem validDelegationExtension_iff {source target : RequestContext} :
    validDelegationExtension source target = true ↔
      ∃ extension, extension ≠ [] ∧ Delegates source target extension := by
  unfold validDelegationExtension
  by_cases longer : source.delegation <+: target.delegation
  · obtain ⟨extension,whole⟩ := longer
    have added : target.delegation.drop source.delegation.length = extension := by
      rw [← whole,List.drop_left]
    simp only [← whole,List.prefix_append,not_true_eq_false,if_false,List.drop_left,
      List.isEmpty_iff]
    by_cases none : extension = []
    · simp only [none,if_true]
      refine ⟨nofun,?_⟩
      rintro ⟨other,some,delegates⟩
      have same := delegates.delegation
      rw [← whole,none,List.append_nil] at same
      exact absurd (List.self_eq_append_right.mp same) some
    · simp only [none,if_false]
      refine (followDelegation_path extension _ _ _ _ _).trans ?_
      constructor
      · rintro ⟨path,fresh⟩
        exact ⟨extension,none,whole.symm,path,fresh,fun empty => absurd empty none⟩
      · rintro ⟨other,-,delegates⟩
        have same := List.append_cancel_left (whole.trans delegates.delegation)
        subst same
        exact ⟨delegates.path,delegates.fresh⟩
  · simp only [longer,not_false_eq_true,if_true]
    refine ⟨nofun,?_⟩
    rintro ⟨extension,-,delegates⟩
    exact absurd ⟨extension,delegates.delegation.symm⟩ longer

/-- The four checks of the principal, the delegation and the scope are one condition. -/
theorem delegates_iff {source target : RequestContext} :
    (∃ extension, Delegates source target extension) ↔
    (source.principal = target.principal ∨ validDelegationExtension source target = true) ∧
      source.delegation <+: target.delegation ∧
      ¬(source.delegation.length < target.delegation.length ∧
        validDelegationExtension source target = false) ∧
      target.scope ≤ source.scope := by
  constructor
  · rintro ⟨extension,delegates⟩
    refine ⟨?_,⟨extension,delegates.delegation.symm⟩,?_,delegates.path.narrower⟩
    · by_cases none : extension = []
      · exact .inl (delegates.principal none)
      · exact .inr (validDelegationExtension_iff.mpr ⟨extension,none,delegates⟩)
    · rintro ⟨longer,invalid⟩
      have none : extension ≠ [] := by
        rintro rfl
        rw [delegates.delegation,List.append_nil] at longer
        exact lt_irrefl _ longer
      rw [validDelegationExtension_iff.mpr ⟨extension,none,delegates⟩] at invalid
      cases invalid
  · rintro ⟨principal,longer,valid,scope⟩
    by_cases added : validDelegationExtension source target = true
    · obtain ⟨extension,-,delegates⟩ := validDelegationExtension_iff.mp added
      exact ⟨extension,delegates⟩
    · have same := principal.resolve_right added
      rw [Bool.not_eq_true] at added
      have bound : ¬source.delegation.length < target.delegation.length :=
        fun more => valid ⟨more,added⟩
      have equal := longer.eq_of_length_le (not_lt.mp bound)
      refine ⟨[],?_,?_,.nil,fun _ => same⟩
      · rw [List.append_nil,equal]
      · rw [same]
        exact .stop scope

theorem conserve_passed [Json.FloatText] [Sha256] {source target : RequestContext} :
    (conserve source target).passed = true ↔ Conserves source target := by
  simp only [ConservationReport.passed,conserve,findings,List.isEmpty_iff,
    Findings.check_violations,Findings.equal_violations,Findings.appendOnly_violations,
    Findings.require_violations,Findings.monotone_down,Findings.monotone_up,and_assoc]
  constructor
  · rintro ⟨-,principal,requestId,tenant,causalRoot,causalParent,sideEffect,schemaDigest,
      traceParent,dataProvenance,routePolicy,capability,delegation,extension,acyclic,observations,
      routes,policies,retries,debits,scope,deadline,money,tokens,retry,classification⟩
    exact ⟨delegates_iff.mpr ⟨principal,delegation,extension,scope⟩,requestId,tenant,causalRoot,
      causalParent,sideEffect,schemaDigest,traceParent,dataProvenance,routePolicy,capability,
      acyclic,observations,routes,policies,retries,debits,deadline,money,tokens,retry,
      classification⟩
  · intro hop
    obtain ⟨principal,delegation,extension,scope⟩ := delegates_iff.mp hop.delegates
    exact ⟨rfl,principal,hop.requestId,hop.tenant,hop.causalRoot,hop.causalParent,hop.sideEffect,
      hop.schemaDigest,hop.traceParent,hop.dataProvenance,hop.routePolicy,hop.capability,
      delegation,extension,hop.acyclic,hop.causalObservations,hop.routeDecisions,
      hop.policyDecisions,hop.retryAttempts,hop.budgetDebits,scope,hop.deadline,
      hop.monetaryBudget,hop.tokenBudget,hop.retryBudget,hop.dataClassification⟩

variable {a b c : RequestContext} {extension more : List DelegationLink}

theorem RequestContext.mem_seen {context : RequestContext} {id : PrincipalId} :
    id ∈ context.seen ↔ id = context.principal.id ∨
      ∃ link ∈ context.delegation, id = link.from ∨ id = link.to := by
  simp [RequestContext.seen]

/-- Whoever has been named stays named, and so do those the new links lead to. -/
theorem Delegates.seen (delegates : Delegates a b extension) :
    a.seen ⊆ b.seen ∧ ∀ link ∈ extension, link.to ∈ b.seen := by
  have added : ∀ link ∈ extension, link ∈ b.delegation := by
    intro link member
    rw [delegates.delegation]
    exact List.mem_append_right _ member
  constructor
  · intro id named
    rcases RequestContext.mem_seen.mp named with rfl | ⟨link,member,ends⟩
    · rcases delegates.path.start with same | ⟨link,member,starts⟩
      · exact RequestContext.mem_seen.mpr (.inl same)
      · exact RequestContext.mem_seen.mpr (.inr ⟨link,added link member,.inl starts.symm⟩)
    · refine RequestContext.mem_seen.mpr (.inr ⟨link,?_,ends⟩)
      rw [delegates.delegation]
      exact List.mem_append_left _ member
  · exact fun link member =>
      RequestContext.mem_seen.mpr (.inr ⟨link,added link member,.inr rfl⟩)

theorem Delegates.trans (first : Delegates a b extension) (second : Delegates b c more) :
    Delegates a c (extension ++ more) where
  delegation := by rw [second.delegation,first.delegation,List.append_assoc]
  path := first.path.append second.path
  fresh := first.fresh.append second.fresh first.seen.1 first.seen.2
  principal := by
    intro none
    obtain ⟨left,right⟩ := List.append_eq_nil_iff.mp none
    exact (first.principal left).trans (second.principal right)

theorem Conserves.trans (first : Conserves a b) (second : Conserves b c) : Conserves a c where
  delegates := by
    obtain ⟨extension,left⟩ := first.delegates
    obtain ⟨more,right⟩ := second.delegates
    exact ⟨extension ++ more,left.trans right⟩
  requestId := first.requestId.trans second.requestId
  tenant := first.tenant.trans second.tenant
  causalRoot := first.causalRoot.trans second.causalRoot
  causalParent := first.causalParent.trans second.causalParent
  sideEffect := first.sideEffect.trans second.sideEffect
  schemaDigest := first.schemaDigest.trans second.schemaDigest
  traceParent := first.traceParent.trans second.traceParent
  dataProvenance := first.dataProvenance.trans second.dataProvenance
  routePolicy := first.routePolicy.trans second.routePolicy
  capability := first.capability.trans second.capability
  acyclic := second.acyclic
  causalObservations := first.causalObservations.trans second.causalObservations
  routeDecisions := first.routeDecisions.trans second.routeDecisions
  policyDecisions := first.policyDecisions.trans second.policyDecisions
  retryAttempts := first.retryAttempts.trans second.retryAttempts
  budgetDebits := first.budgetDebits.trans second.budgetDebits
  deadline := second.deadline.trans first.deadline
  monetaryBudget := second.monetaryBudget.trans first.monetaryBudget
  tokenBudget := second.tokenBudget.trans first.tokenBudget
  retryBudget := second.retryBudget.trans first.retryBudget
  dataClassification := first.dataClassification.trans second.dataClassification

section
variable [Json.FloatText] [Sha256]

/-- Contexts handed from adapter to adapter, each hop of which conserves. -/
def Hops (contexts : List RequestContext) : Prop :=
  contexts.IsChain fun source target => (conserve source target).passed = true

/-- The first context of a chain conserves into every later one. -/
theorem Hops.conserves {first : RequestContext} {rest : List RequestContext}
    (hops : Hops (first :: rest)) (later : c ∈ rest) : Conserves first c := by
  induction rest generalizing first with
  | nil => cases later
  | cons next rest ih =>
    obtain ⟨hop,hops⟩ := List.isChain_cons_cons.mp hops
    have head := conserve_passed.mp hop
    rcases List.mem_cons.mp later with rfl | later
    · exact head
    · exact head.trans (ih hops later)

/-- Conservation composes, hop by hop and over every chain of adapters. -/
theorem conservation_composes :
    (∀ a b c, (conserve a b).passed = true → (conserve b c).passed = true →
      (conserve a c).passed = true) ∧
    ∀ first next rest, Hops (first :: next :: rest) →
      (conserve first ((next :: rest).getLast (List.cons_ne_nil _ _))).passed = true := by
  constructor
  · exact fun a b c left right =>
      conserve_passed.mpr ((conserve_passed.mp left).trans (conserve_passed.mp right))
  · exact fun first next rest hops => conserve_passed.mpr (hops.conserves (List.getLast_mem _))

/-- The links of a context lead from the first principal to the current one, past nobody
twice, and every scope is within the one before it. -/
structure DelegationPath (origin current : RequestContext) : Prop where
  connected : origin.principal.id :: current.delegation.map (·.to) =
    current.delegation.map (·.from) ++ [current.principal.id]
  distinct : (origin.principal.id :: current.delegation.map (·.to)).Nodup
  narrowing : (origin.scope :: current.delegation.map (·.scope) ++ [current.scope]).IsChain
    fun wider narrower => narrower.capabilities ⊆ wider.capabilities

theorem delegation_chain_invariant {first : RequestContext} {rest : List RequestContext}
    (undelegated : first.delegation = []) (hops : Hops (first :: rest)) :
    ∀ current ∈ first :: rest, DelegationPath first current := by
  intro current member
  have delegates : Delegates first current current.delegation := by
    rcases List.mem_cons.mp member with rfl | later
    · rw [undelegated]
      exact ⟨(List.append_nil _).symm,.stop le_rfl,.nil,fun _ => rfl⟩
    · obtain ⟨extension,delegates⟩ := (hops.conserves later).delegates
      have whole := delegates.delegation
      rw [undelegated,List.nil_append] at whole
      rw [whole]
      exact delegates
  refine ⟨delegates.path.connected,?_,delegates.path.narrowing⟩
  rw [List.nodup_cons]
  refine ⟨fun member => ?_,delegates.fresh.nodup⟩
  obtain ⟨link,there,same⟩ := List.mem_map.mp member
  refine delegates.fresh.unseen link there ?_
  rw [same]
  exact RequestContext.mem_seen.mpr (.inl rfl)

end

section Example
open Reference

/-- A request of the principal `local-demo` that has not been delegated. -/
def localFixture : RequestContext where
  requestId := ⟨"request-1"⟩
  principal := ⟨⟨"local-demo"⟩,{"local"}⟩
  delegation := []
  tenant := ⟨"local"⟩
  scope := ⟨{"capability:invoke"}⟩
  dataClassification := .public
  deadline := 30000
  monetaryBudget := 0
  tokenBudget := 4096
  retryBudget := 1
  sideEffect := ⟨.readOnly,none,false⟩
  causalRoot := ⟨"root-1"⟩
  causalParent := none
  traceParent := "00-00000000000000000000000000000001-0000000000000001-01"
  protocol := ⟨.internalV1,.default⟩
  capability := none
  schemaDigest := .default
  routePolicyDigest := .default
  dataProvenanceDigest := .default
  causalObservations := []
  routeDecisions := []
  policyDecisions := []
  retryAttempts := []
  budgetDebits := []

/-- The same request in the hands of a worker it was delegated to. -/
def delegatedFixture : RequestContext :=
  { localFixture with
    principal := ⟨⟨"worker"⟩,∅⟩
    delegation := [⟨⟨"local-demo"⟩,⟨"worker"⟩,⟨{"capability:invoke"}⟩,.default⟩] }

/-- And in the hands of one the worker delegated it to, with no scope left. -/
def redelegatedFixture : RequestContext :=
  { delegatedFixture with
    principal := ⟨⟨"leaf"⟩,∅⟩
    scope := ⟨∅⟩
    delegation := delegatedFixture.delegation ++ [⟨⟨"worker"⟩,⟨"leaf"⟩,⟨∅⟩,.default⟩] }

theorem first_hop : (conserve localFixture delegatedFixture).passed = true := by decide

theorem second_hop : (conserve delegatedFixture redelegatedFixture).passed = true := by decide

theorem conservation_composes_example :
    (conserve localFixture redelegatedFixture).passed = true :=
  conservation_composes.1 _ _ _ first_hop second_hop

theorem delegation_chain_invariant_example : DelegationPath localFixture redelegatedFixture := by
  have hops : Hops [localFixture,delegatedFixture,redelegatedFixture] :=
    .cons_cons first_hop (.cons_cons second_hop (.singleton _))
  exact delegation_chain_invariant rfl hops _ (by simp)

end Example
end GaugeMesh
