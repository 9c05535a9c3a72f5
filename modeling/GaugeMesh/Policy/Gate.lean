import GaugeMesh.Policy.Policy

/-! `policy_gate.rs`: every remote request is held against the policy by its metadata. The
gate names four of the seven fields that a rule of its phase may test; a rule over one of the
other three never matches, whatever is true of the request. -/
namespace GaugeMesh.Policy

def protocol (path : String) : String :=
  if path = "/mcp" then "mcp"
  else if path = "/v1" ∨ "/v1/".toList.isPrefixOf path.toList then "openai"
  else "unknown"

/-- The field map of `authorize`. -/
def gateFields (identity : AuthenticatedIdentity) (path : String) : List (String × String) := [
  ("principal.id",identity.principal.text),
  ("tenant.id",identity.tenant.text),
  ("request.protocol",protocol path),
  ("request.data_classification","public")]

inductive GateResponse where
  | forbidden (code : String)
  | next
  deriving DecidableEq

def authorize (policy : CompiledPolicy) (identity : AuthenticatedIdentity) (path : String) :
    GateResponse :=
  if policy.evaluate .requestMetadata (gateFields identity path) ≠ .allow then
    .forbidden "GM_POLICY_REQUEST_DENIED"
  else .next

/-- Every admitted field is in the map. -/
def Supplies (identity : AuthenticatedIdentity) (path : String) : Prop :=
  ∀ field, Admitted field .requestMetadata → (lookup field (gateFields identity path)).isSome

/-- The true value of every field of a request; the gate knows some of them. -/
def Describes (truth : String → String) (identity : AuthenticatedIdentity) (path : String) : Prop :=
  ∀ field value, lookup field (gateFields identity path) = some value → truth field = value

/-- Every rule that denies the request by its true values matches at the gate. -/
def DenyFires (policy : CompiledPolicy) (identity : AuthenticatedIdentity) (path : String) : Prop :=
  ∀ truth, Describes truth identity path → ∀ rule ∈ policy.document.rules,
    rule.phase = .requestMetadata → rule.effect = .deny →
    (∀ condition ∈ rule.all, truth condition.field = condition.equals) →
    rule.Matches (gateFields identity path)

def unsupplied : List String := ["principal.group","capability.source","capability.kind"]

def supplied : List String :=
  ["principal.id","tenant.id","request.protocol","request.data_classification"]

theorem admitted_fields (field : String) :
    Admitted field .requestMetadata ↔ field ∈ supplied ∨ field ∈ unsupplied := by
  constructor
  · rintro ⟨available,found,order⟩
    have member := lookup_mem found
    simp only [fieldAvailability,List.mem_cons,Prod.mk.injEq,List.not_mem_nil,or_false] at member
    rcases member with ⟨rfl,rfl⟩ | ⟨rfl,rfl⟩ | ⟨rfl,rfl⟩ | ⟨rfl,rfl⟩ | ⟨rfl,rfl⟩ | ⟨rfl,rfl⟩ |
      ⟨rfl,rfl⟩ | ⟨rfl,rfl⟩ | ⟨rfl,rfl⟩ | ⟨rfl,rfl⟩ | ⟨rfl,rfl⟩ | ⟨rfl,rfl⟩ <;>
      simp [supplied,unsupplied,PolicyPhase.rank] at order ⊢
  · intro member
    simp only [supplied,unsupplied,List.mem_cons,List.not_mem_nil,or_false] at member
    rcases member with (rfl | rfl | rfl | rfl) | rfl | rfl | rfl <;>
      exact ⟨_,rfl,by decide⟩

theorem gateFields_supplied (identity : AuthenticatedIdentity) (path field : String) :
    (lookup field (gateFields identity path)).isSome ↔ field ∈ supplied := by
  constructor
  · intro found
    obtain ⟨value,found⟩ := Option.isSome_iff_exists.mp found
    have member := lookup_mem found
    simp only [gateFields,List.mem_cons,Prod.mk.injEq,List.not_mem_nil,or_false] at member
    simp only [supplied,List.mem_cons,List.not_mem_nil,or_false]
    rcases member with same | same | same | same <;> simp [same.1]
  · intro member
    simp only [supplied,List.mem_cons,List.not_mem_nil,or_false] at member
    rcases member with rfl | rfl | rfl | rfl <;> rfl

theorem supplied_unsupplied {field : String} (member : field ∈ supplied) : field ∉ unsupplied := by
  revert field
  decide

/-- The true values that a rule asks for, where the gate does not know better. -/
def asked (rule : PolicyRule) (identity : AuthenticatedIdentity) (path field : String) : String :=
  match lookup field (gateFields identity path) with
  | some value => value
  | none => (lookup field (rule.all.map fun condition => (condition.field,condition.equals))).getD ""

theorem asked_describes (rule : PolicyRule) (identity : AuthenticatedIdentity) (path : String) :
    Describes (asked rule identity path) identity path := by
  intro field value found
  rw [asked,found]

/-- Whether the conditions that the gate can judge hold of the request. -/
def Concerns (rule : PolicyRule) (identity : AuthenticatedIdentity) (path : String) : Prop :=
  ∀ condition ∈ rule.all, condition.field ∈ supplied →
    lookup condition.field (gateFields identity path) = some condition.equals

/-- Of each request the gate lacks three of the fields that compilation admits. The rules that
deny the request nevertheless all match exactly when none of them tests one of the three. -/
theorem gate_supplies {document : PolicyDocument} {policy : CompiledPolicy}
    (accepted : compile document = .ok policy) (identity : AuthenticatedIdentity) (path : String) :
    ¬Supplies identity path ∧
    (∀ field, Admitted field .requestMetadata →
      ((lookup field (gateFields identity path)).isSome ↔ field ∉ unsupplied)) ∧
    (DenyFires policy identity path ↔ ∀ rule ∈ policy.document.rules,
      rule.phase = .requestMetadata → rule.effect = .deny → Concerns rule identity path →
      ∀ condition ∈ rule.all, condition.field ∉ unsupplied) := by
  have checked := compile_checked accepted
  refine ⟨fun supplies => ?_,fun field admitted => ?_,fun fires => ?_,fun clean => ?_⟩
  · have group := supplies "principal.group" ⟨.discovery,rfl,by decide⟩
    rw [gateFields_supplied] at group
    exact absurd group (by decide)
  · rw [gateFields_supplied]
    constructor
    · exact supplied_unsupplied
    · intro other
      exact ((admitted_fields field).mp admitted).resolve_right other
  · intro rule member phase deny concerns condition inside lacking
    have matched := fires (asked rule identity path) (asked_describes rule identity path) rule
      member phase deny (fun other among => by
        rw [asked]
        split
        · next value found =>
          have known := (gateFields_supplied identity path other.field).mp (by simp [found])
          exact Option.some.inj (found.symm.trans (concerns other among known))
        · rw [lookup_condition (checked rule member).consistent among,Option.getD_some])
    have present := (gateFields_supplied identity path condition.field).mp
      (by simp [matched condition inside])
    exact supplied_unsupplied present lacking
  · intro truth describes rule member phase deny holds
    have concerns : Concerns rule identity path := by
      intro condition inside known
      obtain ⟨value,found⟩ := Option.isSome_iff_exists.mp
        ((gateFields_supplied identity path condition.field).mpr known)
      rw [found,← describes _ _ found,holds condition inside]
    intro condition inside
    have admitted := (checked rule member).admitted condition inside
    rw [phase] at admitted
    exact concerns condition inside (((admitted_fields condition.field).mp admitted).resolve_right
      (clean rule member phase deny concerns condition inside))

/-- A rule that denies every tool, under a default that allows. -/
def denyTool : PolicyRule :=
  ⟨"deny-tools",.requestMetadata,1,.deny,[⟨"capability.kind","tool"⟩]⟩

def denyTools : PolicyDocument := ⟨.allow,[denyTool]⟩

def visitor : AuthenticatedIdentity := ⟨⟨"principal-a"⟩,⟨"tenant-a"⟩,[]⟩

theorem denyTools_compiles : compile denyTools = .ok ⟨denyTools⟩ := by
  simp [compile,denyTools,denyTool,checkRules,checkFields,fieldAvailability,lookup,checkEqualities,
    checkReachable,PolicyPhase.rank,bind,Except.bind,pure,Except.pure]

theorem gate_supplies_example : ¬Supplies visitor "/mcp" ∧ ¬DenyFires ⟨denyTools⟩ visitor "/mcp" := by
  obtain ⟨lacking,_,fires⟩ := gate_supplies denyTools_compiles visitor "/mcp"
  refine ⟨lacking,fun all => ?_⟩
  have clean := fires.mp all _ (List.mem_singleton.mpr rfl) rfl rfl
    (by simp [Concerns,denyTool,supplied]) _ (List.mem_singleton.mpr rfl)
  exact clean (by decide)

/-- The request is a tool call and the policy denies tools: compilation admits the field, the
gate does not have it, the rule does not match, and the request passes. -/
theorem gate_supplies_absent : compile denyTools = .ok ⟨denyTools⟩ ∧
    Admitted "capability.kind" .requestMetadata ∧
    lookup "capability.kind" (gateFields visitor "/mcp") = none ∧
    ¬Supplies visitor "/mcp" ∧ ¬DenyFires ⟨denyTools⟩ visitor "/mcp" ∧
    authorize ⟨denyTools⟩ visitor "/mcp" = .next := by
  have admitted : Admitted "capability.kind" .requestMetadata := ⟨.discovery,rfl,by decide⟩
  refine ⟨denyTools_compiles,admitted,rfl,fun supplies => ?_,fun fires => ?_,by decide⟩
  · exact absurd (supplies _ admitted) (by decide)
  · have matched := fires (asked denyTool visitor "/mcp") (asked_describes denyTool visitor "/mcp")
      denyTool (List.mem_singleton.mpr rfl) rfl rfl (by decide)
    exact absurd matched (by decide)

end GaugeMesh.Policy
