import GaugeMesh.Capability
import Mathlib.Data.String.Basic

/-! `policy.rs`: rules over the fields of a request. A policy is compiled once: every field
must be there by the phase of its rule. It then takes, among the rules of a phase that match,
the one of the smallest priority. -/
namespace GaugeMesh.Policy

inductive PolicyPhase where
  | discovery
  | requestMetadata
  | requestBody
  | responseMetadata
  | responseBody
  | postEffect
  | cleanup
  deriving DecidableEq

namespace PolicyPhase

/-- The phases in the order of their declaration. -/
def rank : PolicyPhase → Nat
  | discovery => 0
  | requestMetadata => 1
  | requestBody => 2
  | responseMetadata => 3
  | responseBody => 4
  | postEffect => 5
  | cleanup => 6

theorem rank_injective (a b : PolicyPhase) (same : a.rank = b.rank) : a = b := by
  cases a <;> cases b <;> first | rfl | simp [rank] at same

end PolicyPhase

inductive PolicyEffect where
  | allow
  | deny
  deriving DecidableEq

structure Condition where
  field : String
  equals : String
  deriving DecidableEq

structure PolicyRule where
  id : String
  phase : PolicyPhase
  priority : UInt32
  effect : PolicyEffect
  all : List Condition
  deriving DecidableEq

structure PolicyDocument where
  default : PolicyEffect
  rules : List PolicyRule
  deriving DecidableEq

inductive PolicyCompileError where
  | unknownField (field : String)
  | fieldUnavailable (field : String) (phase : PolicyPhase)
  | ambiguousPriority (priority : UInt32)
  | duplicateRule (id : String)
  | contradictoryRule (id : String)
  | unreachableRule (id : String)
  deriving DecidableEq

structure CompiledPolicy where
  document : PolicyDocument
  deriving DecidableEq

/-- The fields a rule may test, each with the first phase that has it. -/
def fieldAvailability : List (String × PolicyPhase) := [
  ("principal.id",.discovery),
  ("principal.group",.discovery),
  ("tenant.id",.discovery),
  ("capability.source",.discovery),
  ("capability.kind",.discovery),
  ("request.protocol",.requestMetadata),
  ("request.data_classification",.requestMetadata),
  ("request.argument",.requestBody),
  ("response.status",.responseMetadata),
  ("response.body_classification",.responseBody),
  ("effect.observed",.postEffect),
  ("cleanup.result",.cleanup)]

/-- The value of a key in a map given by its entries. -/
def lookup (key : String) : List (String × α) → Option α
  | [] => none
  | (k,a) :: rest => if k = key then some a else lookup key rest

namespace PolicyRule

def Matches (rule : PolicyRule) (fields : List (String × String)) : Prop :=
  ∀ condition ∈ rule.all, lookup condition.field fields = some condition.equals

instance (rule : PolicyRule) (fields : List (String × String)) : Decidable (rule.Matches fields) :=
  inferInstanceAs (Decidable (∀ condition ∈ rule.all, _))

/-- `min_by_key`: of equal priorities the first. -/
def first : List PolicyRule → Option PolicyRule
  | [] => none
  | rule :: rest =>
    match first rest with
    | none => some rule
    | some other => if other.priority < rule.priority then some other else some rule

end PolicyRule

def CompiledPolicy.evaluate (policy : CompiledPolicy) (phase : PolicyPhase)
    (fields : List (String × String)) : PolicyEffect :=
  let candidates := policy.document.rules.filter fun rule =>
    rule.phase = phase ∧ rule.Matches fields
  match PolicyRule.first candidates with
  | some rule => rule.effect
  | none => policy.document.default

def checkFields (phase : PolicyPhase) : List Condition → Except PolicyCompileError Unit
  | [] => .ok ()
  | condition :: rest =>
    match lookup condition.field fieldAvailability with
    | none => .error (.unknownField condition.field)
    | some available =>
      if phase.rank < available.rank then .error (.fieldUnavailable condition.field phase)
      else checkFields phase rest

/-- The values the conditions so far ask of their fields, the newest first. -/
def checkEqualities (id : String) (equalities : List (String × String)) :
    List Condition → Except PolicyCompileError Unit
  | [] => .ok ()
  | condition :: rest =>
    if (lookup condition.field equalities).any (· ≠ condition.equals) then
      .error (.contradictoryRule id)
    else checkEqualities id ((condition.field,condition.equals) :: equalities) rest

def checkRules (ids : List String) (priorities : List (PolicyPhase × UInt32)) :
    List PolicyRule → Except PolicyCompileError Unit
  | [] => .ok ()
  | rule :: rest => do
    if rule.id ∈ ids then throw (.duplicateRule rule.id)
    if (rule.phase,rule.priority) ∈ priorities then throw (.ambiguousPriority rule.priority)
    checkFields rule.phase rule.all
    checkEqualities rule.id [] rule.all
    checkRules (rule.id :: ids) ((rule.phase,rule.priority) :: priorities) rest

/-- The order of `(phase, priority, id)`. -/
def PolicyRule.noLater (left right : PolicyRule) : Bool :=
  if left.phase ≠ right.phase then left.phase.rank < right.phase.rank
  else if left.priority ≠ right.priority then left.priority < right.priority
  else left.id ≤ right.id

/-- No rule of a phase follows one without conditions. -/
def checkReachable (terminalPhases : List PolicyPhase) :
    List PolicyRule → Except PolicyCompileError Unit
  | [] => .ok ()
  | rule :: rest =>
    if rule.phase ∈ terminalPhases then .error (.unreachableRule rule.id)
    else checkReachable (if rule.all = [] then rule.phase :: terminalPhases else terminalPhases) rest

def compile (document : PolicyDocument) : Except PolicyCompileError CompiledPolicy := do
  checkRules [] [] document.rules
  let rules := document.rules.mergeSort PolicyRule.noLater
  checkReachable [] rules
  return ⟨{ document with rules := rules }⟩

def Admitted (field : String) (phase : PolicyPhase) : Prop :=
  ∃ available, lookup field fieldAvailability = some available ∧ available.rank ≤ phase.rank

theorem lookup_mem {entries : List (String × α)} {key : String} {value : α}
    (found : lookup key entries = some value) : (key,value) ∈ entries := by
  induction entries with
  | nil => cases found
  | cons entry rest ih =>
    obtain ⟨k,a⟩ := entry
    rw [lookup] at found
    split at found
    · next same =>
      cases found
      simp [same]
    · exact List.mem_cons_of_mem _ (ih found)

theorem checkFields_admitted {phase : PolicyPhase} {conditions : List Condition}
    (checked : checkFields phase conditions = .ok ()) :
    ∀ condition ∈ conditions, Admitted condition.field phase := by
  induction conditions with
  | nil => simp
  | cons condition rest ih =>
    rw [checkFields] at checked
    split at checked
    · cases checked
    · next available found =>
      split at checked
      · cases checked
      · next order =>
        rw [List.forall_mem_cons]
        exact ⟨⟨available,found,by omega⟩,ih checked⟩

/-- A condition agrees with the newest entry of its field. -/
theorem checkEqualities_agree {id : String} {equalities : List (String × String)}
    {conditions : List Condition} (checked : checkEqualities id equalities conditions = .ok ()) :
    (∀ condition ∈ conditions, ∀ value, lookup condition.field equalities = some value →
      value = condition.equals) ∧
    ∀ a ∈ conditions, ∀ b ∈ conditions, a.field = b.field → a.equals = b.equals := by
  induction conditions generalizing equalities with
  | nil => simp
  | cons condition rest ih =>
    rw [checkEqualities] at checked
    split at checked
    · cases checked
    · next agrees =>
      obtain ⟨before,among⟩ := ih checked
      have head : ∀ value, lookup condition.field equalities = some value →
          value = condition.equals := by
        intro value found
        simpa [found] using agrees
      have later : ∀ other ∈ rest, condition.field = other.field →
          condition.equals = other.equals := by
        intro other member same
        exact before other member condition.equals (by rw [lookup,if_pos same])
      refine ⟨List.forall_mem_cons.mpr ⟨head,fun other member value found => ?_⟩,?_⟩
      · by_cases same : condition.field = other.field
        · rw [← same] at found
          exact (head value found).trans (later other member same)
        · exact before other member value (by rw [lookup,if_neg same]; exact found)
      · intro a first b second same
        rcases List.mem_cons.mp first with left | left <;>
          rcases List.mem_cons.mp second with right | right
        · rw [left,right]
        · exact left ▸ later b right (left ▸ same)
        · exact right ▸ (later a left (right ▸ same.symm)).symm
        · exact among a left b right same

/-- What is known of each rule of a compiled policy. -/
structure Checked (rule : PolicyRule) : Prop where
  admitted : ∀ condition ∈ rule.all, Admitted condition.field rule.phase
  consistent : ∀ a ∈ rule.all, ∀ b ∈ rule.all, a.field = b.field → a.equals = b.equals

theorem checkRules_checked {ids : List String} {priorities : List (PolicyPhase × UInt32)}
    {rules : List PolicyRule} (accepted : checkRules ids priorities rules = .ok ()) :
    ∀ rule ∈ rules, Checked rule := by
  induction rules generalizing ids priorities with
  | nil => simp
  | cons rule rest ih =>
    rw [checkRules] at accepted
    split at accepted
    · cases accepted
    split at accepted
    · cases accepted
    cases fields : checkFields rule.phase rule.all with
    | error error => simp [fields,bind,Except.bind] at accepted
    | ok _ =>
      cases equalities : checkEqualities rule.id [] rule.all with
      | error error => simp [fields,equalities,bind,Except.bind] at accepted
      | ok _ =>
        simp only [fields,equalities,bind,Except.bind] at accepted
        rw [List.forall_mem_cons]
        exact ⟨⟨checkFields_admitted fields,(checkEqualities_agree equalities).2⟩,ih accepted⟩

theorem lookup_condition {conditions : List Condition}
    (consistent : ∀ a ∈ conditions, ∀ b ∈ conditions, a.field = b.field → a.equals = b.equals)
    {condition : Condition} (member : condition ∈ conditions) :
    lookup condition.field (conditions.map fun condition => (condition.field,condition.equals)) =
      some condition.equals := by
  induction conditions with
  | nil => cases member
  | cons head rest ih =>
    rw [List.map_cons,lookup]
    split
    · next same => rw [consistent head (by simp) condition member same]
    · next other =>
      rcases List.mem_cons.mp member with rfl | later
      · exact absurd rfl other
      · exact ih (fun a first b second => consistent a (List.mem_cons_of_mem _ first) b
          (List.mem_cons_of_mem _ second)) later

theorem compile_rules {document : PolicyDocument} {policy : CompiledPolicy}
    (accepted : compile document = .ok policy) :
    policy.document.default = document.default ∧
      policy.document.rules.Perm document.rules ∧ ∀ rule ∈ document.rules, Checked rule := by
  rw [compile] at accepted
  cases checked : checkRules [] [] document.rules with
  | error error => simp [checked,bind,Except.bind] at accepted
  | ok _ =>
    cases reachable : checkReachable [] (document.rules.mergeSort PolicyRule.noLater) with
    | error error => simp [checked,reachable,bind,Except.bind] at accepted
    | ok _ =>
      simp only [checked,reachable,bind,Except.bind,pure,Except.pure,Except.ok.injEq] at accepted
      subst accepted
      exact ⟨rfl,List.mergeSort_perm _ _,checkRules_checked checked⟩

theorem compile_checked {document : PolicyDocument} {policy : CompiledPolicy}
    (accepted : compile document = .ok policy) : ∀ rule ∈ policy.document.rules, Checked rule := by
  obtain ⟨_,perm,checked⟩ := compile_rules accepted
  exact fun rule member => checked rule (perm.mem_iff.mp member)

end GaugeMesh.Policy
