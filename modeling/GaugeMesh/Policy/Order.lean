import GaugeMesh.Policy.Policy
import Mathlib.Data.List.Nodup

/-! What a policy means and what compilation refuses: neither depends on the order of the
rules, and a rule may be accepted though an earlier one always decides before it. -/
namespace GaugeMesh.Policy

theorem first_none {rules : List PolicyRule} (none : PolicyRule.first rules = none) :
    rules = [] := by
  cases rules with
  | nil => rfl
  | cons rule rest =>
    rw [PolicyRule.first] at none
    split at none
    · cases none
    · split at none <;> cases none

/-- What `min_by_key` takes is there and has the smallest key. -/
theorem first_some {rules : List PolicyRule} {least : PolicyRule}
    (found : PolicyRule.first rules = some least) :
    least ∈ rules ∧ ∀ rule ∈ rules, least.priority ≤ rule.priority := by
  induction rules generalizing least with
  | nil => cases found
  | cons rule rest ih =>
    rw [PolicyRule.first] at found
    split at found
    · next none =>
      cases found
      simp [first_none none]
    · next other some =>
      obtain ⟨member,smallest⟩ := ih some
      split at found
      · next less =>
        cases found
        refine ⟨List.mem_cons_of_mem _ member,List.forall_mem_cons.mpr ⟨?_,smallest⟩⟩
        exact UInt32.le_of_lt less
      · next more =>
        cases found
        refine ⟨List.mem_cons_self,List.forall_mem_cons.mpr ⟨UInt32.le_refl _,?_⟩⟩
        intro later inside
        exact UInt32.le_trans (UInt32.not_lt.mp more) (smallest later inside)

/-- The rule that decides. -/
def CompiledPolicy.decider (policy : CompiledPolicy) (phase : PolicyPhase)
    (fields : List (String × String)) : Option PolicyRule :=
  PolicyRule.first (policy.document.rules.filter fun rule =>
    rule.phase = phase ∧ rule.Matches fields)

theorem evaluate_decider (policy : CompiledPolicy) (phase : PolicyPhase)
    (fields : List (String × String)) :
    policy.evaluate phase fields =
      ((policy.decider phase fields).map PolicyRule.effect).getD policy.document.default := by
  rw [CompiledPolicy.evaluate,CompiledPolicy.decider]
  split
  · next found => rw [found]; rfl
  · next none => rw [none]; rfl

/-- A matching rule of the phase that no matching rule of the phase comes before. -/
structure Decides (rules : List PolicyRule) (phase : PolicyPhase) (fields : List (String × String))
    (rule : PolicyRule) : Prop where
  member : rule ∈ rules
  inPhase : rule.phase = phase
  holds : rule.Matches fields
  least : ∀ other ∈ rules, other.phase = phase → other.Matches fields →
    rule.priority ≤ other.priority

theorem decider_decides {policy : CompiledPolicy} {phase : PolicyPhase}
    {fields : List (String × String)} {rule : PolicyRule}
    (decided : policy.decider phase fields = some rule) :
    Decides policy.document.rules phase fields rule := by
  obtain ⟨member,least⟩ := first_some decided
  obtain ⟨inside,here⟩ := List.mem_filter.mp member
  simp only [decide_eq_true_eq] at here
  refine ⟨inside,here.1,here.2,fun other among same matched => ?_⟩
  exact least other (List.mem_filter.mpr ⟨among,by simpa using ⟨same,matched⟩⟩)

theorem decider_none {policy : CompiledPolicy} {phase : PolicyPhase}
    {fields : List (String × String)} (decided : policy.decider phase fields = none) :
    ∀ rule ∈ policy.document.rules, rule.phase = phase → ¬rule.Matches fields := by
  intro rule member same matched
  have empty := first_none decided
  have inside := List.mem_filter (p := fun rule : PolicyRule =>
    decide (rule.phase = phase ∧ rule.Matches fields)) |>.mpr ⟨member,by simpa using ⟨same,matched⟩⟩
  rw [empty] at inside
  cases inside

/-- The checks made of a rule alone. -/
def checkRule (rule : PolicyRule) : Except PolicyCompileError Unit := do
  checkFields rule.phase rule.all
  checkEqualities rule.id [] rule.all

/-- Distinct ids, distinct priorities in a phase, and every rule passes its own checks. -/
structure Distinct (rules : List PolicyRule) : Prop where
  ids : (rules.map PolicyRule.id).Nodup
  priorities : (rules.map fun rule => (rule.phase,rule.priority)).Nodup
  checked : ∀ rule ∈ rules, checkRule rule = .ok ()

theorem checkRules_cons (ids : List String) (priorities : List (PolicyPhase × UInt32))
    (rule : PolicyRule) (rest : List PolicyRule) :
    checkRules ids priorities (rule :: rest) = .ok () ↔
      rule.id ∉ ids ∧ (rule.phase,rule.priority) ∉ priorities ∧ checkRule rule = .ok () ∧
        checkRules (rule.id :: ids) ((rule.phase,rule.priority) :: priorities) rest = .ok () := by
  rw [checkRules,checkRule]
  by_cases known : rule.id ∈ ids
  · simp [known,bind,Except.bind,throw,throwThe,MonadExceptOf.throw]
  by_cases taken : (rule.phase,rule.priority) ∈ priorities
  · simp [known,taken,bind,Except.bind,throw,throwThe,MonadExceptOf.throw]
  cases fields : checkFields rule.phase rule.all with
  | error error => simp [known,taken,bind,Except.bind]
  | ok _ =>
    cases equalities : checkEqualities rule.id [] rule.all with
    | error error => simp [known,taken,bind,Except.bind]
    | ok _ => simp [known,taken,bind,Except.bind]

theorem checkRules_iff (ids : List String) (priorities : List (PolicyPhase × UInt32))
    (rules : List PolicyRule) :
    checkRules ids priorities rules = .ok () ↔ Distinct rules ∧
      ∀ rule ∈ rules, rule.id ∉ ids ∧ (rule.phase,rule.priority) ∉ priorities := by
  induction rules generalizing ids priorities with
  | nil => simpa [checkRules] using (⟨by simp,by simp,by simp⟩ : Distinct [])
  | cons rule rest ih =>
    rw [checkRules_cons,ih]
    constructor
    · rintro ⟨id,priority,checked,⟨distinct,apart⟩⟩
      refine ⟨⟨?_,?_,List.forall_mem_cons.mpr ⟨checked,distinct.checked⟩⟩,
        List.forall_mem_cons.mpr ⟨⟨id,priority⟩,?_⟩⟩
      · refine List.nodup_cons.mpr ⟨fun member => ?_,distinct.ids⟩
        obtain ⟨other,inside,same⟩ := List.mem_map.mp member
        exact (apart other inside).1 (same ▸ List.mem_cons_self)
      · refine List.nodup_cons.mpr ⟨fun member => ?_,distinct.priorities⟩
        obtain ⟨other,inside,same⟩ := List.mem_map.mp member
        exact (apart other inside).2 (same ▸ List.mem_cons_self)
      · intro other inside
        obtain ⟨left,right⟩ := apart other inside
        exact ⟨fun member => left (List.mem_cons_of_mem _ member),
          fun member => right (List.mem_cons_of_mem _ member)⟩
    · rintro ⟨distinct,apart⟩
      obtain ⟨ids,idsRest⟩ := List.nodup_cons.mp distinct.ids
      obtain ⟨priorities,prioritiesRest⟩ := List.nodup_cons.mp distinct.priorities
      obtain ⟨head,tail⟩ := List.forall_mem_cons.mp apart
      obtain ⟨checked,checkedRest⟩ := List.forall_mem_cons.mp distinct.checked
      refine ⟨head.1,head.2,checked,⟨idsRest,prioritiesRest,checkedRest⟩,fun other inside => ?_⟩
      obtain ⟨left,right⟩ := tail other inside
      refine ⟨fun member => ?_,fun member => ?_⟩
      · rcases List.mem_cons.mp member with same | member
        · exact ids (List.mem_map.mpr ⟨other,inside,same⟩)
        · exact left member
      · rcases List.mem_cons.mp member with same | member
        · exact priorities (List.mem_map.mpr ⟨other,inside,same⟩)
        · exact right member

theorem Distinct.perm {rules other : List PolicyRule} (distinct : Distinct rules)
    (perm : rules.Perm other) : Distinct other where
  ids := ((perm.map _).nodup_iff).mp distinct.ids
  priorities := ((perm.map _).nodup_iff).mp distinct.priorities
  checked rule member := distinct.checked rule (perm.mem_iff.mpr member)

theorem noLater_iff (a b : PolicyRule) : a.noLater b = true ↔ a.phase.rank < b.phase.rank ∨
    a.phase.rank = b.phase.rank ∧ (a.priority.toNat < b.priority.toNat ∨
      a.priority.toNat = b.priority.toNat ∧ a.id ≤ b.id) := by
  rw [PolicyRule.noLater]
  by_cases phase : a.phase = b.phase
  · by_cases priority : a.priority = b.priority
    · simp [phase,priority]
    · have different : a.priority.toNat ≠ b.priority.toNat :=
        fun same => priority (UInt32.toNat_inj.mp same)
      simp [phase,priority,different,UInt32.lt_iff_toNat_lt]
  · have rank : a.phase.rank ≠ b.phase.rank :=
      fun same => phase (PolicyPhase.rank_injective _ _ same)
    simp [phase,rank]

theorem noLater_trans (a b c : PolicyRule) (first : a.noLater b = true)
    (second : b.noLater c = true) : a.noLater c = true := by
  rw [noLater_iff] at first second ⊢
  rcases first with earlier | ⟨phase,first⟩
  · rcases second with later | ⟨phase,-⟩ <;> exact .inl (by omega)
  rcases second with later | ⟨phase',second⟩
  · exact .inl (by omega)
  refine .inr ⟨phase.trans phase',?_⟩
  rcases first with less | ⟨same,first⟩
  · rcases second with less' | ⟨same,-⟩
    · exact .inl (Nat.lt_trans less less')
    · exact .inl (by omega)
  · rcases second with less | ⟨same',second⟩
    · exact .inl (by omega)
    · exact .inr ⟨same.trans same',le_trans first second⟩

theorem noLater_total (a b : PolicyRule) : (a.noLater b || b.noLater a) = true := by
  rw [Bool.or_eq_true,noLater_iff,noLater_iff]
  rcases Nat.lt_trichotomy a.phase.rank b.phase.rank with before | phase | after
  · exact .inl (.inl before)
  · rcases Nat.lt_trichotomy a.priority.toNat b.priority.toNat with less | same | more
    · exact .inl (.inr ⟨phase,.inl less⟩)
    · rcases le_total a.id b.id with below | above
      · exact .inl (.inr ⟨phase,.inr ⟨same,below⟩⟩)
      · exact .inr (.inr ⟨phase.symm,.inr ⟨same.symm,above⟩⟩)
    · exact .inr (.inr ⟨phase.symm,.inl more⟩)
  · exact .inr (.inl after)

theorem noLater_antisymm {a b : PolicyRule} (first : a.noLater b = true)
    (second : b.noLater a = true) : a.id = b.id := by
  rw [noLater_iff] at first second
  rcases first with earlier | ⟨phase,less | ⟨same,below⟩⟩
  · rcases second with later | ⟨phase,-⟩ <;> omega
  · rcases second with later | ⟨phase,more | ⟨same,-⟩⟩
    all_goals omega
  · rcases second with later | ⟨phase,more | ⟨-,above⟩⟩
    · omega
    · omega
    · exact le_antisymm below above

/-- Rules with distinct ids are sorted into one list, whatever order they come in. -/
theorem sorted_unique {rules other : List PolicyRule} (perm : rules.Perm other)
    (distinct : Distinct rules) :
    rules.mergeSort PolicyRule.noLater = other.mergeSort PolicyRule.noLater := by
  have sorted := (List.mergeSort_perm rules PolicyRule.noLater).trans
    (perm.trans (List.mergeSort_perm other PolicyRule.noLater).symm)
  refine sorted.eq_of_pairwise (fun a b first second below above => ?_)
    (List.pairwise_mergeSort noLater_trans noLater_total rules)
    (List.pairwise_mergeSort noLater_trans noLater_total other)
  exact List.inj_on_of_nodup_map distinct.ids (List.mem_mergeSort.mp first)
    (perm.mem_iff.mpr (List.mem_mergeSort.mp second)) (noLater_antisymm below above)

theorem compile_iff (document : PolicyDocument) (policy : CompiledPolicy) :
    compile document = .ok policy ↔ Distinct document.rules ∧
      checkReachable [] (document.rules.mergeSort PolicyRule.noLater) = .ok () ∧
      policy = ⟨{ document with rules := document.rules.mergeSort PolicyRule.noLater }⟩ := by
  rw [compile]
  cases checked : checkRules [] [] document.rules with
  | error error =>
    have none : ¬Distinct document.rules := by
      intro distinct
      have := (checkRules_iff [] [] document.rules).mpr ⟨distinct,by simp⟩
      simp [checked] at this
    simp [none,bind,Except.bind]
  | ok _ =>
    have distinct := ((checkRules_iff [] [] document.rules).mp checked).1
    cases reachable : checkReachable [] (document.rules.mergeSort PolicyRule.noLater) with
    | error error => simp [reachable,bind,Except.bind]
    | ok _ => simp [reachable,distinct,bind,Except.bind,pure,Except.pure,eq_comm]

/-- Compilation gives the same for the rules in every order. -/
theorem compile_perm {default : PolicyEffect} {rules other : List PolicyRule}
    (perm : rules.Perm other) (policy : CompiledPolicy) :
    compile ⟨default,rules⟩ = .ok policy ↔ compile ⟨default,other⟩ = .ok policy := by
  rw [compile_iff,compile_iff]
  constructor
  · rintro ⟨distinct,reachable,same⟩
    have sorted := sorted_unique perm distinct
    exact ⟨distinct.perm perm,sorted ▸ reachable,by rw [same,sorted]⟩
  · rintro ⟨distinct,reachable,same⟩
    have sorted := sorted_unique perm.symm distinct
    exact ⟨distinct.perm perm.symm,sorted ▸ reachable,by rw [same,sorted]⟩

/-- Two deciding rules have one priority in one phase, so they are one. -/
theorem Decides.unique {rules : List PolicyRule} {phase : PolicyPhase}
    {fields : List (String × String)} {rule other : PolicyRule} (distinct : Distinct rules)
    (first : Decides rules phase fields rule) (second : Decides rules phase fields other) :
    other = rule := by
  refine List.inj_on_of_nodup_map distinct.priorities second.member first.member ?_
  have below := first.least other second.member second.inPhase second.holds
  have above := second.least rule first.member first.inPhase first.holds
  rw [second.inPhase,first.inPhase,UInt32.le_antisymm above below]

theorem Decides.perm {rules other : List PolicyRule} {phase : PolicyPhase}
    {fields : List (String × String)} {rule : PolicyRule}
    (decides : Decides rules phase fields rule) (perm : rules.Perm other) :
    Decides other phase fields rule :=
  ⟨perm.mem_iff.mp decides.member,decides.inPhase,decides.holds,
    fun later among => decides.least later (perm.mem_iff.mpr among)⟩

/-- The effect is that of the one deciding rule, or the default when no rule matches. -/
def Meaning (document : PolicyDocument) (phase : PolicyPhase) (fields : List (String × String))
    (effect : PolicyEffect) : Prop :=
  (∃ rule, Decides document.rules phase fields rule ∧
    (∀ other, Decides document.rules phase fields other → other = rule) ∧ effect = rule.effect) ∨
  (∀ rule ∈ document.rules, rule.phase = phase → ¬rule.Matches fields) ∧ effect = document.default

theorem evaluate_meaning {document : PolicyDocument} {policy : CompiledPolicy}
    (accepted : compile document = .ok policy) (phase : PolicyPhase)
    (fields : List (String × String)) :
    Meaning document phase fields (policy.evaluate phase fields) := by
  obtain ⟨distinct,-,rfl⟩ := (compile_iff document policy).mp accepted
  have perm := List.mergeSort_perm document.rules PolicyRule.noLater
  rw [evaluate_decider]
  cases decided : CompiledPolicy.decider _ phase fields with
  | some rule =>
    have decides := (decider_decides decided).perm perm
    exact .inl ⟨rule,decides,fun other second => decides.unique distinct second,rfl⟩
  | none =>
    exact .inr ⟨fun rule member => decider_none decided rule (perm.mem_iff.mpr member),rfl⟩

/-- Whether a policy compiles and what it then means does not depend on the order of its rules. -/
theorem policy_order {default : PolicyEffect} {rules other : List PolicyRule}
    (perm : rules.Perm other) :
    ((∃ policy, compile ⟨default,rules⟩ = .ok policy) ↔
      ∃ policy, compile ⟨default,other⟩ = .ok policy) ∧
    ∀ policy policy', compile ⟨default,rules⟩ = .ok policy →
      compile ⟨default,other⟩ = .ok policy' → ∀ phase fields,
        policy.evaluate phase fields = policy'.evaluate phase fields ∧
        Meaning ⟨default,rules⟩ phase fields (policy.evaluate phase fields) := by
  refine ⟨exists_congr fun policy => compile_perm perm policy,?_⟩
  intro policy policy' accepted accepted' phase fields
  have same := (compile_perm perm policy).mp accepted
  rw [accepted'] at same
  cases same
  exact ⟨rfl,evaluate_meaning accepted phase fields⟩

def allowTenant : PolicyRule := ⟨"tenant",.discovery,1,.allow,[⟨"tenant.id","a"⟩]⟩

/-- It asks for more than the rule before it. -/
def denyGroup : PolicyRule :=
  ⟨"group",.discovery,2,.deny,[⟨"tenant.id","a"⟩,⟨"principal.group","g"⟩]⟩

theorem policy_order_example :
    (∃ policy, compile ⟨.deny,[denyGroup,allowTenant]⟩ = .ok policy) ↔
      ∃ policy, compile ⟨.deny,[allowTenant,denyGroup]⟩ = .ok policy :=
  (policy_order (List.Perm.swap allowTenant denyGroup [])).1

/-- The conditions of a checked rule as a field map. -/
def asFields (rule : PolicyRule) : List (String × String) :=
  rule.all.map fun condition => (condition.field,condition.equals)

theorem asFields_mem {rule : PolicyRule} {condition : Condition}
    (found : lookup condition.field (asFields rule) = some condition.equals) :
    condition ∈ rule.all := by
  obtain ⟨other,member,same⟩ := List.mem_map.mp (lookup_mem found)
  obtain ⟨field,equals⟩ := condition
  obtain ⟨rfl,rfl⟩ := Prod.mk.inj same
  exact member

/-- A rule of an accepted policy decides for some field map exactly when every rule of its phase
that comes before it asks for something it does not ask for. -/
theorem rule_reachable {document : PolicyDocument} {policy : CompiledPolicy}
    (accepted : compile document = .ok policy) {rule : PolicyRule}
    (member : rule ∈ document.rules) :
    (∃ fields, policy.decider rule.phase fields = some rule) ↔
      ∀ other ∈ document.rules, other.phase = rule.phase → other.priority < rule.priority →
        ∃ condition ∈ other.all, condition ∉ rule.all := by
  have checked := (compile_rules accepted).2.2 rule member
  obtain ⟨distinct,-,rfl⟩ := (compile_iff document policy).mp accepted
  have perm := List.mergeSort_perm document.rules PolicyRule.noLater
  constructor
  · rintro ⟨fields,decided⟩ other inside phase before
    by_contra covered
    push Not at covered
    have decides := (decider_decides decided).perm perm
    have holds : other.Matches fields :=
      fun condition asked => decides.holds condition (covered condition asked)
    have least := decides.least other inside phase holds
    exact absurd before (UInt32.not_lt.mpr least)
  · intro uncovered
    refine ⟨asFields rule,?_⟩
    have holds : rule.Matches (asFields rule) :=
      fun condition asked => lookup_condition checked.consistent asked
    cases decided : CompiledPolicy.decider _ rule.phase (asFields rule) with
    | none => exact absurd holds (decider_none decided rule (perm.mem_iff.mpr member) rfl)
    | some first =>
      have decides := (decider_decides decided).perm perm
      have least := decides.least rule member rfl holds
      by_cases before : first.priority < rule.priority
      · obtain ⟨condition,asked,absent⟩ :=
          uncovered first decides.member decides.inPhase before
        exact absurd (asFields_mem (decides.holds condition asked)) absent
      · have same : rule.priority = first.priority :=
          UInt32.le_antisymm (UInt32.not_lt.mp before) least
        refine congrArg some (List.inj_on_of_nodup_map distinct.priorities decides.member member ?_)
        rw [decides.inPhase,same]

theorem rules_compile :
    compile ⟨.deny,[allowTenant,denyGroup]⟩ = .ok ⟨⟨.deny,[allowTenant,denyGroup]⟩⟩ := by
  have sorted : [allowTenant,denyGroup].mergeSort PolicyRule.noLater = [allowTenant,denyGroup] := by
    refine List.mergeSort_of_pairwise ?_
    simp [PolicyRule.noLater,allowTenant,denyGroup]
  rw [compile_iff]
  refine ⟨?_,?_,by rw [sorted]⟩
  · exact ((checkRules_iff [] [] _).mp (by decide)).1
  · rw [sorted]
    decide

theorem rule_reachable_example :
    (∃ fields, CompiledPolicy.decider ⟨⟨.deny,[allowTenant,denyGroup]⟩⟩ .discovery fields =
      some allowTenant) ↔
      ∀ other ∈ [allowTenant,denyGroup], other.phase = .discovery → other.priority < 1 →
        ∃ condition ∈ other.all, condition ∉ allowTenant.all :=
  rule_reachable rules_compile (List.mem_cons_self (a := allowTenant))

/-- Whatever the second rule matches, the first one matches too. -/
theorem rule_unreachable :
    compile ⟨.deny,[allowTenant,denyGroup]⟩ = .ok ⟨⟨.deny,[allowTenant,denyGroup]⟩⟩ ∧
      ∀ fields, CompiledPolicy.decider ⟨⟨.deny,[allowTenant,denyGroup]⟩⟩ .discovery fields ≠
        some denyGroup := by
  refine ⟨rules_compile,fun fields decided => ?_⟩
  have decides := decider_decides decided
  have holds : allowTenant.Matches fields := by
    intro condition asked
    exact decides.holds condition (by simp [allowTenant,denyGroup] at asked ⊢; exact .inl asked)
  have least := decides.least allowTenant (by simp) rfl holds
  exact absurd least (by decide)

end GaugeMesh.Policy
