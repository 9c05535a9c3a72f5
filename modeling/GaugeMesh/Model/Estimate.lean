import GaugeMesh.Model.Budget
import Mathlib.Algebra.Order.Floor.Semiring
import Mathlib.Data.Rat.Floor
import Mathlib.Tactic.NormNum

/-! The estimate of a model request against its exact cost. The sum is capped at the largest
64-bit integer before it is divided, so the estimate is never above 18446744073709. -/
namespace GaugeMesh

/-- The cost of the tokens in millionths of a micro. -/
def tokenCost (input output : Nat) (table : CostTable) : Nat :=
  input * table.inputMicrosPerMillionTokens + output * table.outputMicrosPerMillionTokens

/-- The exact cost, rounded up. -/
def exactCostMicros (input output : Nat) (table : CostTable) : Nat :=
  ⌈(tokenCost input output table : ℚ) / 1000000⌉₊

/-- The most an estimate can be. -/
def estimateCap : Nat := maxU64 / 1000000

variable {identity : ModelIdentity} {table : CostTable} {budget : ModelBudget}
  {input output cost : Nat} {toolMode : ToolMode}

theorem exactCostMicros_eq (input output : Nat) (table : CostTable) :
    exactCostMicros input output table = (tokenCost input output table + 999999) / 1000000 := by
  generalize total : tokenCost input output table = n
  have positive : (0 : ℚ) < 1000000 := by norm_num
  rw [exactCostMicros,total]
  apply le_antisymm
  · rw [Nat.ceil_le,div_le_iff₀ positive]
    have covered : n ≤ (n + 999999) / 1000000 * 1000000 := by omega
    exact_mod_cast covered
  · have above := Nat.le_ceil ((n : ℚ) / 1000000)
    rw [div_le_iff₀ positive] at above
    have whole : n ≤ ⌈(n : ℚ) / 1000000⌉₊ * 1000000 := by exact_mod_cast above
    omega

theorem estimateCostMicros_eq (input output : Nat) (table : CostTable) :
    estimateCostMicros input output table =
      min ((tokenCost input output table + 999999) / 1000000) estimateCap := by
  simp only [estimateCostMicros,saturatingAdd,saturatingMul,tokenCost,estimateCap,maxU64]
  omega

/-- The estimate is the exact cost as long as that is under the cap. -/
theorem estimateCostMicros_exact : estimateCostMicros input output table =
    exactCostMicros input output table ↔ tokenCost input output table ≤ estimateCap * 1000000 := by
  rw [estimateCostMicros_eq,exactCostMicros_eq]
  simp only [estimateCap,maxU64]
  omega

/-- What is checked before the money. -/
structure Permitted (identity : ModelIdentity) (budget : ModelBudget) (input output : Nat)
    (toolMode : ToolMode) : Prop where
  provider : budget.providerAllowlist = [] ∨ identity.provider ∈ budget.providerAllowlist
  model : budget.modelAllowlist = [] ∨ identity.providerModelId ∈ budget.modelAllowlist
  input : input ≤ budget.maxInputTokens ∧ input ≤ identity.contextLimit
  output : output ≤ budget.maxOutputTokens
  deadline : budget.deadlineRemainingMs ≠ 0
  tools : toolMode = .off ∨ budget.toolLoopLimit ≠ 0

theorem enforceBudget_ok : enforceBudget identity table budget input output toolMode = .ok cost ↔
    Permitted identity budget input output toolMode ∧
      estimateCostMicros input output table ≤ budget.moneyMicros ∧
      cost = estimateCostMicros input output table := by
  simp only [enforceBudget,Except.then_ok,reject_ok,Except.pure_ok,Except.ok.injEq]
  constructor
  · rintro ⟨provider,model,tokens,produced,deadline,tools,money,rfl⟩
    exact ⟨⟨by tauto,by tauto,by omega,by omega,deadline,by tauto⟩,by omega,rfl⟩
  · rintro ⟨permitted,money,rfl⟩
    obtain ⟨provider,model,tokens,produced,deadline,tools⟩ := permitted
    exact ⟨by tauto,by tauto,by omega,by omega,deadline,by tauto,by omega,rfl⟩

/-- An accepted request costs what the estimate says, and no more than the budget, exactly if
its exact cost is under the cap, or the request is refused: for another reason, or because the
budget is under the cap as well. -/
theorem estimate_exact_iff (identity : ModelIdentity) (table : CostTable) (budget : ModelBudget)
    (input output : Nat) (toolMode : ToolMode) :
    (∀ cost, enforceBudget identity table budget input output toolMode = .ok cost →
      exactCostMicros input output table ≤ budget.moneyMicros ∧
        cost = exactCostMicros input output table) ↔
      tokenCost input output table ≤ 18446744073709 * 1000000 ∨
        budget.moneyMicros < 18446744073709 ∨ ¬Permitted identity budget input output toolMode := by
  have cap : estimateCap = 18446744073709 := by decide
  rw [← cap]
  constructor
  · intro precise
    by_contra refused
    simp only [not_or,not_le,not_lt,not_not] at refused
    obtain ⟨large,money,permitted⟩ := refused
    have capped : estimateCostMicros input output table ≤ estimateCap := by
      rw [estimateCostMicros_eq]
      omega
    obtain ⟨-,same⟩ := precise _ (enforceBudget_ok.mpr ⟨permitted,by omega,rfl⟩)
    have := estimateCostMicros_exact.mp same
    omega
  · rintro condition cost enforced
    obtain ⟨permitted,money,rfl⟩ := enforceBudget_ok.mp enforced
    have small : tokenCost input output table ≤ estimateCap * 1000000 := by
      by_contra large
      rw [estimateCostMicros_eq] at money
      simp only [permitted,not_true,or_false] at condition
      simp only [cap] at *
      omega
    have same := estimateCostMicros_exact.mpr small
    exact ⟨same ▸ money,same⟩

/-- Two tokens at the largest rate cost twice the cap; the estimate is half of it and passes. -/
theorem estimate_understates :
    enforceBudget ⟨"fixture",⟨[]⟩,"echo",[],4096,true,false,true,"v1",⟨[]⟩⟩ ⟨"v1",maxU64,0⟩
      ⟨4096,1024,18446744073709,30000,1,0,[],[]⟩ 2 16 .off = .ok 18446744073709 ∧
    exactCostMicros 2 16 ⟨"v1",maxU64,0⟩ = 36893488147420 := by
  constructor
  · exact enforceBudget_ok.mpr ⟨⟨.inl rfl,.inl rfl,by decide,by decide,by decide,.inl rfl⟩,
      by decide,by decide⟩
  · rw [exactCostMicros_eq]
    decide

end GaugeMesh
