import GaugeMesh.Canonical
import GaugeMesh.Conserve.Compose
import GaugeMesh.Task.Transition
import Mathlib.Algebra.BigOperators.Group.List.Basic

/-! `budget.rs`: what a call takes from the budgets of its context, and the entries that
record it. A sequence of debits is its sums: it succeeds when each of the four fits. -/
namespace GaugeMesh
open Json

structure BudgetDebit where
  moneyMicros : Nat
  tokens : Nat
  retries : Nat
  elapsedMs : Nat
  deriving DecidableEq

inductive BudgetError where
  | money
  | tokens
  | retries
  | deadline
  deriving DecidableEq

/-- `checked_sub`. -/
def checkedSub (a b : Nat) : Option Nat := if b ≤ a then some (a - b) else none

theorem checkedSub_some {a b c : Nat} : checkedSub a b = some c ↔ b ≤ a ∧ c = a - b := by
  unfold checkedSub
  split
  · next fits => simp [fits,eq_comm]
  · next fits => simp [fits]

/-- The sum of one dimension. -/
def total (dimension : BudgetDebit → Nat) (debits : List BudgetDebit) : Nat :=
  (debits.map dimension).sum

structure Fits (context : RequestContext) (debits : List BudgetDebit) : Prop where
  money : total (·.moneyMicros) debits ≤ context.monetaryBudget
  tokens : total (·.tokens) debits ≤ context.tokenBudget
  retries : total (·.retries) debits ≤ context.retryBudget
  deadline : total (·.elapsedMs) debits ≤ context.deadline

theorem total_perm {debits other : List BudgetDebit} (perm : debits.Perm other)
    (dimension : BudgetDebit → Nat) : total dimension debits = total dimension other :=
  (perm.map dimension).sum_eq

theorem Fits.perm {context : RequestContext} {debits other : List BudgetDebit}
    (fits : Fits context debits) (perm : debits.Perm other) : Fits context other where
  money := total_perm perm _ ▸ fits.money
  tokens := total_perm perm _ ▸ fits.tokens
  retries := total_perm perm _ ▸ fits.retries
  deadline := total_perm perm _ ▸ fits.deadline

section

variable [FloatText] [Sha256]

namespace BudgetDebit

/-- The entry of a debit; the ordinal is the number of entries before it. -/
def digest (d : BudgetDebit) (ordinal : Nat) : Sha256Digest := .ofJson (.object [
  ("moneyMicros",toValue d.moneyMicros),
  ("tokens",toValue d.tokens),
  ("retries",toValue d.retries),
  ("elapsedMs",toValue d.elapsedMs),
  ("ordinal",toValue ordinal)])

end BudgetDebit

def retryDigest (debit : Sha256Digest) (retry : Nat) : Sha256Digest := .ofJson (.object [
  ("debit",toValue debit),
  ("retry",toValue retry)])

def debit (context : RequestContext) (d : BudgetDebit) : Except BudgetError RequestContext := do
  let monetaryBudget ← okOr (checkedSub context.monetaryBudget d.moneyMicros) .money
  let tokenBudget ← okOr (checkedSub context.tokenBudget d.tokens) .tokens
  let retryBudget ← okOr (checkedSub context.retryBudget d.retries) .retries
  let deadline ← okOr (checkedSub context.deadline d.elapsedMs) .deadline
  let entry := d.digest context.budgetDebits.length
  return { context with
    monetaryBudget, tokenBudget, retryBudget, deadline
    budgetDebits := context.budgetDebits ++ [entry]
    retryAttempts := context.retryAttempts ++ (List.range d.retries).map (retryDigest entry) }

/-- Debits one after the other; the first that does not fit ends the sequence. -/
def debitAll (context : RequestContext) (debits : List BudgetDebit) :
    Except BudgetError RequestContext := debits.foldlM debit context

/-- The entries of debits that follow `ordinal` others. -/
def entries (ordinal : Nat) : List BudgetDebit → List Sha256Digest
  | [] => []
  | d :: rest => d.digest ordinal :: entries (ordinal + 1) rest

def attempts (ordinal : Nat) : List BudgetDebit → List Sha256Digest
  | [] => []
  | d :: rest =>
    (List.range d.retries).map (retryDigest (d.digest ordinal)) ++ attempts (ordinal + 1) rest

/-- The context with the sums taken and the entries added. -/
def RequestContext.debited (context : RequestContext) (debits : List BudgetDebit) :
    RequestContext :=
  { context with
    monetaryBudget := context.monetaryBudget - total (·.moneyMicros) debits
    tokenBudget := context.tokenBudget - total (·.tokens) debits
    retryBudget := context.retryBudget - total (·.retries) debits
    deadline := context.deadline - total (·.elapsedMs) debits
    budgetDebits := context.budgetDebits ++ entries context.budgetDebits.length debits
    retryAttempts := context.retryAttempts ++ attempts context.budgetDebits.length debits }

theorem debit_ok {context next : RequestContext} {d : BudgetDebit} :
    debit context d = .ok next ↔ Fits context [d] ∧ next = context.debited [d] := by
  simp only [debit,okOr_bind_ok,checkedSub_some,Except.pure_ok,Except.ok.injEq]
  constructor
  · rintro ⟨_,⟨money,rfl⟩,_,⟨tokens,rfl⟩,_,⟨retries,rfl⟩,_,⟨deadline,rfl⟩,rfl⟩
    refine ⟨⟨?_,?_,?_,?_⟩,?_⟩
    all_goals simp_all [total,RequestContext.debited,entries,attempts]
  · rintro ⟨⟨money,tokens,retries,deadline⟩,rfl⟩
    simp only [total,List.map_cons,List.map_nil,List.sum_cons,List.sum_nil,Nat.add_zero] at *
    refine ⟨_,⟨money,rfl⟩,_,⟨tokens,rfl⟩,_,⟨retries,rfl⟩,_,⟨deadline,rfl⟩,?_⟩
    simp [RequestContext.debited,total,entries,attempts]

theorem debited_cons (context : RequestContext) (d : BudgetDebit) (rest : List BudgetDebit) :
    (context.debited [d]).debited rest = context.debited (d :: rest) := by
  simp [RequestContext.debited,total,entries,attempts,Nat.sub_sub]

theorem fits_cons (context : RequestContext) (d : BudgetDebit) (rest : List BudgetDebit) :
    Fits context (d :: rest) ↔ Fits context [d] ∧ Fits (context.debited [d]) rest := by
  constructor
  · rintro ⟨money,tokens,retries,deadline⟩
    simp only [total,List.map_cons,List.sum_cons] at money tokens retries deadline
    constructor <;> constructor <;> simp [total,RequestContext.debited] <;> omega
  · rintro ⟨⟨money,tokens,retries,deadline⟩,⟨money',tokens',retries',deadline'⟩⟩
    simp [total,RequestContext.debited] at *
    constructor <;> simp [total] <;> omega

/-- A sequence succeeds when its sums fit, and comes to what they leave. -/
theorem debitAll_ok {context final : RequestContext} {debits : List BudgetDebit} :
    debitAll context debits = .ok final ↔ Fits context debits ∧ final = context.debited debits := by
  induction debits generalizing context with
  | nil =>
    have unchanged : context.debited [] = context := by
      simp [RequestContext.debited,total,entries,attempts]
    have fits : Fits context [] := ⟨by simp [total],by simp [total],by simp [total],by simp [total]⟩
    simp only [debitAll,List.foldlM_nil,Except.pure_ok,Except.ok.injEq,unchanged,fits,true_and]
    exact eq_comm
  | cons d rest ih =>
    rw [debitAll,List.foldlM_cons,Except.bind_ok,fits_cons,← debited_cons context d rest]
    constructor
    · rintro ⟨next,first,others⟩
      obtain ⟨fits,rfl⟩ := debit_ok.mp first
      obtain ⟨later,rfl⟩ := ih.mp others
      exact ⟨⟨fits,later⟩,rfl⟩
    · rintro ⟨⟨fits,later⟩,rfl⟩
      exact ⟨_,debit_ok.mpr ⟨fits,rfl⟩,ih.mpr ⟨later,rfl⟩⟩

theorem digest_ordinal (hash : Function.Injective Sha256.digest) {d e : BudgetDebit} {i j : Nat}
    (same : d.digest i = e.digest j) : i = j := by
  have fields := canonical_fields (Sha256Digest.ofJson_injective hash _ _ same)
    (by simp) (by simp)
  simpa [toValue] using fields "ordinal"

theorem retryDigest_injective (hash : Function.Injective Sha256.digest) {x y : Sha256Digest}
    {i j : Nat} (same : retryDigest x i = retryDigest y j) : x = y ∧ i = j := by
  have fields := canonical_fields (Sha256Digest.ofJson_injective hash _ _ same)
    (by simp) (by simp)
  have debit := fields "debit"
  have retry := fields "retry"
  simp [toValue] at debit retry
  exact ⟨Sha256Digest.toString_injective _ _ debit,retry⟩

theorem digest_ne_retryDigest (hash : Function.Injective Sha256.digest) (d : BudgetDebit)
    (x : Sha256Digest) (i j : Nat) : d.digest i ≠ retryDigest x j := by
  intro same
  have fields := canonical_fields (Sha256Digest.ofJson_injective hash _ _ same)
    (by simp) (by simp)
  simpa using fields "ordinal"

/-- An entry was made after `ordinal` others or more. -/
theorem mem_entries {ordinal : Nat} {debits : List BudgetDebit} {entry : Sha256Digest}
    (member : entry ∈ entries ordinal debits) :
    ∃ d i, ordinal ≤ i ∧ entry = BudgetDebit.digest d i := by
  induction debits generalizing ordinal with
  | nil => cases member
  | cons d rest ih =>
    rcases List.mem_cons.mp member with rfl | later
    · exact ⟨d,ordinal,le_rfl,rfl⟩
    · obtain ⟨e,i,after,same⟩ := ih later
      exact ⟨e,i,by omega,same⟩

theorem mem_attempts {ordinal : Nat} {debits : List BudgetDebit} {entry : Sha256Digest}
    (member : entry ∈ attempts ordinal debits) :
    ∃ made ∈ entries ordinal debits, ∃ retry, entry = retryDigest made retry := by
  induction debits generalizing ordinal with
  | nil => cases member
  | cons d rest ih =>
    rcases List.mem_append.mp member with here | later
    · obtain ⟨retry,-,rfl⟩ := List.mem_map.mp here
      exact ⟨_,List.mem_cons_self,retry,rfl⟩
    · obtain ⟨made,inside,same⟩ := ih later
      exact ⟨made,List.mem_cons_of_mem _ inside,same⟩

theorem digest_fresh (hash : Function.Injective Sha256.digest) (d : BudgetDebit) (ordinal : Nat)
    (rest : List BudgetDebit) : d.digest ordinal ∉ entries (ordinal + 1) rest := by
  intro member
  obtain ⟨e,i,after,same⟩ := mem_entries member
  have := digest_ordinal hash same
  omega

theorem entries_nodup (hash : Function.Injective Sha256.digest) (ordinal : Nat)
    (debits : List BudgetDebit) : (entries ordinal debits).Nodup := by
  induction debits generalizing ordinal with
  | nil => exact .nil
  | cons d rest ih => exact List.nodup_cons.mpr ⟨digest_fresh hash d ordinal rest,ih _⟩

theorem attempts_nodup (hash : Function.Injective Sha256.digest) (ordinal : Nat)
    (debits : List BudgetDebit) : (attempts ordinal debits).Nodup := by
  induction debits generalizing ordinal with
  | nil => exact .nil
  | cons d rest ih =>
    refine List.nodup_append'.mpr ⟨?_,ih _,fun entry here later => ?_⟩
    · exact List.nodup_range.map fun i j same => (retryDigest_injective hash same).2
    · obtain ⟨retry,-,rfl⟩ := List.mem_map.mp here
      obtain ⟨made,inside,other,same⟩ := mem_attempts later
      have := (retryDigest_injective hash same).1
      exact digest_fresh hash d ordinal rest (this ▸ inside)

/-- All entries of a sequence, of debits and of retries, are pairwise different. -/
theorem all_entries_nodup (hash : Function.Injective Sha256.digest) (ordinal : Nat)
    (debits : List BudgetDebit) :
    (entries ordinal debits ++ attempts ordinal debits).Nodup := by
  refine List.nodup_append'.mpr ⟨entries_nodup hash ordinal debits,
    attempts_nodup hash ordinal debits,fun entry made retried => ?_⟩
  obtain ⟨d,i,-,rfl⟩ := mem_entries made
  obtain ⟨other,-,retry,same⟩ := mem_attempts retried
  exact digest_ne_retryDigest hash d other i retry same

theorem length_entries (ordinal : Nat) (debits : List BudgetDebit) :
    (entries ordinal debits).length = debits.length := by
  induction debits generalizing ordinal with
  | nil => rfl
  | cons d rest ih => simp [entries,ih]

theorem length_attempts (ordinal : Nat) (debits : List BudgetDebit) :
    (attempts ordinal debits).length = total (·.retries) debits := by
  induction debits generalizing ordinal with
  | nil => rfl
  | cons d rest ih => simpa [attempts,total] using ih (ordinal + 1)

/-- A debit hands on what it received, within smaller budgets and with longer records. -/
theorem debited_conserves {context : RequestContext} (acyclic : context.CausallyAcyclic)
    (debits : List BudgetDebit) : Conserves context (context.debited debits) where
  delegates := ⟨[],⟨(List.append_nil _).symm,.stop le_rfl,.nil,fun _ => rfl⟩⟩
  requestId := rfl
  tenant := rfl
  causalRoot := rfl
  causalParent := rfl
  sideEffect := rfl
  schemaDigest := rfl
  traceParent := rfl
  dataProvenance := rfl
  routePolicy := rfl
  capability := rfl
  acyclic := acyclic
  causalObservations := List.prefix_refl _
  routeDecisions := List.prefix_refl _
  policyDecisions := List.prefix_refl _
  retryAttempts := List.prefix_append _ _
  budgetDebits := List.prefix_append _ _
  deadline := Nat.sub_le _ _
  monetaryBudget := Nat.sub_le _ _
  tokenBudget := Nat.sub_le _ _
  retryBudget := Nat.sub_le _ _
  dataClassification := le_rfl

theorem debitAll_succeeds {context : RequestContext} {debits : List BudgetDebit} :
    (∃ final, debitAll context debits = .ok final) ↔ Fits context debits := by
  simp only [debitAll_ok]
  exact ⟨fun ⟨_,fits,_⟩ => fits,fun fits => ⟨_,fits,rfl⟩⟩

/-- Over any sequence of debits: each conserves, adds one entry and one for each retry; the
sequence succeeds when the sums fit, in any order; the sums are what is taken; and no two of
the entries are equal. -/
theorem debits_add_up (hash : Function.Injective Sha256.digest) {context : RequestContext}
    (sound : (conserve context context).passed = true) (debits : List BudgetDebit) :
    (∀ before d after, debits = before ++ d :: after → ∀ current next,
      debitAll context before = .ok current → debit current d = .ok next →
        (conserve current next).passed = true ∧
        (∃ entry, next.budgetDebits = current.budgetDebits ++ [entry]) ∧
        ∃ retried, next.retryAttempts = current.retryAttempts ++ retried ∧
          retried.length = d.retries) ∧
    ((∃ final, debitAll context debits = .ok final) ↔ Fits context debits) ∧
    (∀ other, debits.Perm other → ((∃ final, debitAll context debits = .ok final) ↔
      ∃ final, debitAll context other = .ok final)) ∧
    ∀ final, debitAll context debits = .ok final →
      final.monetaryBudget + total (·.moneyMicros) debits = context.monetaryBudget ∧
      final.tokenBudget + total (·.tokens) debits = context.tokenBudget ∧
      final.retryBudget + total (·.retries) debits = context.retryBudget ∧
      final.deadline + total (·.elapsedMs) debits = context.deadline ∧
      ∃ made retried, final.budgetDebits = context.budgetDebits ++ made ∧
        final.retryAttempts = context.retryAttempts ++ retried ∧ made.length = debits.length ∧
        retried.length = total (·.retries) debits ∧ (made ++ retried).Nodup := by
  have acyclic := (conserve_passed.mp sound).acyclic
  refine ⟨?_,debitAll_succeeds,?_,?_⟩
  · rintro before d after - current next reached taken
    obtain ⟨-,rfl⟩ := debitAll_ok.mp reached
    obtain ⟨-,rfl⟩ := debit_ok.mp taken
    have kept := (debited_conserves acyclic before).acyclic
    refine ⟨conserve_passed.mpr (debited_conserves kept [d]),⟨_,rfl⟩,_,rfl,?_⟩
    simp [attempts]
  · intro other perm
    rw [debitAll_succeeds,debitAll_succeeds]
    exact ⟨fun fits => fits.perm perm,fun fits => fits.perm perm.symm⟩
  · intro final reached
    obtain ⟨⟨money,tokens,retries,deadline⟩,rfl⟩ := debitAll_ok.mp reached
    refine ⟨Nat.sub_add_cancel money,Nat.sub_add_cancel tokens,Nat.sub_add_cancel retries,
      Nat.sub_add_cancel deadline,_,_,rfl,rfl,length_entries _ _,length_attempts _ _,
      all_entries_nodup hash _ _⟩

end

section Example
open Reference

theorem debits_add_up_example :
    ∃ final, debitAll localFixture [⟨0,50,1,250⟩,⟨0,50,0,250⟩] = .ok final := by
  have sound : (conserve localFixture localFixture).passed = true := by decide
  have hash : Function.Injective Sha256.digest := Function.injective_id
  refine (debits_add_up hash sound _).2.1.mpr ⟨?_,?_,?_,?_⟩ <;> decide

end Example
end GaugeMesh
