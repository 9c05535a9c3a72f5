import Mathlib.Data.List.Destutter
import Mathlib.Data.Rat.Floor
import Mathlib.Order.Defs.LinearOrder

/-! Lists put in the order of a key and rid of repetitions, and the first entry of such a list
that passes a test. -/
namespace Sorted

variable {α κ : Type} [DecidableEq α]

theorem mem_destutter (a : α) (entries : List α) :
    a ∈ entries.destutter (· ≠ ·) ↔ a ∈ entries := by
  have kept : ∀ (entries : List α) (first : α),
      a ∈ entries.destutter' (· ≠ ·) first ↔ a = first ∨ a ∈ entries := by
    intro entries
    induction entries with
    | nil => simp
    | cons next rest ih =>
      intro first
      by_cases same : first = next
      · simp [same,ih]
      · simp [same,ih]
  cases entries with
  | nil => simp
  | cons first rest => simp [List.destutter_cons',kept]

variable [LinearOrder κ] (key : α → κ) {entries : List α} {a : α}

def distinct (entries : List α) : List α :=
  (entries.mergeSort fun a b => decide (key a ≤ key b)).destutter (· ≠ ·)

@[simp] theorem mem_distinct : a ∈ distinct key entries ↔ a ∈ entries := by
  simp [distinct,mem_destutter]

theorem pairwise_distinct (entries : List α) :
    (distinct key entries).Pairwise fun a b => key a ≤ key b := by
  have sorted := @List.pairwise_mergeSort _ (fun a b : α => decide (key a ≤ key b))
    (fun a b c first second => by
      simp only [decide_eq_true_eq] at first second ⊢
      exact first.trans second)
    (fun a b => by simpa using le_total (key a) (key b)) entries
  exact (by simpa using sorted : List.Pairwise _ _).sublist (List.destutter_sublist _ _)

@[simp] theorem distinct_eq_nil : distinct key entries = [] ↔ entries = [] := by
  rw [distinct,List.destutter_eq_nil,← List.length_eq_zero_iff,List.length_mergeSort,
    List.length_eq_zero_iff]

@[simp] theorem distinct_singleton : distinct key [a] = [a] := by
  simp [distinct]

variable {key}

omit [DecidableEq α] in
/-- The test picks the entry with the least key among those that pass. -/
theorem find?_eq_some (injective : Function.Injective key) {test : α → Bool}
    (sorted : entries.Pairwise fun a b => key a ≤ key b) :
    entries.find? test = some a ↔ a ∈ entries ∧ test a ∧ ∀ b ∈ entries, test b → key a ≤ key b := by
  induction entries with
  | nil => simp
  | cons first rest ih =>
    obtain ⟨below,later⟩ := List.pairwise_cons.mp sorted
    rcases passes : test first with _ | _
    · rw [List.find?_cons_of_neg (by simp [passes]),ih later]
      constructor
      · rintro ⟨member,holds,least⟩
        exact ⟨.tail _ member,holds,by simpa [passes] using least⟩
      · rintro ⟨member,holds,least⟩
        have other : a ≠ first := fun same => by simp [same,passes] at holds
        exact ⟨List.mem_of_ne_of_mem other member,holds,fun b inside => least b (.tail _ inside)⟩
    · rw [List.find?_cons_of_pos passes]
      constructor
      · intro found
        cases found
        exact ⟨List.mem_cons_self,passes,by simpa using fun b inside _ => below b inside⟩
      · rintro ⟨member,-,least⟩
        have smallest : key first ≤ key a := by
          rcases List.mem_cons.mp member with rfl | inside
          · exact le_rfl
          · exact below a inside
        rw [injective (le_antisymm smallest (least first List.mem_cons_self passes))]

end Sorted
