import Mathlib.Data.Rat.Floor
import Mathlib.Order.WellFoundedSet

/-! Relations without cycles. On finitely many elements they are those in which every element
is reached from below, so that what only adds elements whose predecessors are there adds all of
them exactly when there is no cycle. -/
namespace Dependency

variable {α : Type} {r : α → α → Prop} {support : Set α}

/-- Nothing leads back to itself. -/
def Acyclic (r : α → α → Prop) : Prop := ∀ a, ¬Relation.TransGen r a a

theorem acc_irrefl {a : α} (below : Acc r a) : ¬Relation.TransGen r a a := by
  intro cycle
  induction below.transGen with
  | intro a _ ih => exact ih a cycle below cycle

/-- An element on a cycle is related, so it is one of the support. -/
theorem acyclic_of_acc (related : ∀ a b, r a b → b ∈ support) (below : ∀ a ∈ support, Acc r a) :
    Acyclic r := by
  intro a cycle
  have member : a ∈ support := by
    obtain ⟨b,-,last⟩ := Relation.TransGen.tail'_iff.mp cycle
    exact related b a last
  exact acc_irrefl (below a member) cycle

theorem acc_of_acyclic (finite : support.Finite) (related : ∀ a b, r a b → a ∈ support ∧ b ∈ support)
    (acyclic : Acyclic r) (a : α) : Acc r a := by
  have strict : IsStrictOrder α (Relation.TransGen r) :=
    { irrefl := acyclic, trans := fun _ _ _ => Relation.TransGen.trans }
  have founded : support.WellFoundedOn (Relation.TransGen r) := finite.wellFoundedOn
  have whole := Set.wellFoundedOn_iff.mp founded
  have sub : Subrelation r fun a b => Relation.TransGen r a b ∧ a ∈ support ∧ b ∈ support :=
    fun {a b} step => ⟨.single step,related a b step⟩
  exact (sub.wf whole).apply a

theorem acyclic_iff (finite : support.Finite)
    (related : ∀ a b, r a b → a ∈ support ∧ b ∈ support) :
    Acyclic r ↔ ∀ a ∈ support, Acc r a :=
  ⟨fun acyclic a _ => acc_of_acyclic finite related acyclic a,
    acyclic_of_acc fun a b step => (related a b step).2⟩

/-- What takes in every element whose predecessors it has, has every accessible element. -/
theorem mem_of_closed {s : Set α} (related : ∀ a b, r a b → a ∈ support)
    (closed : ∀ a ∈ support, (∀ b, r b a → b ∈ s) → a ∈ s) {a : α} (below : Acc r a)
    (member : a ∈ support) : a ∈ s := by
  induction below with
  | intro a _ ih =>
    apply closed a member
    intro b step
    exact ih b step (related b a step)

end Dependency
