import GaugeMesh.Digest

/-! One implementation of the library parts the development takes as parameters: a
parser that inverts the printer up to the recursion limit of 127 containers, and a
hash without collisions. They show that the assumptions can be met together. -/
namespace Json

/-- Sign, magnitude and a point: one text for each double. -/
def plainFloatText (value : F64) : List Char :=
  (if value.negative then '-' else '+') :: Nat.toDigits 10 value.magnitude ++ ['.']

theorem plainFloatText_injective : Function.Injective plainFloatText := by
  intro a b same
  obtain ⟨signs,tails⟩ := List.cons.inj same
  have magnitude := toDigits_injective _ _ (List.append_cancel_right tails)
  have negative : a.negative = b.negative := by
    rcases first : a.negative <;> rcases second : b.negative <;> simp_all
  cases a; cases b
  simp only at magnitude negative
  subst magnitude; subst negative
  rfl

@[reducible] def plainFloat : FloatText where
  text := plainFloatText
  injective := plainFloatText_injective
  numeric := by
    intro value c member
    simp only [plainFloatText,List.cons_append,List.mem_cons,List.mem_append,
      List.not_mem_nil,or_false] at member
    rcases member with rfl | digit | rfl
    · right
      split <;> decide
    · exact .inl (Nat.isDigit_of_mem_toDigits (by decide) (by decide) digit)
    · right; decide
  marked := by
    intro value
    exact .inl (by simp [plainFloatText])

end Json

namespace GaugeMesh.Reference
open Json

open Classical in
noncomputable scoped instance serdeJson : SerdeJson where
  toFloatText := plainFloat
  recursionLimit := 127
  fromStr text :=
    if written : ∃ v : Value, v.depth ≤ 127 ∧ String.ofList (@Value.text plainFloat v) = text
    then some written.choose else none
  fromStr_text v := by
    split
    · next written =>
      have same := @Value.text_injective plainFloat _ _
        (String.ofList_injective written.choose_spec.2)
      rw [same,if_pos (same ▸ written.choose_spec.1)]
    · next absent =>
      exact (if_neg fun shallow => absent ⟨v,shallow,rfl⟩).symm

/-- A hash that keeps its input. -/
scoped instance sha256 : Sha256 := ⟨id⟩

end GaugeMesh.Reference
