import Mathlib.Data.List.Infix
import Mathlib.Data.Rat.Floor

/-! Histories, the newest event first, in which every event has its reason in the past. A
fact about two events is then a fact about the reason of the later one. -/
namespace Interleaving

def Justified (reason : α → List α → Prop) : List α → Prop
  | [] => True
  | e :: past => reason e past ∧ Justified reason past

/-- An event with its past is a suffix of every later history. -/
theorem occurs {e : α} {trace : List α} (member : e ∈ trace) : ∃ past, e :: past <:+ trace := by
  obtain ⟨later,past,rfl⟩ := List.append_of_mem member
  exact ⟨past,List.suffix_append later (e :: past)⟩

theorem past_suffix {e : α} {past trace : List α} (occurrence : e :: past <:+ trace) :
    past <:+ trace := (List.suffix_cons e past).trans occurrence

theorem mem_of_occurrence {e : α} {past trace : List α} (occurrence : e :: past <:+ trace) :
    e ∈ trace := occurrence.mem List.mem_cons_self

/-- Of two occurrences one is the other, or one lies in the past of the other. -/
theorem occurrences {e f : α} {past rest trace : List α} (first : e :: past <:+ trace)
    (second : f :: rest <:+ trace) :
    e :: past = f :: rest ∨ e :: past <:+ rest ∨ f :: rest <:+ past := by
  rcases List.suffix_or_suffix_of_suffix first second with inside | inside
  · rcases List.suffix_cons_iff.mp inside with same | earlier
    · exact .inl same
    · exact .inr (.inl earlier)
  · rcases List.suffix_cons_iff.mp inside with same | earlier
    · exact .inl same.symm
    · exact .inr (.inr earlier)

/-- A relation of every event to each event of its past relates the history pairwise. -/
theorem pairwise_past {related : α → α → Prop} {trace : List α}
    (holds : ∀ e past, e :: past <:+ trace → ∀ f ∈ past, related e f) : trace.Pairwise related := by
  induction trace with
  | nil => exact .nil
  | cons e past ih =>
    refine .cons (fun f member => holds e past List.suffix_rfl f member) (ih ?_)
    exact fun f rest occurrence =>
      holds f rest (occurrence.trans (List.suffix_cons e past))

namespace Justified

variable {reason other : α → List α → Prop} {trace past : List α}

theorem suffix (justified : Justified reason trace) (earlier : past <:+ trace) :
    Justified reason past := by
  induction trace with
  | nil => rw [List.suffix_nil.mp earlier]; trivial
  | cons e rest ih =>
    rcases List.suffix_cons_iff.mp earlier with rfl | inside
    · exact justified
    · exact ih justified.2 inside

theorem reason_of (justified : Justified reason trace) (occurrence : e :: past <:+ trace) :
    reason e past := (justified.suffix occurrence).1

theorem weaken (justified : Justified reason trace)
    (implies : ∀ e past, reason e past → other e past) : Justified other trace := by
  induction trace with
  | nil => trivial
  | cons e rest ih => exact ⟨implies e rest justified.1,ih justified.2⟩

end Justified
end Interleaving
