import Mathlib.Data.List.Infix
import Mathlib.Data.Rat.Floor

/-! Cutting a text at a character, and replacing every match of a pattern in a text, from left to
right. What was put in is not searched again. -/
namespace Replace

variable {α : Type} [DecidableEq α]

/-- The parts before and after the first such character. -/
def splitOnce (c : α) (text : List α) : Option (List α × List α) :=
  match text.dropWhile (· ≠ c) with
  | [] => none
  | _ :: after => some (text.takeWhile (· ≠ c),after)

theorem takeWhile_before {c : α} {front : List α} (back : List α) (absent : c ∉ front) :
    (front ++ c :: back).takeWhile (· ≠ c) = front ∧
      (front ++ c :: back).dropWhile (· ≠ c) = c :: back := by
  induction front with
  | nil => simp
  | cons a front ih =>
    rw [List.mem_cons,not_or] at absent
    have other : a ≠ c := fun same => absent.1 same.symm
    simpa [other] using ih absent.2

theorem splitOnce_append {c : α} {front : List α} (absent : c ∉ front) (back : List α) :
    splitOnce c (front ++ c :: back) = some (front,back) := by
  obtain ⟨before,after⟩ := takeWhile_before back absent
  rw [splitOnce,before,after]

/-- The characters of a match that are left are skipped. -/
def replaceFrom (pattern value : List α) : Nat → List α → List α
  | _, [] => []
  | skip + 1, _ :: rest => replaceFrom pattern value skip rest
  | 0, c :: rest =>
    if pattern.isPrefixOf (c :: rest) then
      value ++ replaceFrom pattern value (pattern.length - 1) rest
    else c :: replaceFrom pattern value 0 rest

/-- The pattern is not empty; no two matches overlap. -/
def replaceAll (pattern value text : List α) : List α := replaceFrom pattern value 0 text

/-- The number of places at which the pattern stands in the text. -/
def occurrences (pattern text : List α) : Nat := text.tails.countP pattern.isPrefixOf

variable {pattern value text front back : List α}

theorem replaceFrom_drop (pattern value : List α) (skip : Nat) (text : List α) :
    replaceFrom pattern value skip text = replaceAll pattern value (text.drop skip) := by
  induction skip generalizing text with
  | zero => rfl
  | succ skip ih =>
    cases text with
    | nil => rfl
    | cons c rest => rw [replaceFrom,ih,List.drop_succ_cons]

theorem replaceAll_match (c : α) (rest back : List α) :
    replaceAll (c :: rest) value (c :: rest ++ back) = value ++ replaceAll (c :: rest) value back := by
  have fits : (c :: rest).isPrefixOf (c :: (rest ++ back)) = true :=
    List.isPrefixOf_iff_prefix.mpr (List.prefix_append (c :: rest) back)
  rw [replaceAll,List.cons_append,replaceFrom,if_pos fits,replaceFrom_drop]
  simp

theorem replaceAll_skip {c : α} {rest : List α} (value : List α) (other : ¬pattern <+: c :: rest) :
    replaceAll pattern value (c :: rest) = c :: replaceAll pattern value rest := by
  rw [← List.isPrefixOf_iff_prefix] at other
  rw [replaceAll,replaceFrom,if_neg other]
  rfl

/-- A front that has not the first character of the pattern is kept. -/
theorem replaceAll_append {c : α} {rest : List α} (absent : c ∉ front) :
    replaceAll (c :: rest) value (front ++ text) = front ++ replaceAll (c :: rest) value text := by
  induction front with
  | nil => rfl
  | cons a front ih =>
    rw [List.mem_cons,not_or] at absent
    have other : ¬(c :: rest) <+: a :: (front ++ text) := fun fits =>
      absent.1 (List.cons_prefix_cons.mp fits).1
    rw [List.cons_append,replaceAll_skip value other,ih absent.2,List.cons_append]

theorem occurrences_cons (pattern : List α) (c : α) (rest : List α) :
    occurrences pattern (c :: rest) =
      occurrences pattern rest + if pattern.isPrefixOf (c :: rest) then 1 else 0 := by
  rw [occurrences,List.tails_cons,List.countP_cons]
  rfl

theorem occurrences_append (pattern front text : List α) :
    occurrences pattern text ≤ occurrences pattern (front ++ text) := by
  induction front with
  | nil => exact le_rfl
  | cons c front ih =>
    rw [List.cons_append,occurrences_cons]
    omega

theorem occurrences_here (nonempty : pattern ≠ []) :
    occurrences pattern (pattern ++ back) = occurrences pattern ((pattern ++ back).tail) + 1 := by
  obtain ⟨c,rest,rfl⟩ := List.exists_cons_of_ne_nil nonempty
  have fits : (c :: rest).isPrefixOf (c :: (rest ++ back)) = true :=
    List.isPrefixOf_iff_prefix.mpr (List.prefix_append (c :: rest) back)
  rw [List.cons_append,occurrences_cons,if_pos fits,List.tail_cons]

theorem occurrences_front {c : α} {rest : List α} (absent : c ∉ front) :
    occurrences (c :: rest) (front ++ text) = occurrences (c :: rest) text := by
  induction front with
  | nil => rfl
  | cons a front ih =>
    rw [List.mem_cons,not_or] at absent
    have other : ¬(c :: rest).isPrefixOf (a :: (front ++ text)) := by
      rw [List.isPrefixOf_iff_prefix]
      exact fun fits => absent.1 (List.cons_prefix_cons.mp fits).1
    rw [List.cons_append,occurrences_cons,if_neg other,ih absent.2,Nat.add_zero]

theorem occurrences_nil {c : α} {rest : List α} : occurrences (c :: rest) [] = 0 := by
  simp [occurrences]

theorem replaceAll_absent (absent : occurrences pattern text = 0) :
    replaceAll pattern value text = text := by
  induction text with
  | nil => rfl
  | cons c rest ih =>
    rw [occurrences_cons] at absent
    have other : ¬pattern <+: c :: rest := by
      rw [← List.isPrefixOf_iff_prefix]
      intro fits
      simp [fits] at absent
    rw [replaceAll_skip value other,ih (by omega)]

/-- A pattern that stands at one place only is replaced there. -/
theorem replaceAll_once (value : List α) (nonempty : pattern ≠ [])
    (once : occurrences pattern (front ++ (pattern ++ back)) = 1) :
    replaceAll pattern value (front ++ (pattern ++ back)) = front ++ (value ++ back) := by
  induction front with
  | nil =>
    rw [List.nil_append] at once ⊢
    rw [occurrences_here nonempty] at once
    obtain ⟨c,rest,rfl⟩ := List.exists_cons_of_ne_nil nonempty
    have later := occurrences_append (c :: rest) rest back
    rw [List.cons_append,List.tail_cons] at once
    rw [replaceAll_match,replaceAll_absent (by omega),List.nil_append]
  | cons a front ih =>
    rw [List.cons_append,occurrences_cons] at once
    have here := occurrences_append pattern front (pattern ++ back)
    rw [occurrences_here nonempty] at here
    have other : ¬pattern <+: a :: (front ++ (pattern ++ back)) := by
      rw [← List.isPrefixOf_iff_prefix]
      intro fits
      rw [if_pos fits] at once
      omega
    rw [if_neg (by rwa [List.isPrefixOf_iff_prefix])] at once
    rw [List.cons_append,replaceAll_skip value other,ih (by omega),List.cons_append]

end Replace
