import GaugeMesh.Json.Size
import GaugeMesh.Mesh.Resolution

/-! The templates that are scanned for variables. The scanner looks for the next opening brace,
so it sees a closing one only inside an expression or behind the last of them; one that stands
before an expression is passed over. -/
namespace GaugeMesh.Catalog
open Json GaugeMesh.Configuration Replace

/-- Text of a template outside its expressions. -/
def Plain (text : List Char) : Prop := '{' ∉ text ∧ '}' ∉ text

structure VariableName (name : String) : Prop where
  nonempty : name ≠ ""
  short : name.toList.length ≤ 64
  letters : ∀ c ∈ name.toList, c.isAlphanum ∨ c = '_' ∨ c = '-'

/-- Expressions between texts; `free` says what may stand before one. -/
inductive Expressions (free : List Char → Prop) : List Char → List String → Prop where
  | done (text : List Char) (plain : Plain text) : Expressions free text []
  | next (literal : List Char) (name : String) (before : free literal) (named : VariableName name)
      (rest : Expressions free text names) :
      Expressions free (literal ++ (placeholder name ++ text)) (name :: names)

/-- Up to eight expressions, the texts around them without braces. -/
def Grammar (template : String) (names : List String) : Prop :=
  Expressions Plain template.toList names ∧ 1 ≤ names.length ∧ names.length ≤ 8

/-- Text that opens no expression. -/
def Unopened (text : List Char) : Prop := '{' ∉ text

/-- Expressions of which one has a closing brace in the text before it. -/
inductive Stray : List Char → List String → Prop where
  | here (literal : List Char) (name : String) (before : Unopened literal) (stray : '}' ∈ literal)
      (named : VariableName name) (rest : Expressions Unopened text names) :
      Stray (literal ++ (placeholder name ++ text)) (name :: names)
  | later (literal : List Char) (name : String) (before : Plain literal)
      (named : VariableName name) (rest : Stray text names) :
      Stray (literal ++ (placeholder name ++ text)) (name :: names)

/-- The template is one but for a closing brace before an expression. -/
def StrayBrace (template : String) : Prop :=
  ∃ names, Stray template.toList names ∧ names.length ≤ 8

variable {text : List Char} {names : List String}

theorem variableName_iff (name : String) :
    VariableName name ↔ name ≠ "" ∧ name.utf8ByteSize ≤ 64 ∧ PlainName name := by
  have letters : PlainName name ↔ ∀ c ∈ name.toList, c.isAlphanum ∨ c = '_' ∨ c = '-' := by
    simp [PlainName,alphanumericOr]
  have bytes (plain : PlainName name) : name.utf8ByteSize = name.toList.length := by
    rw [← size_toList]
    exact size_ascii fun c member => (plain.ascii c member).1
  constructor
  · intro named
    have plain := letters.mpr named.letters
    exact ⟨named.nonempty,(bytes plain).trans_le named.short,plain⟩
  · rintro ⟨nonempty,short,plain⟩
    exact ⟨nonempty,bytes plain ▸ short,letters.mp plain⟩

theorem VariableName.unclosed {name : String} (named : VariableName name) : '}' ∉ name.toList :=
  ((variableName_iff name).mp named).2.2.not_mem (by decide)

theorem scanVariables_expressions {found names : List String} {text : List Char}
    (scanned : scanVariables found text = some names) :
    names ≠ [] ∧ names.length ≤ 8 ∧
      ∃ own, names = found ++ own ∧ Expressions Unopened text own := by
  fun_induction scanVariables found text with
  | case1 found remaining opened bad => cases scanned
  | case2 found remaining opened good =>
    cases scanned
    have unopened : '{' ∉ remaining := by
      intro member
      have kept := List.dropWhile_eq_nil_iff.mp opened _ member
      simp at kept
    simp only [not_or,List.contains_iff_mem] at good
    exact ⟨good.2.1,by omega,[],by simp,.done remaining ⟨unopened,good.1⟩⟩
  | case3 => cases scanned
  | case4 => cases scanned
  | case5 found remaining first afterOpen opened name second afterClose closed plain ih =>
    obtain ⟨some,few,own,same,rest⟩ := ih scanned
    obtain ⟨parts,literal⟩ := split_at opened
    obtain ⟨inner,-⟩ := split_at closed
    have named : VariableName (String.ofList name) := by
      apply (variableName_iff _).mpr
      simp only [not_or,not_not] at plain
      exact ⟨by simpa using plain.1,by omega,plain.2.2⟩
    refine ⟨some,few,String.ofList name :: own,by simp [same],?_⟩
    have text : remaining = remaining.takeWhile (· ≠ '{') ++
        (placeholder (String.ofList name) ++ afterClose) := by
      calc remaining = remaining.takeWhile (· ≠ '{') ++ '{' :: afterOpen := parts
        _ = remaining.takeWhile (· ≠ '{') ++ '{' :: (name ++ '}' :: afterClose) := by rw [← inner]
        _ = _ := by simp [placeholder]
    rw [text]
    exact .next _ _ literal named rest

theorem expressions_scanVariables {found : List String}
    (expressions : Expressions Unopened text names) (some : found ++ names ≠ [])
    (few : (found ++ names).length ≤ 8) :
    scanVariables found text = .some (found ++ names) := by
  induction expressions generalizing found with
  | done text plain =>
    rw [List.append_nil] at some few ⊢
    rw [scanVariables_done found plain.1,if_neg]
    simp only [not_or,List.contains_iff_mem]
    exact ⟨plain.2,some,by omega⟩
  | @next text names literal name before named rest ih =>
    obtain ⟨nonempty,short,plain⟩ := (variableName_iff name).mp named
    have grown : found ++ name :: names = found ++ [name] ++ names := List.append_cons ..
    rw [scanVariables_hole found before plain nonempty short]
    rw [grown] at some few ⊢
    exact ih some few

/-- The scanner takes any text before an expression that does not open one. -/
theorem simpleTemplateVariables_iff (template : String) (names : List String) :
    simpleTemplateVariables template = some names ↔
      Expressions Unopened template.toList names ∧ 1 ≤ names.length ∧ names.length ≤ 8 := by
  constructor
  · intro scanned
    obtain ⟨some,few,own,same,expressions⟩ := scanVariables_expressions scanned
    rw [List.nil_append] at same
    subst same
    exact ⟨expressions,List.length_pos_iff.mpr some,few⟩
  · rintro ⟨expressions,some,few⟩
    exact expressions_scanVariables expressions (List.length_pos_iff.mp some) few

theorem Expressions.unopened (expressions : Expressions Plain text names) :
    Expressions Unopened text names := by
  induction expressions with
  | done text plain => exact .done text plain
  | next literal name before named _ ih => exact .next literal name before.1 named ih

theorem Stray.unopened (stray : Stray text names) :
    Expressions Unopened text names ∧ 1 ≤ names.length := by
  induction stray with
  | here literal name before _ named rest => exact ⟨.next literal name before named rest,by simp⟩
  | later literal name before named _ ih => exact ⟨.next literal name before.1 named ih.1,by simp⟩

theorem Expressions.plain_or_stray (expressions : Expressions Unopened text names) :
    Expressions Plain text names ∨ Stray text names := by
  induction expressions with
  | done text plain => exact .inl (.done text plain)
  | next literal name before named rest ih =>
    by_cases stray : '}' ∈ literal
    · exact .inr (.here literal name before stray named rest)
    · rcases ih with plain | later
      · exact .inl (.next literal name ⟨before,stray⟩ named plain)
      · exact .inr (.later literal name ⟨before,stray⟩ named later)

/-- A text has one part before the first of a character. -/
theorem cut_once {c : Char} {left right x y : List Char} (same : left ++ c :: x = right ++ c :: y)
    (first : c ∉ left) (second : c ∉ right) : left = right ∧ x = y := by
  obtain ⟨taken,dropped⟩ := takeWhile_before x first
  obtain ⟨taken',dropped'⟩ := takeWhile_before y second
  rw [same] at taken dropped
  rw [taken'] at taken
  rw [dropped'] at dropped
  exact ⟨taken.symm,(List.cons.inj dropped).2.symm⟩

/-- A text is cut into its first expression and what is around it in one way. -/
theorem Expressions.first {literal rest : List Char} {name : String} {own : List String}
    (expressions : Expressions Plain (literal ++ (placeholder name ++ rest)) own)
    (before : '{' ∉ literal) (named : VariableName name) :
    Plain literal ∧ ∃ others, Expressions Plain rest others := by
  have cut : literal ++ (placeholder name ++ rest) =
      literal ++ '{' :: (name.toList ++ '}' :: rest) := by simp [placeholder]
  generalize whole : literal ++ (placeholder name ++ rest) = text at expressions
  rw [whole] at cut
  cases expressions with
  | done text plain =>
    exfalso
    apply plain.1
    rw [cut]
    simp
  | @next tail others front other free valid later =>
    have split : front ++ '{' :: (other.toList ++ '}' :: tail) =
        literal ++ '{' :: (name.toList ++ '}' :: rest) := by
      rw [← cut]
      simp [placeholder]
    obtain ⟨equal,inner⟩ := cut_once split free.1 before
    obtain ⟨-,after⟩ := cut_once inner valid.unclosed named.unclosed
    exact ⟨equal ▸ free,_,after ▸ later⟩

theorem Stray.not_plain (stray : Stray text names) (own : List String) :
    ¬Expressions Plain text own := by
  induction stray generalizing own with
  | here literal name before stray named rest =>
    intro expressions
    exact (expressions.first before named).1.2 stray
  | later literal name before named rest ih =>
    intro expressions
    obtain ⟨-,others,later⟩ := expressions.first before.1 named
    exact ih others later

/-- The scanner accepts what has a closing brace before an expression. -/
theorem Stray.accepted {template : String} (stray : Stray template.toList names)
    (few : names.length ≤ 8) :
    simpleTemplateVariables template = some names ∧ ¬Grammar template names := by
  obtain ⟨expressions,some⟩ := stray.unopened
  refine ⟨(simpleTemplateVariables_iff template names).mpr ⟨expressions,some,few⟩,?_⟩
  intro grammar
  exact stray.not_plain names grammar.1

/-- The scanner accepts exactly the grammar, unless a closing brace stands before an expression
of what is a template otherwise. -/
theorem template_grammar_iff (template : String) :
    (∀ names, simpleTemplateVariables template = some names ↔ Grammar template names) ↔
      ¬StrayBrace template := by
  constructor
  · rintro exact ⟨names,stray,few⟩
    obtain ⟨scanned,outside⟩ := stray.accepted few
    exact outside ((exact names).mp scanned)
  · intro clean names
    rw [simpleTemplateVariables_iff]
    constructor
    · rintro ⟨expressions,some,few⟩
      rcases expressions.plain_or_stray with plain | stray
      · exact ⟨plain,some,few⟩
      · exact absurd ⟨names,stray,few⟩ clean
    · rintro ⟨expressions,some,few⟩
      exact ⟨expressions.unopened,some,few⟩

/-- A closing brace before the first expression. -/
def strayTemplate : String := "\x7d\x7ba\x7d"

theorem strayTemplate_accepted :
    simpleTemplateVariables strayTemplate = some ["a"] ∧ ¬Grammar strayTemplate ["a"] := by
  have named : VariableName "a" := ⟨by decide,by decide,by simp⟩
  have stray : Stray strayTemplate.toList ["a"] :=
    .here ['}'] "a" (by rw [Unopened]; decide) (by decide) named (.done [] ⟨by simp,by simp⟩)
  exact stray.accepted (by decide)

end GaugeMesh.Catalog
