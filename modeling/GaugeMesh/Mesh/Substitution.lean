import GaugeMesh.Mesh.Template
import Mathlib.Data.List.TakeWhile

/-! What a resolved template comes to. The values go in one after the other, each for all its
placeholders and into the values before it; they go in at their places if each placeholder
stands once in the text as it then is. -/
namespace GaugeMesh.Catalog
open Json GaugeMesh.Configuration Replace

/-- A name that a template may use. -/
def PlainName (name : String) : Prop := alphanumericOr ['_','-'] name = true

theorem PlainName.not_mem {name : String} (plain : PlainName name) {c : Char}
    (other : (c.isAlphanum || ['_','-'].contains c) = false) : c ∉ name.toList := by
  intro member
  rw [PlainName,alphanumericOr,List.all_eq_true] at plain
  rw [plain c member] at other
  cases other

/-- The text, with a placeholder for each of the names between parts that open none. -/
inductive Holes : List Char → List String → Prop where
  | done (text : List Char) : '{' ∉ text → Holes text []
  | hole (literal : List Char) (name : String) : '{' ∉ literal → PlainName name →
      Holes rest names → Holes (literal ++ (placeholder name ++ rest)) (name :: names)

theorem split_at {c : Char} {text rest : List Char} {d : Char}
    (found : text.dropWhile (· ≠ c) = d :: rest) :
    text = text.takeWhile (· ≠ c) ++ c :: rest ∧ c ∉ text.takeWhile (· ≠ c) := by
  have whole := List.takeWhile_append_dropWhile (p := (· ≠ c)) (l := text)
  have first : d = c := by
    have stop := List.head?_dropWhile_not (· ≠ c) text
    rw [found] at stop
    simpa using stop
  constructor
  · rw [found,first] at whole
    exact whole.symm
  · intro member
    simpa using List.mem_takeWhile_imp member

theorem scanVariables_holes {found names : List String} {text : List Char}
    (scanned : scanVariables found text = some names) :
    ∃ own, names = found ++ own ∧ Holes text own := by
  fun_induction scanVariables found text with
  | case1 found remaining opened bad => cases scanned
  | case2 found remaining opened good =>
    cases scanned
    have closed : '{' ∉ remaining := by
      intro member
      have kept := List.dropWhile_eq_nil_iff.mp opened _ member
      simp at kept
    exact ⟨[],by simp,.done remaining closed⟩
  | case3 => cases scanned
  | case4 => cases scanned
  | case5 found remaining first afterOpen opened name second afterClose closed plain ih =>
    obtain ⟨own,same,holes⟩ := ih scanned
    simp only [not_or,not_not] at plain
    obtain ⟨parts,literal⟩ := split_at opened
    obtain ⟨inner,-⟩ := split_at closed
    refine ⟨String.ofList name :: own,by simp [same],?_⟩
    have text : remaining = remaining.takeWhile (· ≠ '{') ++
        (placeholder (String.ofList name) ++ afterClose) := by
      calc remaining = remaining.takeWhile (· ≠ '{') ++ '{' :: afterOpen := parts
        _ = remaining.takeWhile (· ≠ '{') ++ '{' :: (name ++ '}' :: afterClose) := by rw [← inner]
        _ = _ := by simp [placeholder]
    rw [text]
    exact .hole _ _ literal plain.2.2 holes

/-- The values take the places of the first placeholders, one each, in order; the text between
is unchanged. -/
def substituteInOrder : List (List Char) → List Char → List Char
  | [], text => text
  | value :: values, text => text.takeWhile (· ≠ '{') ++ (value ++
      substituteInOrder values ((text.dropWhile (· ≠ '{')).dropWhile (· ≠ '}')).tail)

theorem substituteInOrder_hole {literal rest value : List Char} {name : String}
    (closed : '{' ∉ literal) (plain : PlainName name) (values : List (List Char)) :
    substituteInOrder (value :: values) (literal ++ (placeholder name ++ rest)) =
      literal ++ (value ++ substituteInOrder values rest) := by
  have text : literal ++ (placeholder name ++ rest) = literal ++ '{' :: (name.toList ++ '}' :: rest) := by
    simp [placeholder]
  have close : '}' ∉ '{' :: name.toList := by
    simpa using plain.not_mem (by decide)
  obtain ⟨front,back⟩ := takeWhile_before (name.toList ++ '}' :: rest) closed
  obtain ⟨-,after⟩ := takeWhile_before rest close
  rw [substituteInOrder,text,front,back]
  rw [List.cons_append] at after
  rw [after,List.tail_cons]

/-- What the loop does once the segments are decoded. -/
def fill (native : List Char) (pairs : List (String × List Char)) : List Char :=
  pairs.foldl (fun native pair => replaceAll (placeholder pair.1) pair.2 native) native

theorem placeholder_ne_nil (name : String) : placeholder name ≠ [] := by simp [placeholder]

/-- If each placeholder stands once when its turn comes, all go where they belong. -/
theorem fill_in_order {text : List Char} {names : List String} (holes : Holes text names)
    (values : List (List Char)) (count : values.length = names.length) (front : List Char)
    (once : ∀ i name, names[i]? = some name → occurrences (placeholder name)
      (front ++ substituteInOrder (values.take i) text) = 1) :
    fill (front ++ text) (names.zip values) = front ++ substituteInOrder values text := by
  induction holes generalizing values front with
  | done text closed =>
    rw [List.length_nil,List.length_eq_zero_iff] at count
    subst count
    rfl
  | @hole rest names literal name closed plain holes ih =>
    cases values with
    | nil => simp at count
    | cons value values =>
      have first := once 0 name rfl
      rw [List.take_zero,substituteInOrder,← List.append_assoc] at first
      have replaced := replaceAll_once value (placeholder_ne_nil name) first
      have later := ih values (by simpa using count) (front ++ literal ++ value) (by
        intro i other there
        have next := once (i + 1) other (by simpa using there)
        rw [List.take_succ_cons,substituteInOrder_hole closed plain] at next
        simpa using next)
      rw [List.zip_cons_cons,fill,List.foldl_cons,← List.append_assoc,replaced,
        substituteInOrder_hole closed plain]
      simpa [fill] using later

variable {template resolved : FederatedResourceTemplate} {uri native : String}

/-- What follows the prefix, cut at the slashes and decoded. -/
def decodedSegments (template : FederatedResourceTemplate) (uri : String) : Option (List String) :=
  ((uri.toList.drop template.virtualPrefix.toList.length).splitOn '/').mapM fun segment =>
    percentDecode (String.ofList segment)

/-- The URI is the native template with the decoded segments in place of its placeholders. -/
def InOrder (template : FederatedResourceTemplate) (uri native : String) : Prop :=
  ∃ values, decodedSegments template uri = some values ∧ native =
    String.ofList (substituteInOrder (values.map String.toList) template.nativeUriTemplate.toList)

/-- The placeholder of each variable stands once in the template with the values before it. -/
def Undisturbed (template : FederatedResourceTemplate) (uri : String) : Prop :=
  ∀ values, decodedSegments template uri = some values →
    ∀ i name, template.«variables»[i]? = some name → occurrences (placeholder name)
      (substituteInOrder ((values.map String.toList).take i) template.nativeUriTemplate.toList) = 1

theorem substitute_eq (native : List Char) (names : List String) (segments : List (List Char))
    (count : segments.length = names.length) :
    substitute native (names.zip segments) =
      (segments.mapM fun segment => percentDecode (String.ofList segment)).map fun values =>
        fill native (names.zip (values.map String.toList)) := by
  induction segments generalizing native names with
  | nil =>
    rw [List.length_nil,eq_comm,List.length_eq_zero_iff] at count
    subst count
    rfl
  | cons segment segments ih => cases names with
    | nil => simp at count
    | cons name names =>
      rw [List.zip_cons_cons,substitute,List.mapM_cons]
      cases percentDecode (String.ofList segment) with
      | none => rfl
      | some value =>
        simp only [Option.bind_eq_bind,Option.bind_some]
        rw [ih _ names (by simpa using count)]
        cases segments.mapM fun segment => percentDecode (String.ofList segment) with
        | none => rfl
        | some values => rfl

theorem mapM_length {decode : List Char → Option String} {segments : List (List Char)}
    {values : List String} (decoded : segments.mapM decode = some values) :
    values.length = segments.length := by
  induction segments generalizing values with
  | nil =>
    cases decoded
    rfl
  | cons segment segments ih =>
    simp only [List.mapM_cons,Option.bind_eq_bind,Option.bind_eq_some_iff] at decoded
    obtain ⟨value,-,rest,others,same⟩ := decoded
    cases same
    rw [List.length_cons,ih others,List.length_cons]

theorem resolveOne_some : resolveOne uri template = some (resolved,native) ↔
    template.virtualPrefix.toList <+: uri.toList ∧ resolved = template ∧
      ∃ values, decodedSegments template uri = some values ∧
        values.length = template.«variables».length ∧
        native = String.ofList (fill template.nativeUriTemplate.toList
          (template.«variables».zip (values.map String.toList))) := by
  rw [resolveOne,stripPrefix,decodedSegments]
  by_cases front : template.virtualPrefix.toList <+: uri.toList
  · rw [if_pos (List.isPrefixOf_iff_prefix.mpr front),Option.bind_eq_bind,Option.bind_some]
    generalize (uri.toList.drop template.virtualPrefix.toList.length).splitOn '/' = segments
    by_cases count : segments.length = template.«variables».length
    · simp only [count,ne_eq,not_true,↓reduceIte,substitute_eq _ _ _ count,
        Option.bind_eq_some_iff,Option.map_eq_some_iff,Option.pure_def,Option.some.injEq,
        Prod.mk.injEq,front,true_and]
      constructor
      · rintro ⟨text,⟨values,decoded,rfl⟩,rfl,rfl⟩
        exact ⟨rfl,values,decoded,(mapM_length decoded).trans count,rfl⟩
      · rintro ⟨rfl,values,decoded,-,rfl⟩
        exact ⟨_,⟨values,decoded,rfl⟩,rfl,rfl⟩
    · simp only [count,ne_eq,not_false_eq_true,↓reduceIte,front,true_and]
      constructor
      · intro none
        cases none
      · rintro ⟨rfl,values,decoded,same,-⟩
        exact absurd ((mapM_length decoded).symm.trans same) count
  · rw [if_neg (by rwa [List.isPrefixOf_iff_prefix])]
    constructor
    · intro none
      cases none
    · rintro ⟨fits,-⟩
      exact absurd fits front

/-- The values go where they belong if no placeholder is disturbed. -/
theorem resolveOne_in_order (holes : Holes template.nativeUriTemplate.toList template.«variables»)
    (resolves : resolveOne uri template = some (resolved,native))
    (undisturbed : Undisturbed template uri) : resolved = template ∧ InOrder template uri native := by
  obtain ⟨-,same,values,decoded,count,rfl⟩ := resolveOne_some.mp resolves
  have filled := fill_in_order holes (values.map String.toList) (by simpa using count) []
    (undisturbed values decoded)
  rw [List.nil_append,List.nil_append] at filled
  exact ⟨same,values,decoded,by rw [filled]⟩

theorem occurrences_alone {text : List Char} {name : String} (holes : Holes text [name]) :
    occurrences (placeholder name) text = 1 := by
  cases holes with
  | @hole rest _ literal _ closed plain others =>
    have open' : '{' ∉ rest := by
      cases others with
      | done _ absent => exact absent
    have after : '{' ∉ (placeholder name ++ rest).tail := by
      have inner := plain.not_mem (c := '{') (by decide)
      simp [placeholder,inner,open']
    have later : occurrences (placeholder name) (placeholder name ++ rest).tail = 0 := by
      rw [← List.append_nil (placeholder name ++ rest).tail]
      exact (occurrences_front after).trans occurrences_nil
    have skipped : occurrences (placeholder name) (literal ++ (placeholder name ++ rest)) =
        occurrences (placeholder name) (placeholder name ++ rest) := occurrences_front closed
    rw [skipped,occurrences_here (placeholder_ne_nil name),later]

theorem undisturbed_alone {name : String} (alone : template.«variables» = [name])
    (holes : Holes template.nativeUriTemplate.toList [name]) : Undisturbed template uri := by
  intro values decoded i other there
  rw [alone] at there
  cases i with
  | zero =>
    cases there
    exact occurrences_alone holes
  | succ i => simp at there

/-- The text with each name written in some way. -/
def spell (write : String → List Char) : List (List Char × String) → List Char → List Char
  | [], last => last
  | (literal,name) :: parts, last => literal ++ (write name ++ spell write parts last)

/-- The parts of a template between the placeholders, with the names of those. -/
structure Parts (parts : List (List Char × String)) (last : List Char) : Prop where
  literal : ∀ part ∈ parts, '{' ∉ part.1
  plain : ∀ part ∈ parts, PlainName part.2
  last : '{' ∉ last

theorem Holes.parts {text : List Char} {names : List String} (holes : Holes text names) :
    ∃ parts last, Parts parts last ∧ text = spell placeholder parts last ∧
      names = parts.map Prod.snd := by
  induction holes with
  | done text closed => exact ⟨[],text,⟨by simp,by simp,closed⟩,rfl,rfl⟩
  | hole literal name closed plain _ ih =>
    obtain ⟨parts,last,fits,rfl,rfl⟩ := ih
    exact ⟨(literal,name) :: parts,last,⟨List.forall_mem_cons.mpr ⟨closed,fits.literal⟩,
      List.forall_mem_cons.mpr ⟨plain,fits.plain⟩,fits.last⟩,rfl,rfl⟩

theorem placeholder_injective {a b : String} (same : placeholder a = placeholder b) : a = b := by
  have inner := (List.cons.inj same).2
  exact String.toList_inj.mp (List.append_cancel_right inner)

/-- Of two placeholders one begins another text only if they are the same. -/
theorem placeholder_self {a b : String} (plain : PlainName a) (plain' : PlainName b)
    {rest : List Char} (fits : placeholder a <+: placeholder b ++ rest) : a = b := by
  obtain ⟨back,same⟩ := fits
  have close : '}' ∉ a.toList := plain.not_mem (by decide)
  have close' : '}' ∉ b.toList := plain'.not_mem (by decide)
  have inner : a.toList ++ '}' :: back = b.toList ++ '}' :: rest := by
    simpa [placeholder] using same
  have before := congrArg (List.takeWhile (· ≠ '}')) inner
  rw [(takeWhile_before back close).1,(takeWhile_before rest close').1] at before
  exact String.toList_inj.mp before

theorem replaceAll_placeholder {a b : String} (plain : PlainName a) (plain' : PlainName b)
    (value rest : List Char) : replaceAll (placeholder a) value (placeholder b ++ rest) =
      (if placeholder b = placeholder a then value else placeholder b) ++
        replaceAll (placeholder a) value rest := by
  split
  · next same =>
    rw [same]
    exact replaceAll_match '{' (a.toList ++ ['}']) rest
  · next different =>
    have other : ¬placeholder a <+: placeholder b ++ rest := fun fits =>
      different (by rw [placeholder_self plain plain' fits])
    have inner : '{' ∉ b.toList ++ ['}'] := by
      simpa using plain'.not_mem (c := '{') (by decide)
    have kept : replaceAll (placeholder a) value (b.toList ++ ['}'] ++ rest) =
        b.toList ++ ['}'] ++ replaceAll (placeholder a) value rest := replaceAll_append inner
    have text : placeholder b ++ rest = '{' :: (b.toList ++ ['}'] ++ rest) := by simp [placeholder]
    rw [text] at other ⊢
    rw [replaceAll_skip value other,kept]
    simp [placeholder]

/-- Each name of the parts is written as a placeholder or without an opening brace. -/
def Written (write : String → List Char) (parts : List (List Char × String)) : Prop :=
  ∀ part ∈ parts, '{' ∉ write part.2 ∨ ∃ name, PlainName name ∧ write part.2 = placeholder name

section
variable {write : String → List Char} {parts : List (List Char × String)} {last : List Char}

theorem spell_congr (other : String → List Char)
    (same : ∀ part ∈ parts, write part.2 = other part.2) :
    spell write parts last = spell other parts last := by
  induction parts with
  | nil => rfl
  | cons part parts ih =>
    obtain ⟨first,rest⟩ := List.forall_mem_cons.mp same
    simp only [spell,first,ih rest]

theorem replaceAll_spell {name : String} (fits : Parts parts last) (written : Written write parts)
    (plain : PlainName name) (value : List Char) :
    replaceAll (placeholder name) value (spell write parts last) =
      spell (fun n => if write n = placeholder name then value else write n) parts last := by
  induction parts with
  | nil =>
    have kept : replaceAll (placeholder name) value (last ++ []) = last ++ [] := replaceAll_append fits.last
    simpa [spell] using kept
  | cons part parts ih =>
    obtain ⟨literal,n⟩ := part
    obtain ⟨closed,literals⟩ := List.forall_mem_cons.mp fits.literal
    obtain ⟨_,plains⟩ := List.forall_mem_cons.mp fits.plain
    obtain ⟨form,forms⟩ := List.forall_mem_cons.mp written
    have rest := ih ⟨literals,plains,fits.last⟩ forms
    have skipped : ∀ text, replaceAll (placeholder name) value (literal ++ text) =
        literal ++ replaceAll (placeholder name) value text := fun _ => replaceAll_append closed
    rw [spell,spell,skipped]
    congr 1
    rcases form with open' | ⟨m,plain',same⟩
    · have different : write n ≠ placeholder name := by
        intro same
        apply open'
        simp [same,placeholder]
      rw [if_neg different,← rest]
      exact replaceAll_append open'
    · rw [same,replaceAll_placeholder plain plain',rest]

/-- Empty values take all placeholders of their names away. -/
theorem fill_empty {names : List String} (fits : Parts parts last) (written : Written write parts)
    (plain : ∀ name ∈ names, PlainName name) :
    fill (spell write parts last) (names.map fun name => (name,[])) =
      spell (fun n => if ∃ name ∈ names, write n = placeholder name then [] else write n) parts last := by
  induction names generalizing write with
  | nil => exact spell_congr _ fun part _ => by simp
  | cons name names ih =>
    obtain ⟨first,rest⟩ := List.forall_mem_cons.mp plain
    have next : Written (fun n => if write n = placeholder name then [] else write n) parts := by
      intro part member
      by_cases same : write part.2 = placeholder name
      · simp [same]
      · simpa [same] using written part member
    rw [List.map_cons,fill,List.foldl_cons,replaceAll_spell fits written first]
    refine (ih next rest).trans (spell_congr _ fun part _ => ?_)
    by_cases same : write part.2 = placeholder name
    · have empty : ∀ m, [] ≠ placeholder m := fun m h => placeholder_ne_nil m h.symm
      simp [same,empty]
    · simp [same]

theorem length_spell_empty (write : String → List Char) (parts : List (List Char × String))
    (last : List Char) :
    (spell (fun _ => []) parts last).length ≤ (spell write parts last).length := by
  induction parts with
  | nil => exact le_rfl
  | cons part parts ih =>
    obtain ⟨literal,name⟩ := part
    simp only [spell,List.length_append,List.length_nil]
    omega

theorem substituteInOrder_empty (fits : Parts parts last) :
    substituteInOrder (parts.map fun _ => []) (spell placeholder parts last) =
      spell (fun _ => []) parts last := by
  induction parts with
  | nil => rfl
  | cons part parts ih =>
    obtain ⟨literal,name⟩ := part
    obtain ⟨closed,literals⟩ := List.forall_mem_cons.mp fits.literal
    obtain ⟨plain,plains⟩ := List.forall_mem_cons.mp fits.plain
    rw [spell,List.map_cons,substituteInOrder_hole closed plain,ih ⟨literals,plains,fits.last⟩]
    rfl

end

/-- The first value that brings out the order of two variables. -/
def disturbing (a b : String) : List Char := if a = b then ['x'] else placeholder b

/-- With two variables or more some values do not end where they belong: one that spells the
second placeholder, or any other if both have one name. -/
theorem fill_disturbed {a b : String} {literal literal' last : List Char}
    {parts : List (List Char × String)}
    (fits : Parts ((literal,a) :: (literal',b) :: parts) last) :
    fill (spell placeholder ((literal,a) :: (literal',b) :: parts) last)
        ((a,disturbing a b) :: (b,[]) :: parts.map fun part => (part.2,[])) ≠
      substituteInOrder (disturbing a b :: [] :: parts.map fun _ => [])
        (spell placeholder ((literal,a) :: (literal',b) :: parts) last) := by
  obtain ⟨closed,literals⟩ := List.forall_mem_cons.mp fits.literal
  obtain ⟨plain,plains⟩ := List.forall_mem_cons.mp fits.plain
  have later : Parts ((literal',b) :: parts) last := ⟨literals,plains,fits.last⟩
  have plain' : PlainName b := (List.forall_mem_cons.mp plains).1
  have written : Written placeholder ((literal,a) :: (literal',b) :: parts) := fun part member =>
    .inr ⟨part.2,fits.plain part member,rfl⟩
  have next : Written (fun n => if placeholder n = placeholder a then disturbing a b else placeholder n)
      ((literal,a) :: (literal',b) :: parts) := by
    intro part member
    by_cases same : placeholder part.2 = placeholder a
    · by_cases one : a = b
      · simp [same,disturbing,one]
      · exact .inr ⟨b,plain',by simp [same,disturbing,one]⟩
    · exact .inr ⟨part.2,fits.plain part member,by simp [same]⟩
  have pairs : (a,disturbing a b) :: (b,[]) :: parts.map (fun part => (part.2,([] : List Char))) =
      (a,disturbing a b) :: (((literal',b) :: parts).map Prod.snd).map fun n => (n,[]) := by
    simp
  have others : ∀ n ∈ ((literal',b) :: parts).map Prod.snd, PlainName n := by
    intro n member
    obtain ⟨part,inside,rfl⟩ := List.mem_map.mp member
    exact plains part inside
  have ordered : substituteInOrder (disturbing a b :: [] :: parts.map fun _ => [])
      (spell placeholder ((literal,a) :: (literal',b) :: parts) last) =
      literal ++ (disturbing a b ++ spell (fun _ => []) ((literal',b) :: parts) last) := by
    rw [spell,substituteInOrder_hole closed plain]
    exact congrArg (fun text => literal ++ (disturbing a b ++ text)) (substituteInOrder_empty later)
  rw [pairs,fill,List.foldl_cons,replaceAll_spell fits written plain,ordered]
  change fill _ _ ≠ _
  rw [fill_empty fits next others]
  intro same
  have lengths := congrArg List.length same
  by_cases one : a = b
  · -- both places get the first value, the second value is lost
    have unlike : ∀ n, ['x'] ≠ placeholder n := by simp [placeholder]
    subst one
    simp only [spell,disturbing,↓reduceIte,unlike,and_false,exists_false,List.length_append,
      List.length_cons,List.length_nil] at lengths
    have shorter := length_spell_empty (fun n => if ∃ name ∈ ((literal',a) :: parts).map Prod.snd,
        (if placeholder n = placeholder a then ['x'] else placeholder n) = placeholder name then []
      else if placeholder n = placeholder a then ['x'] else placeholder n) parts last
    omega
  · -- the first value is taken away with the second placeholder
    have gone : ∀ part ∈ (literal,a) :: (literal',b) :: parts,
        (if ∃ name ∈ ((literal',b) :: parts).map Prod.snd,
          (if placeholder part.2 = placeholder a then disturbing a b else placeholder part.2) =
            placeholder name then []
        else if placeholder part.2 = placeholder a then disturbing a b else placeholder part.2) =
          ([] : List Char) := by
      intro part member
      apply if_pos
      by_cases first : part.2 = a
      · exact ⟨b,by simp,by simp [first,disturbing,one]⟩
      · have different : placeholder part.2 ≠ placeholder a := fun h => first (placeholder_injective h)
        refine ⟨part.2,?_,by simp [different]⟩
        rcases List.mem_cons.mp member with rfl | inside
        · exact absurd rfl first
        · exact List.mem_map.mpr ⟨part,inside,rfl⟩
    rw [spell_congr (fun _ => []) gone] at lengths
    simp only [spell,disturbing,if_neg one,placeholder,List.length_append,List.length_cons,
      List.length_nil] at lengths
    omega

end GaugeMesh.Catalog
