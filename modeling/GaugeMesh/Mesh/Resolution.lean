import GaugeMesh.Mesh.Substitution
import GaugeMesh.Json.Reference

/-! The templates of a federation that sources were added to, and what their resolution comes
to for every virtual URI. -/
namespace GaugeMesh.Catalog
open Json GaugeMesh.Configuration Replace

theorem decodeBytes_plain {bytes : List UInt8} (plain : 37 ∉ bytes) :
    decodeBytes bytes = some bytes := by
  induction bytes with
  | nil => rfl
  | cons byte rest ih =>
    rw [List.mem_cons,not_or] at plain
    have later := ih plain.2
    rw [decodeBytes.eq_4]
    · rw [later]
      rfl
    · intro high low rest' same _
      exact plain.1 same.symm
    · intro same
      exact plain.1 same.symm

theorem bytes_ascii {text : List Char} (ascii : ∀ c ∈ text, c.utf8Size = 1) :
    (String.ofList text).toByteArray.data.toList = text.map fun c => c.val.toUInt8 := by
  rw [String.toByteArray_ofList,List.utf8Encode,List.toList_data_toByteArray]
  induction text with
  | nil => rfl
  | cons c rest ih =>
    obtain ⟨first,others⟩ := List.forall_mem_cons.mp ascii
    rw [List.flatMap_cons,String.utf8EncodeChar_eq_singleton first,ih others]
    rfl

theorem percentDecode_plain {text : List Char} (plain : ∀ c ∈ text, c.utf8Size = 1 ∧ c ≠ '%') :
    percentDecode (String.ofList text) = some (String.ofList text) := by
  have absent : 37 ∉ (String.ofList text).toByteArray.data.toList := by
    rw [bytes_ascii fun c member => (plain c member).1,List.mem_map]
    rintro ⟨c,member,same⟩
    obtain ⟨size,other⟩ := plain c member
    have small : c.val.toNat ≤ 127 := UInt32.le_iff_toNat_le.mp (Char.utf8Size_eq_one_iff.mp size)
    have byte := congrArg UInt8.toNat same
    rw [UInt32.toNat_toUInt8] at byte
    exact other (Char.ext (UInt32.toNat_inj.mp (by change c.val.toNat = 37; change c.val.toNat % 256 = 37 at byte; omega)))
  rw [percentDecode,decodeBytes_plain absent,Option.bind_some,Array.toArray_toList]
  exact dif_pos (String.ofList text).isValidUTF8

theorem scanVariables_hole (found : List String) {literal rest : List Char} {name : String}
    (closed : '{' ∉ literal) (plain : PlainName name) (named : name ≠ "")
    (short : name.utf8ByteSize ≤ 64) :
    scanVariables found (literal ++ (placeholder name ++ rest)) = scanVariables (found ++ [name]) rest := by
  have text : literal ++ (placeholder name ++ rest) = literal ++ '{' :: (name.toList ++ '}' :: rest) := by
    simp [placeholder]
  have close : '}' ∉ name.toList := plain.not_mem (by decide)
  have opens := (takeWhile_before (name.toList ++ '}' :: rest) closed).2
  obtain ⟨inner,closes⟩ := takeWhile_before rest close
  rw [text,scanVariables]
  split
  · next none => rw [opens] at none; cases none
  · next opened =>
    rw [opens] at opened
    cases opened
    split
    · next none => rw [closes] at none; cases none
    · next closed =>
      rw [closes] at closed
      cases closed
      have nonempty : name.toList ≠ [] := by simpa using named
      rw [inner]
      simp only [String.ofList_toList]
      apply if_neg
      rw [not_or,not_or,not_not]
      exact ⟨nonempty,by omega,plain⟩

theorem scanVariables_done (found : List String) {text : List Char} (closed : '{' ∉ text) :
    scanVariables found text =
      if text.contains '}' ∨ found = [] ∨ found.length > 8 then none else some found := by
  have rest : text.dropWhile (· ≠ '{') = [] := by
    rw [List.dropWhile_eq_nil_iff]
    intro c member
    have other : c ≠ '{' := fun same => closed (same ▸ member)
    simpa using other
  rw [scanVariables]
  split
  · rfl
  · next opened => rw [rest] at opened; cases opened

variable {template : FederatedResourceTemplate}

theorem PlainName.ascii {name : String} (plain : PlainName name) :
    ∀ c ∈ name.toList, c.utf8Size = 1 ∧ c ≠ '%' := by
  intro c member
  rw [PlainName,alphanumericOr,List.all_eq_true] at plain
  have letter := plain c member
  constructor
  · rw [Char.utf8Size_eq_one_iff,UInt32.le_iff_toNat_le]
    have ranges : c.isAlphanum = (decide (c.val ≥ 'A'.val ∧ c.val ≤ 'Z'.val) ||
        (decide (c.val ≥ 'a'.val) && decide (c.val ≤ 'z'.val)) ||
        (decide (c.val ≥ '0'.val) && decide (c.val ≤ '9'.val))) := rfl
    simp [ranges,UInt32.le_iff_toNat_le] at letter
    rcases letter with ((upper | lower) | digit) | rfl | rfl
    · exact upper.2.trans (by decide)
    · exact lower.2.trans (by decide)
    · exact digit.2.trans (by decide)
    · decide
    · decide
  · rintro rfl
    exact absurd letter (by decide)

theorem disturbing_plain {a b : String} (plain : PlainName b) :
    (∀ c ∈ disturbing a b, c.utf8Size = 1 ∧ c ≠ '%') ∧ '/' ∉ disturbing a b := by
  have slash : '/' ∉ b.toList := plain.not_mem (by decide)
  rw [disturbing]
  split
  · simp
    decide
  · constructor
    · intro c member
      rw [placeholder,List.cons_append,List.mem_cons,List.mem_append,List.mem_singleton] at member
      rcases member with rfl | inner | rfl
      · decide
      · exact plain.ascii c inner
      · decide
    · simp [placeholder,slash]

theorem mapM_plain {segments : List (List Char)}
    (plain : ∀ segment ∈ segments, ∀ c ∈ segment, c.utf8Size = 1 ∧ c ≠ '%') :
    (segments.mapM fun segment => percentDecode (String.ofList segment)) =
      some (segments.map String.ofList) := by
  induction segments with
  | nil => rfl
  | cons segment segments ih =>
    obtain ⟨first,others⟩ := List.forall_mem_cons.mp plain
    rw [List.mapM_cons,percentDecode_plain first,ih others]
    rfl

/-- A template with two variables or more has a URI whose values do not go where they belong. -/
theorem resolveOne_disturbed (holes : Holes template.nativeUriTemplate.toList template.«variables»)
    (more : 1 < template.«variables».length) :
    ∃ uri native, resolveOne uri template = some (template,native) ∧
      ¬InOrder template uri native := by
  obtain ⟨parts,last,fits,text,names⟩ := holes.parts
  match parts with
  | [] => simp [names] at more
  | [_] => simp [names] at more
  | (literal,a) :: (literal',b) :: parts =>
    have plain : PlainName b := fits.plain (literal',b) (by simp)
    obtain ⟨ascii,slash⟩ := disturbing_plain (a := a) plain
    let values := disturbing a b :: [] :: parts.map fun _ => []
    let uri := String.ofList (template.virtualPrefix.toList ++ ['/'].intercalate values)
    have cut : (['/'].intercalate values).splitOn '/' = values := by
      apply List.splitOn_intercalate
      · intro value member
        simp only [values,List.mem_cons,List.mem_map] at member
        rcases member with rfl | rfl | ⟨part,inside,rfl⟩
        · exact slash
        · simp
        · simp
      · simp [values]
    have decoded : decodedSegments template uri = some (values.map String.ofList) := by
      rw [decodedSegments,String.toList_ofList,List.drop_left,cut]
      apply mapM_plain
      intro value member
      simp only [values,List.mem_cons,List.mem_map] at member
      rcases member with rfl | rfl | ⟨part,inside,rfl⟩
      · exact ascii
      · simp
      · simp
    have back : (values.map String.ofList).map String.toList = values := by
      simp [Function.comp_def]
    have pairs : template.«variables».zip values =
        (a,disturbing a b) :: (b,[]) :: parts.map fun part => (part.2,[]) := by
      have rest : (parts.map Prod.snd).zip (parts.map fun _ => ([] : List Char)) =
          parts.map fun part => (part.2,[]) := by
        rw [List.zip_map']
      rw [names]
      simp only [values,List.map_cons,List.zip_cons_cons,rest]
    refine ⟨uri,_,resolveOne_some.mpr ⟨?_,rfl,_,decoded,?_,rfl⟩,?_⟩
    · rw [String.toList_ofList]
      exact List.prefix_append _ _
    · rw [names]
      simp [values]
    · rintro ⟨values',same,filled⟩
      rw [decoded] at same
      cases same
      rw [back,pairs,text] at filled
      exact fill_disturbed fits (String.ofList_injective filled)

section
variable [FloatText] [Sha256] [UnicodeNormalization]

/-- Sources are added to a new federation or to one there is, and federations are merged. -/
inductive Federation.Built : Federation → Prop where
  | default : Built .default
  | source (source : McpSourceConfig) (discovered : CapturedDiscovery) : Built federation →
      addSourceCapabilities source federation discovered = .ok next → Built next
  | merge : Built federation → Built other → Built (federation.merge other).1

/-- Every template has simple variables only, and these are its variables. -/
def Federation.Scanned (federation : Federation) : Prop :=
  ∀ key template, federation.templates.get key = some template →
    simpleTemplateVariables template.nativeUriTemplate = some template.«variables»

omit [FloatText] [Sha256] [UnicodeNormalization] in
theorem taken_ok {updated : Federation × Except FederationError Unit} {next : Federation}
    (done : taken updated = .ok next) : next = updated.1 := by
  rw [taken] at done
  split at done
  · cases done
    rfl
  · cases done

omit [FloatText] [Sha256] [UnicodeNormalization] in
/-- What a step keeps is kept by a loop of such steps. -/
theorem foldlM_keeps {step : β → α → Except ε β} {keeps : β → Prop} {items : List α} {b c : β}
    (kept : ∀ b item c, keeps b → step b item = .ok c → keeps c) (start : keeps b)
    (ran : items.foldlM step b = .ok c) : keeps c := by
  induction items generalizing b with
  | nil =>
    cases ran
    exact start
  | cons item items ih =>
    rw [List.foldlM_cons] at ran
    obtain ⟨next,first,rest⟩ := Except.bind_ok.mp ran
    exact ih (kept b item next start first) rest

theorem addTemplate_scanned {source : McpSourceConfig} {revision : String}
    {federation next : Federation} {item : McpResourceTemplate} (scanned : federation.Scanned)
    (added : addTemplate source revision federation item = .ok next) : next.Scanned := by
  rw [addTemplate] at added
  split at added
  · cases added
    exact scanned
  · next names found =>
    rw [taken_ok added]
    intro key template there
    rw [Federation.insertTemplate,insertNew] at there
    split at there
    · exact scanned key template there
    · rw [OrderedMap.get_insert] at there
      split at there
      · cases there
        exact found
      · exact scanned key template there

theorem addSourceCapabilities_scanned {source : McpSourceConfig} {federation next : Federation}
    {discovered : CapturedDiscovery} (scanned : federation.Scanned)
    (added : addSourceCapabilities source federation discovered = .ok next) : next.Scanned := by
  simp only [addSourceCapabilities,Except.bind_ok] at added
  obtain ⟨tools,first,resources,second,templates,third,last⟩ := added
  have afterTools : tools.Scanned := by
    refine foldlM_keeps (fun federation tool next kept ran => ?_) scanned first
    simp only [addTool,Except.then_ok] at ran
    rw [taken_ok ran.2]
    exact kept
  have afterResources : resources.Scanned := by
    refine foldlM_keeps (fun federation resource next kept ran => ?_) afterTools second
    rw [taken_ok ran]
    exact kept
  have afterTemplates : templates.Scanned :=
    foldlM_keeps (fun _ _ _ kept ran => addTemplate_scanned kept ran) afterResources third
  refine foldlM_keeps (fun federation prompt next kept ran => ?_) afterTemplates last
  rw [taken_ok ran]
  exact kept

theorem Federation.Built.scanned {federation : Federation} (built : federation.Built) :
    federation.Scanned := by
  induction built with
  | default =>
    intro key template there
    cases there
  | source source discovered _ added ih => exact addSourceCapabilities_scanned ih added
  | merge _ _ ih ih' =>
    rw [Federation.merge]
    split
    · exact ih
    · intro key template there
      rw [OrderedMap.get_extend,Option.or_eq_some_iff] at there
      rcases there with joined | ⟨-,old⟩
      · exact ih' key template joined
      · exact ih key template old

omit [FloatText] [Sha256] [UnicodeNormalization] in
theorem scanVariables_nonempty {found names : List String} {text : List Char}
    (scanned : scanVariables found text = some names) : names ≠ [] := by
  fun_induction scanVariables found text with
  | case1 => cases scanned
  | case2 found remaining opened good =>
    cases scanned
    tauto
  | case3 => cases scanned
  | case4 => cases scanned
  | case5 _ _ _ _ _ _ _ _ _ _ ih => exact ih scanned

theorem Federation.Built.variables {federation : Federation} (built : federation.Built)
    {template : FederatedResourceTemplate} (member : template ∈ federation.templates.values) :
    template.«variables» ≠ [] := by
  obtain ⟨⟨key,value⟩,inside,rfl⟩ := List.mem_map.mp member
  exact scanVariables_nonempty (built.scanned key value (OrderedMap.mem_entries.mp inside))

theorem Federation.Built.holes {federation : Federation} (built : federation.Built)
    {template : FederatedResourceTemplate} (member : template ∈ federation.templates.values) :
    Holes template.nativeUriTemplate.toList template.«variables» := by
  obtain ⟨⟨key,value⟩,inside,rfl⟩ := List.mem_map.mp member
  have scan := built.scanned key value (OrderedMap.mem_entries.mp inside)
  obtain ⟨own,same,holes⟩ := scanVariables_holes scan
  rw [same]
  exact holes

/-- A resolved URI has the decoded segments in place of the placeholders, in order, if each
placeholder stands once in the text when its turn comes; and this is so for every URI of a
template exactly if the template has one variable. -/
theorem resolveTemplate_in_order {federation : Federation} (built : federation.Built) :
    (∀ uri template native, federation.resolveTemplate uri = some (template,native) →
      Undisturbed template uri → InOrder template uri native) ∧
    ∀ template ∈ federation.templates.values,
      (∀ uri native, resolveOne uri template = some (template,native) →
        InOrder template uri native) ↔ template.«variables».length = 1 := by
  constructor
  · intro uri template native resolved undisturbed
    obtain ⟨candidate,member,resolves⟩ := List.exists_of_findSome?_eq_some resolved
    have same := (resolveOne_some.mp resolves).2.1
    subst same
    exact (resolveOne_in_order (built.holes member) resolves undisturbed).2
  · intro template member
    have holes := built.holes member
    constructor
    · intro always
      by_contra several
      have positive := List.length_pos_iff.mpr (built.variables member)
      obtain ⟨uri,native,resolves,wrong⟩ := resolveOne_disturbed holes (by omega)
      exact wrong (always uri native resolves)
    · intro one uri native resolves
      obtain ⟨name,alone⟩ := List.length_eq_one_iff.mp one
      exact (resolveOne_in_order holes resolves
        (undisturbed_alone alone (alone ▸ holes))).2

end

end GaugeMesh.Catalog

namespace GaugeMesh.Reference

/-- A normalization that is right for plain ASCII texts. -/
scoped instance plainNormalization : UnicodeNormalization := ⟨id⟩

end GaugeMesh.Reference

namespace GaugeMesh.Catalog
open Json GaugeMesh.Configuration Replace Reference

/-- A source with one template of two variables. -/
def tablesSource : McpSourceConfig :=
  ⟨"tables",.stdio "/usr/bin/tables" [],"2026-07-28",none,.nonShareable,true,.deny⟩

def rowTemplate : McpResourceTemplate := ⟨"db://\x7ba\x7d/\x7bb\x7d","row",none,none,.object []⟩

noncomputable def rowEntry : FederatedResourceTemplate :=
  let identity := sourceIdentity tablesSource "2026-07-28" .resourceTemplate rowTemplate.uriTemplate
    rowTemplate.json
  let front := virtualUri tablesSource "template" identity ++ ['/']
  ⟨identity,String.ofList (front ++ ['/'].intercalate (["a","b"].map placeholder)),
    String.ofList front,rowTemplate.uriTemplate,boundedText "row" 1024,boundedText "" 4096,none,
    ["a","b"]⟩

noncomputable def rowFederation : Federation := (Federation.default.insertTemplate rowEntry).1

theorem plainName_a : PlainName "a" := by
  rw [PlainName]
  decide

theorem plainName_b : PlainName "b" := by
  rw [PlainName]
  decide

theorem rowTemplate_text : rowTemplate.uriTemplate.toList =
    ['d','b',':','/','/'] ++ (placeholder "a" ++ (['/'] ++ (placeholder "b" ++ []))) := by
  decide

theorem rowTemplate_scanned : simpleTemplateVariables rowTemplate.uriTemplate = some ["a","b"] := by
  rw [simpleTemplateVariables,rowTemplate_text,
    scanVariables_hole [] (by decide) plainName_a (by decide) (by decide),
    scanVariables_hole _ (by decide) plainName_b (by decide) (by decide),
    scanVariables_done _ (by decide)]
  rfl

theorem rowFederation_built : rowFederation.Built := by
  refine .source tablesSource ⟨[],[],[rowTemplate],[],"2026-07-28"⟩ .default ?_
  have added : addTemplate tablesSource "2026-07-28" .default rowTemplate = .ok rowFederation := by
    rw [addTemplate,rowTemplate_scanned]
    rfl
  simp [addSourceCapabilities,added]

/-- The first segment spells the second placeholder. -/
noncomputable def rowUri : String :=
  String.ofList (rowEntry.virtualPrefix.toList ++ ['/'].intercalate [placeholder "b",['s','e','c','r','e','t']])

theorem rowUri_decoded : decodedSegments rowEntry rowUri = some ["\x7bb\x7d","secret"] := by
  have cut : (['/'].intercalate [placeholder "b",['s','e','c','r','e','t']]).splitOn '/' =
      [placeholder "b",['s','e','c','r','e','t']] := List.splitOn_intercalate _ (by decide) (by simp)
  have all : ([placeholder "b",['s','e','c','r','e','t']].all fun segment =>
      segment.all fun c => c.utf8Size == 1 && c != '%') = true := rfl
  simp only [List.all_eq_true,Bool.and_eq_true,beq_iff_eq,bne_iff_ne] at all
  rw [decodedSegments,rowUri,String.toList_ofList,List.drop_left,cut,mapM_plain all]
  rfl

/-- The first value is rewritten to the second one. -/
theorem row_rewritten : rowFederation.Built ∧
    rowFederation.resolveTemplate rowUri = some (rowEntry,"db://secret/secret") ∧
      ¬InOrder rowEntry rowUri "db://secret/secret" := by
  have only : rowFederation.templates.values = [rowEntry] := rfl
  have names : rowEntry.«variables» = ["a","b"] := rfl
  have text : rowEntry.nativeUriTemplate = rowTemplate.uriTemplate := rfl
  have front : rowEntry.virtualPrefix.toList <+: rowUri.toList := by
    rw [rowUri,String.toList_ofList]
    exact List.prefix_append _ _
  have resolves : resolveOne rowUri rowEntry = some (rowEntry,"db://secret/secret") := by
    refine resolveOne_some.mpr ⟨front,rfl,_,rowUri_decoded,rfl,?_⟩
    rw [text,names]
    decide
  refine ⟨rowFederation_built,?_,?_⟩
  · rw [Federation.resolveTemplate,only,List.findSome?_cons,resolves]
  · rintro ⟨values,decoded,same⟩
    rw [rowUri_decoded] at decoded
    cases decoded
    rw [text] at same
    exact absurd same (by decide)

theorem resolveTemplate_in_order_rows :
    (∀ uri template native, rowFederation.resolveTemplate uri = some (template,native) →
      Undisturbed template uri → InOrder template uri native) ∧
    ∀ template ∈ rowFederation.templates.values,
      (∀ uri native, resolveOne uri template = some (template,native) →
        InOrder template uri native) ↔ template.«variables».length = 1 :=
  resolveTemplate_in_order rowFederation_built

end GaugeMesh.Catalog
