import GaugeMesh.Canonical
import GaugeMesh.Json.OrderedMap
import GaugeMesh.Json.Reference

/-! What canonical JSON identifies: documents that differ in the order of their keys, and no
others. The digests of documents are told apart as far. -/
namespace Json

theorem Entries.mem_insert {key : String} {value : α} {entries : Entries α} {entry : String × α}
    (member : entry ∈ Entries.insert key value entries) : entry = (key,value) ∨ entry ∈ entries := by
  induction entries with
  | nil => exact .inl (List.mem_singleton.mp member)
  | cons head rest ih =>
    obtain ⟨k,v⟩ := head
    rw [Entries.insert] at member
    split at member
    · exact List.mem_cons.mp member
    split at member
    · rcases List.mem_cons.mp member with new | later
      · exact .inl new
      · exact .inr (List.mem_cons_of_mem _ later)
    · rcases List.mem_cons.mp member with rfl | later
      · exact .inr List.mem_cons_self
      · exact (ih later).imp id (List.mem_cons_of_mem _)

theorem Entries.mem_collect {entries : Entries α} {entry : String × α}
    (member : entry ∈ Entries.collect entries) : entry ∈ entries := by
  induction entries using List.reverseRecOn with
  | nil => cases member
  | append_singleton front last ih =>
    rw [Entries.collect,List.foldl_append] at member
    apply List.mem_append.mpr
    rcases Entries.mem_insert member with rfl | before
    · exact .inr List.mem_cons_self
    · exact .inl (ih before)

theorem Entries.sorted_collect (entries : Entries α) : Entries.Sorted (Entries.collect entries) := by
  have map := (OrderedMap.collect entries).sorted
  rwa [OrderedMap.collect,OrderedMap.entries_foldl] at map

/-- Entries in key order are determined by what they are, whatever their order was. -/
theorem Entries.collect_congr {left right : Entries α} (distinct : (left.map Prod.fst).Nodup)
    (same : left.Perm right) : Entries.collect left = Entries.collect right := by
  have distinct' : (right.map Prod.fst).Nodup := (same.map Prod.fst).nodup_iff.mp distinct
  have entries : (Entries.collect left).Perm (Entries.collect right) :=
    (Entries.collect_perm left distinct).trans
      (same.trans (Entries.collect_perm right distinct').symm)
  have antisymmetric : ∀ a b : String × α, a ∈ Entries.collect left →
      b ∈ Entries.collect right → a.1 < b.1 → b.1 < a.1 → a = b := by
    intro a b _ _ before after
    exact absurd after (lt_asymm before)
  apply entries.eq_of_pairwise antisymmetric
  · exact List.pairwise_map.mp (Entries.sorted_collect left)
  · exact List.pairwise_map.mp (Entries.sorted_collect right)

/-- A value as the library holds it: no object has one key twice. -/
structure Document where
  value : Value
  distinct : value.Distinct

end Json

namespace GaugeMesh
open Json

theorem mem_canonicalEntries {entries : List (String × Value)} {name : String} {w : Value} :
    (name,w) ∈ canonicalEntries entries ↔ ∃ v, (name,v) ∈ entries ∧ canonicalJson v = w := by
  induction entries with
  | nil => simp [canonicalEntries]
  | cons entry rest ih =>
    obtain ⟨k,v⟩ := entry
    rw [canonicalEntries,List.mem_cons,ih]
    constructor
    · rintro (head | ⟨v,there,canonical⟩)
      · cases head
        exact ⟨v,List.mem_cons_self,rfl⟩
      · exact ⟨v,List.mem_cons_of_mem _ there,canonical⟩
    · rintro ⟨v,there,rfl⟩
      rcases List.mem_cons.mp there with head | there
      · cases head
        exact .inl rfl
      · exact .inr ⟨v,there,rfl⟩

theorem canonicalEntries_subset {left right : List (String × Value)}
    (keys : left.map Prod.fst ⊆ right.map Prod.fst)
    (values : ∀ name v w, (name,v) ∈ left → (name,w) ∈ right → canonicalJson v = canonicalJson w) :
    canonicalEntries left ⊆ canonicalEntries right := by
  rintro ⟨name,canonical⟩ member
  obtain ⟨v,here,rfl⟩ := mem_canonicalEntries.mp member
  obtain ⟨⟨other,w⟩,there,rfl⟩ := List.mem_map.mp (keys (List.mem_map_of_mem here))
  exact mem_canonicalEntries.mpr ⟨w,there,(values _ v w here there).symm⟩

/-- Values that differ in the order of their keys only have one canonical form. -/
theorem canonical_of_reordered {v w : Value} (reordered : v.Reordered w) (distinct : v.Distinct)
    (distinct' : w.Distinct) : canonicalJson v = canonicalJson w := by
  induction reordered with
  | same => rfl
  | @array left right length items ih =>
    rw [Value.Distinct] at distinct distinct'
    rw [canonicalJson,canonicalJson]
    apply congrArg Value.array
    apply List.ext_getElem?
    intro i
    rw [canonicalItems_get,canonicalItems_get]
    rcases here : left[i]? with _ | v
    · rw [List.getElem?_eq_none_iff,length] at here
      rw [List.getElem?_eq_none_iff.mpr here]
    · obtain ⟨inside,-⟩ := List.getElem?_eq_some_iff.mp here
      rw [length] at inside
      have there := List.getElem?_eq_getElem inside
      rw [there]
      apply congrArg some
      exact ih i v _ here there (distinct.get (List.mem_of_getElem? here))
        (distinct'.get (List.mem_of_getElem? there))
  | @object left right keys values ih =>
    rw [Value.Distinct] at distinct distinct'
    rw [canonicalJson,canonicalJson]
    apply congrArg Value.object
    have fields : ∀ name v w, (name,v) ∈ left → (name,w) ∈ right →
        canonicalJson v = canonicalJson w := fun name v w here there =>
      ih name v w here there (distinct.2.get here) (distinct'.2.get there)
    have once : ((canonicalEntries left).map Prod.fst).Nodup := by
      rw [keys_canonicalEntries]
      exact distinct.1
    have once' : ((canonicalEntries right).map Prod.fst).Nodup := by
      rw [keys_canonicalEntries]
      exact distinct'.1
    apply Entries.collect_congr once
    apply (List.perm_ext_iff_of_nodup (.of_map _ once) (.of_map _ once')).mpr
    intro entry
    constructor
    · apply canonicalEntries_subset keys.subset fields
    · apply canonicalEntries_subset keys.symm.subset
      intro name w v there here
      exact (fields name v w here there).symm

/-- A canonical value is its own canonical form. -/
theorem canonicalJson_canonicalJson (v : Value) : canonicalJson (canonicalJson v) = canonicalJson v := by
  match v with
  | .object entries =>
    rw [canonicalJson]
    apply canonicalJson_object (Entries.sorted_collect _)
    rintro ⟨name,canonical⟩ member
    obtain ⟨v,here,rfl⟩ := mem_canonicalEntries.mp (Entries.mem_collect member)
    have : sizeOf v < 1 + sizeOf entries := by
      have := List.sizeOf_lt_of_mem here
      simp only [Prod.mk.sizeOf_spec] at this
      omega
    exact canonicalJson_canonicalJson v
  | .array items =>
    rw [canonicalJson,canonicalJson]
    apply congrArg Value.array
    apply List.ext_getElem?
    intro i
    rw [canonicalItems_get,canonicalItems_get]
    rcases here : items[i]? with _ | v
    · rfl
    · have := List.sizeOf_lt_of_mem (List.mem_of_getElem? here)
      exact congrArg some (canonicalJson_canonicalJson v)
  | .null | .bool _ | .number _ | .string _ => simp only [canonicalJson]
termination_by sizeOf v

section Digests
variable [FloatText] [Sha256]

/-- Documents have one canonical text, and one digest, exactly when they differ in the order of
their keys only. -/
theorem canonicalJson_exact (hash : Function.Injective Sha256.digest) (x y : Document) :
    ((canonicalJson x.value).text = (canonicalJson y.value).text ↔ x.value.Reordered y.value) ∧
    canonicalJson (canonicalJson x.value) = canonicalJson x.value ∧
    (Sha256Digest.ofJson x.value = Sha256Digest.ofJson y.value ↔
      x.value.Reordered y.value) := by
  have canonical : canonicalJson x.value = canonicalJson y.value ↔ x.value.Reordered y.value := by
    constructor
    · exact reordered_of_canonical _ _ x.distinct y.distinct
    · intro reordered
      exact canonical_of_reordered reordered x.distinct y.distinct
  refine ⟨?texts,canonicalJson_canonicalJson _,?digests⟩
  case texts =>
    rw [← canonical]
    exact Value.text_injective.eq_iff
  case digests =>
    rw [← canonical]
    constructor
    · exact Sha256Digest.ofJson_injective hash _ _
    · intro same
      rw [Sha256Digest.ofJson,Sha256Digest.ofJson,same]

end Digests

section Example
open Reference

/-- Two keys below an array, in either order. -/
def alphabetical : Document :=
  ⟨.array [.object [("a",.null),("b",.array [])]],
    by simp [Value.Distinct,Value.DistinctItems,Value.DistinctEntries]⟩

def reversed : Document :=
  ⟨.array [.object [("b",.array []),("a",.null)]],
    by simp [Value.Distinct,Value.DistinctItems,Value.DistinctEntries]⟩

theorem canonicalJson_exact_example :
    Sha256Digest.ofJson alphabetical.value = Sha256Digest.ofJson reversed.value ∧
      alphabetical.value ≠ reversed.value := by
  have objects : (Value.object [("a",.null),("b",.array [])]).Reordered
      (.object [("b",.array []),("a",.null)]) := by
    refine .object (List.Perm.swap "b" "a" []) fun name v w here there => ?_
    simp only [List.mem_cons,Prod.mk.injEq,List.not_mem_nil,or_false] at here there
    obtain ⟨rfl,rfl⟩ | ⟨rfl,rfl⟩ := here <;> simp at there <;> exact there ▸ .same _
  have values : alphabetical.value.Reordered reversed.value := by
    change (Value.array [_]).Reordered (.array [_])
    refine .array rfl fun i v w here there => ?_
    rcases i with _ | i
    · cases here
      cases there
      exact objects
    · cases here
  exact ⟨(canonicalJson_exact Function.injective_id alphabetical reversed).2.2.mpr values,
    by decide⟩

end Example
end GaugeMesh
