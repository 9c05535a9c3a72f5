import GaugeMesh.Digest
import Mathlib.Data.List.Nodup

/-! Canonical objects are equal field by field: collecting entries with different keys into an
ordered map loses none of them, so an injective digest of an object commits to every field. -/
namespace Json

theorem find_insert (name key : String) (value : Value) (entries : List (String × Value)) :
    Value.find name (Entries.insert key value entries) =
      if key = name then some value else Value.find name entries := by
  induction entries with
  | nil => rfl
  | cons entry rest ih =>
    obtain ⟨k,v⟩ := entry
    rw [Entries.insert]
    split
    · rfl
    · split
      · next same =>
        subst same
        rw [Value.find_cons,Value.find_cons]
        split <;> rfl
      · next other =>
        rw [Value.find_cons,Value.find_cons,ih]
        by_cases here : k = name
        · subst here
          rw [if_pos rfl,if_pos rfl,if_neg other]
        · rw [if_neg here,if_neg here]

theorem find_absent {name : String} {entries : List (String × Value)}
    (absent : name ∉ entries.map Prod.fst) : Value.find name entries = none := by
  induction entries with
  | nil => rfl
  | cons entry rest ih =>
    obtain ⟨k,v⟩ := entry
    rw [List.map_cons,List.mem_cons,not_or] at absent
    rw [Value.find_cons,if_neg (fun same => absent.1 same.symm),ih absent.2]

/-- What is collected holds the entries and what was there before. -/
theorem find_collected (name : String) (entries map : List (String × Value))
    (distinct : (entries.map Prod.fst).Nodup) :
    Value.find name (entries.foldl (fun map entry => Entries.insert entry.1 entry.2 map) map) =
      (Value.find name entries).or (Value.find name map) := by
  induction entries generalizing map with
  | nil => rfl
  | cons entry rest ih =>
    obtain ⟨k,v⟩ := entry
    obtain ⟨fresh,later⟩ := List.nodup_cons.mp distinct
    rw [List.foldl_cons,ih _ later,find_insert,Value.find_cons]
    by_cases here : k = name
    · subst here
      rw [if_pos rfl,if_pos rfl,find_absent fresh]
      rfl
    · rw [if_neg here,if_neg here]

theorem find_collect (name : String) {entries : List (String × Value)}
    (distinct : (entries.map Prod.fst).Nodup) :
    Value.find name (Entries.collect entries) = Value.find name entries := by
  rw [Entries.collect,find_collected name entries [] distinct]
  cases Value.find name entries <;> rfl

end Json

namespace Json.Value

mutual

/-- No object has one key twice, as in the library's maps. -/
def Distinct : Value → Prop
  | .array items => DistinctItems items
  | .object entries => (entries.map Prod.fst).Nodup ∧ DistinctEntries entries
  | _ => True

def DistinctItems : List Value → Prop
  | [] => True
  | v :: vs => v.Distinct ∧ DistinctItems vs

def DistinctEntries : List (String × Value) → Prop
  | [] => True
  | (_,v) :: rest => v.Distinct ∧ DistinctEntries rest

end

/-- Equal up to the order of object keys. -/
inductive Reordered : Value → Value → Prop where
  | same (v : Value) : Reordered v v
  | array {left right : List Value} (length : left.length = right.length)
      (items : ∀ (i : Nat) (v w : Value), left[i]? = some v → right[i]? = some w → Reordered v w) :
      Reordered (.array left) (.array right)
  | object {left right : List (String × Value)}
      (keys : (left.map Prod.fst).Perm (right.map Prod.fst))
      (values : ∀ name v w, (name,v) ∈ left → (name,w) ∈ right → Reordered v w) :
      Reordered (.object left) (.object right)

theorem DistinctItems.get {items : List Value} (distinct : DistinctItems items) {v : Value}
    (member : v ∈ items) : v.Distinct := by
  induction items with
  | nil => cases member
  | cons head rest ih =>
    rw [DistinctItems] at distinct
    rcases List.mem_cons.mp member with rfl | later
    · exact distinct.1
    · exact ih distinct.2 later

theorem DistinctEntries.get {entries : List (String × Value)} (distinct : DistinctEntries entries)
    {name : String} {v : Value} (member : (name,v) ∈ entries) : v.Distinct := by
  induction entries with
  | nil => cases member
  | cons head rest ih =>
    obtain ⟨k,w⟩ := head
    rw [DistinctEntries] at distinct
    rcases List.mem_cons.mp member with same | later
    · cases same; exact distinct.1
    · exact ih distinct.2 later

theorem find_of_mem {name : String} {v : Value} {entries : List (String × Value)}
    (distinct : (entries.map Prod.fst).Nodup) (member : (name,v) ∈ entries) :
    find name entries = some v := by
  induction entries with
  | nil => cases member
  | cons head rest ih =>
    obtain ⟨k,w⟩ := head
    obtain ⟨fresh,later⟩ := List.nodup_cons.mp distinct
    rw [find_cons]
    rcases List.mem_cons.mp member with same | there
    · cases same; simp
    · rw [if_neg (by rintro rfl; exact fresh (List.mem_map.mpr ⟨_,there,rfl⟩)),ih later there]

theorem find_isSome {name : String} {entries : List (String × Value)} :
    (find name entries).isSome = true ↔ name ∈ entries.map Prod.fst := by
  induction entries with
  | nil => simp
  | cons head rest ih =>
    obtain ⟨k,w⟩ := head
    rw [find_cons,List.map_cons,List.mem_cons,← ih]
    split
    · next here => simp [here]
    · next other => simp [Ne.symm other]

end Json.Value

namespace GaugeMesh
open Json

theorem keys_canonicalEntries (entries : List (String × Value)) :
    (canonicalEntries entries).map Prod.fst = entries.map Prod.fst := by
  induction entries with
  | nil => rfl
  | cons entry rest ih =>
    obtain ⟨k,v⟩ := entry
    rw [canonicalEntries,List.map_cons,List.map_cons,ih]

theorem find_canonicalEntries (name : String) (entries : List (String × Value)) :
    Value.find name (canonicalEntries entries) = (Value.find name entries).map canonicalJson := by
  induction entries with
  | nil => rfl
  | cons entry rest ih =>
    obtain ⟨k,v⟩ := entry
    rw [canonicalEntries,Value.find_cons,Value.find_cons,ih]
    split <;> rfl

/-- Objects of one canonical form have fields of one canonical form. -/
theorem canonical_fields {left right : List (String × Value)}
    (same : canonicalJson (.object left) = canonicalJson (.object right))
    (distinct : (left.map Prod.fst).Nodup) (distinct' : (right.map Prod.fst).Nodup)
    (name : String) :
    (Value.find name left).map canonicalJson = (Value.find name right).map canonicalJson := by
  rw [canonicalJson,canonicalJson] at same
  have maps := Value.object.inj same
  have found := congrArg (Value.find name) maps
  rwa [find_collect name (by rwa [keys_canonicalEntries]),
    find_collect name (by rwa [keys_canonicalEntries]),find_canonicalEntries,
    find_canonicalEntries] at found

theorem canonicalItems_get (items : List Value) (i : Nat) :
    (canonicalItems items)[i]? = items[i]?.map canonicalJson := by
  induction items generalizing i with
  | nil => simp [canonicalItems]
  | cons v vs ih =>
    rw [canonicalItems]
    cases i with
    | zero => rfl
    | succ i => simpa using ih i

theorem length_canonicalItems (items : List Value) :
    (canonicalItems items).length = items.length := by
  induction items with
  | nil => rfl
  | cons v vs ih => rw [canonicalItems,List.length_cons,List.length_cons,ih]

/-- Values of one canonical form differ in the order of their keys only. -/
theorem reordered_of_canonical (v w : Value) (distinct : v.Distinct) (distinct' : w.Distinct)
    (same : canonicalJson v = canonicalJson w) : v.Reordered w := by
  match v, w with
  | .object left, .object right =>
    rw [Value.Distinct] at distinct distinct'
    have fields := canonical_fields same distinct.1 distinct'.1
    refine .object ((List.perm_ext_iff_of_nodup distinct.1 distinct'.1).mpr fun name => ?_)
      fun name a b here there => ?_
    · have present := congrArg Option.isSome (fields name)
      rw [Option.isSome_map,Option.isSome_map] at present
      rw [← Value.find_isSome,← Value.find_isSome,present]
    · have value := fields name
      rw [Value.find_of_mem distinct.1 here,Value.find_of_mem distinct'.1 there] at value
      have : sizeOf a < 1 + sizeOf left := by
        have := List.sizeOf_lt_of_mem here
        simp only [Prod.mk.sizeOf_spec] at this
        omega
      exact reordered_of_canonical a b (distinct.2.get here) (distinct'.2.get there)
        (Option.some.inj value)
  | .array left, .array right =>
    rw [Value.Distinct] at distinct distinct'
    rw [canonicalJson,canonicalJson] at same
    have items := Value.array.inj same
    refine .array (by rw [← length_canonicalItems,items,length_canonicalItems])
      fun i a b here there => ?_
    have value := congrArg (·[i]?) items
    simp only [canonicalItems_get,here,there,Option.map_some] at value
    have member := List.mem_of_getElem? here
    have := List.sizeOf_lt_of_mem member
    exact reordered_of_canonical a b (distinct.get member)
      (distinct'.get (List.mem_of_getElem? there)) (Option.some.inj value)
  | .object _, .null | .object _, .bool _ | .object _, .number _ | .object _, .string _
  | .object _, .array _ | .array _, .null | .array _, .bool _ | .array _, .number _
  | .array _, .string _ | .array _, .object _ => simp [canonicalJson] at same
  | .null, other | .bool _, other | .number _, other | .string _, other =>
    cases other <;> simp [canonicalJson] at same
    all_goals first | exact .same _ | (subst same; exact .same _)
termination_by sizeOf v

@[simp] theorem canonicalJson_string (text : String) :
    canonicalJson (.string text) = .string text := by simp [canonicalJson]

@[simp] theorem canonicalJson_number (n : Number) :
    canonicalJson (.number n) = .number n := by simp [canonicalJson]

end GaugeMesh
