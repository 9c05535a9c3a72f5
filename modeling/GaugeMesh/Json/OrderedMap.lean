import GaugeMesh.Json.Serde
import GaugeMesh.Keyed

/-! A `BTreeMap` with texts as keys: entries in the order of their keys, each key once. -/
namespace Json

theorem Entries.lookup_insert (key other : String) (value : α) (entries : Entries α) :
    (Entries.insert key value entries).lookup other =
      if other = key then some value else entries.lookup other := by
  induction entries with
  | nil => simp [Entries.insert,Keyed.lookup_cons]
  | cons entry rest ih =>
    obtain ⟨name,old⟩ := entry
    rw [Entries.insert]
    split
    · rw [Keyed.lookup_cons]
    split
    · next same =>
      subst same
      rw [Keyed.lookup_cons,Keyed.lookup_cons]
      split <;> rfl
    · next different =>
      rw [Keyed.lookup_cons,Keyed.lookup_cons,ih]
      by_cases asked : other = name
      · have apart : other ≠ key := fun same => different (same.symm.trans asked)
        simp [asked,Ne.symm different]
      · simp [asked]

theorem Entries.mem_insert_key {key name : String} {value : α} {entries : Entries α} :
    name ∈ (Entries.insert key value entries).map Prod.fst ↔
      name = key ∨ name ∈ entries.map Prod.fst := by
  induction entries with
  | nil => simp [Entries.insert]
  | cons entry rest ih =>
    obtain ⟨k,v⟩ := entry
    rw [Entries.insert]
    split
    · simp
    split
    · next same => simp [same]
    · rw [List.map_cons,List.mem_cons,ih,List.map_cons,List.mem_cons]
      tauto

theorem Entries.Sorted.insert {entries : Entries α} (sorted : Entries.Sorted entries) (key : String)
    (value : α) : Entries.Sorted (Entries.insert key value entries) := by
  induction entries with
  | nil => simp [Entries.insert,Entries.Sorted]
  | cons entry rest ih =>
    obtain ⟨k,v⟩ := entry
    obtain ⟨first,others⟩ := List.pairwise_cons.mp sorted
    rw [Entries.insert]
    split
    · next before =>
      refine List.pairwise_cons.mpr ⟨fun name member => ?_,sorted⟩
      rcases List.mem_cons.mp member with rfl | later
      · exact before
      · exact before.trans (first name later)
    split
    · next same =>
      subst same
      exact sorted
    · next before different =>
      refine List.pairwise_cons.mpr ⟨fun name member => ?_,ih others⟩
      rcases Entries.mem_insert_key.mp member with rfl | later
      · exact lt_of_le_of_ne (not_lt.mp before) (Ne.symm different)
      · exact first name later

theorem Entries.insert_map (f : α → β) (key : String) (value : α) (entries : Entries α) :
    (Entries.insert key value entries).map (Prod.map id f) =
      Entries.insert key (f value) (entries.map (Prod.map id f)) := by
  induction entries with
  | nil => rfl
  | cons entry rest ih =>
    obtain ⟨k,v⟩ := entry
    simp only [Entries.insert,List.map_cons,Prod.map_apply,id_eq]
    split
    · rfl
    split
    · rfl
    · rw [List.map_cons,ih,Prod.map_apply,id_eq]

structure OrderedMap (α : Type) where
  entries : Entries α
  sorted : Entries.Sorted entries

namespace OrderedMap

variable {map other : OrderedMap α} {key name : String} {value : α}

def empty : OrderedMap α := ⟨[],.nil⟩

def get (map : OrderedMap α) (key : String) : Option α := map.entries.lookup key

def containsKey (map : OrderedMap α) (key : String) : Bool := (map.get key).isSome

def keys (map : OrderedMap α) : List String := map.entries.map Prod.fst

def values (map : OrderedMap α) : List α := map.entries.map Prod.snd

def insert (key : String) (value : α) (map : OrderedMap α) : OrderedMap α :=
  ⟨Entries.insert key value map.entries,map.sorted.insert key value⟩

/-- Every entry of the other map is inserted, in order. -/
def extend (map other : OrderedMap α) : OrderedMap α :=
  other.entries.foldl (fun map entry => map.insert entry.1 entry.2) map

/-- The map of some entries; of two with one key the later one is kept. -/
def collect (entries : Entries α) : OrderedMap α :=
  entries.foldl (fun map entry => map.insert entry.1 entry.2) empty

theorem entries_foldl (entries : Entries α) (map : OrderedMap α) :
    (entries.foldl (fun map entry => map.insert entry.1 entry.2) map).entries =
      entries.foldl (fun entries entry => Entries.insert entry.1 entry.2 entries) map.entries := by
  induction entries generalizing map with
  | nil => rfl
  | cons entry rest ih => exact ih (map.insert entry.1 entry.2)

@[simp] theorem collect_entries (map : OrderedMap α) : collect map.entries = map := by
  have same : (collect map.entries).entries = map.entries :=
    (entries_foldl map.entries empty).trans (Entries.collect_sorted map.entries map.sorted)
  rcases collected : collect map.entries with ⟨entries,sorted⟩
  rw [collected] at same
  cases map
  cases same
  rfl

@[simp] theorem get_empty (key : String) : (empty : OrderedMap α).get key = none := rfl

theorem get_insert (map : OrderedMap α) (key name : String) (value : α) :
    (map.insert key value).get name = if name = key then some value else map.get name :=
  Entries.lookup_insert key name value map.entries

theorem mem_entries : (key,value) ∈ map.entries ↔ map.get key = some value := by
  have distinct : map.keys.Nodup := map.sorted.imp fun before => ne_of_lt before
  rw [get]
  rw [keys] at distinct
  generalize map.entries = entries at distinct
  induction entries with
  | nil => simp
  | cons entry rest ih =>
    obtain ⟨k,v⟩ := entry
    obtain ⟨first,others⟩ := List.nodup_cons.mp distinct
    have later : (key,value) ∈ rest ↔ rest.lookup key = some value := ih others
    rw [Keyed.lookup_cons,List.mem_cons]
    by_cases same : key = k
    · subst same
      have absent : (key,value) ∉ rest := fun member => first (List.mem_map.mpr ⟨_,member,rfl⟩)
      simp [absent,eq_comm]
    · simp [same,later]

theorem containsKey_iff : map.containsKey key ↔ ∃ value, map.get key = some value :=
  Option.isSome_iff_exists

theorem mem_keys : key ∈ map.keys ↔ map.containsKey key := by
  rw [containsKey_iff,keys,List.mem_map]
  constructor
  · rintro ⟨⟨k,value⟩,member,rfl⟩
    exact ⟨value,mem_entries.mp member⟩
  · rintro ⟨value,found⟩
    exact ⟨(key,value),mem_entries.mpr found,rfl⟩

theorem get_foldl (entries : Entries α) (sorted : Entries.Sorted entries) (map : OrderedMap α)
    (name : String) :
    (entries.foldl (fun map entry => map.insert entry.1 entry.2) map).get name =
      (entries.lookup name).or (map.get name) := by
  induction entries generalizing map with
  | nil => simp
  | cons entry rest ih =>
    obtain ⟨k,v⟩ := entry
    obtain ⟨first,others⟩ := List.pairwise_cons.mp sorted
    rw [List.foldl_cons,ih others,get_insert,Keyed.lookup_cons]
    by_cases same : name = k
    · have absent : rest.lookup name = none := by
        rw [List.lookup_eq_none_iff]
        intro entry member
        have after := first entry.1 (List.mem_map.mpr ⟨entry,member,rfl⟩)
        simpa [same] using ne_of_lt after
      simp [same,same ▸ absent]
    · simp [same]

theorem get_extend (map other : OrderedMap α) (name : String) :
    (map.extend other).get name = (other.get name).or (map.get name) :=
  get_foldl other.entries other.sorted map name

theorem extend_map (f : α → β) (map other : OrderedMap α) :
    (map.extend other).entries.map (Prod.map id f) =
      (other.entries.map (Prod.map id f)).foldl
        (fun entries entry => Entries.insert entry.1 entry.2 entries)
        (map.entries.map (Prod.map id f)) := by
  rw [extend]
  generalize other.entries = entries
  induction entries generalizing map with
  | nil => rfl
  | cons entry rest ih =>
    rw [List.foldl_cons,ih,List.map_cons,List.foldl_cons]
    congr 1
    exact Entries.insert_map f entry.1 entry.2 map.entries

/-- One map has the look-ups of two others, and no more. -/
structure Joins (left right both : OrderedMap α) : Prop where
  first : ∀ key value, left.get key = some value → both.get key = some value
  second : ∀ key value, right.get key = some value → both.get key = some value
  only : ∀ key value, both.get key = some value →
    left.get key = some value ∨ right.get key = some value

theorem joins_extend (apart : ∀ key, other.containsKey key → ¬map.containsKey key) :
    Joins map other (map.extend other) := by
  constructor
  · intro key value found
    have absent : other.get key = none := by
      by_contra there
      obtain ⟨found',same⟩ := Option.ne_none_iff_exists'.mp there
      exact apart key (containsKey_iff.mpr ⟨found',same⟩) (containsKey_iff.mpr ⟨value,found⟩)
    rw [get_extend,absent,Option.none_or,found]
  · intro key value found
    rw [get_extend,found,Option.some_or]
  · intro key value found
    rw [get_extend,Option.or_eq_some_iff] at found
    tauto

end OrderedMap
end Json
