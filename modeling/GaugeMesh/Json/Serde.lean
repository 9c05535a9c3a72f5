import GaugeMesh.Json.Text
import Mathlib.Data.List.Induction
import Mathlib.Data.String.Basic

/-! Typed values as JSON and back. A struct is written with all its fields in key
order; reading refuses a key it does not know, takes a missing optional field as absent and
also takes the values alone, in the order of the declaration. An optional field that holds JSON null is written as null and therefore
read back as absent, so options are lawful only over types never written as null. -/
namespace Json

/-- The text parser, a library: it reads back what was written, but refuses text
nested deeper than its recursion limit, which the printer does not have. -/
class SerdeJson extends FloatText where
  recursionLimit : Nat
  fromStr : String → Option Value
  fromStr_text : ∀ v : Value, fromStr (String.ofList v.text) =
    if v.depth ≤ recursionLimit then some v else none

/-- Text of an artifact file, read as JSON when it is JSON. -/
class SerdeJson.Bytes where
  fromSlice : List UInt8 → Option Value

class Serde (α : Type) where
  toValue : α → Value
  fromValue : Value → Option α

export Serde (toValue fromValue)

class LawfulSerde (α : Type) [Serde α] : Prop where
  roundTrip : ∀ a : α, fromValue (toValue a) = some a

class NonNull (α : Type) [Serde α] : Prop where
  nonNull : ∀ a : α, toValue a ≠ Value.null

@[simp] theorem fromValue_toValue [Serde α] [LawfulSerde α] (a : α) :
    fromValue (toValue a) = some a := LawfulSerde.roundTrip a

instance : Serde Value := ⟨id,some⟩
instance : LawfulSerde Value := ⟨fun _ => rfl⟩

instance : Serde String := ⟨.string,Value.asStr⟩
instance : LawfulSerde String := ⟨fun _ => rfl⟩
instance : NonNull String := ⟨fun _ => by simp [toValue]⟩

instance : Serde Nat := ⟨fun n => .number (.posInt n),Value.asU64⟩
instance : LawfulSerde Nat := ⟨fun _ => rfl⟩
instance : NonNull Nat := ⟨fun _ => by simp [toValue]⟩

instance : Serde Bool where
  toValue := .bool
  fromValue
    | .bool b => some b
    | _ => none
instance : LawfulSerde Bool := ⟨fun _ => rfl⟩

/-- A sixteen-bit integer refuses what does not fit. -/
instance : Serde UInt16 where
  toValue n := .number (.posInt n.toNat)
  fromValue v := v.asU64.bind fun n => if n < 2^16 then some (UInt16.ofNat n) else none
instance : LawfulSerde UInt16 := ⟨fun n => by
  simp only [toValue,fromValue,Value.asU64_posInt,Option.bind_some]
  rw [if_pos n.toNat_lt,UInt16.ofNat_toNat]⟩

instance [Serde α] : Serde (Option α) where
  toValue
    | none => .null
    | some a => toValue a
  fromValue v := if v = .null then some none else (fromValue v).map some
instance [Serde α] [LawfulSerde α] [NonNull α] : LawfulSerde (Option α) := ⟨fun
  | none => rfl
  | some a => by
    change (if toValue a = Value.null then _ else (fromValue (toValue a)).map some) = _
    rw [if_neg (NonNull.nonNull a),fromValue_toValue]
    rfl⟩

def readItems [Serde α] : List Value → Option (List α)
  | [] => some []
  | v :: vs => do return (← fromValue v) :: (← readItems vs)

def readEntries [Serde α] : List (String × Value) → Option (List (String × α))
  | [] => some []
  | (k,v) :: rest => do return (k,← fromValue v) :: (← readEntries rest)

instance [Serde α] : Serde (List α) where
  toValue items := .array (items.map toValue)
  fromValue v := v.asArray.bind readItems

theorem readItems_map [Serde α] [LawfulSerde α] (items : List α) :
    readItems (items.map toValue) = some items := by
  induction items with
  | nil => rfl
  | cons a items ih => simp [readItems,ih]

instance [Serde α] [LawfulSerde α] : LawfulSerde (List α) := ⟨readItems_map⟩

/-- An ordered map as the list of its entries. -/
abbrev Entries (α : Type) := List (String × α)

namespace Entries

/-- Insertion in key order; an existing key gets the new value. -/
def insert (key : String) (value : α) : Entries α → Entries α
  | [] => [(key,value)]
  | (k,v) :: rest =>
    if key < k then (key,value) :: (k,v) :: rest
    else if key = k then (key,value) :: rest
    else (k,v) :: insert key value rest

/-- `iter().collect()` into an ordered map: later entries win. -/
def collect (entries : Entries α) : Entries α :=
  entries.foldl (fun map entry => insert entry.1 entry.2 map) []

def Sorted (entries : Entries α) : Prop := (entries.map Prod.fst).Pairwise (· < ·)

theorem insert_last (entries : Entries α) (key : String) (value : α)
    (above : ∀ entry ∈ entries, entry.1 < key) :
    insert key value entries = entries ++ [(key,value)] := by
  induction entries with
  | nil => rfl
  | cons head rest ih =>
    have first := above head (by simp)
    simp only [insert,if_neg (not_lt_of_gt first),if_neg (ne_of_gt first),List.cons_append]
    rw [ih fun entry member => above entry (by simp [member])]

/-- A new key adds its entry and moves no other out of place. -/
theorem insert_perm {entries : Entries α} {key : String} (value : α)
    (absent : key ∉ entries.map Prod.fst) :
    (insert key value entries).Perm ((key,value) :: entries) := by
  induction entries with
  | nil => exact .refl _
  | cons entry rest ih =>
    obtain ⟨k,v⟩ := entry
    simp only [List.map_cons,List.mem_cons,not_or] at absent
    rw [insert]
    split
    · exact .refl _
    rw [if_neg absent.1]
    exact ((ih absent.2).cons (k,v)).trans (.swap _ _ _)

/-- Entries with different keys are all kept. -/
theorem collect_perm (entries : Entries α) (distinct : (entries.map Prod.fst).Nodup) :
    (collect entries).Perm entries := by
  induction entries using List.reverseRecOn with
  | nil => exact .refl _
  | append_singleton front entry ih =>
    rw [List.map_append,List.nodup_append] at distinct
    obtain ⟨before,-,apart⟩ := distinct
    have kept := ih before
    have absent : entry.1 ∉ (collect front).map Prod.fst := by
      intro member
      have old := (kept.map Prod.fst).mem_iff.mp member
      exact apart entry.1 old entry.1 (by simp) rfl
    rw [collect,List.foldl_append]
    change (insert entry.1 entry.2 (collect front)).Perm _
    refine (insert_perm entry.2 absent).trans ?_
    exact (kept.cons entry).trans (List.perm_append_singleton entry front).symm

theorem collect_append (front back : Entries α) (sorted : Sorted (front ++ back))
    (done : collect front = front) : collect (front ++ back) = front ++ back := by
  induction back generalizing front with
  | nil => simpa using done
  | cons head rest ih =>
    have step : collect (front ++ [head]) = front ++ [head] := by
      rw [collect,List.foldl_append]
      change insert head.1 head.2 (collect front) = _
      rw [done]
      apply insert_last
      intro entry member
      simp only [Sorted,List.map_append,List.map_cons,List.pairwise_append] at sorted
      exact sorted.2.2 entry.1 (List.mem_map_of_mem member) head.1 (by simp)
    have := ih (front ++ [head]) (by simpa using sorted) step
    simpa using this

/-- Collecting the entries of a map gives the map back. -/
theorem collect_sorted (entries : Entries α) (sorted : Sorted entries) :
    collect entries = entries :=
  collect_append [] entries sorted rfl

end Entries

instance [Serde α] : Serde (Entries α) where
  toValue entries := .object (entries.map fun entry => (entry.1,toValue entry.2))
  fromValue v := v.asObject.bind readEntries

theorem readEntries_map [Serde α] [LawfulSerde α] (entries : Entries α) :
    readEntries (entries.map fun entry => (entry.1,toValue entry.2)) = some entries := by
  induction entries with
  | nil => rfl
  | cons entry entries ih => obtain ⟨k,a⟩ := entry; simp [readEntries,ih]

instance [Serde α] [LawfulSerde α] : LawfulSerde (Entries α) := ⟨readEntries_map⟩

/-- The entries of a struct that denies unknown fields; `names` are in the order of the
declaration, in which a sequence gives their values. -/
def structFields (names : List String) : Value → Option (List (String × Value))
  | .object entries =>
    if entries.all fun entry => names.contains entry.1 then some entries else none
  | .array items => if items.length = names.length then some (names.zip items) else none
  | _ => none

/-- The name of a variant without fields, alone or as the one key of an object, over null. -/
def unitVariant : Value → Option String
  | .string name => some name
  | .object [(name,.null)] => some name
  | _ => none

def field [Serde α] (entries : List (String × Value)) (name : String) : Option α :=
  (Value.find name entries).bind fromValue

/-- A struct that was written has all its fields, and no others. -/
theorem structFields_object {names : List String} {entries : List (String × Value)}
    {f : List (String × Value) → Option α} (known : entries.map Prod.fst ⊆ names) :
    (structFields names (.object entries) >>= f) = f entries := by
  have all : (entries.all fun entry => names.contains entry.1) = true := by
    rw [List.all_eq_true]
    intro entry member
    exact List.contains_iff_mem.mpr (known (List.mem_map_of_mem member))
  change Option.bind (if _ then some entries else none) f = _
  rw [if_pos all]
  rfl

def optionalField [Serde α] (entries : List (String × Value)) (name : String) :
    Option (Option α) :=
  match Value.find name entries with
  | none => some none
  | some v => fromValue v

/-- A reader goes on with the value of a field it found. Field by field: a rewriting of the
whole reader would look at its rest again for every field. -/
theorem field_then [Serde α] [LawfulSerde α] {entries : List (String × Value)} {name : String}
    {a : α} {f : α → Option β} (found : Value.find name entries = some (toValue a))
    (rest : f a = b) : (field entries name >>= f) = b := by
  rw [field,found,Option.bind_some,fromValue_toValue]
  exact rest

theorem optionalField_then [Serde α] {entries : List (String × Value)} {name : String}
    {v : Value} {a : Option α} {f : Option α → Option β} (found : Value.find name entries = some v)
    (read : fromValue v = some a) (rest : f a = b) : (optionalField entries name >>= f) = b := by
  rw [optionalField,found]
  change Option.bind (fromValue v) f = b
  rw [read]
  exact rest

end Json
