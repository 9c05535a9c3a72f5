import GaugeMesh.Lease.Lease
import GaugeMesh.Json.Reference
import Mathlib.Data.Finmap

/-! `trait LeaseStorage` and its two implementations. Either is the map of its leases by
their ids, except that a database row may not be readable. -/
namespace GaugeMesh
open Json

inductive StorageError where
  | sqlite
  | json
  | poisoned
  deriving DecidableEq

class LeaseStorage (σ : Type) where
  empty : σ
  put : CapabilityLease → σ → Except StorageError Unit × σ
  get : σ → String → Except StorageError (Option CapabilityLease)
  remove : String → σ → Except StorageError Unit × σ

/-- The leases of a store by their ids. -/
abbrev Leases := String → Option CapabilityLease

/-- The store holds exactly the leases it represents; what it gives back is what it holds. -/
class LawfulLeaseStorage (σ : Type) [LeaseStorage σ] where
  Represents : σ → Leases → Prop
  read : Option CapabilityLease → Except StorageError (Option CapabilityLease)
  read_none : read none = .ok none
  read_ok : read found = .ok answer → answer = found
  empty : Represents LeaseStorage.empty fun _ => none
  get : Represents s leases → LeaseStorage.get s i = read (leases i)
  put : Represents s leases → (LeaseStorage.put lease s).1 = .ok () ∧
    Represents (LeaseStorage.put lease s).2 (Function.update leases lease.id.text (some lease))
  remove : Represents s leases → (LeaseStorage.remove i s).1 = .ok () ∧
    Represents (LeaseStorage.remove i s).2 (Function.update leases i none)

structure MemoryLeases where
  leases : Finmap fun _ : String => CapabilityLease

namespace MemoryLeases

def empty : MemoryLeases := ⟨∅⟩

def put (lease : CapabilityLease) (s : MemoryLeases) : Except StorageError Unit × MemoryLeases :=
  (.ok (),⟨s.leases.insert lease.id.text lease⟩)

def get (s : MemoryLeases) (id : String) : Except StorageError (Option CapabilityLease) :=
  .ok (s.leases.lookup id)

def remove (id : String) (s : MemoryLeases) : Except StorageError Unit × MemoryLeases :=
  (.ok (),⟨s.leases.erase id⟩)

instance : LeaseStorage MemoryLeases := ⟨empty,put,get,remove⟩

theorem lookup_insert (s : MemoryLeases) (lease : CapabilityLease) :
    (fun i => (s.leases.insert lease.id.text lease).lookup i) =
      Function.update (fun i => s.leases.lookup i) lease.id.text (some lease) := by
  funext i
  by_cases same : i = lease.id.text
  · subst same
    rw [Finmap.lookup_insert,Function.update_self]
  · rw [Finmap.lookup_insert_of_ne _ same,Function.update_of_ne same]

theorem lookup_erase (s : MemoryLeases) (id : String) :
    (fun i => (s.leases.erase id).lookup i) =
      Function.update (fun i => s.leases.lookup i) id none := by
  funext i
  by_cases same : i = id
  · subst same
    rw [Finmap.lookup_erase,Function.update_self]
  · rw [Finmap.lookup_erase_ne same,Function.update_of_ne same]

instance : LawfulLeaseStorage MemoryLeases where
  Represents s leases := leases = fun i => s.leases.lookup i
  read := .ok
  read_none := rfl
  read_ok same := (Except.ok.inj same).symm
  empty := rfl
  get represents := by rw [represents]; rfl
  put represents := ⟨rfl,by rw [represents]; exact (lookup_insert _ _).symm⟩
  remove represents := ⟨rfl,by rw [represents]; exact (lookup_erase _ _).symm⟩

end MemoryLeases

instance : Serde LeaseId := ⟨fun i => .string i.text,fun v => v.asStr.map .mk⟩
instance : LawfulSerde LeaseId := ⟨fun _ => rfl⟩

/-- A set is read from the items of an array. -/
instance : Serde CapabilityScope where
  toValue scope := setValue scope.capabilities
  fromValue v := (fromValue v : Option (List String)).map fun items => ⟨items.toFinset⟩

instance : LawfulSerde CapabilityScope := ⟨fun scope => by
  change (fromValue (toValue (scope.capabilities.sort (· ≤ ·)))).map _ = _
  rw [fromValue_toValue,Option.map_some,Finset.sort_toFinset]⟩

instance : Serde (Finset SideEffectClass) where
  toValue := sideEffectsValue
  fromValue v := (fromValue v : Option (List SideEffectClass)).map List.toFinset

instance : LawfulSerde (Finset SideEffectClass) := ⟨fun effects => by
  have same : (SideEffectClass.all.filter (· ∈ effects)).toFinset = effects := by
    ext effect
    have listed : effect ∈ SideEffectClass.all := by cases effect <;> decide
    simp [listed]
  change (fromValue (toValue (SideEffectClass.all.filter (· ∈ effects)))).map _ = _
  rw [fromValue_toValue,Option.map_some,same]⟩

namespace CapabilityLease

def encode (lease : CapabilityLease) : Value := .object [
  ("id",toValue lease.id),
  ("principal",toValue lease.principal),
  ("tenant",toValue lease.tenant),
  ("request_identity",toValue lease.requestIdentity),
  ("capabilities",toValue lease.capabilities),
  ("scope",toValue lease.scope),
  ("expires_at_monotonic_ms",toValue lease.expiresAtMonotonicMs),
  ("monetary_budget",toValue lease.monetaryBudget),
  ("token_budget",toValue lease.tokenBudget),
  ("retry_budget",toValue lease.retryBudget),
  ("side_effects",toValue lease.sideEffects),
  ("manifest_digest",toValue lease.manifestDigest)]

def decode (v : Value) : Option CapabilityLease := do
  let fields ← structFields ["id","principal","tenant","request_identity","capabilities","scope",
    "expires_at_monotonic_ms","monetary_budget","token_budget","retry_budget","side_effects",
    "manifest_digest"] v
  return {
    id := ← field fields "id"
    principal := ← field fields "principal"
    tenant := ← field fields "tenant"
    requestIdentity := ← field fields "request_identity"
    capabilities := ← field fields "capabilities"
    scope := ← field fields "scope"
    expiresAtMonotonicMs := ← field fields "expires_at_monotonic_ms"
    monetaryBudget := ← field fields "monetary_budget"
    tokenBudget := ← field fields "token_budget"
    retryBudget := ← field fields "retry_budget"
    sideEffects := ← field fields "side_effects"
    manifestDigest := ← field fields "manifest_digest" }

theorem decode_encode (lease : CapabilityLease) : decode lease.encode = some lease := by
  refine (structFields_object (List.Subset.refl _)).trans ?_
  iterate 12 refine field_then (by simp only [Value.find_cons,↓reduceIte,String.reduceEq]; rfl) ?_
  rfl

end CapabilityLease

/-- A row of the table `leases`. -/
structure StoredLease where
  id : String
  manifestDigest : String
  documentJson : String
  deriving DecidableEq

structure LeaseTable where
  rows : List StoredLease

namespace LeaseTable

variable [SerdeJson]

def empty : LeaseTable := ⟨[]⟩

def rowOf (lease : CapabilityLease) : StoredLease :=
  ⟨lease.id.text,lease.manifestDigest.toString,String.ofList lease.encode.text⟩

/-- An insert that replaces the row of the same id; no query looks at the order of rows. -/
def put (lease : CapabilityLease) (s : LeaseTable) : Except StorageError Unit × LeaseTable :=
  (.ok (),⟨rowOf lease :: s.rows.filter fun row => row.id ≠ lease.id.text⟩)

def decodeLease (row : StoredLease) : Except StorageError CapabilityLease := do
  let lease ← okOr ((SerdeJson.fromStr row.documentJson).bind CapabilityLease.decode) .json
  let parsed ← okOr (Sha256Digest.readBack row.manifestDigest) .poisoned
  reject (parsed ≠ lease.manifestDigest) .poisoned
  return lease

def get (s : LeaseTable) (id : String) : Except StorageError (Option CapabilityLease) :=
  match s.rows.find? fun row => row.id == id with
  | none => .ok none
  | some row => do return some (← decodeLease row)

def remove (id : String) (s : LeaseTable) : Except StorageError Unit × LeaseTable :=
  (.ok (),⟨s.rows.filter fun row => row.id ≠ id⟩)

instance : LeaseStorage LeaseTable := ⟨empty,put,get,remove⟩

/-- A row that was written reads back, unless it is nested too deep. -/
theorem decodeLease_rowOf (lease : CapabilityLease) : decodeLease (rowOf lease) =
    if lease.encode.depth ≤ SerdeJson.recursionLimit then .ok lease else .error .json := by
  rw [decodeLease,rowOf]
  simp only [SerdeJson.fromStr_text,Sha256Digest.readBack_toString]
  split
  · simp [CapabilityLease.decode_encode,okOr,reject]
  · rfl

omit [SerdeJson] in
/-- Rows of other ids do not decide what is found under an id. -/
theorem find_others (rows : List StoredLease) (id i : String) :
    (rows.filter fun row => row.id ≠ id).find? (fun row => row.id == i) =
      if i = id then none else rows.find? fun row => row.id == i := by
  rw [List.find?_filter]
  by_cases same : i = id
  · subst same
    rw [if_pos rfl,List.find?_eq_none]
    simp
  · rw [if_neg same]
    congr 1
    funext row
    by_cases here : row.id = i
    · simp [here,same]
    · simp [here]

instance : LawfulLeaseStorage LeaseTable where
  Represents s leases := ∀ i, s.rows.find? (fun row => row.id == i) = (leases i).map rowOf
  read found := match found with
    | none => .ok none
    | some lease => do return some (← decodeLease (rowOf lease))
  read_none := rfl
  read_ok {found answer} same := by
    rcases found with _ | lease
    · exact (Except.ok.inj same).symm
    · obtain ⟨read,decoded,answered⟩ := Except.bind_ok.mp same
      rw [decodeLease_rowOf] at decoded
      split at decoded
      · cases decoded
        exact (Except.ok.inj answered).symm
      · cases decoded
  empty _ := rfl
  get {s leases i} represents := by
    have found := represents i
    change LeaseTable.get s i = _
    rw [get,found]
    rcases leases i with _ | lease <;> rfl
  put {s leases lease} represents := by
    refine ⟨rfl,fun i => ?_⟩
    change (rowOf lease :: s.rows.filter fun row => row.id ≠ lease.id.text).find? _ = _
    rw [List.find?_cons,find_others,represents i]
    by_cases same : i = lease.id.text
    · subst same
      simp [rowOf]
    · have other : ((rowOf lease).id == i) = false := by simpa [rowOf] using Ne.symm same
      rw [other,Function.update_of_ne same,if_neg same]
  remove {s leases id} represents := by
    refine ⟨rfl,fun i => ?_⟩
    change (s.rows.filter fun row => row.id ≠ id).find? _ = _
    rw [find_others,represents i]
    by_cases same : i = id
    · subst same
      simp
    · rw [if_neg same,Function.update_of_ne same]

end LeaseTable
end GaugeMesh
