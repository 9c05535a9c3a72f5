import GaugeMesh.Storage.Routes

/-! The SQL table `task_routes`. Rows are kept with the two uniqueness rules of the
schema; statements are the ones the store issues, each over the whole table. -/
namespace GaugeMesh
open Json

structure StoredTaskRoute where
  publicTaskId : String
  principalId : String
  tenantId : String
  idempotencyKey : Option String
  requestDigest : String
  capabilitySource : String
  upstreamTaskId : Option String
  phase : String
  createdAtUnixMs : Int
  updatedAtUnixMs : Int
  ttlMs : Int
  expiresAtUnixMs : Int
  transitionVersion : Int
  recordSchemaVersion : Int
  integrityDigest : String
  documentJson : String
  deriving DecidableEq

namespace StoredTaskRoute

/-- The columns of the partial unique index. -/
def scope (row : StoredTaskRoute) : Option (String × String × String) :=
  row.idempotencyKey.map fun key => (row.principalId,row.tenantId,key)

/-- The CHECK constraints of the schema. -/
def admissible (row : StoredTaskRoute) : Bool :=
  ["prepared","dispatching","routed","terminal","reconciliation_required",
    "cancel_requested"].contains row.phase && decide (0 ≤ row.createdAtUnixMs ∧
    0 ≤ row.updatedAtUnixMs ∧ 0 < row.ttlMs ∧ 0 ≤ row.expiresAtUnixMs ∧
    0 ≤ row.transitionVersion ∧ 0 < row.recordSchemaVersion)

/-- The columns an UPDATE writes. -/
structure Columns where
  upstreamTaskId : Option String
  phase : String
  updatedAtUnixMs : Int
  transitionVersion : Int
  integrityDigest : String
  documentJson : String

def set (row : StoredTaskRoute) (columns : Columns) : StoredTaskRoute :=
  { row with
    upstreamTaskId := columns.upstreamTaskId
    phase := columns.phase
    updatedAtUnixMs := columns.updatedAtUnixMs
    transitionVersion := columns.transitionVersion
    integrityDigest := columns.integrityDigest
    documentJson := columns.documentJson }

/-- No row with the same id, and none with the same caller and key. -/
def Distinct (a b : StoredTaskRoute) : Prop :=
  a.publicTaskId ≠ b.publicTaskId ∧ (a.scope = b.scope → a.scope = none)

instance (a b : StoredTaskRoute) : Decidable (Distinct a b) :=
  inferInstanceAs (Decidable (_ ∧ (_ → _)))

instance : Std.Symm Distinct where
  symm _ _ distinct := ⟨distinct.1.symm,fun same => same.trans (distinct.2 same.symm)⟩

end StoredTaskRoute

structure TaskRouteTable where
  rows : List StoredTaskRoute
  unique : rows.Pairwise StoredTaskRoute.Distinct

namespace TaskRouteTable

def empty : TaskRouteTable := ⟨[],.nil⟩

def select (table : TaskRouteTable) (condition : StoredTaskRoute → Bool) : Option StoredTaskRoute :=
  table.rows.find? condition

def count (table : TaskRouteTable) (condition : StoredTaskRoute → Bool) : Nat :=
  (table.rows.filter condition).length

def delete (table : TaskRouteTable) (condition : StoredTaskRoute → Bool) : TaskRouteTable where
  rows := table.rows.filter fun row => !condition row
  unique := table.unique.filter _

/-- Fails, as the engine does, on a broken constraint. -/
def insert (table : TaskRouteTable) (row : StoredTaskRoute) :
    Except TaskRouteStorageError TaskRouteTable :=
  if fits : row.admissible = true ∧ ∀ other ∈ table.rows, row.Distinct other then
    .ok ⟨row :: table.rows,List.pairwise_cons.mpr ⟨fits.2,table.unique⟩⟩
  else .error .sqlite

theorem unique_set (table : TaskRouteTable) (condition : StoredTaskRoute → Bool)
    (columns : StoredTaskRoute.Columns) : (table.rows.map fun row =>
      if condition row then row.set columns else row).Pairwise StoredTaskRoute.Distinct := by
  refine List.pairwise_map.mpr (table.unique.imp ?_)
  intro a b distinct
  split <;> split <;> exact distinct

def update (table : TaskRouteTable) (condition : StoredTaskRoute → Bool)
    (columns : StoredTaskRoute.Columns) : Except TaskRouteStorageError TaskRouteTable :=
  if (table.rows.filter condition).all fun row => (row.set columns).admissible then
    .ok ⟨table.rows.map fun row => if condition row then row.set columns else row,
      table.unique_set condition columns⟩
  else .error .sqlite

/-- `ORDER BY expires_at_unix_ms, public_task_id`. -/
def older (a b : StoredTaskRoute) : Bool :=
  decide (toLex (a.expiresAtUnixMs,a.publicTaskId) ≤ toLex (b.expiresAtUnixMs,b.publicTaskId))

/-- `SELECT public_task_id ... ORDER BY ... LIMIT`. -/
def oldest (table : TaskRouteTable) (condition : StoredTaskRoute → Bool) (limit : Nat) :
    List String :=
  (((table.rows.filter condition).mergeSort older).take limit).map (·.publicTaskId)

/-- The sorted rows are in order, and still distinct. -/
theorem sorted_rows (table : TaskRouteTable) (condition : StoredTaskRoute → Bool) :
    ((table.rows.filter condition).mergeSort older).Pairwise fun a b =>
      older a b = true ∧ a.Distinct b := by
  have ordered : ((table.rows.filter condition).mergeSort older).Pairwise fun a b => older a b :=
    List.pairwise_mergeSort (fun a b c => by simpa [older] using le_trans)
      (fun a b => by simpa [older] using le_total _ _) _
  have distinct : ((table.rows.filter condition).mergeSort older).Pairwise StoredTaskRoute.Distinct :=
    (List.mergeSort_perm _ _).symm.pairwise (table.unique.filter condition)
      fun different => Std.Symm.symm _ _ different
  exact ordered.and distinct

/-- A condition that at most one row meets selects that row. -/
theorem select_of {table : TaskRouteTable} {condition : StoredTaskRoute → Bool}
    (member : row ∈ table.rows) (meets : condition row = true)
    (only : ∀ other ∈ table.rows, condition other = true → other = row) :
    table.select condition = some row := by
  rcases found : table.select condition with _ | other
  · exact absurd meets (List.find?_eq_none.mp found row member)
  · rw [only other (List.mem_of_find?_eq_some found) (List.find?_some found)]

theorem select_none {table : TaskRouteTable} {condition : StoredTaskRoute → Bool} :
    table.select condition = none ↔ ∀ row ∈ table.rows, condition row = false := by
  simp [select]

end TaskRouteTable
end GaugeMesh
