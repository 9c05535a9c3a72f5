import GaugeMesh.Run.Record
import GaugeMesh.Storage.Interface
import Mathlib.Data.List.Pairwise
import Mathlib.Logic.Function.Basic

/-! The SQL tables `runs` and `run_journal`, and `SqliteStorage` as a store of runs. The
tables of a store that wrote them itself represent a map from run ids to verified
records; a read gives back the record of the map or fails. -/
namespace GaugeMesh
open Json

def maxStoredRuns : Nat := 128

structure StoredRun where
  runId : String
  principal : String
  tenant : String
  runKey : String
  planDigest : String
  version : Nat
  document : String
  deriving DecidableEq

structure StoredRunEvent where
  runId : String
  version : Nat
  event : String
  deriving DecidableEq

/-- The primary key and the unique key of `runs`. -/
def StoredRun.Distinct (a b : StoredRun) : Prop :=
  a.runId ≠ b.runId ∧ (a.principal,a.tenant,a.runKey) ≠ (b.principal,b.tenant,b.runKey)

/-- The primary key of `run_journal`. -/
def StoredRunEvent.Distinct (a b : StoredRunEvent) : Prop :=
  (a.runId,a.version) ≠ (b.runId,b.version)

instance (a b : StoredRun) : Decidable (a.Distinct b) := inferInstanceAs (Decidable (_ ∧ _))
instance (a b : StoredRunEvent) : Decidable (a.Distinct b) := inferInstanceAs (Decidable (_ ≠ _))

instance : Std.Symm StoredRun.Distinct := ⟨fun _ _ distinct => ⟨distinct.1.symm,distinct.2.symm⟩⟩
instance : Std.Symm StoredRunEvent.Distinct := ⟨fun _ _ distinct => distinct.symm⟩

structure RunTable where
  runs : List StoredRun
  journal : List StoredRunEvent
  uniqueRuns : runs.Pairwise StoredRun.Distinct
  uniqueEvents : journal.Pairwise StoredRunEvent.Distinct

namespace RunTable

def empty : RunTable := ⟨[],[],.nil,.nil⟩

def insertRun (row : StoredRun) (table : RunTable) : Except RunError RunTable :=
  if fits : ∀ other ∈ table.runs, row.Distinct other then
    .ok { table with
      runs := row :: table.runs
      uniqueRuns := List.pairwise_cons.mpr ⟨fits,table.uniqueRuns⟩ }
  else .error .sqlite

def insertJournal (row : StoredRunEvent) (table : RunTable) : Except RunError RunTable :=
  if fits : ∀ other ∈ table.journal, other.Distinct row then
    .ok { table with
      journal := table.journal ++ [row]
      uniqueEvents := List.pairwise_append.mpr
        ⟨table.uniqueEvents,List.pairwise_singleton ..,fun a member b last => by
          rw [List.mem_singleton.mp last]
          exact fits a member⟩ }
  else .error .sqlite

theorem unique_update (table : RunTable) (condition : StoredRun → Bool) (document : String)
    (version : Nat) : (table.runs.map fun row =>
      if condition row then { row with document, version } else row).Pairwise
        StoredRun.Distinct := by
  refine List.pairwise_map.mpr (table.uniqueRuns.imp ?_)
  intro a b distinct
  split <;> split <;> exact distinct

/-- `UPDATE runs SET document, version`. -/
def update (condition : StoredRun → Bool) (document : String) (version : Nat) (table : RunTable) :
    RunTable :=
  { table with
    runs := table.runs.map fun row =>
      if condition row then { row with document, version } else row
    uniqueRuns := table.unique_update condition document version }

/-- `SELECT event ... ORDER BY version LIMIT 514`. -/
def events (table : RunTable) (id : String) : List StoredRunEvent :=
  ((table.journal.filter fun row => row.runId = id).mergeSort
    fun a b => decide (a.version ≤ b.version)).take 514

def ownedBy (caller : TaskRouteCaller) (id : String) (row : StoredRun) : Bool :=
  row.runId == id && row.principal == caller.principal.text && row.tenant == caller.tenant.text

def heldBy (caller : TaskRouteCaller) (key : String) (row : StoredRun) : Bool :=
  row.principal == caller.principal.text && row.tenant == caller.tenant.text && row.runKey == key

variable [SerdeJson] [Sha256]

def readEvents : List StoredRunEvent → Except RunError (List RunEvent)
  | [] => .ok []
  | row :: rest => do
    let event ← okOr ((SerdeJson.fromStr row.event).bind RunEvent.decode) .json
    return event :: (← readEvents rest)

def load (table : RunTable) (caller : TaskRouteCaller) (id : String) :
    Except RunError (Option RunRecord) :=
  match table.runs.find? (ownedBy caller id) with
  | none => .ok none
  | some row => do
    reject (row.document.utf8ByteSize > maxRunDocumentBytes ∨ row.version > maxRunVersion)
      (.invalid "GM_RUN_STORAGE_BOUND")
    let planSha256 ← okOr (Sha256Digest.readBack row.planDigest) (.invalid "GM_RUN_INTEGRITY")
    let data ← okOr (SerdeJson.fromStr row.document) .json
    let journal ← readEvents (table.events id)
    let record : RunRecord :=
      ⟨runSchemaVersion,id,caller,row.runKey,planSha256,row.version,data,journal⟩
    record.verifyIntegrity
    return some record

def findRun (table : RunTable) (caller : TaskRouteCaller) (key : String) :
    Except RunError (Option RunRecord) :=
  match table.runs.find? (heldBy caller key) with
  | none => .ok none
  | some row => table.load caller row.runId

def getRun (table : RunTable) (caller : TaskRouteCaller) (id : String) :
    Except RunError (Option RunRecord) := table.load caller id

def storedEvent (id : String) (e : RunEvent) : StoredRunEvent :=
  ⟨id,e.version,String.ofList e.encode.text⟩

/-- The row written for a record. -/
def stored (r : RunRecord) : StoredRun where
  runId := r.runId
  principal := r.caller.principal.text
  tenant := r.caller.tenant.text
  runKey := r.runKey
  planDigest := r.planSha256.toString
  version := r.version
  document := String.ofList r.data.text

/-- The last event of the journal becomes a row of its own, under the version of the record. -/
def insertEvent (r : RunRecord) (table : RunTable) : Except RunError RunTable := do
  let last ← okOr r.journal.getLast? (.invalid "GM_RUN_INTEGRITY")
  table.insertJournal ⟨r.runId,r.version,String.ofList last.encode.text⟩

/-- `runId` is the fresh `gmr_` identifier. -/
def beginRun (runId : String) (caller : TaskRouteCaller) (runKey : String) (data : Value) :
    RunTable → Except RunError RunRecord × RunTable :=
  atomically fun table => do
    reject (runKey.isEmpty ∨ runKey.utf8ByteSize > 128 ∨ ¬(data.index "plan").isObject)
      (.invalid "GM_RUN_PLAN_INVALID")
    let digest := Sha256Digest.ofJson (data.index "plan")
    match table.runs.find? (heldBy caller runKey) with
    | some row => do
      let record ← okOr (← table.load caller row.runId) (.invalid "GM_RUN_INTEGRITY")
      reject (record.planSha256 ≠ digest) (.invalid "GM_RUN_IDEMPOTENCY_CONFLICT")
      return (record,table)
    | none => do
      reject (table.runs.length ≥ maxStoredRuns) (.invalid "GM_RUN_STORAGE_CAPACITY")
      let record ← RunRecord.append
        ⟨runSchemaVersion,runId,caller,runKey,digest,0,data,[]⟩ "accepted"
      let inserted ← table.insertRun (stored record)
      return (record,← insertEvent record inserted)

def samePlan : Option Value → Option Value → Bool
  | some a, some b => a.same b
  | none, none => true
  | _, _ => false

def advanceRun (old : RunRecord) (data : Value) (kind : String) :
    RunTable → Except RunError RunRecord × RunTable :=
  atomically fun table => do
    let current ← okOr (← table.load old.caller old.runId) (.invalid "GM_RUN_NOT_FOUND")
    reject (current.version ≠ old.version) (.invalid "GM_RUN_STALE_DRIVER")
    reject (¬samePlan (data.get "plan") (current.data.get "plan"))
      (.invalid "GM_RUN_PLAN_IMMUTABLE")
    let next ← RunRecord.append { current with version := current.version + 1, data } kind
    let condition := fun (row : StoredRun) => row.runId == next.runId && row.version == old.version
    let changed := table.update condition (String.ofList next.data.text) next.version
    reject ((table.runs.filter condition).length ≠ 1) (.invalid "GM_RUN_STALE_DRIVER")
    return (next,← insertEvent next changed)

end RunTable
end GaugeMesh
