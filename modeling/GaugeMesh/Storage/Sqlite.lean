import GaugeMesh.Storage.Table

/-! `SqliteStorage` as a store of task routes: each row holds the JSON text of a record
next to the columns that repeat it, and a read checks the one against the other. -/
namespace GaugeMesh
open Json

def toSqliteInteger (value : Nat) : Except TaskRouteStorageError Int :=
  if value ≤ maxSqliteInteger then .ok value else .error .taskRouteIntegrity

def fromSqliteInteger (value : Int) : Except TaskRouteStorageError Nat :=
  if 0 ≤ value then .ok value.toNat else .error .taskRouteIntegrity

def phaseName : TaskRoutePhase → String
  | .prepared => "prepared"
  | .dispatching => "dispatching"
  | .routed => "routed"
  | .terminal => "terminal"
  | .reconciliationRequired => "reconciliation_required"
  | .cancelRequested => "cancel_requested"

/-- `serde_json::to_string(record)`. -/
def documentJson [FloatText] (record : TaskRouteRecord) : String :=
  String.ofList record.encode.text

def indexedFieldsMatch (stored : StoredTaskRoute) (record : TaskRouteRecord)
    (storedRequestDigest storedIntegrityDigest : Sha256Digest) : Bool :=
  stored.publicTaskId == record.publicTaskId.text &&
  stored.principalId == record.caller.principal.text &&
  stored.tenantId == record.caller.tenant.text &&
  stored.idempotencyKey == record.idempotencyKey.map (·.text) &&
  storedRequestDigest == record.requestDigest &&
  stored.capabilitySource == record.capabilitySource.text &&
  stored.upstreamTaskId == record.upstreamTaskId.map (·.text) &&
  stored.phase == phaseName record.phase &&
  decide (fromSqliteInteger stored.createdAtUnixMs = .ok record.createdAtUnixMs) &&
  decide (fromSqliteInteger stored.updatedAtUnixMs = .ok record.updatedAtUnixMs) &&
  decide (fromSqliteInteger stored.ttlMs = .ok record.ttlMs) &&
  decide (fromSqliteInteger stored.expiresAtUnixMs = .ok record.expiresAtUnixMs) &&
  decide (fromSqliteInteger stored.transitionVersion = .ok record.transitionVersion) &&
  stored.recordSchemaVersion == record.schemaVersion.toNat &&
  storedIntegrityDigest == record.integrityDigest

namespace TaskRouteTable

variable [SerdeJson] [Sha256]

def decodeTaskRoute (stored : StoredTaskRoute) : Except TaskRouteStorageError TaskRouteRecord := do
  let record ← okOr ((SerdeJson.fromStr stored.documentJson).bind TaskRouteRecord.decode) .json
  taskRouteResult record.verifyIntegrity
  let storedRequestDigest ← okOr (Sha256Digest.readBack stored.requestDigest) .taskRouteIntegrity
  let storedIntegrityDigest ← okOr (Sha256Digest.readBack stored.integrityDigest) .taskRouteIntegrity
  reject (¬indexedFieldsMatch stored record storedRequestDigest storedIntegrityDigest)
    .taskRouteIntegrity
  return record

/-- `stored.map(decode_task_route).transpose()`. -/
def decodeSelected : Option StoredTaskRoute → Except TaskRouteStorageError (Option TaskRouteRecord)
  | none => .ok none
  | some stored => do return some (← decodeTaskRoute stored)

def ownedBy (caller : TaskRouteCaller) (publicTaskId : PublicTaskId) (row : StoredTaskRoute) : Bool :=
  row.publicTaskId == publicTaskId.text && row.principalId == caller.principal.text &&
    row.tenantId == caller.tenant.text

def heldBy (caller : TaskRouteCaller) (key : TaskRouteIdempotencyKey) (row : StoredTaskRoute) : Bool :=
  row.principalId == caller.principal.text && row.tenantId == caller.tenant.text &&
    row.idempotencyKey == some key.text

def selectTaskRouteByPublicId (table : TaskRouteTable) (caller : TaskRouteCaller)
    (publicTaskId : PublicTaskId) : Except TaskRouteStorageError (Option TaskRouteRecord) :=
  decodeSelected (table.select (ownedBy caller publicTaskId))

def selectTaskRouteByIdempotency (table : TaskRouteTable) (caller : TaskRouteCaller)
    (key : TaskRouteIdempotencyKey) : Except TaskRouteStorageError (Option TaskRouteRecord) :=
  decodeSelected (table.select (heldBy caller key))

/-- The values an INSERT binds. -/
def rowOf (record : TaskRouteRecord) : Except TaskRouteStorageError StoredTaskRoute := do
  let createdAtUnixMs ← toSqliteInteger record.createdAtUnixMs
  let updatedAtUnixMs ← toSqliteInteger record.updatedAtUnixMs
  let ttlMs ← toSqliteInteger record.ttlMs
  let expiresAtUnixMs ← toSqliteInteger record.expiresAtUnixMs
  let transitionVersion ← toSqliteInteger record.transitionVersion
  return {
    publicTaskId := record.publicTaskId.text
    principalId := record.caller.principal.text
    tenantId := record.caller.tenant.text
    idempotencyKey := record.idempotencyKey.map (·.text)
    requestDigest := record.requestDigest.toString
    capabilitySource := record.capabilitySource.text
    upstreamTaskId := record.upstreamTaskId.map (·.text)
    phase := phaseName record.phase
    createdAtUnixMs, updatedAtUnixMs, ttlMs, expiresAtUnixMs, transitionVersion
    recordSchemaVersion := record.schemaVersion.toNat
    integrityDigest := record.integrityDigest.toString
    documentJson := GaugeMesh.documentJson record }

def insertChecked (record : TaskRouteRecord) (table : TaskRouteTable) :
    Except TaskRouteStorageError (BeginTaskRouteResult × TaskRouteTable) := do
  reject (table.select fun row => row.publicTaskId == record.publicTaskId.text).isSome
    .publicTaskIdCollision
  let storedRoutes := table.count fun _ => true
  let createdAtUnixMs ← toSqliteInteger record.createdAtUnixMs
  let activeForCaller := table.count fun row =>
    row.principalId == record.caller.principal.text &&
      row.tenantId == record.caller.tenant.text && decide (createdAtUnixMs < row.expiresAtUnixMs)
  reject (maxStoredTaskRoutes ≤ storedRoutes ∨ maxActiveTaskRoutesPerCaller ≤ activeForCaller)
    .taskRouteCapacity
  let row ← rowOf record
  let inserted ← table.insert row
  return (.inserted record,inserted)

/-- The row of an expired holder of the key is deleted first. -/
def replaceExpired (record existing : TaskRouteRecord) (key : TaskRouteIdempotencyKey)
    (table : TaskRouteTable) :
    Except TaskRouteStorageError (BeginTaskRouteResult × TaskRouteTable) := do
  let condition := fun row =>
    ownedBy existing.caller existing.publicTaskId row && row.idempotencyKey == some key.text
  reject (table.count condition ≠ 1) .taskRouteIntegrity
  insertChecked record (table.delete condition)

def beginOrExisting (record : TaskRouteRecord) : TaskRouteTable →
    Except TaskRouteStorageError BeginTaskRouteResult × TaskRouteTable :=
  atomically fun table => do
    taskRouteResult record.verifyPreparedForBegin
    match record.idempotencyKey with
    | none => insertChecked record table
    | some key =>
      match ← selectTaskRouteByIdempotency table record.caller key with
      | none => insertChecked record table
      | some existing =>
        if existing.isExpired record.createdAtUnixMs then replaceExpired record existing key table
        else do
          reject (existing.requestDigest ≠ record.requestDigest) .idempotencyConflict
          return (.existing existing,table)

def compareAndSetTaskRoute (caller : TaskRouteCaller) (publicTaskId : PublicTaskId)
    (expectedTransitionVersion : Nat) (update : TaskRouteUpdate) : TaskRouteTable →
    Except TaskRouteStorageError (Option TaskRouteRecord) × TaskRouteTable :=
  atomically fun table => do
    match ← selectTaskRouteByPublicId table caller publicTaskId with
    | none => return (none,table)
    | some current =>
      reject (current.transitionVersion ≠ expectedTransitionVersion) .staleTransition
      let next ← taskRouteResult (current.transition update)
      let updatedAtUnixMs ← toSqliteInteger next.updatedAtUnixMs
      let transitionVersion ← toSqliteInteger next.transitionVersion
      let expected ← toSqliteInteger expectedTransitionVersion
      let condition := fun row =>
        ownedBy next.caller next.publicTaskId row && row.transitionVersion == expected
      let changed ← table.update condition {
        upstreamTaskId := next.upstreamTaskId.map (·.text)
        phase := phaseName next.phase
        updatedAtUnixMs, transitionVersion
        integrityDigest := next.integrityDigest.toString
        documentJson := documentJson next }
      reject (table.count condition ≠ 1) .staleTransition
      return (some next,changed)

def purgeExpiredTaskRoutes (nowUnixMs maxRecords : Nat) (table : TaskRouteTable) :
    Except TaskRouteStorageError Nat × TaskRouteTable :=
  let limit := boundedTaskRoutePurgeLimit maxRecords
  if limit = 0 then (.ok 0,table)
  else
    let now : Int := min nowUnixMs maxSqliteInteger
    let ids := table.oldest (fun row => decide (row.expiresAtUnixMs ≤ now)) limit
    let condition := fun (row : StoredTaskRoute) => ids.contains row.publicTaskId
    (.ok (table.count condition),table.delete condition)

instance : TaskRouteStorage TaskRouteTable where
  empty := empty
  findTaskRoute := selectTaskRouteByIdempotency
  beginOrExisting := beginOrExisting
  getTaskRoute := selectTaskRouteByPublicId
  compareAndSetTaskRoute := compareAndSetTaskRoute
  purgeExpiredTaskRoutes := purgeExpiredTaskRoutes

end TaskRouteTable
end GaugeMesh
