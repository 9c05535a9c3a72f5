import GaugeMesh.Json.Reference
import GaugeMesh.Proxy.Answers

/-! One implementation of the protocol and calendar libraries the proxy takes as
parameters: tasks as flat documents, and times of the proleptic calendar. -/
namespace GaugeMesh.Reference
open Json

def statusText : TaskStatus → String
  | .working => "working"
  | .inputRequired => "input_required"
  | .completed => "completed"
  | .failed => "failed"
  | .cancelled => "cancelled"

def statuses : List TaskStatus := [.working,.inputRequired,.completed,.failed,.cancelled]

def taskFields (task : McpTask) : Entries Value := [
  ("taskId",toValue task.taskId),
  ("status",.string (statusText task.status)),
  ("statusMessage",toValue task.statusMessage),
  ("createdAt",toValue task.createdAt),
  ("lastUpdatedAt",toValue task.lastUpdatedAt),
  ("ttlMs",toValue task.ttlMs),
  ("pollIntervalMs",toValue task.pollIntervalMs)]

def payloadFields : TaskPayload → Entries Value
  | .working | .cancelled => []
  | .inputRequired inputRequests => [("inputRequests",inputRequests)]
  | .completed result => [("result",.object result)]
  | .failed error => [("error",.object error)]

def taskDocument (detailed : DetailedTask) : Value :=
  .object (taskFields detailed.task ++ payloadFields detailed.payload)

def readPayload (v : Value) : TaskStatus → Option TaskPayload
  | .working => some .working
  | .cancelled => some .cancelled
  | .inputRequired => (v.get "inputRequests").map .inputRequired
  | .completed => ((v.get "result").bind Value.asObject).map .completed
  | .failed => ((v.get "error").bind Value.asObject).map .failed

def readTaskDocument (v : Value) : Option DetailedTask := do
  let status ← statuses.find? fun status => (v.get "status").bind Value.asStr = some (statusText status)
  let task : McpTask := {
    taskId := ← (v.get "taskId").bind Value.asStr
    status
    statusMessage := (v.get "statusMessage").bind Value.asStr
    createdAt := ← (v.get "createdAt").bind Value.asStr
    lastUpdatedAt := ← (v.get "lastUpdatedAt").bind Value.asStr
    ttlMs := (v.get "ttlMs").bind Value.asU64
    pollIntervalMs := (v.get "pollIntervalMs").bind Value.asU64 }
  return ⟨task,← readPayload v status⟩

theorem taskDocument_error (detailed : DetailedTask) :
    (taskDocument detailed).get "error" = detailed.payload.error.map Value.object := by
  cases payload : detailed.payload <;>
    simp [taskDocument,payload,payloadFields,taskFields,TaskPayload.error,Value.get,Value.find]

def resultFields (result : CallToolResult) : Entries Value :=
  ("content",result.content) :: (result.metaObject.map fun object => ("_meta",Value.object object)).toList

noncomputable scoped instance rmcp : Rmcp where
  detailedTask detailed := some (taskDocument detailed)
  readDetailedTask := readTaskDocument
  status detailed := detailed.task.status
  callToolResult result := some (.object (resultFields result))
  getTaskResultBytes response := some (taskDocument response.task).byteLength
  detailedTask_error := by
    rintro detailed v ⟨⟩
    exact taskDocument_error detailed

/-- Year, month and day of a day counted from 1970-01-01. -/
def civil (days : Nat) : Nat × Nat × Nat :=
  let shifted := days + 719468
  let era := shifted / 146097
  let day := shifted % 146097
  let year := (day - day / 1460 + day / 36524 - day / 146096) / 365
  let ofYear := day - (365 * year + year / 4 - year / 100)
  let month := (5 * ofYear + 2) / 153
  let ofMonth := ofYear - (153 * month + 2) / 5 + 1
  if month < 10 then (year + era * 400,month + 3,ofMonth)
  else (year + era * 400 + 1,month - 9,ofMonth)

def padded (width n : Nat) : String :=
  let digits := Nat.toDigits 10 n
  String.ofList (List.replicate (width - digits.length) '0' ++ digits)

def rfc3339Text (unixMs : Nat) : String :=
  let (year,month,day) := civil (unixMs / 86400000)
  let second := unixMs / 1000 % 86400
  padded 4 year ++ "-" ++ padded 2 month ++ "-" ++ padded 2 day ++ "T" ++
    padded 2 (second / 3600) ++ ":" ++ padded 2 (second / 60 % 60) ++ ":" ++
    padded 2 (second % 60) ++ "." ++ padded 3 (unixMs % 1000) ++ "Z"

example : rfc3339Text 951782401005 = "2000-02-29T00:00:01.005Z" := by decide +kernel

/-- The calendar ends with the year 262142. -/
scoped instance chrono : Chrono where
  toRfc3339 unixMs := if unixMs ≤ 8210266876799999 then some (rfc3339Text unixMs) else none

end GaugeMesh.Reference
