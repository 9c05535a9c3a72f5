import GaugeMesh.Task.Transition

/-! `run.rs`: the record of one application run. Its journal holds one event for each
version, chained by digests, and the last event seals the record as it stands. -/
namespace GaugeMesh
open Json

inductive RunError where
  | sqlite
  | json
  | invalid (text : String)
  deriving DecidableEq

def runSchemaVersion : String := "gaugemesh.run-evidence/1"
def maxRunVersion : Nat := 512
def maxRunDocumentBytes : Nat := 2 * 1024 * 1024
def maxRunEventKindBytes : Nat := 128

structure RunEvent where
  version : Nat
  kind : String
  stateSha256 : Sha256Digest
  previousSha256 : Sha256Digest
  eventSha256 : Sha256Digest
  deriving DecidableEq

namespace RunEvent

def encode (e : RunEvent) : Value := .object [
  ("version",toValue e.version),
  ("kind",toValue e.kind),
  ("stateSha256",toValue e.stateSha256),
  ("previousSha256",toValue e.previousSha256),
  ("eventSha256",toValue e.eventSha256)]

def decode (v : Value) : Option RunEvent := do
  let fields ← structFields ["version","kind","stateSha256","previousSha256","eventSha256"] v
  return {
    version := ← field fields "version"
    kind := ← field fields "kind"
    stateSha256 := ← field fields "stateSha256"
    previousSha256 := ← field fields "previousSha256"
    eventSha256 := ← field fields "eventSha256" }

theorem decode_encode (e : RunEvent) : decode e.encode = some e := by
  simp [decode,encode,structFields,field]

theorem encode_depth (e : RunEvent) : e.encode.depth = 1 := rfl

variable [FloatText] [Sha256]

def digest (e : RunEvent) : Sha256Digest := .ofJson (.object [
  ("version",toValue e.version),
  ("kind",toValue e.kind),
  ("stateSha256",toValue e.stateSha256),
  ("previousSha256",toValue e.previousSha256)])

/-- The event with its own digest filled in. -/
def sealed (e : RunEvent) : RunEvent := { e with eventSha256 := e.digest }

theorem sealed_digest (e : RunEvent) : e.sealed.digest = e.sealed.eventSha256 := rfl

end RunEvent

structure RunRecord where
  schemaVersion : String
  runId : String
  caller : TaskRouteCaller
  runKey : String
  planSha256 : Sha256Digest
  version : Nat
  data : Value
  journal : List RunEvent
  deriving DecidableEq

namespace RunRecord

variable [FloatText] [Sha256]

def stateDigest (r : RunRecord) : Sha256Digest := .ofJson (.object [
  ("schemaVersion",toValue r.schemaVersion),
  ("runId",toValue r.runId),
  ("caller",toValue r.caller),
  ("runKey",toValue r.runKey),
  ("planSha256",toValue r.planSha256),
  ("version",toValue r.version),
  ("data",r.data)])

/-- The loop over the journal: `i` is the version of the next event, `previous` the
digest of the last one. -/
def verifyJournal (previous : Sha256Digest) (i : Nat) : List RunEvent → Except RunError Unit
  | [] => .ok ()
  | entry :: rest => do
    reject (entry.version ≠ i ∨ entry.previousSha256 ≠ previous ∨
      entry.digest ≠ entry.eventSha256) (.invalid "GM_RUN_JOURNAL_INTEGRITY")
    verifyJournal entry.eventSha256 (i + 1) rest

def verifyIntegrity (r : RunRecord) : Except RunError Unit := do
  reject (r.schemaVersion ≠ runSchemaVersion ∨ r.version > maxRunVersion ∨
    r.journal.length ≠ r.version + 1 ∨
    (r.data.get "plan").map Sha256Digest.ofJson ≠ some r.planSha256 ∨
    (r.data.index "plan").index "runKey" ≠ .string r.runKey) (.invalid "GM_RUN_INTEGRITY")
  verifyJournal .default 0 r.journal
  reject (r.journal.getLast?.map (·.stateSha256) ≠ some r.stateDigest) (.invalid "GM_RUN_INTEGRITY")

/-- The event the next version of the run is journalled with. -/
def event (r : RunRecord) (kind : String) : RunEvent := RunEvent.sealed {
  version := r.version
  kind
  stateSha256 := r.stateDigest
  previousSha256 := (r.journal.getLast?.map (·.eventSha256)).getD .default
  eventSha256 := .default }

def append (r : RunRecord) (kind : String) : Except RunError RunRecord := do
  reject (r.version > maxRunVersion ∨ kind.utf8ByteSize > maxRunEventKindBytes ∨
    r.data.byteLength > maxRunDocumentBytes) (.invalid "GM_RUN_STORAGE_BOUND")
  let next := { r with journal := r.journal ++ [r.event kind] }
  next.verifyIntegrity
  return next

/-- What the store needs to know of a verified record. -/
structure Verified (r : RunRecord) : Prop where
  schema : r.schemaVersion = runSchemaVersion
  version : r.version ≤ maxRunVersion
  length : r.journal.length = r.version + 1
  plan : (r.data.get "plan").map Sha256Digest.ofJson = some r.planSha256
  key : (r.data.index "plan").index "runKey" = .string r.runKey
  versions : ∀ (i : Nat) (e : RunEvent), r.journal[i]? = some e → e.version = i

theorem verifyJournal_versions {journal : List RunEvent} {previous : Sha256Digest} {start : Nat}
    (checked : verifyJournal previous start journal = .ok ()) :
    ∀ i e, journal[i]? = some e → e.version = start + i := by
  induction journal generalizing previous start with
  | nil => intro i e found; simp at found
  | cons head rest ih =>
    rw [verifyJournal,Except.then_ok,reject_ok] at checked
    intro i e found
    cases i with
    | zero =>
      cases found
      by_contra other
      exact checked.1 (.inl other)
    | succ i =>
      have := ih checked.2 i e (by simpa using found)
      omega

theorem verifyIntegrity_ok {r : RunRecord} (checked : r.verifyIntegrity = .ok ()) :
    Verified r := by
  simp only [verifyIntegrity,Except.then_ok,reject_ok,not_or,not_not,not_lt] at checked
  obtain ⟨⟨schema,version,length,plan,key⟩,journal,-⟩ := checked
  refine ⟨schema,version,length,plan,key,fun i e found => ?_⟩
  have := verifyJournal_versions journal i e found
  omega

theorem append_ok {r next : RunRecord} {kind : String} : r.append kind = .ok next ↔
    next = { r with journal := r.journal ++ [r.event kind] } ∧ next.verifyIntegrity = .ok () ∧
      kind.utf8ByteSize ≤ maxRunEventKindBytes ∧ r.data.byteLength ≤ maxRunDocumentBytes := by
  simp only [append,Except.then_ok,reject_ok,not_or,not_lt,Except.pure_ok,Except.ok.injEq]
  constructor
  · rintro ⟨⟨-,kind,bytes⟩,checked,rfl⟩
    exact ⟨rfl,checked,kind,bytes⟩
  · rintro ⟨rfl,checked,kind,bytes⟩
    exact ⟨⟨(verifyIntegrity_ok checked).version,kind,bytes⟩,checked,rfl⟩

/-- A verified record holds its plan two containers deep. -/
theorem Verified.depth {r : RunRecord} (verified : Verified r) : 2 ≤ r.data.depth := by
  have key := verified.key
  have nested : ∀ (name : String) (entries : List (String × Value)) (v : Value),
      Value.find name entries = some v → v.depth ≤ Value.depthEntries entries := by
    intro name entries v found
    induction entries with
    | nil => cases found
    | cons entry rest ih =>
      rw [Value.find_cons] at found
      rw [Value.depthEntries]
      split at found
      · cases found; omega
      · have := ih found; omega
  have object : ∀ (v : Value) (name : String), v.index name ≠ .null →
      ∃ w, v.index name = w ∧ w.depth + 1 ≤ v.depth := by
    intro v name present
    cases v with
    | object entries =>
      rcases found : Value.find name entries with _ | w
      · simp [Value.index,found] at present
      · refine ⟨w,by simp [Value.index,found],?_⟩
        have := nested name entries w found
        simpa [Value.depth] using this
    | _ => exact absurd rfl present
  obtain ⟨_,rfl,inner⟩ := object (r.data.index "plan") "runKey" (by rw [key]; simp)
  obtain ⟨_,rfl,outer⟩ := object r.data "plan" (by
    intro absent
    rw [absent] at key; cases key)
  omega

end RunRecord
end GaugeMesh
