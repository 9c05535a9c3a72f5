import GaugeMesh.Json.Reference
import GaugeMesh.Json.Size
import GaugeMesh.Proxy.Submission

/-! What is accepted can be routed. The binding of an accepted submission is always within
its bound, so the record is prepared, and the execution ends between the creation of the
record and its expiry. -/
namespace GaugeMesh
open Json

theorem Sha256Digest.size_hex (bytes : List UInt8) :
    size (bytes.flatMap hexChars) = 2 * bytes.length := by
  induction bytes with
  | nil => rfl
  | cons byte bytes ih =>
    have small := byte.toNat_lt
    rw [List.flatMap_cons,size_append,ih,hexChars,size_cons,size_cons,size_nil,
      size_hexDigit _ (by omega),size_hexDigit _ (by omega),List.length_cons]
    omega

/-- Of no more bytes than that. -/
def Sha256Digest.Short (digest : Sha256Digest) : Prop := digest.bytes.length ≤ 32

theorem Sha256Digest.Whole.short {digest : Sha256Digest} (whole : digest.Whole) : digest.Short :=
  whole.le

theorem Sha256Digest.bytes_toString (digest : Sha256Digest) :
    digest.toString.utf8ByteSize = 7 + 2 * digest.bytes.length := by
  have front : size scheme = 7 := by decide
  rw [toString,size_ofList,size_append,size_hex,front]

theorem validIdentifier_ok {value : String} (valid : TaskSubmission.validIdentifier value) :
    value.utf8ByteSize ≤ 128 ∧ ∀ name, validateIdentifier value maxIdentifierBytes name = .ok () := by
  simp only [TaskSubmission.validIdentifier,Bool.and_eq_true,Bool.not_eq_true',decide_eq_true_eq,
    List.all_eq_true] at valid
  obtain ⟨⟨filled,short⟩,plain⟩ := valid
  refine ⟨short,fun name => ?_⟩
  rw [validateIdentifier,reject_ok]
  rintro (empty | long | control)
  · simp [filled] at empty
  · exact Nat.not_lt.mpr short long
  · obtain ⟨c,member,bad⟩ := List.any_eq_true.mp control
    simpa [bad] using plain c member

theorem validateIdentifier_bytes {value name : String}
    (valid : validateIdentifier value maxIdentifierBytes name = .ok ()) :
    value.utf8ByteSize ≤ 128 := by
  rw [validateIdentifier,reject_ok] at valid
  exact Nat.not_lt.mp fun long => valid (.inr (.inl long))

namespace TaskSubmission

/-- What an accepted submission keeps within its bounds. -/
structure Bounded (now : Nat) (s : TaskSubmission) : Prop where
  schema : s.schemaVersion = taskSubmissionSchema
  identifiers : ∀ value ∈ [s.logicalTaskId,s.attemptId,s.correlationId,s.idempotencyKey,
    s.providerInterfaceVersion], validIdentifier value
  deadline : now < s.deadlineUnixMs ∧ s.deadlineUnixMs ≤ saturatingAdd now s.retentionMs
  retention : s.limits.maxRuntimeMs ≤ s.retentionMs ∧ s.retentionMs ≤ maxTaskRetentionMs
  runtime : 0 < s.limits.maxRuntimeMs ∧ s.limits.maxRuntimeMs ≤ maxTaskRuntimeMs
  output : s.limits.maxOutputBytes ≤ maxTaskOutputBytes
  artifact : s.limits.maxArtifactBytes ≤ maxTaskArtifactBytes
  attempts : s.limits.maxAttempts = 1

end TaskSubmission

section

variable [FloatText]

theorem size_digest (digest : Sha256Digest) :
    size (toValue digest).text ≤ 6 * (7 + 2 * digest.bytes.length) + 2 := by
  have text := size_stringText_le digest.toString
  rw [digest.bytes_toString] at text
  simpa [toValue,Value.text] using text

theorem size_digest_le {digest : Sha256Digest} (short : digest.Short) :
    size (toValue digest).text ≤ 428 := by
  apply (size_digest digest).trans
  unfold Sha256Digest.Short at short
  omega

theorem size_text_le {value : String} (bytes : Nat) (short : value.utf8ByteSize ≤ bytes) :
    size (toValue value).text ≤ 6 * bytes + 2 := by
  have text := size_stringText_le value
  simp only [toValue,Value.text]
  omega

theorem size_nat_le {n : Nat} (small : n ≤ maxU64) : size (toValue n).text ≤ 20 :=
  size_digits_le (by decide) (by unfold maxU64 at small; omega)

theorem size_limits_le {now : Nat} {s : TaskSubmission} (bounded : s.Bounded now) :
    size (toValue s.limits).text ≤ 482 := by
  have keys := size_object_le 16 [
    ("maxArtifactBytes",toValue s.limits.maxArtifactBytes),
    ("maxAttempts",toValue s.limits.maxAttempts),
    ("maxOutputBytes",toValue s.limits.maxOutputBytes),
    ("maxRuntimeMs",toValue s.limits.maxRuntimeMs)] (by simp only [List.forall_mem_cons]; decide)
  have artifact := size_nat_le (n := s.limits.maxArtifactBytes)
    (bounded.artifact.trans (by decide))
  have output := size_nat_le (n := s.limits.maxOutputBytes) (bounded.output.trans (by decide))
  have runtime := size_nat_le (n := s.limits.maxRuntimeMs) (bounded.runtime.2.trans (by decide))
  have attempts : size (toValue s.limits.maxAttempts).text ≤ 20 := by
    rw [bounded.attempts]
    exact size_nat_le (n := 1) (by decide)
  simp only [List.length_cons,List.length_nil,sizes_cons,sizes_nil] at keys
  exact keys.trans (by omega)

theorem size_task_le {now : Nat} {s : TaskSubmission} (bounded : s.Bounded now)
    (input : s.inputSha256.Short) (policy : s.acceptancePolicySha256.Short)
    (scope : s.artifactScopeSha256.Short) :
    size (toValue s).text ≤ 8021 := by
  have keys := size_object_le 24 [
    ("acceptancePolicySha256",toValue s.acceptancePolicySha256),
    ("artifactScopeSha256",toValue s.artifactScopeSha256),
    ("attemptId",toValue s.attemptId),
    ("cleanupRequired",toValue s.cleanupRequired),
    ("correlationId",toValue s.correlationId),
    ("deadlineUnixMs",toValue s.deadlineUnixMs),
    ("idempotencyKey",toValue s.idempotencyKey),
    ("inputSha256",toValue s.inputSha256),
    ("limits",toValue s.limits),
    ("logicalTaskId",toValue s.logicalTaskId),
    ("permittedEffect",toValue s.permittedEffect),
    ("providerInterfaceVersion",toValue s.providerInterfaceVersion),
    ("retentionMs",toValue s.retentionMs),
    ("schemaVersion",toValue s.schemaVersion)] (by simp only [List.forall_mem_cons]; decide)
  have short : ∀ value ∈ [s.logicalTaskId,s.attemptId,s.correlationId,s.idempotencyKey,
      s.providerInterfaceVersion], size (toValue value).text ≤ 770 := fun value member =>
    size_text_le _ (validIdentifier_ok (bounded.identifiers value member)).1
  simp only [List.forall_mem_cons] at short
  obtain ⟨logical,attempt,correlation,key,provider,-⟩ := short
  have schema : size (toValue s.schemaVersion).text ≤ 164 := by
    rw [bounded.schema]
    exact size_text_le 27 (by decide)
  have effect : size (toValue s.permittedEffect).text ≤ 122 := by
    change size (toValue s.permittedEffect.name).text ≤ 122
    refine size_text_le 20 ?_
    cases s.permittedEffect <;> decide
  have cleanup : size (toValue s.cleanupRequired).text ≤ 5 := by
    cases s.cleanupRequired <;> simp only [toValue,Value.text] <;> decide
  have limits := size_limits_le bounded
  have deadline := size_nat_le (n := s.deadlineUnixMs) (by
    have := bounded.deadline.2
    unfold saturatingAdd at this
    omega)
  have retention := size_nat_le (n := s.retentionMs) (bounded.retention.2.trans (by decide))
  have input := size_digest_le input
  have policy := size_digest_le policy
  have scope := size_digest_le scope
  simp only [List.length_cons,List.length_nil,sizes_cons,sizes_nil] at keys
  exact keys.trans (by omega)

variable [Sha256]

theorem TaskSubmission.parse_bounded {value : Value} {arguments : Entries Value} {version : String}
    {effect : SideEffectClass} {now : Nat} {s : TaskSubmission}
    (parsed : parse value arguments version effect now = .ok s) : Bounded now s := by
  simp only [parse,Except.then_ok,okOr_bind_ok,reject_ok,not_or,not_le,not_lt,not_not] at parsed
  obtain ⟨-,x,-,schema,identifiers,-,-,-,⟨ahead,-⟩,
    ⟨runtime,deadline,retention,some,most,-,output,-,artifact,attempts⟩,-,-,same⟩ := parsed
  cases same
  refine ⟨schema,?_,⟨ahead,deadline⟩,⟨runtime,retention⟩,⟨by omega,most⟩,output,artifact,attempts⟩
  simpa using identifiers

/-- The hash yields thirty-two bytes, and the digests of a tool are of that width. -/
structure Whole (tool : FederatedTool) (snapshot : Sha256Digest) : Prop where
  hash : ∀ input, (Sha256.digest input).length = 32
  «schema» : tool.identity.schemaDigest.Whole
  configuration : tool.identity.sourceConfigurationDigest.Whole
  snapshot : snapshot.Whole

/-- What the length of a binding rests on: the digests in it are short, and the one of the
capability is not much longer. -/
structure Compact (tool : FederatedTool) (s : TaskSubmission) (snapshot : Sha256Digest) : Prop where
  identity : tool.identity.digest.bytes.length ≤ 400
  «schema» : tool.identity.schemaDigest.Short
  configuration : tool.identity.sourceConfigurationDigest.Short
  snapshot : snapshot.Short
  input : s.inputSha256.Short
  policy : s.acceptancePolicySha256.Short
  scope : s.artifactScopeSha256.Short

theorem Whole.compact {tool : FederatedTool} {s : TaskSubmission} {snapshot : Sha256Digest}
    (whole : Whole tool snapshot) (given : s.Whole) : Compact tool s snapshot where
  identity := (whole.hash _).trans_le (by omega)
  «schema» := whole.schema.short
  configuration := whole.configuration.short
  snapshot := whole.snapshot.short
  input := given.input.short
  policy := given.policy.short
  scope := given.scope.short

/-- The binding of an accepted submission is within its bound. -/
theorem binding_length_le {now : Nat} {s : TaskSubmission} {tool : FederatedTool}
    {snapshot : Sha256Digest} (bounded : s.Bounded now) (compact : Compact tool s snapshot)
    (source : tool.identity.source.text.utf8ByteSize ≤ 128) :
    (canonicalJson (submissionBinding tool s snapshot)).byteLength ≤ maxSubmissionBindingBytes := by
  rw [canonicalJson_binding,byteLength_eq]
  have keys := size_object_le 25 [
    ("capabilityId",toValue tool.identity.digest),
    ("capabilitySchemaSha256",toValue tool.identity.schemaDigest),
    ("capabilitySource",toValue tool.identity.source),
    ("schemaVersion",toValue taskRouteSchema),
    ("sourceConfigurationSha256",toValue tool.identity.sourceConfigurationDigest),
    ("sourceSnapshotSha256",toValue snapshot),
    ("task",toValue s)] (by simp only [List.forall_mem_cons]; decide)
  have identity := size_digest tool.identity.digest
  have few := compact.identity
  have schema := size_digest_le compact.schema
  have origin : size (toValue tool.identity.source).text ≤ 770 := size_text_le _ source
  have version : size (toValue taskRouteSchema).text ≤ 134 := size_text_le 22 (by decide)
  have configuration := size_digest_le compact.configuration
  have snapshot := size_digest_le compact.snapshot
  have task := size_task_le bounded compact.input compact.policy compact.scope
  simp only [List.length_cons,List.length_nil,sizes_cons,sizes_nil] at keys
  refine keys.trans ?_
  unfold maxSubmissionBindingBytes
  omega

/-- The runtime's own names for a route are identifiers. -/
structure Named (id : PublicTaskId) (caller : TaskRouteCaller) (source : SourceId)
    (session : String) : Prop where
  id : PublicTaskId.new id.text = .ok id
  caller : TaskRouteCaller.new caller.principal caller.tenant = .ok caller
  source : validateIdentifier source.text maxIdentifierBytes "capability source" = .ok ()
  session : validateIdentifier session maxIdentifierBytes "upstream session ID" = .ok ()

theorem prepareWithId_made {now : Nat} {s : TaskSubmission} {tool : FederatedTool}
    {snapshot : Sha256Digest} {id : PublicTaskId} {caller : TaskRouteCaller} {session : String}
    (bounded : s.Bounded now) (compact : Compact tool s snapshot)
    (named : Named id caller tool.identity.source session)
    (range : now + s.retentionMs ≤ maxSqliteInteger) :
    ∃ record, TaskRouteRecord.prepareWithId id caller (some ⟨s.idempotencyKey⟩)
      (.ofJson (submissionBinding tool s snapshot)) (submissionBinding tool s snapshot)
      tool.identity session now s.retentionMs = .ok record := by
  have fits : checkedAdd now s.retentionMs = some (now + s.retentionMs) := by
    refine checkedAdd_some.mpr ⟨rfl,?_⟩
    unfold maxSqliteInteger at range
    unfold maxU64
    omega
  have small := binding_length_le bounded compact (validateIdentifier_bytes named.source)
  have key := (validIdentifier_ok (bounded.identifiers s.idempotencyKey (by simp))).2
  obtain ⟨publicTaskId,-⟩ := Except.then_ok.mp named.id
  obtain ⟨principal,rest⟩ := Except.then_ok.mp named.caller
  obtain ⟨tenant,-⟩ := Except.then_ok.mp rest
  have ttl : s.retentionMs ≠ 0 := by
    have := bounded.runtime.1
    have := bounded.retention.1
    omega
  simp only [TaskRouteRecord.prepareWithId,fits,okOr,Except.ok_then]
  refine ⟨_,TaskRouteRecord.sealed_ok.mpr ⟨?_,rfl⟩⟩
  simp only [TaskRouteRecord.validateShape,Except.then_ok,okOr_bind_ok,reject_ok,ifSome]
  refine ⟨by simp,publicTaskId,principal,tenant,key _,named.source,by simp,named.session,trivial,
    by omega,by simp,ttl,_,fits,by simp,?_,by simp,by simp,by simp,by simp,trivial,by simp,by simp,
    trivial⟩
  simp only [List.any_cons,List.any_nil,Bool.or_false,Bool.or_eq_true,decide_eq_true_eq]
  omega

/-- A submission accepted at `now` is prepared, within its retention of that time: its execution
is cut off after the record is made, by the deadline, and the deadline is by the expiry. No sum
on the way is cut off. -/
theorem submission_window {value : Value} {arguments : Entries Value} {version : String}
    {effect : SideEffectClass} {now : Nat} {s : TaskSubmission} {tool : FederatedTool}
    {snapshot : Sha256Digest} {id : PublicTaskId} {caller : TaskRouteCaller} {session : String}
    (parsed : TaskSubmission.parse value arguments version effect now = .ok s)
    (range : now + s.retentionMs ≤ maxSqliteInteger) (whole : Whole tool snapshot)
    (named : Named id caller tool.identity.source session) :
    TaskRouteIdempotencyKey.new s.idempotencyKey = .ok ⟨s.idempotencyKey⟩ ∧
    ∃ record, TaskRouteRecord.prepareWithId id caller (some ⟨s.idempotencyKey⟩)
        (.ofJson (submissionBinding tool s snapshot)) (submissionBinding tool s snapshot)
        tool.identity session now s.retentionMs = .ok record ∧
      record.createdAtUnixMs < record.executionCutoff ∧
      record.executionCutoff ≤ record.deadline ∧ record.deadline ≤ record.expiresAtUnixMs ∧
      record.createdAtUnixMs = now ∧ record.deadline = s.deadlineUnixMs ∧
      record.expiresAtUnixMs = now + s.retentionMs ∧
      saturatingAdd now s.retentionMs = now + s.retentionMs ∧
      record.executionCutoff = min s.deadlineUnixMs (now + s.limits.maxRuntimeMs) := by
  have bounded := TaskSubmission.parse_bounded parsed
  have given := TaskSubmission.decode_whole (TaskSubmission.parse_ok parsed).decoded
  have key := (validIdentifier_ok (bounded.identifiers s.idempotencyKey (by simp))).2
  obtain ⟨record,made⟩ := prepareWithId_made bounded (whole.compact given) named range
  refine ⟨Except.then_ok.mpr ⟨key _,rfl⟩,record,made,?_⟩
  obtain ⟨-,digest,rfl⟩ := TaskRouteRecord.prepareWithId_ok made
  obtain ⟨ahead,deadline⟩ := bounded.deadline
  have positive := bounded.runtime.1
  have within := bounded.retention.1
  have exact : ∀ n ≤ s.retentionMs, saturatingAdd now n = now + n := by
    intro n bound
    unfold saturatingAdd maxU64
    unfold maxSqliteInteger at range
    omega
  rw [exact _ le_rfl] at deadline
  generalize made' : TaskRouteRecord.prepared id caller _ _ (submissionBinding tool s snapshot)
    tool.identity session now s.retentionMs digest = record
  have binding : record.submissionBinding = submissionBinding tool s snapshot := by
    rw [← made']
    rfl
  have bound := deadline_bound _ binding
  have runtime : record.runtime = s.limits.maxRuntimeMs := by
    rw [TaskRouteRecord.runtime,binding]
    rfl
  have created : record.createdAtUnixMs = now := by rw [← made']; rfl
  have expiry : record.expiresAtUnixMs = now + s.retentionMs := by rw [← made']; rfl
  have cutoff : record.executionCutoff = min s.deadlineUnixMs (now + s.limits.maxRuntimeMs) := by
    rw [TaskRouteRecord.executionCutoff,bound,runtime,created,exact _ within]
  rw [cutoff,bound,created,expiry]
  exact ⟨by omega,by omega,by omega,rfl,rfl,rfl,exact _ le_rfl,rfl⟩

end

section Example

local instance plainText : FloatText := plainFloat

/-- A hash of thirty-two bytes. -/
local instance shortHash : Sha256 := ⟨fun input => (input ++ List.replicate 32 0).take 32⟩

def onesDigest : Sha256Digest := ⟨List.replicate 32 1⟩

/-- A tool without arguments. -/
def plainTool : FederatedTool :=
  ⟨⟨⟨"docs"⟩,.tool,onesDigest,onesDigest,⟨"1"⟩,onesDigest⟩,"search",.null,.nonIdempotentWrite,.null⟩

/-- A call of it within the least limits. -/
def leastSubmission : TaskSubmission where
  schemaVersion := taskSubmissionSchema
  logicalTaskId := "task-1"
  attemptId := "attempt-1"
  correlationId := "correlation-1"
  idempotencyKey := "key-1"
  inputSha256 := .ofJson (.object [])
  acceptancePolicySha256 := onesDigest
  artifactScopeSha256 := onesDigest
  providerInterfaceVersion := "provider/1"
  deadlineUnixMs := 1001
  retentionMs := 1
  limits := ⟨1,1,1,1⟩
  permittedEffect := .nonIdempotentWrite
  cleanupRequired := true

theorem leastSubmission_parsed : TaskSubmission.parse (toValue leastSubmission) [] "provider/1"
    .nonIdempotentWrite 1000 = .ok leastSubmission := by
  have decoded : TaskSubmission.decode (toValue leastSubmission) = some leastSubmission :=
    TaskSubmission.decode_encode ⟨by decide +kernel,rfl,rfl⟩
  have small : (Value.object []).byteLength ≤ maxTaskInputBytes := by
    rw [byteLength_eq]
    decide
  simp only [TaskSubmission.parse,Except.then_ok,okOr_bind_ok,reject_ok]
  exact ⟨by omega,leastSubmission,decoded,by simp [leastSubmission],by decide,
    by simp [leastSubmission],by simp [leastSubmission],by decide,by decide,by decide,by decide,
    by decide,rfl⟩

theorem submission_window_example :
    ∃ record, TaskRouteRecord.prepareWithId ⟨"gmt_1"⟩ ⟨⟨"alice"⟩,⟨"tenant-a"⟩⟩ (some ⟨"key-1"⟩)
        (.ofJson (submissionBinding plainTool leastSubmission onesDigest))
        (submissionBinding plainTool leastSubmission onesDigest)
        plainTool.identity "gmus_1" 1000 1 = .ok record ∧
      record.createdAtUnixMs < record.executionCutoff := by
  have whole : Whole plainTool onesDigest :=
    ⟨fun input => by simp [Sha256.digest],rfl,rfl,rfl⟩
  have named : Named ⟨"gmt_1"⟩ ⟨⟨"alice"⟩,⟨"tenant-a"⟩⟩ plainTool.identity.source "gmus_1" :=
    ⟨rfl,rfl,rfl,rfl⟩
  have window := submission_window leastSubmission_parsed (by decide) whole named
  obtain ⟨-,record,made,after,-⟩ := window
  exact ⟨record,made,after⟩

end Example
end GaugeMesh
