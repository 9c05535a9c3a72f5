import GaugeMesh.Proxy.AtMostOnce

/-! The verdict "not_dispatched". It is written over the prepared record, which nobody can
claim any more, or over a claim by its own holder, who has called for nothing and never will.
An upstream that was called may still report the same words about itself. -/
namespace GaugeMesh
open Json Interleaving ProxySystem

section
variable [FloatText] [Sha256]
variable {requests : List ProxyRequest} {trace past : List ProxyEvent} {r : TaskRouteRecord}

omit [FloatText] [Sha256] in
theorem judges_uncalled {e : ProxyEvent} (judging : judges e) : called e = none := by
  obtain ⟨i,op,reply⟩ := e
  cases op with
  | callTool => exact judging.elim
  | _ => rfl

/-- Only a verdict writes a record that reports one. -/
theorem written_judges {e : ProxyEvent} (wrote : written e = some r) (reports : Reports r)
    (reason : Reason requests e past) :
    judges e ∧ ∃ id version update, Committed e.thread id version update r past := by
  obtain ⟨i,op,reply⟩ := e
  cases op with
  | beginOrExisting record =>
    rcases reply with error | (stored | stored)
    · cases wrote
    · cases wrote
      have prepared := (TaskRouteRecord.verifyPreparedForBegin_ok.mp reason.prepared).2.1
      exact absurd (reports.1.symm.trans prepared) (by decide)
    · cases wrote
  | compareAndSetTaskRoute caller id version update =>
    rcases reply with error | (_ | next)
    · cases wrote
    · cases wrote
    · cases wrote
      obtain ⟨current,-,-,-,step,-⟩ := reason.moved
      exact ⟨reports.verdict step,id,version,update,reason⟩
  | _ => cases wrote

/-- A request whose upstream told it so ended its task. -/
def Forged (trace : List ProxyEvent) : Prop :=
  ∃ e past r, e :: past <:+ trace ∧ written e = some r ∧ r.phase = .terminal ∧ Misled e.thread past

omit [FloatText] [Sha256] in
theorem Forged.told (forged : Forged trace) : ∃ e ∈ trace, forges e := by
  obtain ⟨e,past,r,here,-,-,told,member,-,forges⟩ := forged
  exact ⟨told,here.mem (List.mem_cons_of_mem e member),forges⟩

/-- No call for a route whose verdict is that there was none, unless an upstream forged it. -/
theorem verdict_sound (history : Justified (Reason requests) trace) (unforged : ¬Forged trace)
    {verdict call : ProxyEvent} {request : CallToolRequestParams} (judged : verdict ∈ trace) (wrote : written verdict = some r) (reports : Reports r)
    (sent : call ∈ trace) (calls : called call = some request) :
    request.publicTaskId ≠ some r.publicTaskId.text := by
  intro named
  obtain ⟨past,here⟩ := occurs judged
  obtain ⟨rest,there⟩ := occurs sent
  obtain ⟨judging,id,version,update,committed⟩ := written_judges wrote reports (history.reason_of here)
  obtain ⟨other,asked,reason⟩ := called_reason (by rw [calls]; nofun) (history.reason_of there)
  rw [calls] at asked
  cases asked
  obtain ⟨claimed,⟨now,earlier,read,-,phase,claim⟩,-,route⟩ := reason.licence
  have same : claimed.publicTaskId = r.publicTaskId := by
    rw [route] at named
    exact PublicTaskId.ext (Option.some.inj named)
  have mine : Claimed call.thread claimed trace := by
    obtain ⟨g,among,own,wrote⟩ := claim
    exact ⟨g,(past_suffix there).mem ((past_suffix read).mem among),own,wrote⟩
  have second := dispatching_version history mine.written phase
  have terminal : r.phase = .terminal := reports.1
  rcases committed.verdict reports with misled | zero | ⟨unsent,e,member,own,s,first,holding,route'⟩
  · exact unforged ⟨verdict,past,r,here,wrote,terminal,misled⟩
  · -- The verdict and the claim would both have replaced the prepared record.
    have before : Written r trace := ⟨verdict,judged,wrote⟩
    obtain ⟨current,-,-,fresh,step,-⟩ := committed.moved
    have moved := step.version
    rcases written_leads history mine.written before same with leads | leads
    · rw [leads.unmoved (by omega),phase] at terminal
      cases terminal
    · have equal := leads.unmoved (by omega)
      rw [← equal,phase] at terminal
      cases terminal
  · -- The claimant wrote the verdict itself: before its call it may not, afterwards it will not.
    have yours : Claimed verdict.thread s trace := ⟨e,(past_suffix here).mem member,own,first⟩
    obtain ⟨current,-,named',-,step,-⟩ := committed.moved
    have one : s.publicTaskId = claimed.publicTaskId := by
      rw [route',same,step.sameRoute.publicTaskId,named']
    have thread := claim_once history yours mine holding phase one
    rcases occurrences here there with equal | inside | inside
    · cases equal
      rw [judges_uncalled judging] at calls
      cases calls
    · exact reason.unjudged verdict (mem_of_occurrence inside) thread judging
    · rw [unsent call (mem_of_occurrence inside) thread.symm] at calls
      cases calls

variable [Rmcp] [Chrono]
variable {σ : Type} [TaskRouteStorage σ] [ExactTaskRouteStorage σ]

/-- Where no upstream has forged it, the verdict of a durable terminal state is right: no
call for the route was sent before it was written and none is sent afterwards. -/
theorem not_dispatched_sound (hash : Function.Injective Sha256.digest)
    {c : Config (Shared σ) ProxyOp ProxyOp.Ret ProxyRequest ProxyResponse}
    (reachable : Reachable (proxySystem σ) c) (unforged : ¬Forged c.world.trace)
    (r : TaskRouteRecord) (durable : Written r c.world.trace) (reports : Reports r) :
    ∀ call ∈ c.world.trace, ∀ request, called call = some request →
      request.publicTaskId ≠ some r.publicTaskId.text := by
  obtain ⟨verdict,judged,wrote⟩ := durable
  have inv := (proxy_certified hash).invariant reachable
  exact fun call sent request calls =>
    verdict_sound inv.history unforged judged wrote reports sent calls

omit [FloatText] [Sha256] [Rmcp] [Chrono] in
theorem ProxySystem.InTime.unforged {clock : Nat} {e : ProxyEvent} (early : InTime clock e) :
    ¬forges e := by
  obtain ⟨i,op,reply⟩ := e
  cases op with
  | getTask => exact early.elim
  | _ => exact id

omit [Chrono] in
theorem reports_advanced {record : TaskRouteRecord} {upstream : Option UpstreamTaskId} {now : Nat}
    {detailed : DetailedTask} {cached : Value}
    (serialized : Rmcp.detailedTask detailed = some cached)
    (state : payloadState detailed.payload = some "not_dispatched") :
    Reports (record.advanced (.terminal now cached) upstream) := by
  have told : executionState cached = some "not_dispatched" :=
    (executionState_detailed serialized).trans state
  refine ⟨rfl,?_⟩
  change (executionState cached).getD "upstream_reported" = "not_dispatched"
  rw [told]
  rfl

/-- A first submission whose thread stops before the claim is ended with the verdict by the first
poll after its cutoff. -/
theorem lapsed_verdict (readable : ∀ r, ExactTaskRouteStorage.unreadable σ r = none)
    {start : Shared σ} (empty : start.store = TaskRouteStorage.empty) (undrawn : start.drawn = [])
    {proxy : TaskProxy} {tool : FederatedTool} {arguments : JsonObject} {submission : Value}
    {identity : AuthenticatedIdentity} {id : PublicTaskId} {session : String}
    {snapshot : Sha256Digest} {record : TaskRouteRecord}
    (prepares : TaskProxy.Prepares (World.started ⟨start,[],[]⟩
      (.submit proxy tool arguments submission identity)) tool arguments submission identity id
      session snapshot record)
    (identified : TaskProxy.callerOf identity = .ok record.caller)
    (named : PublicTaskId.new record.publicTaskId.text = .ok record.publicTaskId)
    (within : record.executionCutoff < record.expiresAtUnixMs) {cached : Value}
    (serialized : Rmcp.detailedTask
      (knownRejectionTask record "GM_TASK_RUNTIME_BOUND_REACHED" "not_dispatched").task = some cached)
    (small : (canonicalJson cached).byteLength ≤ maxCachedTerminalStateBytes) :
    ∃ c r, Reachable (proxySystem σ) c ∧ ¬Forged c.world.trace ∧ Written r c.world.trace ∧ Reports r := by
  have represents : ExactTaskRouteStorage.Represents start.store fun _ => none := by
    rw [empty]
    exact ExactTaskRouteStorage.empty
  obtain ⟨v,submitted,begun⟩ := first_stored (i := 0) proxy prepares represents
  have initial : Reachable (proxySystem σ) ⟨⟨start,[],[]⟩,[]⟩ := .initial ⟨empty,undrawn⟩
  have first := served_submit submitted initial
  -- the submission stops there, and the clock reaches the cutoff
  let late : Shared σ := { v.state with clock := max v.state.clock record.executionCutoff }
  have aged := first.step (.drift (s := late) ⟨le_max_left _ _,rfl⟩)
  obtain ⟨valid,phase,version,unbound,-,-⟩ :=
    TaskRouteRecord.verifyPreparedForBegin_ok.mp begun.prepared
  have now : max late.clock record.updatedAtUnixMs = late.clock := by
    have before : record.updatedAtUnixMs = v.state.clock := begun.updated.trans begun.clock.symm
    rw [before]
    exact max_eq_left (le_max_left _ _)
  have lasts : late.clock < record.expiresAtUnixMs :=
    max_lt (begun.clock ▸ begun.lasts) within
  have admits : record.Admits (.terminal late.clock cached) none :=
    TaskRouteRecord.admits_verdict phase unbound (now ▸ le_max_right _ _)
      (lasts.le.trans valid.shaped.numbers.2.2.2.1) (by rw [version]; decide) small
  obtain ⟨store,ends,-,-⟩ := single_advanced readable begun.represents valid admits
  obtain ⟨w,polled,⟨e,past,trace,wrote⟩,quiet⟩ := TaskProxy.getTask_lapsed (i := 1) proxy
    (w := (v.drifted late).started (.getTask proxy record.publicTaskId.text identity)) identified
    named (single_read readable begun.represents) phase unbound
    (decide_eq_false (Nat.not_le.mpr lasts)) (le_max_right _ _) serialized (now.symm ▸ ends) rfl
  have second := served_getTask polled aged
  have state := executionState_rejection "GM_TASK_RUNTIME_BOUND_REACHED" "not_dispatched"
  refine ⟨_,_,second,?_,⟨e,by rw [trace]; exact List.mem_cons_self,wrote⟩,
    reports_advanced serialized state⟩
  intro forged
  obtain ⟨e,member,forges⟩ := forged.told
  refine absurd forges ?_
  rcases quiet.events e member with old | unforged
  · exact ((begun.early.events e old).resolve_left List.not_mem_nil).unforged
  · exact unforged

/-- A first submission that was called for is ended with the verdict too, when its upstream
reports the words about itself. -/
theorem forged_verdict (readable : ∀ r, ExactTaskRouteStorage.unreadable σ r = none)
    {start : Shared σ} (empty : start.store = TaskRouteStorage.empty) (undrawn : start.drawn = [])
    {proxy : TaskProxy} {tool : FederatedTool} {arguments : JsonObject} {submission : Value}
    {identity : AuthenticatedIdentity} {id : PublicTaskId} {session : String}
    {snapshot : Sha256Digest} {record : TaskRouteRecord} {created : CreateTaskResult}
    {upstreamTaskId : UpstreamTaskId} {response : GetTaskResult} {bytes : Nat} {cached : Value}
    (prepares : TaskProxy.Prepares (World.started ⟨start,[],[]⟩
      (.submit proxy tool arguments submission identity)) tool arguments submission identity id
      session snapshot record)
    (owner : validateIdentifier proxy.instanceId maxIdentifierBytes "dispatch owner ID" = .ok ())
    (timely : start.clock < record.executionCutoff)
    (known : UpstreamTaskId.new created.task.taskId = .ok upstreamTaskId)
    (identified : TaskProxy.callerOf identity = .ok record.caller)
    (named : PublicTaskId.new record.publicTaskId.text = .ok record.publicTaskId)
    (expected : ((record.submissionBinding.get "sourceSnapshotSha256").bind Value.asStr).bind
      Sha256Digest.fromStr = some snapshot)
    (complete : response.isComplete = true) (task : response.task.task.taskId = upstreamTaskId.text)
    (matching : executionAckMatches response.metaObject record = true)
    (ended : (Rmcp.status response.task).isTerminal = true)
    (forged : payloadState response.task.payload = some "not_dispatched")
    (sized : Rmcp.getTaskResultBytes response = some bytes) (within : bytes ≤ record.outputLimit)
    (serialized : Rmcp.detailedTask
      ⟨{ taskFromRecord record (Rmcp.status response.task)
          "upstream reported a terminal execution state" with
          lastUpdatedAt := rfc3339 start.clock },response.task.payload⟩ = some cached)
    (small : (canonicalJson cached).byteLength ≤ maxCachedTerminalStateBytes) :
    ∃ c r, Reachable (proxySystem σ) c ∧ Written r c.world.trace ∧ Reports r ∧
      ∃ call ∈ c.world.trace, ∃ request, called call = some request ∧
        request.publicTaskId = some r.publicTaskId.text := by
  have represents : ExactTaskRouteStorage.Represents start.store fun _ => none := by
    rw [empty]
    exact ExactTaskRouteStorage.empty
  obtain ⟨v,submitted,bound⟩ := first_bound (i := 0) readable prepares represents owner timely known
  have initial : Reachable (proxySystem σ) ⟨⟨start,[],[]⟩,[]⟩ := .initial ⟨empty,undrawn⟩
  have first := served_submit submitted initial
  have clock : v.state.clock = start.clock := bound.clock
  rw [World.started_state] at bound
  generalize route : (record.claimed proxy.instanceId start.clock).routedTo upstreamTaskId
    start.clock = routed at bound
  have phase : routed.phase = .routed := by rw [← route]; rfl
  have upstream : routed.upstreamTaskId = some upstreamTaskId := by rw [← route]; rfl
  have updated : routed.updatedAtUnixMs = start.clock := by rw [← route]; rfl
  have now : max v.state.clock routed.updatedAtUnixMs = start.clock := by
    rw [clock,updated,max_self]
  have timely : v.state.clock < routed.executionCutoff := by rw [clock,← route]; exact timely
  have live : routed.isExpired v.state.clock = false :=
    decide_eq_false (Nat.not_le.mpr (clock ▸ bound.lasts))
  have admits : routed.Admits (.terminal start.clock cached) (some upstreamTaskId) :=
    TaskRouteRecord.admits_terminal phase upstream updated.le
      (updated ▸ bound.valid.shaped.numbers.2.1) (by rw [bound.version]; decide)
      (UpstreamTaskId.new_self known) small
  obtain ⟨store,ends,-,-⟩ := single_advanced readable bound.represents bound.valid admits
  -- the poll
  obtain ⟨u,asked,state⟩ := TaskProxy.getTask_goes (i := 1) proxy
    (w := v.started (.getTask proxy record.publicTaskId.text identity))
    (by rw [← route]; exact identified) (by rw [← route]; exact named)
    (single_read readable bound.represents) phase upstream (by rw [← route]; exact expected) live
    timely response
  have same : u.state = v.state := state
  have now : max u.state.clock routed.updatedAtUnixMs = start.clock := by rw [same,now]
  obtain ⟨w,ended',past,trace⟩ := TaskProxy.polled_goes (i := 1) (w := u) phase
    complete task (by rw [← route]; exact matching) (by rw [same]; exact timely) ended sized
    (by rw [← route]; exact within) (by rw [now,← route]; exact serialized)
    (by rw [now,same]; exact ends) rfl
  have polled := asked.trans ended'
  have second := served_getTask polled first
  obtain ⟨timeout,acknowledged⟩ := bound.acknowledged
  have past := (polled fun r => .pure (.task r) : Solo _ _ _ _ _ w).past.1
  refine ⟨_,_,second,⟨_,by rw [trace]; exact List.mem_cons_self,rfl⟩,
    reports_advanced serialized forged,_,past.mem acknowledged,_,rfl,?_⟩
  rw [← route]
  exact publicTaskId_envelope _ _ _

end
section Example
open Reference

/-- What the example is ended with when nobody claims it. -/
noncomputable def exampleLapse : DetailedTask :=
  ⟨⟨"gmt_1",.failed,some "GM_TASK_RUNTIME_BOUND_REACHED",rfc3339 1000,rfc3339 1000,some 1000,some 100⟩,
    .failed (rejectionError "GM_TASK_RUNTIME_BOUND_REACHED" "not_dispatched")⟩

theorem exampleLapse_small :
    (canonicalJson (taskDocument exampleLapse)).byteLength ≤ maxCachedTerminalStateBytes := by
  rw [byteLength_eq]
  decide +kernel

theorem exampleRecord_named (digest : Sha256Digest) :
    PublicTaskId.new (exampleRecord digest).publicTaskId.text =
      .ok (exampleRecord digest).publicTaskId := by
  have known : (exampleRecord digest).publicTaskId = ⟨"gmt_1"⟩ := rfl
  have valid : validateIdentifier "gmt_1" maxIdentifierBytes "public task ID" = .ok () := by
    rw [validateIdentifier,reject_ok]
    decide
  rw [known]
  exact Except.then_ok.mpr ⟨valid,rfl⟩

/-- The example that nobody claims is not called for. -/
theorem not_dispatched_sound_example :
    ∃ (c : Config (Shared MemoryTaskRoutes) ProxyOp ProxyOp.Ret ProxyRequest ProxyResponse)
      (r : TaskRouteRecord), Written r c.world.trace ∧ Reports r ∧
        ∀ call ∈ c.world.trace, ∀ request, called call = some request →
          request.publicTaskId ≠ some r.publicTaskId.text := by
  obtain ⟨digest,prepares,timely⟩ := example_prepares (w := World.started ⟨exampleStart,[],[]⟩
    (.submit exampleProxy plainTool exampleArguments (toValue exampleTask) exampleIdentity)) rfl rfl
  have expiry : (exampleRecord digest).expiresAtUnixMs = 2000 := rfl
  have within : (exampleRecord digest).executionCutoff < (exampleRecord digest).expiresAtUnixMs := by
    rw [exampleRecord_cutoff,expiry]
    decide
  have identified : TaskProxy.callerOf exampleIdentity = .ok (exampleRecord digest).caller := rfl
  have named : PublicTaskId.new (exampleRecord digest).publicTaskId.text =
      .ok (exampleRecord digest).publicTaskId :=
    exampleRecord_named digest
  have serialized : Rmcp.detailedTask (knownRejectionTask (exampleRecord digest)
      "GM_TASK_RUNTIME_BOUND_REACHED" "not_dispatched").task = some (taskDocument exampleLapse) :=
    rfl
  obtain ⟨c,r,reachable,unforged,durable,reports⟩ := lapsed_verdict (fun _ => rfl) rfl rfl prepares
    identified named within serialized exampleLapse_small
  exact ⟨c,r,durable,reports,
    not_dispatched_sound Function.injective_id reachable unforged r durable reports⟩

/-- What an upstream says that was called, failed, and denies the call. -/
noncomputable def exampleDenied : DetailedTask :=
  ⟨⟨"task-9",.failed,none,rfc3339 1000,rfc3339 1000,none,none⟩,
    .failed (rejectionError "GM_TASK_UPSTREAM_FAILED" "not_dispatched")⟩

theorem exampleDenied_small : (taskDocument exampleDenied).byteLength ≤ 65536 := by
  rw [byteLength_eq]
  decide +kernel

noncomputable def exampleDenial (digest : Sha256Digest) : GetTaskResult where
  isComplete := true
  task := exampleDenied
  metaObject := some [(taskExecutionMetaKey,executionEnvelope (exampleRecord digest))]

/-- What is kept of it. -/
noncomputable def exampleForgery : DetailedTask :=
  ⟨⟨"gmt_1",.failed,some "upstream reported a terminal execution state",rfc3339 1000,rfc3339 1000,
    some 1000,some 100⟩,.failed (rejectionError "GM_TASK_UPSTREAM_FAILED" "not_dispatched")⟩

theorem exampleForgery_small :
    (canonicalJson (taskDocument exampleForgery)).byteLength ≤ maxCachedTerminalStateBytes := by
  rw [byteLength_eq]
  decide +kernel

theorem exampleDenial_matching (digest : Sha256Digest) :
    executionAckMatches (exampleDenial digest).metaObject (exampleRecord digest) = true := by
  simp [exampleDenial,executionAckMatches,Value.same_refl]

theorem exampleRecord_expected (digest : Sha256Digest) :
    (((exampleRecord digest).submissionBinding.get "sourceSnapshotSha256").bind
      Value.asStr).bind Sha256Digest.fromStr = some onesDigest := by
  have found : ((exampleRecord digest).submissionBinding.get "sourceSnapshotSha256").bind
      Value.asStr = some onesDigest.toString :=
    rfl
  rw [found]
  have whole : onesDigest.Whole := rfl
  exact Sha256Digest.fromStr_toString whole

theorem exampleDenial_serialized (digest : Sha256Digest) : Rmcp.detailedTask
    ⟨{ taskFromRecord (exampleRecord digest) (Rmcp.status (exampleDenial digest).task)
        "upstream reported a terminal execution state" with
        lastUpdatedAt := rfc3339 1000 },(exampleDenial digest).task.payload⟩ =
      some (taskDocument exampleForgery) := by
  have status : Rmcp.status (exampleDenial digest).task = .failed := rfl
  have fields : taskFromRecord (exampleRecord digest) .failed
      "upstream reported a terminal execution state" = exampleForgery.task :=
    rfl
  rw [status,fields]
  rfl

/-- The example that is called for, fails upstream and is reported as not called for. -/
theorem forged_verdict_example :
    ∃ (c : Config (Shared MemoryTaskRoutes) ProxyOp ProxyOp.Ret ProxyRequest ProxyResponse)
      (r : TaskRouteRecord), Reachable (proxySystem MemoryTaskRoutes) c ∧ Written r c.world.trace ∧
        Reports r ∧ ∃ call ∈ c.world.trace, ∃ request, called call = some request ∧
          request.publicTaskId = some r.publicTaskId.text := by
  obtain ⟨digest,prepares,timely⟩ := example_prepares (w := World.started ⟨exampleStart,[],[]⟩
    (.submit exampleProxy plainTool exampleArguments (toValue exampleTask) exampleIdentity)) rfl rfl
  have identified : TaskProxy.callerOf exampleIdentity = .ok (exampleRecord digest).caller := rfl
  have owner : validateIdentifier exampleProxy.instanceId maxIdentifierBytes "dispatch owner ID" =
      .ok () := by
    rw [validateIdentifier,reject_ok]
    decide
  have limit : (exampleRecord digest).outputLimit = 65536 := rfl
  have within : (taskDocument exampleDenied).byteLength ≤ (exampleRecord digest).outputLimit := by
    rw [limit]
    exact exampleDenied_small
  exact forged_verdict (fun _ => rfl) rfl rfl prepares owner timely
    (exampleAcknowledgement_known none) identified (exampleRecord_named digest)
    (exampleRecord_expected digest) rfl rfl (exampleDenial_matching digest) rfl rfl rfl within
    (exampleDenial_serialized digest) exampleForgery_small

end Example
end GaugeMesh
