import GaugeMesh.Interleaving.Solo
import GaugeMesh.Proxy.Library
import GaugeMesh.Proxy.Threads
import GaugeMesh.Proxy.Window
import GaugeMesh.Storage.Idempotency
import GaugeMesh.Task.Admitted

/-! What a proxy comes to when nothing disturbs it: how far a submission gets, and what a poll
makes of an answer. The runs that show what can happen are put together from these. -/
namespace GaugeMesh
open Json Interleaving ProxySystem

section Alone
variable {σ : Type} [TaskRouteStorage σ] [FloatText] [Sha256] [Rmcp] [Chrono]
variable {i : Nat} {w : ProxyWorld σ}

namespace ProxySystem

omit [TaskRouteStorage σ] [FloatText] [Sha256] [Rmcp] [Chrono] in
/-- The world after thread `i` has read the clock. -/
def looked (w : ProxyWorld σ) (i : Nat) : ProxyWorld σ :=
  w.after i .now (some w.state.clock) w.state

/-- The world after an operation on the store. -/
def stored (w : ProxyWorld σ) (i : Nat) (op : ProxyOp) (reply : op.Ret) (store : σ) :
    ProxyWorld σ :=
  w.after i op reply { w.state with store := store }

omit [TaskRouteStorage σ] [FloatText] [Sha256] [Rmcp] [Chrono] in
theorem stores_whole {s : Shared σ} {performed : Except TaskRouteStorageError α × σ}
    {reply : Except TaskRouteStorageError α} {store : σ} (answered : performed = (reply,store)) :
    Stores s performed reply { s with store := store } := by
  rw [answered]
  exact .inl ⟨rfl,rfl⟩

/-- What has happened since then. -/
structure Since (P : ProxyEvent → Prop) (w w' : ProxyWorld σ) : Prop where
  past : w.trace <:+ w'.trace
  events : ∀ e ∈ w'.trace, e ∈ w.trace ∨ P e

variable {P Q : ProxyEvent → Prop}

omit [TaskRouteStorage σ] [FloatText] [Sha256] [Rmcp] [Chrono] in
theorem Since.trans {v w' : ProxyWorld σ} (first : Since P w v) (second : Since P v w') :
    Since P w w' where
  past := first.past.trans second.past
  events := by
    intro e member
    rcases second.events e member with before | new
    · exact first.events e before
    · exact .inr new

omit [TaskRouteStorage σ] [FloatText] [Sha256] [Rmcp] [Chrono] in
theorem Since.imp {w' : ProxyWorld σ} (since : Since P w w') (implies : ∀ e, P e → Q e) :
    Since Q w w' :=
  ⟨since.past,fun e member => (since.events e member).imp_right (implies e)⟩

omit [TaskRouteStorage σ] [FloatText] [Sha256] [Rmcp] [Chrono] in
theorem Since.of_append (new : List ProxyEvent) {w' : ProxyWorld σ}
    (trace : w'.trace = new ++ w.trace) (all : ∀ e ∈ new, P e) : Since P w w' where
  past := by
    rw [trace]
    exact List.suffix_append _ _
  events := by
    intro e member
    rw [trace] at member
    exact (List.mem_append.mp member).symm.imp_right (all e)

/-- Nothing is cancelled, polled or taken for expired before its time, and what is written
lasts. -/
def InTime (clock : Nat) : ProxyEvent → Prop
  | ⟨_,.cancelTask ..,_⟩ | ⟨_,.getTask ..,_⟩ => False
  | ⟨_,.purgeExpiredTaskRoutes now _,_⟩ => now ≤ clock
  | ⟨_,.beginOrExisting record,_⟩ =>
      record.createdAtUnixMs ≤ clock ∧ clock < record.expiresAtUnixMs
  | ⟨_,.compareAndSetTaskRoute ..,.ok (some r)⟩ => clock < r.expiresAtUnixMs
  | _ => True

omit [FloatText] [Sha256] [Rmcp] [Chrono] in
theorem InTime.uncancelled {clock : Nat} {e : ProxyEvent} (early : InTime clock e) :
    cancelled e = none := by
  obtain ⟨i,op,reply⟩ := e
  cases op with
  | cancelTask => exact early.elim
  | _ => rfl

end ProxySystem

omit [TaskRouteStorage σ] [FloatText] [Sha256] [Rmcp] [Chrono] in
theorem UpstreamTaskId.new_self {value : String} {id : UpstreamTaskId}
    (made : UpstreamTaskId.new value = .ok id) : UpstreamTaskId.new id.text = .ok id := by
  obtain ⟨checked,same⟩ := Except.then_ok.mp made
  cases same
  exact made

namespace TaskProxy

theorem ask_goes {op : ProxyOp} {reply : op.Ret} {s : Shared σ}
    (acted : ProxySystem.act op w.state reply s) :
    Goes (proxySystem σ) i (ask op) w (pure reply) (w.after i op reply s) :=
  .perform acted

theorem orElse_goes {result : Except ε α} {convert : ε → McpError} {value : α}
    (known : result = .ok value) :
    Goes (proxySystem σ) i (orElse result convert) w (pure value) w := by
  rw [known]
  exact .refl _

theorem required_goes {option : Option α} {error : McpError} {value : α}
    (known : option = some value) :
    Goes (proxySystem σ) i (required option error) w (pure value) w := by
  rw [known]
  exact .refl _

theorem beginOrExisting_goes {record : TaskRouteRecord}
    {reply : Except TaskRouteStorageError BeginTaskRouteResult} {store : σ}
    (begun : TaskRouteStorage.beginOrExisting record w.state.store = (reply,store)) :
    Goes (proxySystem σ) i (ask (.beginOrExisting record)) w (pure reply)
      (stored w i (.beginOrExisting record) reply store) := by
  apply ask_goes
  exact stores_whole begun

theorem getTaskRoute_goes {caller : TaskRouteCaller} {id : PublicTaskId}
    {reply : Except TaskRouteStorageError (Option TaskRouteRecord)}
    (read : TaskRouteStorage.getTaskRoute w.state.store caller id = reply) :
    Goes (proxySystem σ) i (ask (.getTaskRoute caller id)) w (pure reply)
      (stored w i (.getTaskRoute caller id) reply w.state.store) := by
  apply ask_goes
  apply stores_whole
  rw [read]

theorem compareAndSet_goes {caller : TaskRouteCaller} {id : PublicTaskId} {version : Nat}
    {change : TaskRouteUpdate} {reply : Except TaskRouteStorageError (Option TaskRouteRecord)}
    {store : σ} (set : TaskRouteStorage.compareAndSetTaskRoute caller id version change
      w.state.store = (reply,store)) :
    Goes (proxySystem σ) i (ask (.compareAndSetTaskRoute caller id version change)) w (pure reply)
      (stored w i (.compareAndSetTaskRoute caller id version change) reply store) := by
  apply ask_goes
  exact stores_whole set

theorem purge_goes {now limit n : Nat} {store : σ}
    (purged : TaskRouteStorage.purgeExpiredTaskRoutes now limit w.state.store = (.ok n,store)) :
    Goes (proxySystem σ) i (purge now limit) w (pure ())
      (stored w i (.purgeExpiredTaskRoutes now limit) (.ok n) store) := by
  have asked : Goes (proxySystem σ) i (ask (.purgeExpiredTaskRoutes now limit)) w (pure (.ok n))
      (stored w i (.purgeExpiredTaskRoutes now limit) (.ok n) store) := by
    apply ask_goes
    exact stores_whole purged
  exact asked.bind (.refl _)

theorem nowUnixMs_goes :
    Goes (proxySystem σ) i nowUnixMs w (pure w.state.clock) (looked w i) := by
  have asked : Goes (proxySystem σ) i (ask .now) w (pure (some w.state.clock)) (looked w i) := by
    apply ask_goes
    exact ⟨.inr rfl,rfl⟩
  exact asked.bind (.refl _)

theorem transitionTime_goes (record : TaskRouteRecord) : Goes (proxySystem σ) i
    (transitionTime record) w (pure (max w.state.clock record.updatedAtUnixMs)) (looked w i) :=
  nowUnixMs_goes.bind (.refl _)

theorem update_goes {record next : TaskRouteRecord} {change : TaskRouteUpdate} {store : σ}
    (set : TaskRouteStorage.compareAndSetTaskRoute record.caller record.publicTaskId
      record.transitionVersion change w.state.store = (.ok (some next),store)) :
    Goes (proxySystem σ) i (update record change) w (pure next)
      (stored w i (.compareAndSetTaskRoute record.caller record.publicTaskId
        record.transitionVersion change) (.ok (some next)) store) :=
  (compareAndSet_goes set).bind (.refl _)

theorem update_missing {record : TaskRouteRecord} {change : TaskRouteUpdate} {store : σ}
    (set : TaskRouteStorage.compareAndSetTaskRoute record.caller record.publicTaskId
      record.transitionVersion change w.state.store = (.ok none,store)) :
    Goes (proxySystem σ) i (update record change) w (throw unknownTask)
      (stored w i (.compareAndSetTaskRoute record.caller record.publicTaskId
        record.transitionVersion change) (.ok none) store) :=
  (compareAndSet_goes set).bind (.refl _)

theorem claimDispatch_goes {proxy : TaskProxy} {record claimed : TaskRouteRecord} {store : σ}
    (set : TaskRouteStorage.compareAndSetTaskRoute record.caller record.publicTaskId
      record.transitionVersion
      (.dispatching proxy.instanceId (max w.state.clock record.updatedAtUnixMs)) w.state.store =
        (.ok (some claimed),store)) :
    Goes (proxySystem σ) i (claimDispatch proxy record) w (pure (some claimed))
      (stored (looked w i) i (.compareAndSetTaskRoute record.caller record.publicTaskId
        record.transitionVersion
        (.dispatching proxy.instanceId (max w.state.clock record.updatedAtUnixMs)))
        (.ok (some claimed)) store) :=
  (transitionTime_goes record).bind ((compareAndSet_goes (w := looked w i) set).bind (.refl _))

/-- The request a claimed route is called with. -/
def callOf (tool : FederatedTool) (arguments : JsonObject) (claimed : TaskRouteRecord) :
    CallToolRequestParams :=
  ⟨tool.nativeName,arguments,[(taskExecutionMetaKey,executionEnvelope claimed)]⟩

/-- The world after that request, made for what is left of its time. -/
def sent (w : ProxyWorld σ) (i : Nat) (tool : FederatedTool) (arguments : JsonObject)
    (claimed : TaskRouteRecord) (reply : UpstreamReply CallToolResponse) : ProxyWorld σ :=
  (looked w i).after i (.callTool tool.identity.source (callOf tool arguments claimed)
    claimed.upstreamSessionId (min (claimed.executionCutoff - w.state.clock) maxTaskRuntimeMs))
    reply w.state

/-- A claimed route with time left is called, and the answer settles it. -/
theorem dispatch_goes {tool : FederatedTool} {arguments : JsonObject} {claimed : TaskRouteRecord}
    (timely : w.state.clock < claimed.executionCutoff) (reply : UpstreamReply CallToolResponse) :
    Goes (proxySystem σ) i (dispatch tool arguments claimed) w (settle claimed reply)
      (sent w i tool arguments claimed reply) := by
  have left : min (claimed.executionCutoff - w.state.clock) maxTaskRuntimeMs ≠ 0 := by
    unfold maxTaskRuntimeMs
    omega
  have asked : Goes (proxySystem σ) i (ask (.callTool tool.identity.source
      (callOf tool arguments claimed) claimed.upstreamSessionId
      (min (claimed.executionCutoff - w.state.clock) maxTaskRuntimeMs))) (looked w i) (pure reply)
      (sent w i tool arguments claimed reply) := by
    apply ask_goes
    exact rfl
  apply nowUnixMs_goes.bind
  dsimp only
  rw [if_neg left]
  exact asked.next

/-- A submission whose time has come, with what its preparation yields. -/
structure Prepares (w : ProxyWorld σ) (tool : FederatedTool) (arguments : JsonObject)
    (submission : Value) (identity : AuthenticatedIdentity) (id : PublicTaskId) (session : String)
    (snapshot : Sha256Digest) (record : TaskRouteRecord) : Prop where
  ahead : (((submission.get "deadlineUnixMs").bind Value.asU64).any (· ≤ w.state.clock)) = false
  fresh : id ∉ w.state.drawn
  made : ∃ caller task key, callerOf identity = .ok caller ∧
    TaskSubmission.parse submission arguments tool.identity.schemaDigest.toString
      .nonIdempotentWrite w.state.clock = .ok task ∧
    TaskRouteIdempotencyKey.new task.idempotencyKey = .ok key ∧
    TaskRouteRecord.prepareWithId id caller (some key) (.ofJson (submissionBinding tool task snapshot))
      (submissionBinding tool task snapshot) tool.identity session w.state.clock task.retentionMs =
        .ok record

/-- A submission that nobody has made before is stored. -/
theorem submit_begins (proxy : TaskProxy) {tool : FederatedTool} {arguments : JsonObject}
    {submission : Value} {identity : AuthenticatedIdentity} {id : PublicTaskId} {session : String}
    {snapshot : Sha256Digest} {record : TaskRouteRecord} {n : Nat} {purged begun : σ}
    (prepares : Prepares w tool arguments submission identity id session snapshot record)
    (purge : TaskRouteStorage.purgeExpiredTaskRoutes w.state.clock 128 w.state.store =
      (.ok n,purged))
    (begins : TaskRouteStorage.beginOrExisting record purged = (.ok (.inserted record),begun))
    (lasts : w.state.clock < record.expiresAtUnixMs) :
    ∃ w', Goes (proxySystem σ) i (proxy.submit tool arguments submission identity) w
        (accepted proxy tool arguments w.state.clock record true) w' ∧
      w'.state = ⟨begun,w.state.clock,id :: w.state.drawn⟩ ∧ w'.requests = w.requests ∧
      Since (InTime w.state.clock) w w' := by
  obtain ⟨caller,task,key,owner,parsed,keyed,made⟩ := prepares.made
  let purged' := stored (looked w i) i (.purgeExpiredTaskRoutes w.state.clock 128) (.ok n) purged
  let described := purged'.after i (.sourceSnapshotDigest tool.identity.source) (some snapshot)
    purged'.state
  let connected := described.after i (.sourceSessionId tool.identity.source) (some session)
    purged'.state
  let u := connected.after i .randomTaskId id ⟨purged,w.state.clock,id :: w.state.drawn⟩
  have snapshotAsked : Goes (proxySystem σ) i (ask (.sourceSnapshotDigest tool.identity.source))
      purged' (pure (some snapshot)) described := by
    apply ask_goes
    exact rfl
  have sessionAsked : Goes (proxySystem σ) i (ask (.sourceSessionId tool.identity.source))
      described (pure (some session)) connected := by
    apply ask_goes
    exact rfl
  have drawn : Goes (proxySystem σ) i (ask .randomTaskId) connected (pure id) u := by
    apply ask_goes
    exact ⟨prepares.fresh,rfl⟩
  have inserted : Goes (proxySystem σ) i (do orElse (← ask (.beginOrExisting record)) storageError)
      u (pure (.inserted record))
      (stored u i (.beginOrExisting record) (.ok (.inserted record)) begun) :=
    (beginOrExisting_goes begins).bind (.refl _)
  have created : record.createdAtUnixMs = w.state.clock := by
    obtain ⟨-,digest,shape⟩ := TaskRouteRecord.prepareWithId_ok made
    rw [shape]
    rfl
  refine ⟨stored u i (.beginOrExisting record) (.ok (.inserted record)) begun,?_,rfl,rfl,?_⟩
  · rw [submit,submitMode]
    apply (Goes.ofExcept owner).bind
    apply nowUnixMs_goes.bind
    apply (purge_goes (w := looked w i) purge).bind
    rw [if_neg (by simpa using prepares.ahead)]
    apply (orElse_goes parsed).bind
    apply snapshotAsked.bind
    apply (required_goes rfl).bind
    apply sessionAsked.bind
    apply (required_goes rfl).bind
    apply (orElse_goes keyed).bind
    apply drawn.bind
    apply (orElse_goes made).bind
    exact inserted.next
  · apply Since.of_append [_,_,_,_,_,_] rfl
    simp [InTime,created,lasts]

/-- A route that was just stored is claimed and called for. -/
theorem accepted_goes {proxy : TaskProxy} (tool : FederatedTool) (arguments : JsonObject)
    {record claimed : TaskRouteRecord} {store : σ} (now : Nat)
    (claims : TaskRouteStorage.compareAndSetTaskRoute record.caller record.publicTaskId
      record.transitionVersion
      (.dispatching proxy.instanceId (max w.state.clock record.updatedAtUnixMs)) w.state.store =
        (.ok (some claimed),store))
    (timely : w.state.clock < claimed.executionCutoff)
    (lasts : w.state.clock < claimed.expiresAtUnixMs) (reply : UpstreamReply CallToolResponse) :
    ∃ w', Goes (proxySystem σ) i (accepted proxy tool arguments now record true) w
        (settle claimed reply) w' ∧
      w'.state = { w.state with store := store } ∧ w'.requests = w.requests ∧
      Since (InTime w.state.clock) w w' ∧ ∃ past, w'.trace = ⟨i,.callTool tool.identity.source
          (callOf tool arguments claimed) claimed.upstreamSessionId
          (min (claimed.executionCutoff - w.state.clock) maxTaskRuntimeMs),reply⟩ :: past := by
  let v := stored (looked w i) i (.compareAndSetTaskRoute record.caller record.publicTaskId
    record.transitionVersion
    (.dispatching proxy.instanceId (max w.state.clock record.updatedAtUnixMs)))
    (.ok (some claimed)) store
  have claim : Goes (proxySystem σ) i (claimDispatch proxy record) w (pure (some claimed)) v :=
    claimDispatch_goes claims
  refine ⟨sent v i tool arguments claimed reply,?_,rfl,rfl,?_,_,rfl⟩
  · rw [accepted,drifted,if_neg (by simp)]
    apply (Goes.refl _).bind
    rw [if_neg (by simp),if_pos rfl]
    apply claim.bind
    apply (required_goes rfl).bind
    exact dispatch_goes (w := v) timely reply
  · apply Since.of_append [_,_,_,_] rfl
    simp [InTime,lasts]

/-- The upstream task is bound to the claimed route. -/
theorem bindUpstreamTask_goes {record routed : TaskRouteRecord} {upstreamTaskId : UpstreamTaskId}
    {store : σ} (phase : record.phase = .dispatching) (unbound : record.upstreamTaskId = none)
    (binds : TaskRouteStorage.compareAndSetTaskRoute record.caller record.publicTaskId
      record.transitionVersion
      (.routed upstreamTaskId (max w.state.clock record.updatedAtUnixMs)) w.state.store =
        (.ok (some routed),store)) (bound : routed.phase = .routed) :
    Goes (proxySystem σ) i (bindUpstreamTask record upstreamTaskId) w (pure (routed,false))
      (stored (looked w i) i (.compareAndSetTaskRoute record.caller record.publicTaskId
        record.transitionVersion
        (.routed upstreamTaskId (max w.state.clock record.updatedAtUnixMs))) (.ok (some routed))
        store) := by
  rw [bindUpstreamTask,maxRouteCasAttempts,bindUpstream,if_neg (by simp [unbound]),
    if_neg (by simp [unbound,phase]),if_neg (by simp),if_neg (by simp [phase])]
  apply (transitionTime_goes record).bind
  dsimp only
  rw [if_neg (by simp [phase])]
  apply (compareAndSet_goes (w := looked w i) binds).bind
  dsimp only
  rw [bound]
  exact .refl _

/-- What is left to do once the acknowledged task is bound. -/
def bound (created : CreateTaskResult) (routed : TaskRouteRecord) : Proxy CallToolResponse :=
  if ¬executionAckMatches created.metaObject routed then do
    let cancelling ← requestCancellation routed
    reconciled cancelling
  else do
    if (← nowUnixMs) ≥ routed.executionCutoff then do
      let cancelling ← requestCancellation routed
      return taskHandle cancelling none
    else return taskHandle routed (some .working)

theorem acknowledged_goes {record routed : TaskRouteRecord} {created : CreateTaskResult}
    {upstreamTaskId : UpstreamTaskId} {v : ProxyWorld σ}
    (valid : UpstreamTaskId.new created.task.taskId = .ok upstreamTaskId)
    (binds : Goes (proxySystem σ) i (bindUpstreamTask record upstreamTaskId) w
      (pure (routed,false)) v) (phase : routed.phase = .routed) :
    Goes (proxySystem σ) i (acknowledged record created) w (bound created routed) v := by
  rw [acknowledged,valid]
  apply binds.lift.bind
  dsimp only
  rw [if_neg (by simp),if_neg (by simp [phase])]
  exact .refl _

/-- A cancellation of a route that is gone comes to nothing. -/
theorem requestCancellation_missing {record : TaskRouteRecord} {store : σ}
    (active : record.phase ≠ .cancelRequested ∧ record.phase ≠ .terminal)
    (gone : TaskRouteStorage.compareAndSetTaskRoute record.caller record.publicTaskId
      record.transitionVersion (.cancelRequested (max w.state.clock record.updatedAtUnixMs))
      w.state.store = (.ok none,store)) :
    Goes (proxySystem σ) i (requestCancellation record) w (throw unknownTask)
      (stored (looked w i) i (.compareAndSetTaskRoute record.caller record.publicTaskId
        record.transitionVersion (.cancelRequested (max w.state.clock record.updatedAtUnixMs)))
        (.ok none) store) := by
  apply Goes.stop
  rw [persistCancellationIntent,maxRouteCasAttempts,persistCancellation,if_neg (by simp [active])]
  apply (transitionTime_goes record).bind
  exact (update_missing (w := looked w i) gone).stop

/-- A source that answers as the record has it is current. -/
theorem sourceBindingIsCurrent_goes {record : TaskRouteRecord} {snapshot : Sha256Digest}
    (expected : ((record.submissionBinding.get "sourceSnapshotSha256").bind Value.asStr).bind
      Sha256Digest.fromStr = some snapshot) :
    ∃ w', Goes (proxySystem σ) i (sourceBindingIsCurrent record) w (pure true) w' ∧
      w'.state = w.state := by
  let connected := w.after i (.sourceSessionId record.capabilitySource)
    (some record.upstreamSessionId) w.state
  let described := connected.after i (.sourceSnapshotDigest record.capabilitySource) (some snapshot)
    w.state
  let configured := described.after i (.sourceConfigurationDigest record.capabilitySource)
    (some record.capability.sourceConfigurationDigest) w.state
  have sessionAsked : Goes (proxySystem σ) i (ask (.sourceSessionId record.capabilitySource)) w
      (pure (some record.upstreamSessionId)) connected := by
    apply ask_goes
    exact rfl
  have snapshotAsked : Goes (proxySystem σ) i (ask (.sourceSnapshotDigest record.capabilitySource))
      connected (pure (some snapshot)) described := by
    apply ask_goes
    exact rfl
  have configurationAsked : Goes (proxySystem σ) i
      (ask (.sourceConfigurationDigest record.capabilitySource)) described
      (pure (some record.capability.sourceConfigurationDigest)) configured := by
    apply ask_goes
    exact rfl
  refine ⟨configured,?_,rfl⟩
  unfold sourceBindingIsCurrent
  dsimp only
  rw [expected,if_neg (by simp)]
  apply sessionAsked.bind
  rw [if_neg (by simp)]
  apply snapshotAsked.bind
  rw [if_neg (by simp)]
  apply configurationAsked.bind
  rw [decide_eq_true rfl]
  exact .refl _

/-- A terminal task that the upstream reports in time is taken over as it is. -/
theorem polled_goes {record terminal : TaskRouteRecord} {upstreamTaskId : UpstreamTaskId}
    {response : GetTaskResult} {cached : Value} {bytes : Nat} {store : σ}
    (phase : record.phase = .routed) (complete : response.isComplete = true)
    (task : response.task.task.taskId = upstreamTaskId.text)
    (acknowledged : executionAckMatches response.metaObject record = true)
    (timely : w.state.clock < record.executionCutoff)
    (ended : (Rmcp.status response.task).isTerminal = true)
    (sized : Rmcp.getTaskResultBytes response = some bytes) (small : bytes ≤ record.outputLimit)
    (serialized : Rmcp.detailedTask
      ⟨{ taskFromRecord record (Rmcp.status response.task)
          "upstream reported a terminal execution state" with
          lastUpdatedAt := rfc3339 (max w.state.clock record.updatedAtUnixMs) },
        response.task.payload⟩ = some cached)
    (ends : TaskRouteStorage.compareAndSetTaskRoute record.caller record.publicTaskId
      record.transitionVersion (.terminal (max w.state.clock record.updatedAtUnixMs) cached)
      w.state.store = (.ok (some terminal),store)) (final : terminal.phase = .terminal) :
    ∃ w', Goes (proxySystem σ) i (polled record upstreamTaskId response) w
        (Fallible.ofExcept (cachedTask terminal)) w' ∧ ∃ past,
      w'.trace = ⟨i,.compareAndSetTaskRoute record.caller record.publicTaskId
          record.transitionVersion (.terminal (max w.state.clock record.updatedAtUnixMs) cached),
        .ok (some terminal)⟩ :: past := by
  have finishes : Goes (proxySystem σ) i (finishTerminal record
      ⟨taskFromRecord record (Rmcp.status response.task)
        "upstream reported a terminal execution state",response.task.payload⟩) (looked w i)
      (pure terminal) (stored (looked (looked w i) i) i (.compareAndSetTaskRoute record.caller
        record.publicTaskId record.transitionVersion
        (.terminal (max w.state.clock record.updatedAtUnixMs) cached)) (.ok (some terminal))
        store) := by
    rw [finishTerminal,maxRouteCasAttempts,finishTerminalWithin,if_neg (by simp [phase])]
    apply (transitionTime_goes (w := looked w i) record).bind
    apply (required_goes serialized).bind
    apply (update_goes (w := looked (looked w i) i) ends).bind
    rw [finishTerminalWithin,if_pos final]
    exact .refl _
  have ready : Goes (proxySystem σ) i (readmitted record upstreamTaskId) (looked w i) (pure record)
      (looked w i) := by
    rw [readmitted,if_neg (by simp [phase])]
    exact .refl _
  refine ⟨?after,?goes,?_⟩
  case goes =>
    unfold polled
    apply Goes.elseBranch (by simp [complete,task,acknowledged])
    apply nowUnixMs_goes.bind
    apply Goes.elseBranch (by omega)
    apply (required_goes sized).bind
    apply Goes.elseBranch (by omega)
    apply Goes.elseBranch (by omega)
    apply ready.bind
    apply Goes.elseBranch (by simp [phase])
    apply Goes.elseBranch (by simp [phase])
    apply Goes.thenBranch ended
    rw [if_pos ended]
    exact finishes.next
  exact ⟨_,rfl⟩

theorem pollUpstream_goes {record : TaskRouteRecord} {upstreamTaskId : UpstreamTaskId}
    (phase : record.phase = .routed) (bound : record.upstreamTaskId = some upstreamTaskId)
    (timely : w.state.clock < record.executionCutoff) (response : GetTaskResult) :
    ∃ w', Goes (proxySystem σ) i (pollUpstream record) w (polled record upstreamTaskId response) w' ∧
      w'.state = w.state := by
  have routed : routedUpstreamId record = .ok upstreamTaskId := by
    rw [routedUpstreamId,bound]
    simp [reject,phase,okOr]
  have asked (timeout : Nat) : Goes (proxySystem σ) i (ask (.getTask record.capabilitySource
      upstreamTaskId.text record.upstreamSessionId timeout)) (looked w i) (pure (.ok response))
      ((looked w i).after i (.getTask record.capabilitySource upstreamTaskId.text
        record.upstreamSessionId timeout) (.ok response) w.state) := by
    apply ask_goes
    exact rfl
  refine ⟨?after,?goes,?_⟩
  case goes =>
    unfold pollUpstream
    apply (Goes.ofExcept routed).bind
    apply Goes.elseBranch (by simp [phase])
    apply nowUnixMs_goes.bind
    apply Goes.elseBranch (by omega)
    apply (asked _).bind
    exact .refl _
  rfl

/-- A poll of a routed task reaches its upstream. -/
theorem getTask_goes (proxy : TaskProxy) {taskId : String} {identity : AuthenticatedIdentity}
    {caller : TaskRouteCaller} {publicTaskId : PublicTaskId} {record : TaskRouteRecord}
    {upstreamTaskId : UpstreamTaskId} {snapshot : Sha256Digest}
    (owner : callerOf identity = .ok caller) (named : PublicTaskId.new taskId = .ok publicTaskId)
    (found : TaskRouteStorage.getTaskRoute w.state.store caller publicTaskId = .ok (some record))
    (phase : record.phase = .routed) (bound : record.upstreamTaskId = some upstreamTaskId)
    (expected : ((record.submissionBinding.get "sourceSnapshotSha256").bind Value.asStr).bind
      Sha256Digest.fromStr = some snapshot)
    (unexpired : record.isExpired w.state.clock = false)
    (timely : w.state.clock < record.executionCutoff) (response : GetTaskResult) :
    ∃ w', Goes (proxySystem σ) i (proxy.getTask taskId identity) w
        (polled record upstreamTaskId response) w' ∧ w'.state = w.state := by
  have readRoute : Goes (proxySystem σ) i (readTaskRoute caller publicTaskId) w (pure record)
      (stored w i (.getTaskRoute caller publicTaskId) (.ok (some record)) w.state.store) := by
    apply (getTaskRoute_goes found).bind
    apply (orElse_goes rfl).bind
    exact required_goes rfl
  obtain ⟨v,current,here⟩ := sourceBindingIsCurrent_goes (σ := σ) (i := i)
    (w := looked (stored w i (.getTaskRoute caller publicTaskId) (.ok (some record))
      w.state.store) i) expected
  have steady : Goes (proxySystem σ) i (drifted record record.upstreamTaskId.isSome)
      (looked (stored w i (.getTaskRoute caller publicTaskId) (.ok (some record))
        w.state.store) i) (pure false) v := by
    apply Goes.thenBranch (by simp [bound])
    exact current.bind (.refl _)
  have now : v.state.clock = w.state.clock := by rw [here]; rfl
  obtain ⟨w',asked,state⟩ := pollUpstream_goes (σ := σ) (i := i) (w := v) phase bound
    (now ▸ timely) response
  refine ⟨w',?_,by rw [state,here]; rfl⟩
  unfold getTask
  apply (Goes.ofExcept owner).bind
  apply (orElse_goes named).bind
  apply readRoute.bind
  apply nowUnixMs_goes.bind
  apply Goes.elseBranch (by rw [Bool.not_eq_true]; exact unexpired)
  apply Goes.elseBranch (by simp [phase])
  apply steady.bind
  apply Goes.elseBranch (by simp)
  apply Goes.elseBranch (by simp [phase])
  apply Goes.elseBranch (by simp [phase])
  apply Goes.elseBranch (by simp [phase])
  apply Goes.elseBranch (by simp [phase])
  apply Goes.elseBranch (by rintro ⟨-,late,-⟩; exact absurd late (Nat.not_le.mpr timely))
  apply Goes.elseBranch (by simp [phase])
  apply Goes.elseBranch (by simp [phase])
  exact asked

/-- A poll of a route that nobody claimed in time ends it with the verdict. -/
theorem getTask_lapsed (proxy : TaskProxy) {taskId : String} {identity : AuthenticatedIdentity}
    {caller : TaskRouteCaller} {publicTaskId : PublicTaskId} {record terminal : TaskRouteRecord}
    {cached : Value} {store : σ} (owner : callerOf identity = .ok caller)
    (named : PublicTaskId.new taskId = .ok publicTaskId)
    (found : TaskRouteStorage.getTaskRoute w.state.store caller publicTaskId = .ok (some record))
    (phase : record.phase = .prepared) (unbound : record.upstreamTaskId = none)
    (unexpired : record.isExpired w.state.clock = false)
    (late : record.executionCutoff ≤ w.state.clock)
    (serialized : Rmcp.detailedTask
      (knownRejectionTask record "GM_TASK_RUNTIME_BOUND_REACHED" "not_dispatched").task = some cached)
    (ends : TaskRouteStorage.compareAndSetTaskRoute record.caller record.publicTaskId
      record.transitionVersion (.terminal (max w.state.clock record.updatedAtUnixMs) cached)
      w.state.store = (.ok (some terminal),store)) (final : terminal.phase = .terminal) :
    ∃ w', Goes (proxySystem σ) i (proxy.getTask taskId identity) w
        (Fallible.ofExcept (cachedTask terminal)) w' ∧
      (∃ e past, w'.trace = e :: past ∧ written e = some terminal) ∧
      Since (¬forges ·) w w' := by
  let read := stored w i (.getTaskRoute caller publicTaskId) (.ok (some record)) w.state.store
  have readRoute : Goes (proxySystem σ) i (readTaskRoute caller publicTaskId) w (pure record) read := by
    apply (getTaskRoute_goes found).bind
    apply (orElse_goes rfl).bind
    exact required_goes rfl
  let judged := stored (looked (looked read i) i) i (.compareAndSetTaskRoute record.caller
    record.publicTaskId record.transitionVersion
    (.terminal (max w.state.clock record.updatedAtUnixMs) cached)) (.ok (some terminal)) store
  have verdict : Goes (proxySystem σ) i
      (finishNonDispatchOnce record "GM_TASK_RUNTIME_BOUND_REACHED") (looked read i)
      (pure terminal) judged := by
    apply (transitionTime_goes (w := looked read i) record).bind
    apply (required_goes serialized).bind
    exact (compareAndSet_goes (w := looked (looked read i) i) ends).bind (.refl _)
  refine ⟨judged,?_,⟨_,_,rfl,rfl⟩,?_⟩
  · unfold getTask
    apply (Goes.ofExcept owner).bind
    apply (orElse_goes named).bind
    apply readRoute.bind
    apply nowUnixMs_goes.bind
    apply Goes.elseBranch (by rw [Bool.not_eq_true]; exact unexpired)
    apply Goes.elseBranch (by simp [phase])
    have steady : Goes (proxySystem σ) i (drifted record record.upstreamTaskId.isSome)
        (looked read i) (pure false) (looked read i) :=
      Goes.elseBranch (by simp [unbound]) (.refl _)
    apply steady.bind
    apply Goes.elseBranch (by simp)
    apply Goes.elseBranch (by simp [phase])
    apply Goes.thenBranch ⟨phase,late⟩
    apply verdict.bind
    exact Goes.thenBranch final (.refl _)
  · apply Since.of_append [_,_,_,_] rfl
    simp [forges]

end TaskProxy

section Served
variable {c : Config (Shared σ) ProxyOp ProxyOp.Ret ProxyRequest ProxyResponse} {proxy : TaskProxy}

theorem served_submit {tool : FederatedTool} {arguments : JsonObject} {submission : Value}
    {identity : AuthenticatedIdentity} {rest : Proxy CallToolResponse}
    (goes : Goes (proxySystem σ) c.threads.length (proxy.submit tool arguments submission identity)
      (c.world.started (.submit proxy tool arguments submission identity)) rest w)
    (reachable : Reachable (proxySystem σ) c) : Reachable (proxySystem σ)
      ⟨w,c.threads ++ [some (rest.run.bind fun r => .pure (.submitted r))]⟩ := by
  have solo : Solo (proxySystem σ) c.threads.length
      ((proxySystem σ).body (.submit proxy tool arguments submission identity)) _ _ w := goes _
  exact solo.served reachable

theorem served_getTask {taskId : String} {identity : AuthenticatedIdentity}
    {rest : Proxy GetTaskResult}
    (goes : Goes (proxySystem σ) c.threads.length (proxy.getTask taskId identity)
      (c.world.started (.getTask proxy taskId identity)) rest w)
    (reachable : Reachable (proxySystem σ) c) : Reachable (proxySystem σ)
      ⟨w,c.threads ++ [some (rest.run.bind fun r => .pure (.task r))]⟩ := by
  have solo : Solo (proxySystem σ) c.threads.length
      ((proxySystem σ).body (.getTask proxy taskId identity)) _ _ w := goes _
  exact solo.served reachable

theorem served_purge {maxRecords : Nat} {rest : Proxy Unit}
    (goes : Goes (proxySystem σ) c.threads.length (ProxySystem.purgeExpired maxRecords)
      (c.world.started (.purgeExpired maxRecords)) rest w)
    (reachable : Reachable (proxySystem σ) c) : Reachable (proxySystem σ)
      ⟨w,c.threads ++ [some (rest.run.bind fun r => .pure (.done r))]⟩ := by
  have solo : Solo (proxySystem σ) c.threads.length
      ((proxySystem σ).body (.purgeExpired maxRecords)) _ _ w := goes _
  exact solo.served reachable

end Served

/-- The record an admitted update makes. -/
def TaskRouteRecord.advanced (record : TaskRouteRecord) (update : TaskRouteUpdate)
    (upstream : Option UpstreamTaskId) : TaskRouteRecord :=
  record.moved update upstream (record.moved update upstream .default).expectedIntegrityDigest

/-- One route and no other. -/
def Routes.single (record : TaskRouteRecord) : Routes :=
  Function.update (fun _ => none) record.publicTaskId (some record)

section First
variable [ExactTaskRouteStorage σ] (readable : ∀ r, ExactTaskRouteStorage.unreadable σ r = none)
variable {record : TaskRouteRecord} {update : TaskRouteUpdate} {upstream : Option UpstreamTaskId}
variable {store : σ}

omit [TaskRouteStorage σ] [FloatText] [Sha256] [Rmcp] [Chrono] [ExactTaskRouteStorage σ] in
theorem without_empty (gone : List (Nat ×ₗ String)) :
    Routes.without (fun _ => none) gone = fun _ => none := by
  funext id
  exact ite_self _

omit [Rmcp] [Chrono] in
/-- A store without routes takes a prepared one in. -/
theorem first_begun (represents : ExactTaskRouteStorage.Represents store fun _ => none)
    (prepared : record.verifyPreparedForBegin = .ok ()) :
    ∃ begun, TaskRouteStorage.beginOrExisting record store = (.ok (.inserted record),begun) ∧
      ExactTaskRouteStorage.Represents begun (.single record) := by
  obtain ⟨answer,inserted⟩ := ExactTaskRouteStorage.begin record represents
  rw [Routes.beginReading_empty prepared] at answer inserted
  exact ⟨_,Prod.ext answer rfl,inserted⟩

include readable in
omit [Rmcp] [Chrono] in
/-- What the one route admits is made of it. -/
theorem single_advanced (represents : ExactTaskRouteStorage.Represents store (.single record))
    (valid : record.Valid) (admits : record.Admits update upstream) :
    ∃ next, TaskRouteStorage.compareAndSetTaskRoute record.caller record.publicTaskId
        record.transitionVersion update store = (.ok (some (record.advanced update upstream)),next) ∧
      ExactTaskRouteStorage.Represents next (.single (record.advanced update upstream)) ∧
      (record.advanced update upstream).Valid := by
  have moved := admits.transition valid
  obtain ⟨answer,kept⟩ := ExactTaskRouteStorage.compareAndSet record.caller record.publicTaskId
    record.transitionVersion update represents
  have stored : Routes.single record record.publicTaskId = some record := Function.update_self ..
  rw [Routes.compareAndSetReading_moved stored (readable record) moved] at answer kept
  rw [Routes.single,Function.update_idem] at kept
  exact ⟨_,Prod.ext answer rfl,kept,(TaskRouteRecord.transition_ok moved).after⟩

include readable in
omit [Rmcp] [Chrono] in
theorem single_read (represents : ExactTaskRouteStorage.Represents store (.single record)) :
    TaskRouteStorage.getTaskRoute store record.caller record.publicTaskId = .ok (some record) := by
  have stored : Routes.single record record.publicTaskId = some record := Function.update_self ..
  rw [ExactTaskRouteStorage.get represents,stored,Option.filter_some_pos (by simp),Routes.read,
    Option.bind_some,readable record]

omit [TaskRouteStorage σ] [FloatText] [Sha256] [Rmcp] [Chrono] [ExactTaskRouteStorage σ] in
theorem single_due {now : Nat} (expired : record.isExpired now = true) :
    Routes.Due (.single record) now [Routes.expiryEntry record] where
  sorted := List.pairwise_singleton _ _
  member := by
    intro entry
    rw [List.mem_singleton]
    constructor
    · rintro rfl
      exact ⟨record,Function.update_self ..,expired,rfl⟩
    · rintro ⟨r,stored,-,rfl⟩
      by_cases same : r.publicTaskId = record.publicTaskId
      · rw [Routes.single,same,Function.update_self] at stored
        cases stored
        rfl
      · rw [Routes.single,Function.update_of_ne same] at stored
        cases stored

omit [Rmcp] [Chrono] in
/-- A purge removes the one route when it has expired. -/
theorem single_purged {now : Nat}
    (represents : ExactTaskRouteStorage.Represents store (.single record))
    (expired : record.isExpired now = true) :
    ∃ n next, TaskRouteStorage.purgeExpiredTaskRoutes now 128 store = (.ok n,next) ∧
      ExactTaskRouteStorage.Represents next fun _ => none := by
  obtain ⟨answer,kept⟩ := ExactTaskRouteStorage.purge now 128 represents
  have gone : (Routes.purge now 128 (.single record)).2 = fun _ => none := by
    rw [Routes.purge,(single_due expired).due]
    change (Routes.single record).without [Routes.expiryEntry record] = _
    rw [Routes.without_cons,Routes.without_nil,Routes.single,Function.update_idem]
    exact Function.update_eq_self _ _
  rw [gone] at kept
  exact ⟨_,_,Prod.ext answer rfl,kept⟩

/-- The route as the claim leaves it. -/
def TaskRouteRecord.claimed (record : TaskRouteRecord) (owner : String) (now : Nat) :
    TaskRouteRecord :=
  record.advanced (.dispatching owner now) none

/-- What a first submission has come to when its call was answered: its claimed route is the only
one, and no cancel has been sent. -/
structure FirstCall (w w' : ProxyWorld σ) (i : Nat) (source : SourceId)
    (request : CallToolRequestParams) (claimed : TaskRouteRecord)
    (reply : UpstreamReply CallToolResponse) : Prop where
  represents : ExactTaskRouteStorage.Represents w'.state.store (.single claimed)
  valid : claimed.Valid
  version : claimed.transitionVersion = 1
  clock : w'.state.clock = w.state.clock
  requests : w'.requests = w.requests
  lasts : w.state.clock < claimed.expiresAtUnixMs
  called : ∃ past timeout,
    w'.trace = ⟨i,.callTool source request claimed.upstreamSessionId timeout,reply⟩ :: past
  early : Since (InTime w.state.clock) w w'

/-- What a first submission has come to when it is stored: its route is the only one. -/
structure FirstBegun (w w' : ProxyWorld σ) (record : TaskRouteRecord) : Prop where
  represents : ExactTaskRouteStorage.Represents w'.state.store (.single record)
  prepared : record.verifyPreparedForBegin = .ok ()
  updated : record.updatedAtUnixMs = w.state.clock
  clock : w'.state.clock = w.state.clock
  requests : w'.requests = w.requests
  lasts : w.state.clock < record.expiresAtUnixMs
  early : Since (InTime w.state.clock) w w'

/-- An empty store takes the submission in. -/
theorem first_stored (proxy : TaskProxy) {tool : FederatedTool} {arguments : JsonObject}
    {submission : Value} {identity : AuthenticatedIdentity} {id : PublicTaskId} {session : String}
    {snapshot : Sha256Digest}
    (prepares : TaskProxy.Prepares w tool arguments submission identity id session snapshot record)
    (empty : ExactTaskRouteStorage.Represents w.state.store fun _ => none) :
    ∃ w', Goes (proxySystem σ) i (proxy.submit tool arguments submission identity) w
        (TaskProxy.accepted proxy tool arguments w.state.clock record true) w' ∧
      FirstBegun w w' record := by
  obtain ⟨caller,task,key,-,-,-,made⟩ := prepares.made
  obtain ⟨prepared,digest,shape⟩ := TaskRouteRecord.prepareWithId_ok made
  have valid := (TaskRouteRecord.verifyPreparedForBegin_ok.mp prepared).1
  have updated : record.updatedAtUnixMs = w.state.clock := by rw [shape]; rfl
  have lasts : w.state.clock < record.expiresAtUnixMs := by
    have created : record.createdAtUnixMs = w.state.clock := by rw [shape]; rfl
    have ttl := valid.shaped.ttl
    have expiry := valid.shaped.expiry
    omega
  obtain ⟨answer,cleared⟩ := ExactTaskRouteStorage.purge w.state.clock 128 empty
  have kept : (Routes.purge w.state.clock 128 fun _ => none).2 = fun _ => none := without_empty _
  rw [kept] at cleared
  obtain ⟨begun,begins,inserted⟩ := first_begun cleared prepared
  obtain ⟨w',stored,state,requests,early⟩ := TaskProxy.submit_begins (i := i) proxy
    prepares (Prod.ext answer rfl) begins lasts
  refine ⟨w',stored,⟨?_,prepared,updated,?_,requests,lasts,early⟩⟩
  · rw [state]
    exact inserted
  · rw [state]

include readable in
/-- An empty store takes the submission in and lets it be claimed, so that it is called for. -/
theorem first_called {proxy : TaskProxy} {tool : FederatedTool} {arguments : JsonObject}
    {submission : Value} {identity : AuthenticatedIdentity} {id : PublicTaskId} {session : String}
    {snapshot : Sha256Digest}
    (prepares : TaskProxy.Prepares w tool arguments submission identity id session snapshot record)
    (empty : ExactTaskRouteStorage.Represents w.state.store fun _ => none)
    (owner : validateIdentifier proxy.instanceId maxIdentifierBytes "dispatch owner ID" = .ok ())
    (timely : w.state.clock < record.executionCutoff) (reply : UpstreamReply CallToolResponse) :
    ∃ w', Goes (proxySystem σ) i (proxy.submit tool arguments submission identity) w
        (TaskProxy.settle (record.claimed proxy.instanceId w.state.clock) reply) w' ∧
      FirstCall w w' i tool.identity.source
        (TaskProxy.callOf tool arguments (record.claimed proxy.instanceId w.state.clock))
        (record.claimed proxy.instanceId w.state.clock) reply := by
  obtain ⟨v,stored,first⟩ := first_stored (i := i) proxy prepares empty
  obtain ⟨valid,phase,version,unbound,-,-⟩ :=
    TaskRouteRecord.verifyPreparedForBegin_ok.mp first.prepared
  have range : w.state.clock ≤ maxSqliteInteger := first.updated ▸ valid.shaped.numbers.2.1
  have admits : record.Admits (.dispatching proxy.instanceId w.state.clock) none :=
    TaskRouteRecord.admits_dispatching phase unbound first.updated.le range
      (by rw [version]; decide) owner
  obtain ⟨claimed,claims,represents,sound⟩ := single_advanced readable first.represents valid admits
  have now : max v.state.clock record.updatedAtUnixMs = w.state.clock := by
    rw [first.clock,first.updated,max_self]
  rw [← now] at claims
  have lasts := first.lasts
  obtain ⟨w',called,state,requests,early,past,trace⟩ := TaskProxy.accepted_goes (i := i) tool
    arguments w.state.clock claims (first.clock ▸ timely) (first.clock ▸ lasts) reply
  rw [now] at called trace
  refine ⟨w',stored.trans called,⟨?_,sound,congrArg (· + 1) version,?_,requests.trans first.requests,
    lasts,⟨past,_,trace⟩,first.early.trans (first.clock ▸ early)⟩⟩
  · rw [state]
    exact represents
  · rw [state]
    exact first.clock

/-- The route as the acknowledgement leaves it. -/
def TaskRouteRecord.routedTo (record : TaskRouteRecord) (id : UpstreamTaskId) (now : Nat) :
    TaskRouteRecord :=
  record.advanced (.routed id now) (some id)

/-- What a first submission has come to when its task is bound: its route is the only one, and no
cancel has been sent. -/
structure FirstBound (w w' : ProxyWorld σ) (i : Nat) (source : SourceId)
    (request : CallToolRequestParams) (routed : TaskRouteRecord) (created : CreateTaskResult) :
    Prop where
  represents : ExactTaskRouteStorage.Represents w'.state.store (.single routed)
  valid : routed.Valid
  version : routed.transitionVersion = 2
  clock : w'.state.clock = w.state.clock
  requests : w'.requests = w.requests
  lasts : w.state.clock < routed.expiresAtUnixMs
  acknowledged : ∃ timeout, ⟨i,.callTool source request routed.upstreamSessionId timeout,
    .ok (.task created)⟩ ∈ w'.trace
  early : Since (InTime w.state.clock) w w'

include readable in
/-- The acknowledged task of a first submission is bound to its route. -/
theorem first_bound {proxy : TaskProxy} {tool : FederatedTool} {arguments : JsonObject}
    {submission : Value} {identity : AuthenticatedIdentity} {id : PublicTaskId} {session : String}
    {snapshot : Sha256Digest} {created : CreateTaskResult} {upstreamTaskId : UpstreamTaskId}
    (prepares : TaskProxy.Prepares w tool arguments submission identity id session snapshot record)
    (empty : ExactTaskRouteStorage.Represents w.state.store fun _ => none)
    (owner : validateIdentifier proxy.instanceId maxIdentifierBytes "dispatch owner ID" = .ok ())
    (timely : w.state.clock < record.executionCutoff)
    (known : UpstreamTaskId.new created.task.taskId = .ok upstreamTaskId) :
    ∃ w', Goes (proxySystem σ) i (proxy.submit tool arguments submission identity) w
        (TaskProxy.bound created
          ((record.claimed proxy.instanceId w.state.clock).routedTo upstreamTaskId w.state.clock)) w' ∧
      FirstBound w w' i tool.identity.source
        (TaskProxy.callOf tool arguments (record.claimed proxy.instanceId w.state.clock))
        ((record.claimed proxy.instanceId w.state.clock).routedTo upstreamTaskId w.state.clock)
        created := by
  obtain ⟨v,called,first⟩ := first_called (i := i) readable prepares empty owner timely
    (.ok (.task created))
  have valid := first.valid
  generalize claim : record.claimed proxy.instanceId w.state.clock = claimed at called first valid ⊢
  have phase : claimed.phase = .dispatching := by rw [← claim]; rfl
  have free : claimed.upstreamTaskId = none := by rw [← claim]; rfl
  have updated : claimed.updatedAtUnixMs = w.state.clock := by rw [← claim]; rfl
  have admits : claimed.Admits (.routed upstreamTaskId w.state.clock) (some upstreamTaskId) :=
    TaskRouteRecord.admits_routed phase free updated.le (updated ▸ valid.shaped.numbers.2.1)
      (by rw [first.version]; decide) (UpstreamTaskId.new_self known)
  obtain ⟨store,binds,represents,sound⟩ := single_advanced readable first.represents valid admits
  have now : max v.state.clock claimed.updatedAtUnixMs = w.state.clock := by
    rw [first.clock,updated,max_self]
  rw [← now] at binds
  have binding := TaskProxy.bindUpstreamTask_goes (i := i) phase free binds rfl
  obtain ⟨past,timeout,trace⟩ := first.called
  rw [now] at binding
  refine ⟨_,called.trans (TaskProxy.acknowledged_goes known binding rfl),represents,sound,
    congrArg (· + 1) first.version,first.clock,first.requests,first.lasts,⟨timeout,?_⟩,?_⟩
  · apply List.mem_cons_of_mem
    apply List.mem_cons_of_mem
    rw [trace]
    exact List.mem_cons_self
  · apply first.early.trans
    apply Since.of_append [_,_] rfl
    simp only [List.forall_mem_cons]
    exact ⟨first.lasts,trivial,by simp⟩

/-- The one route is purged once it has expired. -/
theorem single_purge_goes (represents : ExactTaskRouteStorage.Represents w.state.store (.single record))
    (expired : record.isExpired w.state.clock = true) :
    ∃ w', Goes (proxySystem σ) i (ProxySystem.purgeExpired 128) w (pure ()) w' ∧ Since (cancelled · = none) w w' ∧
      ExactTaskRouteStorage.Represents w'.state.store fun _ => none := by
  obtain ⟨n,gone,purged,cleared⟩ := single_purged represents expired
  have goes : Goes (proxySystem σ) i (ProxySystem.purgeExpired 128) w (pure ())
      (stored (looked w i) i (.purgeExpiredTaskRoutes w.state.clock 128) (.ok n) gone) :=
    TaskProxy.nowUnixMs_goes.bind (TaskProxy.purge_goes purged)
  exact ⟨_,goes,.of_append [_,_] rfl (by simp [cancelled]),cleared⟩

omit [ExactTaskRouteStorage σ] in
/-- An acknowledgement that matches in time is passed on. -/
theorem bound_returns (record : TaskRouteRecord) {created : CreateTaskResult}
    (matching : executionAckMatches created.metaObject record = true)
    (timely : w.state.clock < record.executionCutoff) :
    Goes (proxySystem σ) i (TaskProxy.bound created record) w
      (pure (taskHandle record (some .working))) (looked w i) := by
  apply Goes.elseBranch (by simp [matching])
  apply TaskProxy.nowUnixMs_goes.bind
  exact Goes.elseBranch (Nat.not_le.mpr timely) (.refl _)

/-- An acknowledgement that does not match fails without a cancel when the route is gone. -/
theorem bound_missing (created : CreateTaskResult)
    (represents : ExactTaskRouteStorage.Represents w.state.store fun _ => none)
    (phase : record.phase = .routed) (unmatched : created.metaObject = none) :
    ∃ w', Goes (proxySystem σ) i (TaskProxy.bound created record) w (throw unknownTask) w' ∧
      Since (cancelled · = none) w w' ∧ ExactTaskRouteStorage.Represents w'.state.store fun _ => none := by
  obtain ⟨answer,still⟩ := ExactTaskRouteStorage.compareAndSet record.caller record.publicTaskId
    record.transitionVersion (.cancelRequested (max w.state.clock record.updatedAtUnixMs)) represents
  have missing : TaskRouteStorage.compareAndSetTaskRoute record.caller record.publicTaskId
      record.transitionVersion (.cancelRequested (max w.state.clock record.updatedAtUnixMs))
      w.state.store = (.ok none,_) := Prod.ext answer rfl
  refine ⟨?after,?goes,?_,?_⟩
  case goes =>
    apply Goes.thenBranch (by simp [executionAckMatches,unmatched])
    exact (TaskProxy.requestCancellation_missing (by simp [phase]) missing).stop
  · exact .of_append [_,_] rfl (by simp [cancelled])
  · exact still

end First
end Alone

section Example
open Reference

/-- Its text is thirty-two bytes, so that the hash that keeps its input gives a whole digest. -/
def exampleArguments : JsonObject := [("query",.string "storage and recovery")]

/-- A call of the tool that may take half a second. -/
noncomputable def exampleTask : TaskSubmission where
  schemaVersion := taskSubmissionSchema
  logicalTaskId := "task-1"
  attemptId := "attempt-1"
  correlationId := "correlation-1"
  idempotencyKey := "key-1"
  inputSha256 := .ofJson (.object exampleArguments)
  acceptancePolicySha256 := onesDigest
  artifactScopeSha256 := onesDigest
  providerInterfaceVersion := onesDigest.toString
  deadlineUnixMs := 1500
  retentionMs := 1000
  limits := ⟨1000,65536,1,1⟩
  permittedEffect := .nonIdempotentWrite
  cleanupRequired := true

def exampleIdentity : AuthenticatedIdentity := ⟨⟨"alice"⟩,⟨"tenant-a"⟩,[]⟩

def exampleProxy : TaskProxy := ⟨"proxy-a"⟩

noncomputable def exampleStart : Shared MemoryTaskRoutes := ⟨TaskRouteStorage.empty,1000,[]⟩

/-- The route that is prepared for it, but for its seal. -/
noncomputable def exampleRecord (digest : Sha256Digest) : TaskRouteRecord :=
  .prepared ⟨"gmt_1"⟩ ⟨⟨"alice"⟩,⟨"tenant-a"⟩⟩ (some ⟨"key-1"⟩)
    (.ofJson (submissionBinding plainTool exampleTask onesDigest))
    (submissionBinding plainTool exampleTask onesDigest) plainTool.identity "gmus_1" 1000 1000
    digest

theorem exampleTask_whole : exampleTask.Whole := ⟨by decide +kernel,rfl,rfl⟩

theorem exampleTask_parsed : TaskSubmission.parse (toValue exampleTask) exampleArguments
    plainTool.identity.schemaDigest.toString .nonIdempotentWrite 1000 = .ok exampleTask := by
  have decoded : TaskSubmission.decode (toValue exampleTask) = some exampleTask :=
    TaskSubmission.decode_encode exampleTask_whole
  have small : (Value.object exampleArguments).byteLength ≤ maxTaskInputBytes := by
    rw [byteLength_eq]
    decide
  simp only [TaskSubmission.parse,Except.then_ok,okOr_bind_ok,reject_ok]
  exact ⟨by omega,exampleTask,decoded,by simp [exampleTask],by decide,
    by simp [exampleTask],by simp [exampleTask,plainTool],by decide,by decide,by decide,by decide,
    by decide,rfl⟩

theorem exampleTask_compact : Compact plainTool exampleTask onesDigest :=
  have short : onesDigest.Short := Nat.le_of_ble_eq_true rfl
  ⟨by decide +kernel,short,short,short,exampleTask_whole.input.short,short,short⟩

theorem exampleRecord_cutoff (digest : Sha256Digest) :
    (exampleRecord digest).executionCutoff = 1500 := by
  have deadline : (exampleRecord digest).deadline = exampleTask.deadlineUnixMs :=
    deadline_bound _ rfl
  have runtime : (exampleRecord digest).runtime = exampleTask.limits.maxRuntimeMs := rfl
  have created : (exampleRecord digest).createdAtUnixMs = 1000 := rfl
  rw [TaskRouteRecord.executionCutoff,deadline,runtime,created]
  decide

/-- The example is a first submission at the time 1000. -/
theorem example_prepares {σ : Type} {w : ProxyWorld σ} (clock : w.state.clock = 1000)
    (undrawn : w.state.drawn = []) : ∃ digest, TaskProxy.Prepares w plainTool
      exampleArguments (toValue exampleTask) exampleIdentity ⟨"gmt_1"⟩ "gmus_1" onesDigest (exampleRecord digest) ∧
      w.state.clock < (exampleRecord digest).executionCutoff := by
  have bounded := TaskSubmission.parse_bounded exampleTask_parsed
  have named : Named ⟨"gmt_1"⟩ ⟨⟨"alice"⟩,⟨"tenant-a"⟩⟩ plainTool.identity.source "gmus_1" :=
    ⟨rfl,rfl,rfl,rfl⟩
  obtain ⟨record,made⟩ := prepareWithId_made bounded exampleTask_compact named (by decide)
  obtain ⟨-,digest,rfl⟩ := TaskRouteRecord.prepareWithId_ok made
  refine ⟨digest,⟨?_,by simp [undrawn],_,exampleTask,⟨"key-1"⟩,rfl,?_,rfl,?_⟩,?_⟩
  · rw [clock]
    rfl
  · rw [clock]
    exact exampleTask_parsed
  · rw [clock]
    exact made
  · rw [clock,exampleRecord_cutoff]
    decide

/-- An acknowledgement of the example, with or without the envelope it was called with. -/
noncomputable def exampleAcknowledgement (metaObject : Option MetaObject) : CreateTaskResult :=
  ⟨⟨"task-9",.working,none,rfc3339 1000,rfc3339 1000,none,none⟩,metaObject⟩

theorem exampleAcknowledgement_known (metaObject : Option MetaObject) :
    UpstreamTaskId.new (exampleAcknowledgement metaObject).task.taskId = .ok ⟨"task-9"⟩ := by
  have valid : validateIdentifier "task-9" maxUpstreamTaskIdBytes "upstream task ID" = .ok () := by
    rw [validateIdentifier,reject_ok]
    decide
  exact Except.then_ok.mpr ⟨valid,rfl⟩

end Example
end GaugeMesh
