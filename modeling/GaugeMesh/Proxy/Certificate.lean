import GaugeMesh.Proxy.Dispatch

/-! Every request of a proxy keeps the invariant. A submission goes from the id it draws to
the route it begins or finds, and from there to the claim. -/
namespace GaugeMesh
open Json Interleaving ProxySystem

section
variable [FloatText] [Sha256]

/-- Equal digests are digests of equal bindings. -/
theorem binding_same (hash : Function.Injective Sha256.digest) {tool other : FederatedTool}
    {task task' : TaskSubmission} {snapshot snapshot' : Sha256Digest}
    (digests : Sha256Digest.ofJson (submissionBinding tool task snapshot) =
      .ofJson (submissionBinding other task' snapshot')) :
    submissionBinding tool task snapshot = submissionBinding other task' snapshot' := by
  have same := Sha256Digest.ofJson_injective hash _ _ digests
  rwa [canonicalJson_binding,canonicalJson_binding] at same

theorem binding_source {tool other : FederatedTool} {task task' : TaskSubmission}
    {snapshot snapshot' : Sha256Digest}
    (same : submissionBinding tool task snapshot = submissionBinding other task' snapshot') :
    tool.identity.source = other.identity.source := by
  have source := congrArg (fun v => (v.get "capabilitySource").bind Value.asStr) same
  exact SourceId.ext (Option.some.inj source)

/-- A route of the submission that is given: what the caller asked for is what it holds. -/
structure Holds (r : TaskRouteRecord) (tool : FederatedTool) (caller : TaskRouteCaller)
    (task : TaskSubmission) : Prop where
  source : r.capabilitySource = tool.identity.source
  caller : r.caller = caller
  key : r.idempotencyKey = some ⟨task.idempotencyKey⟩
  deadline : r.deadline = task.deadlineUnixMs

/-- A stored route with the digest of a submission is a route of that submission. -/
theorem Holds.found (hash : Function.Injective Sha256.digest) {r record : TaskRouteRecord}
    {tool : FederatedTool} {caller : TaskRouteCaller} {task : TaskSubmission}
    {snapshot : Sha256Digest} (holds : Holds record tool caller task)
    (binding : record.submissionBinding = submissionBinding tool task snapshot) (valid : r.Valid)
    (prepared : record.Valid) (form : Form r) (owner : r.caller = record.caller)
    (key : r.idempotencyKey = record.idempotencyKey)
    (digests : r.requestDigest = record.requestDigest) : Holds r tool caller task := by
  obtain ⟨other,task',snapshot',bound,source⟩ := form.binding
  rw [valid.shaped.request,prepared.shaped.request,bound,binding] at digests
  have same := binding_same hash digests
  refine ⟨?_,owner.trans holds.caller,key.trans holds.key,?_⟩
  · rw [source,binding_source same]
  · rw [same] at bound
    exact deadline_bound _ bound

end

section
variable [FloatText] [Sha256] [Rmcp] [Chrono]
variable {σ : Type} [TaskRouteStorage σ] [ExactTaskRouteStorage σ]
variable {i : Nat} {v : Prop} {fact : ProxyWorld σ → Prop}

omit [FloatText] [Sha256] [Rmcp] [Chrono] in
theorem Serves.same {requests : List ProxyRequest} {r s : TaskRouteRecord}
    (serves : Serves requests i r) (route : r.SameRoute s) : Serves requests i s := by
  obtain ⟨proxy,tool,arguments,submission,identity,task,served,caller,decoded,key,deadline⟩ := serves
  refine ⟨proxy,tool,arguments,submission,identity,task,served,?_,decoded,?_,?_⟩
  · rw [route.caller]
    exact caller
  · rw [route.idempotencyKey]
    exact key
  · rw [route.deadline]
    exact deadline

/-- The thread knows a route of its submission and has done nothing with it. -/
def Stored (i : Nat) (record : TaskRouteRecord) (w : ProxyWorld σ) : Prop :=
  Written record w.trace ∧ Own i Quietly w ∧ Serves w.requests i record

theorem Stored.quiet (record : TaskRouteRecord) : Quiet False i (Stored i record : ProxyWorld σ → Prop) :=
  (Quiet.permanent (Written.permanent record)).and
    (quietly_quiet.and (Quiet.permanent (Serves.permanent record)))

omit [FloatText] [Sha256] [Rmcp] [Chrono] [TaskRouteStorage σ] [ExactTaskRouteStorage σ] in
theorem Stored.settled {record : TaskRouteRecord} {w : ProxyWorld σ} (stored : Stored i record w) :
    Settled i w := Settled.unsent (Unsent.quietly stored.2.1)

theorem stored_plain (record : TaskRouteRecord) {p : Proxy α} (within : p.run.Within (plain False)) :
    Interleaving.Runs (proxySystem σ) Inv i (Stored i record) p (fun _ => Settled i) (Settled i) :=
  ((Stored.quiet record).plain within).weaken (fun _ _ _ holds => holds.settled)
    fun _ _ holds => holds.settled

/-- The claim of a stored route and the call after it. -/
theorem claimed_runs {tool : FederatedTool} {arguments : JsonObject} {record claimed : TaskRouteRecord}
    (source : record.capabilitySource = tool.identity.source) :
    Interleaving.Runs (proxySystem σ) Inv i (fun w => (record.SameRoute claimed ∧ claimed.phase = .dispatching ∧
        Claimed i claimed w.trace) ∧ Stored i record w)
      (TaskProxy.dispatch tool arguments claimed) (fun _ => Settled i) (Settled i) := by
  refine (Interleaving.Runs.assuming fun known : record.SameRoute claimed ∧ claimed.phase = .dispatching =>
    dispatch_runs known.2 (known.1.capabilitySource.trans source)).strengthen fun w _ holds => ?_
  obtain ⟨⟨route,phase,mine⟩,-,quietly,serves⟩ := holds
  exact ⟨⟨route,phase⟩,mine,quietly,serves.same route⟩

theorem reconciled_existing (record : TaskRouteRecord) :
    (do TaskProxy.existingSubmission (← TaskProxy.markReconciliationRequired record)).run.Within
      (plain v) :=
  Fallible.within_bind (TaskProxy.markReconciliation_plain _ _) fun _ =>
    TaskProxy.existingSubmission_plain _

theorem accepted_runs {proxy : TaskProxy} {tool : FederatedTool} {arguments : JsonObject} {now : Nat}
    {record : TaskRouteRecord} {inserted : Bool}
    (source : record.capabilitySource = tool.identity.source) :
    Interleaving.Runs (proxySystem σ) Inv i (Stored i record)
      (TaskProxy.accepted proxy tool arguments now record inserted)
      (fun _ => Settled i) (Settled i) := by
  have stored : Quiet False i (Stored i record : ProxyWorld σ → Prop) := Stored.quiet record
  have claims := (claimDispatch_runs proxy record stored).strengthen
    fun w (_ : Inv w) (holds : Stored i record w) => ⟨holds.1,holds⟩
  rw [TaskProxy.accepted]
  refine Interleaving.Runs.bind ((stored.plain (TaskProxy.drifted_plain record _)).weaken
    (fun _ _ _ holds => holds) fun _ _ holds => holds.settled) fun changed => ?_
  split
  · exact stored_plain record (reconciled_existing record)
  · split
    · refine Interleaving.Runs.bind (claims.weaken (fun _ _ _ holds => holds) fun _ _ holds => holds.settled)
        fun result => ?_
      rcases result with _ | claimed
      · exact Interleaving.Runs.throw ((Stable.forall fun r => Stable.forall fun same => by cases same).and
          stored.stable) fun w _ holds => holds.2.settled
      · exact (claimed_runs source).strengthen fun w _ holds => ⟨holds.1 claimed rfl,holds.2⟩
    · split
      · refine Interleaving.Runs.bind (claims.weaken (fun _ _ _ holds => holds) fun _ _ holds => holds.settled)
          fun result => ?_
        rcases result with _ | claimed
        · exact (stored_plain record (TaskProxy.existingSubmission_plain record)).strengthen
            fun w _ holds => holds.2
        · exact (claimed_runs source).strengthen fun w _ holds => ⟨holds.1 claimed rfl,holds.2⟩
      · split
        · exact stored_plain record (reconciled_existing record)
        · exact stored_plain record (TaskProxy.existingSubmission_plain record)

/-- No call, no verdict and no route begun. -/
def Calmly (e : ProxyEvent) : Prop := Quietly e ∧ begun e = none

omit [FloatText] [Sha256] [Rmcp] [Chrono] in
theorem plain_calmly (e : ProxyEvent) (member : e.op ∈ plain False) : Calmly e := by
  refine ⟨plain_quietly e member,?_⟩
  obtain ⟨j,op,reply⟩ := e
  cases op with
  | beginOrExisting => exact member.elim
  | _ => rfl

theorem calmly_quiet : Quiet False i (Own i Calmly : ProxyWorld σ → Prop) := Own.quiet plain_calmly

omit [FloatText] [Sha256] [Rmcp] [Chrono] [TaskRouteStorage σ] [ExactTaskRouteStorage σ] in
theorem Own.settled {w : ProxyWorld σ} (own : Own i Calmly w) : Settled i w :=
  Settled.unsent fun e member mine => (own e member mine).1.1

omit [FloatText] [Sha256] [Rmcp] [Chrono] [TaskRouteStorage σ] [ExactTaskRouteStorage σ] in
theorem Own.next {known : ProxyEvent → Prop} {w : ProxyWorld σ} (own : Own i known w) {op : ProxyOp}
    {reply : op.Ret} {s : Shared σ} (new : known ⟨i,op,reply⟩) :
    Own i known (w.after i op reply s) := by
  intro e member mine
  rcases List.mem_cons.mp member with rfl | old
  · exact new
  · exact own e old mine

omit [Rmcp] [Chrono] in
theorem read_clock {w : ProxyWorld σ} {now : Nat} {known : List ProxyEvent → Prop} (inv : Inv w)
    (read : ReadAt i now known w.trace) : now ≤ w.state.clock := by
  obtain ⟨earlier,occurrence,-⟩ := read
  obtain ⟨routes,consistent⟩ := inv.store
  exact consistent.clock _ (mem_of_occurrence occurrence) now rfl

/-- A purge by a time that was read. -/
theorem purge_runs {now : Nat} {known : List ProxyEvent → Prop} {limit : Nat}
    (permanent : Permanent fact) :
    Interleaving.Runs (proxySystem σ) Inv i (fun w => ReadAt i now known w.trace ∧ Own i Calmly w ∧ fact w)
      (TaskProxy.purge now limit)
      (fun _ w => ReadAt i now known w.trace ∧ Own i Calmly w ∧ fact w) (Settled i) := by
  have quiet : Quiet False i fun w : ProxyWorld σ =>
      ReadAt i now known w.trace ∧ Own i Calmly w ∧ fact w :=
    (Quiet.permanent (ReadAt.permanent now known)).and
      (calmly_quiet.and (Quiet.permanent permanent))
  refine Interleaving.Runs.bind (Interleaving.Runs.perform quiet.stable (fun w reply s inv holds acted => ?_)
    fun _ => quiet.stable) fun reply => ?_
  · obtain ⟨routes,consistent⟩ := inv.store
    refine ⟨inv.next ?_ (consistent.purge (read_clock inv holds.1) acted),?_⟩
    · trivial
    · exact ⟨(ReadAt.permanent now known).after w _ _ _ _ holds.1,
        holds.2.1.next ⟨⟨rfl,id⟩,rfl⟩,permanent.after w _ _ _ _ holds.2.2⟩
  · exact Interleaving.Runs.bind ((orElse_runs quiet).weaken (fun _ _ _ holds => holds.2)
      fun _ _ holds => holds.2.1.settled) fun _ => Interleaving.Runs.pure quiet.stable fun _ _ holds => holds

theorem find_runs {caller : TaskRouteCaller} {key : TaskRouteIdempotencyKey}
    (quiet : Quiet False i fact) :
    Interleaving.Runs (proxySystem σ) Inv i fact (TaskProxy.ask (.findTaskRoute caller key))
      (fun reply w => (∀ r, reply = .ok (some r) → Written r w.trace) ∧ fact w) (Settled i) := by
  have known : ∀ reply : Except TaskRouteStorageError (Option TaskRouteRecord),
      Permanent fun w : ProxyWorld σ => ∀ r, reply = .ok (some r) → Written r w.trace :=
    fun reply => Permanent.forall fun r => Permanent.forall fun _ => Written.permanent r
  refine Interleaving.Runs.perform quiet.stable ?_ fun reply => (known reply).stable.and quiet.stable
  intro w reply s inv holds acted
  obtain ⟨routes,consistent⟩ := inv.store
  obtain ⟨rfl,read⟩ := consistent.find acted
  have after : Inv (w.after i (.findTaskRoute caller key) reply w.state) :=
    inv.idle trivial rfl rfl rfl
  exact ⟨after,fun r same => (Written.permanent r).after _ _ _ _ _ (read r same),
    quiet.kept w _ reply _ trivial holds⟩

/-! A step that may fail, in a thread that has settled everything so far. -/

theorem orElse_settled {result : Except ε α} {convert : ε → McpError} (quiet : Quiet False i fact)
    (settled : ∀ w, fact w → Settled i w) :
    Interleaving.Runs (proxySystem σ) Inv i fact (TaskProxy.orElse result convert)
      (fun a w => result = .ok a ∧ fact w) (Settled i) :=
  (orElse_runs quiet).weaken (fun _ _ _ holds => holds) fun w _ holds => settled w holds

theorem required_settled {value : Option α} {error : McpError} (quiet : Quiet False i fact)
    (settled : ∀ w, fact w → Settled i w) :
    Interleaving.Runs (proxySystem σ) Inv i fact (TaskProxy.required value error)
      (fun a w => value = some a ∧ fact w) (Settled i) :=
  (required_runs quiet).weaken (fun _ _ _ holds => holds) fun w _ holds => settled w holds

theorem plain_settled {p : Proxy α} (quiet : Quiet False i fact)
    (settled : ∀ w, fact w → Settled i w) (within : p.run.Within (plain False)) :
    Interleaving.Runs (proxySystem σ) Inv i fact p (fun _ => fact) (Settled i) :=
  (quiet.plain within).weaken (fun _ _ _ holds => holds) fun w _ holds => settled w holds

/-- A recovery writes at most a verdict on a route that nobody claimed. -/
theorem recover_runs {tool : FederatedTool} {arguments : JsonObject} {submission : Value}
    {caller : TaskRouteCaller} {now : Nat} :
    Interleaving.Runs (proxySystem σ) Inv i (Own i Calmly)
      (TaskProxy.recover tool arguments submission caller now)
      (fun _ => Settled i) (Settled i) := by
  have own : Quiet False i (Own i Calmly : ProxyWorld σ → Prop) := calmly_quiet
  have settled : ∀ w : ProxyWorld σ, Own i Calmly w → Settled i w := fun w holds => holds.settled
  refine Interleaving.Runs.bind (required_settled own settled) fun text => Interleaving.Runs.assuming fun _ => ?_
  refine Interleaving.Runs.bind (orElse_settled own settled) fun key => Interleaving.Runs.assuming fun _ => ?_
  refine Interleaving.Runs.bind (find_runs own) fun reply => ?_
  have read : Permanent fun w : ProxyWorld σ => ∀ r, reply = .ok (some r) → Written r w.trace :=
    Permanent.forall fun r => Permanent.forall fun _ => Written.permanent r
  have replied := (Quiet.permanent read).and own
  refine Interleaving.Runs.bind (orElse_settled replied fun w holds => settled w holds.2) fun found =>
    Interleaving.Runs.assuming fun answer => ?_
  refine Interleaving.Runs.bind (required_settled replied fun w holds => settled w holds.2) fun record =>
    Interleaving.Runs.assuming fun present => ?_
  have stored := (Quiet.permanent (Written.permanent record)).and own
  have known : ∀ w : ProxyWorld σ, Written record w.trace ∧ Own i Calmly w → Settled i w :=
    fun w holds => settled w holds.2
  have plainly : ∀ {α : Type} (p : Proxy α), p.run.Within (plain False) → Interleaving.Runs (proxySystem σ) Inv i
      (fun w => Written record w.trace ∧ Own i Calmly w) p (fun _ => Settled i) (Settled i) :=
    fun p within => (plain_settled stored known within).weaken (fun _ w _ holds => known w holds)
      fun _ _ holds => holds
  suffices runs : Interleaving.Runs (proxySystem σ) Inv i (fun w => Written record w.trace ∧ Own i Calmly w)
      _ (fun _ => Settled i) (Settled i) by
    refine runs.strengthen fun w _ holds => ⟨holds.1 record ?_,holds.2⟩
    rw [answer,(Option.filter_eq_some_iff.mp present).1]
  have looked : (TaskProxy.ask (.sourceSnapshotDigest tool.identity.source)).run.Within
    (plain False) := Fallible.within_perform trivial
  refine Interleaving.Runs.bind (orElse_settled stored known) fun parsed => Interleaving.Runs.assuming fun _ => ?_
  refine Interleaving.Runs.bind (plain_settled stored known looked) fun digest => ?_
  refine Interleaving.Runs.bind (required_settled stored known) fun snapshot => Interleaving.Runs.assuming fun _ => ?_
  split
  · exact plainly _ trivial
  · split
    · next prepared =>
      refine ((finishKnownNonDispatch_runs record _).weaken (fun _ w _ holds => Settled.unsent holds)
        fun w _ holds => Settled.unsent holds).strengthen fun w _ holds => ?_
      exact ⟨holds.1,.inl prepared,fun e member mine => (holds.2 e member mine).1.1⟩
    · split
      · exact plainly _ (TaskProxy.existingSubmission_plain record)
      · split
        · exact plainly _ (reconciled_existing record)
        · refine plainly _ (Fallible.within_bind (TaskProxy.sourceBindingIsCurrent_plain record)
            fun current => ?_)
          split
          · exact TaskProxy.existingSubmission_plain record
          · exact reconciled_existing record

/-- The thread has drawn the id. -/
def Drawn (i : Nat) (id : PublicTaskId) (trace : List ProxyEvent) : Prop :=
  ∃ e ∈ trace, e.thread = i ∧ drawn e = some id

theorem draw_runs (permanent : Permanent fact) :
    Interleaving.Runs (proxySystem σ) Inv i (fun w => Own i Calmly w ∧ fact w) (TaskProxy.ask .randomTaskId)
      (fun id w => Drawn i id w.trace ∧ Own i Calmly w ∧ fact w) (Settled i) := by
  have quiet : Quiet False i fun w : ProxyWorld σ => Own i Calmly w ∧ fact w :=
    calmly_quiet.and (Quiet.permanent permanent)
  refine Interleaving.Runs.perform quiet.stable (fun w reply s inv holds acted => ?_) fun id =>
    (Permanent.past fun e => e.thread = i ∧ drawn e = some id).stable.and quiet.stable
  obtain ⟨routes,consistent⟩ := inv.store
  obtain ⟨fresh,after⟩ := consistent.random (i := i) acted
  refine ⟨inv.next fresh ⟨routes,after⟩,⟨_,List.mem_cons_self,rfl,rfl⟩,?_,?_⟩
  · exact holds.1.next ⟨⟨rfl,id⟩,rfl⟩
  · exact permanent.after w _ _ _ _ holds.2

/-- What is begun or found is a route of the submission. -/
theorem begin_runs (hash : Function.Injective Sha256.digest) {record : TaskRouteRecord}
    {tool : FederatedTool} {caller : TaskRouteCaller} {task : TaskSubmission}
    {snapshot : Sha256Digest} {known : List ProxyEvent → Prop}
    (prepared : record.verifyPreparedForBegin = .ok ())
    (binding : record.submissionBinding = submissionBinding tool task snapshot)
    (asked : Holds record tool caller task) (deadline : record.deadline ≤ record.expiresAtUnixMs)
    (permanent : Permanent fact) :
    Interleaving.Runs (proxySystem σ) Inv i (fun w => Drawn i record.publicTaskId w.trace ∧ Own i Calmly w ∧
        ReadAt i record.createdAtUnixMs known w.trace ∧ fact w)
      (TaskProxy.ask (.beginOrExisting record))
      (fun reply w => (∀ r, reply = .ok (.inserted r) ∨ reply = .ok (.existing r) →
        Holds r tool caller task ∧ Written r w.trace) ∧ Own i Quietly w ∧ fact w) (Settled i) := by
  refine Interleaving.Runs.perform ?_ (fun w reply s inv holds acted => ?_) fun reply => ?_
  · exact (Permanent.past fun e => e.thread = i ∧ drawn e = some record.publicTaskId).stable.and
      (calmly_quiet.stable.and ((ReadAt.permanent _ known).stable.and permanent.stable))
  · obtain ⟨drew,own,read,kept⟩ := holds
    obtain ⟨routes,consistent⟩ := inv.store
    have valid := (TaskRouteRecord.verifyPreparedForBegin_ok.mp prepared).1
    have begins : Begun i record w.trace :=
      ⟨drew,fun e member mine => (own e member mine).2,prepared,
        ⟨⟨tool,task,snapshot,binding,asked.source⟩,deadline,by rw [asked.key]; rfl⟩⟩
    obtain ⟨after,inserted,existing⟩ := consistent.begin (i := i)
      (fun r written => begun_fresh inv.history begins written) begins.form.keyed
      (read_clock inv read) acted
    refine ⟨inv.next begins after,fun r replied => ?_,?_,permanent.after w _ _ _ _ kept⟩
    · rcases replied with new | old
      · have same := inserted r new
        subst same new
        exact ⟨asked,_,List.mem_cons_self,rfl⟩
      · obtain ⟨written,owner,key,digests⟩ := existing r old
        refine ⟨asked.found hash binding (written_prepared inv.history written).1 valid
          (written_form inv.history written) owner key digests,?_⟩
        exact (Written.permanent r).after w _ _ _ _ written
    · exact (own.weaken fun e calmly => calmly.1).next ⟨rfl,id⟩
  · exact (Permanent.forall fun r => Permanent.forall fun _ =>
      (Permanent.const _).and (Written.permanent r)).stable.and
        (quietly_quiet.stable.and permanent.stable)

omit [Rmcp] [Chrono] in
/-- A route that was prepared for a submission holds it. -/
theorem prepared_holds {tool : FederatedTool} {caller : TaskRouteCaller} {task : TaskSubmission}
    {snapshot : Sha256Digest} {session : String} {now : Nat} {id : PublicTaskId}
    {record : TaskRouteRecord} {submission : Value}
    (accepted : TaskSubmission.Accepted submission now task)
    (made : TaskRouteRecord.prepareWithId id caller (some ⟨task.idempotencyKey⟩)
      (.ofJson (submissionBinding tool task snapshot)) (submissionBinding tool task snapshot)
      tool.identity session now task.retentionMs = .ok record) :
    Holds record tool caller task ∧ record.deadline ≤ record.expiresAtUnixMs ∧
      record.submissionBinding = submissionBinding tool task snapshot ∧
      record.publicTaskId = id ∧ record.createdAtUnixMs = now := by
  obtain ⟨-,digest,rfl⟩ := TaskRouteRecord.prepareWithId_ok made
  have deadline := deadline_bound (.prepared id caller (some ⟨task.idempotencyKey⟩)
    (.ofJson (submissionBinding tool task snapshot)) (submissionBinding tool task snapshot)
    tool.identity session now task.retentionMs digest) rfl
  refine ⟨⟨rfl,rfl,rfl,deadline⟩,?_,rfl,rfl,rfl⟩
  rw [deadline]
  exact accepted.deadline

/-- The thread serves the submission, unless it only recovers it. -/
def Submits (i : Nat) (recoveryOnly : Bool) (request : ProxyRequest) (w : ProxyWorld σ) : Prop :=
  recoveryOnly = false → w.requests[i]? = some request

omit [FloatText] [Sha256] [Rmcp] [Chrono] [TaskRouteStorage σ] [ExactTaskRouteStorage σ] in
theorem Submits.permanent (recoveryOnly : Bool) (request : ProxyRequest) :
    Permanent (Submits i recoveryOnly request : ProxyWorld σ → Prop) :=
  Permanent.forall fun _ => Permanent.request request

theorem submitMode_runs (hash : Function.Injective Sha256.digest) {proxy : TaskProxy}
    {tool : FederatedTool} {arguments : JsonObject} {submission : Value}
    {identity : AuthenticatedIdentity} {recoveryOnly : Bool} :
    Interleaving.Runs (proxySystem σ) Inv i (fun w => Own i Calmly w ∧
        Submits i recoveryOnly (.submit proxy tool arguments submission identity) w)
      (TaskProxy.submitMode proxy tool arguments submission identity recoveryOnly)
      (fun _ => Settled i) (Settled i) := by
  have served : Permanent (Submits i recoveryOnly
    (.submit proxy tool arguments submission identity) : ProxyWorld σ → Prop) := Submits.permanent _ _
  have own := (calmly_quiet (σ := σ) (i := i)).and (Quiet.permanent served)
  rw [TaskProxy.submitMode]
  refine Interleaving.Runs.bind ((Interleaving.Runs.ofExcept own.stable).weaken (fun _ _ _ holds => holds)
    fun _ _ holds => holds.1.settled) fun caller => Interleaving.Runs.assuming fun authenticated => ?_
  refine Interleaving.Runs.bind ((nowUnixMs_runs (fun _ => True) own fun _ _ => trivial).weaken
    (fun _ _ _ holds => holds) fun _ _ holds => holds.1.settled) fun now => ?_
  refine Interleaving.Runs.bind (purge_runs served) fun _ => ?_
  have timed := (Quiet.permanent (ReadAt.permanent (i := i) now fun _ => True)).and own
  have known : ∀ w : ProxyWorld σ, ReadAt i now (fun _ => True) w.trace ∧ Own i Calmly w ∧
      Submits i recoveryOnly (.submit proxy tool arguments submission identity) w → Settled i w :=
    fun w holds => holds.2.1.settled
  split
  · exact recover_runs.strengthen fun _ _ holds => holds.2.1
  · next submits =>
    have recovers : recoveryOnly = false := by
      simpa using fun recovering => submits (.inl recovering)
    have looked : (TaskProxy.ask (.sourceSnapshotDigest tool.identity.source)).run.Within
      (plain False) := Fallible.within_perform trivial
    have asked : (TaskProxy.ask (.sourceSessionId tool.identity.source)).run.Within
      (plain False) := Fallible.within_perform trivial
    refine Interleaving.Runs.bind (orElse_settled timed known) fun task => Interleaving.Runs.assuming fun parsed => ?_
    have accepted := TaskSubmission.parse_ok parsed
    refine Interleaving.Runs.bind (plain_settled timed known looked) fun digest => ?_
    refine Interleaving.Runs.bind (required_settled timed known) fun snapshot => Interleaving.Runs.assuming fun _ => ?_
    refine Interleaving.Runs.bind (plain_settled timed known asked) fun answer => ?_
    refine Interleaving.Runs.bind (required_settled timed known) fun session => Interleaving.Runs.assuming fun _ => ?_
    refine Interleaving.Runs.bind (orElse_settled timed known) fun key => Interleaving.Runs.assuming fun keyed => ?_
    obtain rfl := TaskRouteIdempotencyKey.new_ok keyed
    have kept := (ReadAt.permanent (i := i) (σ := σ) now fun _ => True).and served
    refine Interleaving.Runs.bind ((draw_runs kept).strengthen fun w _ holds => ⟨holds.2.1,holds.1,holds.2.2⟩)
      fun id => ?_
    have drew : Permanent fun w : ProxyWorld σ => Drawn i id w.trace := Permanent.past _
    refine Interleaving.Runs.bind (orElse_settled ((Quiet.permanent drew).and
      (calmly_quiet.and (Quiet.permanent kept))) fun w holds => holds.2.1.settled) fun record =>
        Interleaving.Runs.assuming fun made => ?_
    obtain ⟨holds,deadline,binding,rfl,rfl⟩ := prepared_holds accepted made
    refine Interleaving.Runs.bind (begin_runs hash (TaskRouteRecord.prepareWithId_ok made).1 binding holds
      deadline served) fun reply => ?_
    have routes : Permanent fun w : ProxyWorld σ => ∀ r, reply = .ok (.inserted r) ∨
        reply = .ok (.existing r) → Holds r tool caller task ∧ Written r w.trace :=
      Permanent.forall fun r => Permanent.forall fun _ =>
        (Permanent.const _).and (Written.permanent r)
    have quiet := (Quiet.permanent routes).and
      ((quietly_quiet (σ := σ) (i := i)).and (Quiet.permanent served))
    have proceeds : ∀ (r : TaskRouteRecord) (inserted : Bool),
        reply = .ok (.inserted r) ∨ reply = .ok (.existing r) →
        Interleaving.Runs (proxySystem σ) Inv i (fun w => (∀ r, reply = .ok (.inserted r) ∨
          reply = .ok (.existing r) → Holds r tool caller task ∧ Written r w.trace) ∧
          Own i Quietly w ∧ Submits i recoveryOnly
            (.submit proxy tool arguments submission identity) w)
        (TaskProxy.accepted proxy tool arguments record.createdAtUnixMs r inserted)
        (fun _ => Settled i) (Settled i) := by
      intro r inserted found
      refine (Interleaving.Runs.assuming fun held : Holds r tool caller task =>
        accepted_runs held.source).strengthen fun w _ known => ?_
      obtain ⟨held,written⟩ := known.1 r found
      refine ⟨held,written,known.2.1,proxy,tool,arguments,submission,identity,task,
        known.2.2 recovers,?_,accepted.decoded,held.key,held.deadline⟩
      rw [held.caller]
      exact authenticated
    refine Interleaving.Runs.bind (orElse_settled quiet fun w holds => Settled.unsent (Unsent.quietly holds.2.1))
      fun result => Interleaving.Runs.assuming fun began => ?_
    cases result with
    | existing r => exact proceeds r false (.inr began)
    | inserted r => exact proceeds r true (.inl began)

theorem unsent_plain {p : Proxy α} (within : p.run.Within (plain False)) :
    Interleaving.Runs (proxySystem σ) Inv i (fun w => Unsent i w.trace) p
      (fun _ w => Unsent i w.trace) fun w => Unsent i w.trace := unsent_quiet.plain within

theorem unsent_stable : Stable (proxySystem σ) Inv i fun w => Unsent i w.trace :=
  (unsent_quiet (v := False)).stable

/-- Only an upstream that says so makes a poll write a verdict. -/
theorem pollUpstream_runs (record : TaskRouteRecord) :
    Interleaving.Runs (proxySystem σ) Inv i (fun w => Unsent i w.trace) (TaskProxy.pollUpstream record)
      (fun _ w => Unsent i w.trace) fun w => Unsent i w.trace := by
  refine Interleaving.Runs.bind (unsent_plain trivial) fun upstreamId => ?_
  suffices polls : Interleaving.Runs (proxySystem σ) Inv i (fun w => Unsent i w.trace) _
      (fun _ w => Unsent i w.trace) fun w => Unsent i w.trace by
    split
    · exact Interleaving.Runs.bind (unsent_plain (Fallible.within_perform trivial)) fun _ => polls
    · exact polls
  refine Interleaving.Runs.bind (unsent_plain TaskProxy.nowUnixMs_plain) fun now => ?_
  dsimp only
  split
  · exact unsent_plain (TaskProxy.cancelledAtBound_plain _ _)
  · have answered : ∀ timeout, Interleaving.Runs (proxySystem σ) Inv i (fun w => Unsent i w.trace)
        (TaskProxy.ask (.getTask record.capabilitySource upstreamId.text
          record.upstreamSessionId timeout))
        (fun reply w => (∀ response, reply = .ok response →
          payloadState response.task.payload = some "not_dispatched" →
            Misled i w.trace) ∧ Unsent i w.trace) fun w => Unsent i w.trace := by
      intro timeout
      refine Interleaving.Runs.perform unsent_stable (fun w reply s inv holds acted => ?_) fun reply =>
        (Permanent.forall fun _ => Permanent.forall fun _ => Permanent.forall fun _ =>
          Misled.permanent).stable.and unsent_stable
      refine ⟨inv.plain (v := False) trivial False.elim acted,fun response same forged => ?_,
        (unsent_quiet (v := False)).kept w _ reply s trivial holds⟩
      cases same
      exact ⟨_,List.mem_cons_self,rfl,forged⟩
    refine Interleaving.Runs.bind (answered _) fun reply => ?_
    rcases reply with _ | _ | response
    · exact (unsent_plain (TaskProxy.cancelledAtBound_plain _ _)).strengthen
        fun _ _ holds => holds.2
    · refine (unsent_plain ?_).strengthen fun _ _ holds => holds.2
      exact Fallible.within_bind (TaskProxy.markReconciliation_plain _ _) fun _ => trivial
    · have misled : Quiet True i fun w : ProxyWorld σ => Misled i w.trace ∧ Unsent i w.trace :=
        (Quiet.permanent Misled.permanent).and unsent_quiet
      by_cases verdict : payloadState response.task.payload = some "not_dispatched"
      · refine ((misled.runs (fun _ _ holds => holds.1)
          (TaskProxy.polled_plain record upstreamId fun _ => trivial)).weaken
            (fun _ _ _ holds => holds.2) fun _ _ holds => holds.2).strengthen fun w _ holds => ?_
        exact ⟨holds.1 response rfl verdict,holds.2⟩
      · exact (unsent_plain (TaskProxy.polled_plain record upstreamId
          fun other => verdict other)).strengthen fun _ _ holds => holds.2

theorem getTask_runs (proxy : TaskProxy) (taskId : String) (identity : AuthenticatedIdentity) :
    Interleaving.Runs (proxySystem σ) Inv i (fun w => Unsent i w.trace) (proxy.getTask taskId identity)
      (fun _ w => Unsent i w.trace) fun w => Unsent i w.trace := by
  rw [TaskProxy.getTask]
  refine Interleaving.Runs.bind (unsent_plain trivial) fun caller => ?_
  refine Interleaving.Runs.bind (unsent_plain trivial) fun publicId => ?_
  refine Interleaving.Runs.bind (readTaskRoute_runs (v := False) unsent_quiet) fun record => ?_
  have stored : Quiet False i fun w : ProxyWorld σ =>
      Read caller publicId record w ∧ Unsent i w.trace :=
    (Quiet.permanent (Read.permanent caller publicId record)).and unsent_quiet
  have plainly : ∀ {α : Type} (p : Proxy α), p.run.Within (plain False) → Interleaving.Runs (proxySystem σ) Inv i
      (fun w => Read caller publicId record w ∧ Unsent i w.trace) p
      (fun _ w => Unsent i w.trace) fun w => Unsent i w.trace :=
    fun p within => (unsent_plain within).strengthen fun _ _ holds => holds.2
  refine Interleaving.Runs.bind ((stored.plain TaskProxy.nowUnixMs_plain).weaken (fun _ _ _ holds => holds)
    fun _ _ holds => holds.2) fun now => ?_
  split
  · exact plainly _ trivial
  split
  · exact plainly _ trivial
  refine Interleaving.Runs.bind ((stored.plain (TaskProxy.drifted_plain record _)).weaken
    (fun _ _ _ holds => holds) fun _ _ holds => holds.2) fun changed => ?_
  have reconciles : ∀ answer : TaskRouteRecord → GetTaskResult, (do
      let unknown ← TaskProxy.markReconciliationRequired record
      return answer unknown : Proxy GetTaskResult).run.Within (plain False) :=
    fun answer => Fallible.within_bind (TaskProxy.markReconciliation_plain _ _) fun _ => trivial
  split
  · exact plainly _ (reconciles _)
  split
  · exact plainly _ (reconciles _)
  split
  · next prepared =>
    refine (finishKnownNonDispatchResult_runs record _).strengthen fun w _ holds => ?_
    exact ⟨holds.1.1,.inl prepared.1,holds.2⟩
  split
  · exact plainly _ (reconciles _)
  split
  · exact plainly _ trivial
  split
  · exact plainly _ (TaskProxy.cancelledAtBound_plain _ _)
  split
  · exact plainly _ trivial
  split
  · exact plainly _ trivial
  · exact (pollUpstream_runs record).strengthen fun _ _ holds => holds.2

theorem purgeExpired_runs (maxRecords : Nat) :
    Interleaving.Runs (proxySystem σ) Inv i (Own i Calmly) (purgeExpired maxRecords)
      (fun _ => Settled i) (Settled i) := by
  have own : Quiet False i (Own i Calmly : ProxyWorld σ → Prop) := calmly_quiet
  refine Interleaving.Runs.bind ((nowUnixMs_runs (fun _ => True) own fun _ _ => trivial).weaken
    (fun _ _ _ holds => holds) fun _ _ holds => holds.settled) fun now => ?_
  exact ((purge_runs (Permanent.const True)).weaken (fun _ _ _ holds => holds.2.1.settled)
    fun _ _ holds => holds).strengthen fun _ _ holds => ⟨holds.1,holds.2,trivial⟩

theorem Settled.unsent_runs {p : Proxy α} (runs : Interleaving.Runs (proxySystem σ) Inv i
    (fun w => Unsent i w.trace) p (fun _ w => Unsent i w.trace) fun w => Unsent i w.trace) :
    Interleaving.Runs (proxySystem σ) Inv i (Own i Calmly) p (fun _ => Settled i) (Settled i) :=
  (runs.weaken (fun _ _ _ holds => .unsent holds) fun _ _ holds => .unsent holds).strengthen
    fun _ _ holds e member mine => (holds e member mine).1.1

/-- Whatever a thread serves, it keeps the invariant and settles what it called. -/
theorem proxy_certified (hash : Function.Injective Sha256.digest) :
    Certified (proxySystem σ) Inv fun _ i _ w => Settled i w where
  initial s start := by
    refine ⟨trivial,fun _ => none,?_⟩
    obtain ⟨empty,-⟩ := start
    refine ⟨?_,nofun,?_,?_,?_,?_,?_⟩
    · rw [empty]
      exact ExactTaskRouteStorage.empty
    all_goals simp [Written,Separate]
  drift w s inv moved := by
    obtain ⟨later,same⟩ := moved
    rw [same]
    exact inv.drifted later
  start w request inv := inv.started request
  body request i := by
    have stable : Stable (proxySystem σ) Inv i (Settled i) := (settled_quiet (v := False)).stable
    have fresh : ∀ w : ProxyWorld σ, (∀ e ∈ w.trace, e.thread ≠ i) → Own i Calmly w :=
      fun w none e member mine => absurd mine (none e member)
    cases request with
    | submit proxy tool arguments submission identity =>
      exact Triple.strengthen ((submitMode_runs hash).served stable _) fun w _ holds =>
        ⟨fresh w holds.2,fun _ => holds.1⟩
    | recoverSubmission proxy tool arguments submission identity =>
      exact Triple.strengthen ((submitMode_runs hash).served stable _) fun w _ holds =>
        ⟨fresh w holds.2,fun submitted => by cases submitted⟩
    | getTask proxy taskId identity =>
      exact Triple.strengthen ((Settled.unsent_runs (getTask_runs proxy taskId identity)).served
        stable _) fun w _ holds => fresh w holds.2
    | updateTask taskId identity =>
      exact Triple.strengthen ((Settled.unsent_runs (unsent_plain
        (TaskProxy.updateTask_plain taskId identity))).served stable _) fun w _ holds => fresh w holds.2
    | cancelTask taskId identity =>
      exact Triple.strengthen ((Settled.unsent_runs (unsent_plain
        (TaskProxy.cancelTask_plain taskId identity))).served stable _) fun w _ holds => fresh w holds.2
    | purgeExpired maxRecords =>
      exact Triple.strengthen ((purgeExpired_runs maxRecords).served stable _) fun w _ holds =>
        fresh w holds.2

end
end GaugeMesh
