import GaugeMesh.Proxy.AtMostOnce
import GaugeMesh.Proxy.Solo

/-! No upstream task is orphaned. When a submission whose call was acknowledged comes back,
the id was bound to its route or the upstream was asked to cancel; and a binding is only
undone with the expired route itself. -/
namespace GaugeMesh
open Json Interleaving ProxySystem

section
variable [FloatText] [Sha256] [Rmcp] [Chrono]
variable {σ : Type} [TaskRouteStorage σ] [ExactTaskRouteStorage σ]

/-- The store holds the route with this upstream task. -/
def HoldsUpstream (store : σ) (publicTaskId : PublicTaskId) (id : UpstreamTaskId) : Prop :=
  ∃ s, ExactTaskRouteStorage.holds store s ∧ s.publicTaskId = publicTaskId ∧
    s.upstreamTaskId = some id

/-- The route was durably bound to the upstream task, and is gone since it expired. -/
def ExpiredUpstream (w : ProxyWorld σ) (publicTaskId : PublicTaskId) (id : UpstreamTaskId) : Prop :=
  (∀ s, ExactTaskRouteStorage.holds w.state.store s → s.publicTaskId ≠ publicTaskId) ∧
    ∃ r, Written r w.trace ∧ r.publicTaskId = publicTaskId ∧ r.upstreamTaskId = some id ∧
      r.expiresAtUnixMs ≤ w.state.clock

omit [Rmcp] [Chrono] in
/-- What was bound is still bound, unless the route expired and was removed. -/
theorem Inv.bound {w : ProxyWorld σ} (inv : Inv w) {r : TaskRouteRecord} {id : UpstreamTaskId}
    (known : Written r w.trace) (bound : r.upstreamTaskId = some id) :
    HoldsUpstream w.state.store r.publicTaskId id ∨ ExpiredUpstream w r.publicTaskId id := by
  obtain ⟨routes,consistent⟩ := inv.store
  have named := (ExactTaskRouteStorage.wellFormed consistent.represents).id
  rcases there : routes r.publicTaskId with _ | s
  · refine .inr ⟨fun s held same => ?_,r,known,rfl,bound,consistent.removed known there⟩
    have stored := (ExactTaskRouteStorage.holds_iff consistent.represents).mp held
    rw [same,there] at stored
    cases stored
  · have same := named _ s there
    refine .inl ⟨s,?_,same,(consistent.latest known there).upstream bound⟩
    rw [ExactTaskRouteStorage.holds_iff consistent.represents,same]
    exact there

/-- The operation may remove the route, which has expired. -/
def Overdue : ProxyEvent → TaskRouteRecord → Prop
  | ⟨_,.purgeExpiredTaskRoutes now _,_⟩,r => r.isExpired now = true
  | ⟨_,.beginOrExisting record,_⟩,r => Routes.Replaced record r
  | _,_ => False

omit [FloatText] [Sha256] [Rmcp] [Chrono] in
theorem ProxySystem.InTime.spares {clock : Nat} {e : ProxyEvent} {r : TaskRouteRecord} (early : InTime clock e)
    (lasts : clock < r.expiresAtUnixMs) : ¬Overdue e r := by
  obtain ⟨i,op,reply⟩ := e
  cases op with
  | beginOrExisting record =>
    rintro ⟨-,-,expired⟩
    have late := of_decide_eq_true expired
    exact Nat.not_le.mpr lasts (late.trans early.1)
  | purgeExpiredTaskRoutes now limit =>
    intro expired
    have late := of_decide_eq_true expired
    exact Nat.not_le.mpr lasts (late.trans early)
  | _ => exact id

omit [FloatText] [Sha256] [Rmcp] [Chrono] in
theorem ProxySystem.InTime.lasts {clock : Nat} {e : ProxyEvent} {r : TaskRouteRecord} (early : InTime clock e)
    (wrote : written e = some r) : clock < r.expiresAtUnixMs := by
  obtain ⟨i,op,reply⟩ := e
  cases op with
  | beginOrExisting record =>
    rcases reply with error | (stored | stored)
    · cases wrote
    · cases wrote
      exact early.2
    · cases wrote
  | compareAndSetTaskRoute caller id version update =>
    rcases reply with error | (_ | next)
    · cases wrote
    · cases wrote
    · cases wrote
      exact early
  | _ => cases wrote

/-- No operation could remove the route once it was bound to the upstream task. -/
def Spared (publicTaskId : PublicTaskId) (id : UpstreamTaskId) (trace : List ProxyEvent) : Prop :=
  ∀ e past, e :: past <:+ trace → ∀ r, Written r past → r.publicTaskId = publicTaskId →
    r.upstreamTaskId = some id → ¬Overdue e r

variable {publicTaskId : PublicTaskId} {id : UpstreamTaskId}

omit [FloatText] [Sha256] [Rmcp] [Chrono] in
theorem Spared.tail {e : ProxyEvent} {past : List ProxyEvent}
    (spared : Spared publicTaskId id (e :: past)) : Spared publicTaskId id past :=
  fun e' past' earlier => spared e' past' (earlier.trans (List.suffix_cons e past))

omit [FloatText] [Sha256] [Rmcp] [Chrono] in
theorem Spared.of_early (clock : Nat) {trace : List ProxyEvent}
    (early : ∀ e ∈ trace, InTime clock e) : Spared publicTaskId id trace := by
  intro e past occurrence r known _ _
  obtain ⟨f,member,wrote⟩ := known
  have lasts := (early f (occurrence.mem (List.mem_cons_of_mem _ member))).lasts wrote
  exact (early e (occurrence.mem List.mem_cons_self)).spares lasts

/-- What an operation could not remove is still stored, and so is what it bound. -/
structure Spares (e : ProxyEvent) (before after : Routes) : Prop where
  kept : ∀ id t, before id = some t → ¬Overdue e t → ∃ t, after id = some t
  wrote : ∀ r, written e = some r → r.upstreamTaskId.isSome → ∃ t, after r.publicTaskId = some t

omit [FloatText] [Sha256] [Rmcp] [Chrono] [TaskRouteStorage σ] [ExactTaskRouteStorage σ] in
theorem Spares.idle {e : ProxyEvent} {routes : Routes} (silent : written e = none) :
    Spares e routes routes where
  kept id t stored _ := ⟨t,stored⟩
  wrote r wrote := by
    rw [silent] at wrote
    cases wrote

omit [Rmcp] [Chrono] in
theorem Consistent.spares {w : ProxyWorld σ} {routes : Routes} (consistent : Consistent w routes)
    {op : ProxyOp} {reply : op.Ret} {s : Shared σ} (acted : act op w.state reply s) (i : Nat) :
    ∃ after, ExactTaskRouteStorage.Represents s.store after ∧ Spares ⟨i,op,reply⟩ routes after := by
  have ok := ExactTaskRouteStorage.wellFormed consistent.represents
  have unchanged {store : σ} (same : store = w.state.store) :
      ExactTaskRouteStorage.Represents store routes := same ▸ consistent.represents
  cases op with
  | beginOrExisting record =>
    obtain ⟨replied,represents⟩ := ExactTaskRouteStorage.begin record consistent.represents
    obtain ⟨store,after,rfl,represents,step⟩ := consistent.stores acted represents
      (fun reply after => Routes.Begin record routes reply after)
      (by rw [replied]; exact Routes.beginReading_step ok record) fun error => .refused
    refine ⟨after,represents,?_⟩
    cases step with
    | existing => exact .idle rfl
    | refused => exact .idle rfl
    | inserted prepared stored fresh others =>
      constructor
      · intro id t before spared
        by_cases new : id = record.publicTaskId
        · exact ⟨record,new ▸ stored⟩
        · rcases others id new with same | ⟨-,old,found,replaced⟩
          · exact ⟨t,same.trans before⟩
          · rw [before] at found
            cases found
            exact absurd replaced spared
      · intro r wrote bound
        cases wrote
        exact ⟨record,stored⟩
  | compareAndSetTaskRoute caller id version update =>
    obtain ⟨replied,represents⟩ :=
      ExactTaskRouteStorage.compareAndSet caller id version update consistent.represents
    obtain ⟨store,after,rfl,represents,step⟩ := consistent.stores acted represents
      (fun reply after => Routes.CompareAndSet caller id version update routes reply after)
      (by rw [replied]; exact Routes.compareAndSetReading_step) fun error => .refused
    refine ⟨after,represents,?_⟩
    cases step with
    | unknown => exact .idle rfl
    | refused => exact .idle rfl
    | @set current next stored owner fresh moved =>
      have named := (TaskRouteRecord.transition_ok moved).sameRoute.publicTaskId.trans
        (ok.id id current stored)
      constructor
      · intro j t before _
        by_cases same : j = id
        · exact ⟨next,by rw [same,Function.update_self]⟩
        · exact ⟨t,(Function.update_of_ne same ..).trans before⟩
      · intro r wrote _
        cases wrote
        exact ⟨next,by rw [named,Function.update_self]⟩
  | purgeExpiredTaskRoutes now limit =>
    obtain ⟨replied,represents⟩ := ExactTaskRouteStorage.purge now limit consistent.represents
    obtain ⟨store,after,rfl,represents,step⟩ := consistent.stores acted represents
      (fun _ after => Routes.Purge now routes after) Routes.purge_step fun _ _ => .inl rfl
    refine ⟨after,represents,?_,(Spares.idle rfl).wrote⟩
    intro id t before spared
    rcases step id with same | ⟨-,old,found,expired⟩
    · exact ⟨t,same.trans before⟩
    · rw [before] at found
      cases found
      exact absurd expired spared
  | findTaskRoute =>
    rcases acted with ⟨-,rfl⟩ | ⟨-,-,rfl⟩ <;> exact ⟨routes,unchanged rfl,.idle rfl⟩
  | getTaskRoute =>
    rcases acted with ⟨-,rfl⟩ | ⟨-,-,rfl⟩ <;> exact ⟨routes,unchanged rfl,.idle rfl⟩
  | now | randomTaskId =>
    obtain ⟨-,rfl⟩ := acted
    exact ⟨routes,unchanged rfl,.idle rfl⟩
  | sourceSnapshotDigest | sourceSessionId | sourceConfigurationDigest | callTool | getTask
  | cancelTask =>
    obtain rfl := acted
    exact ⟨routes,unchanged rfl,.idle rfl⟩

/-- What was bound is still stored where nothing could remove it. -/
theorem spared_stored (hash : Function.Injective Sha256.digest)
    {c : Config (Shared σ) ProxyOp ProxyOp.Ret ProxyRequest ProxyResponse}
    (reachable : Reachable (proxySystem σ) c) {r : TaskRouteRecord}
    (spared : Spared r.publicTaskId id c.world.trace) (known : Written r c.world.trace)
    (bound : r.upstreamTaskId = some id) :
    ∃ t, ExactTaskRouteStorage.holds c.world.state.store t ∧ t.publicTaskId = r.publicTaskId := by
  have certified := proxy_certified (σ := σ) hash
  induction reachable with
  | initial =>
    obtain ⟨e,member,-⟩ := known
    cases member
  | step before stepped ih =>
    cases stepped with
    | start => exact ih spared known
    | crash => exact ih spared known
    | drift moved =>
      obtain ⟨t,held,same⟩ := ih spared known
      refine ⟨t,?_,same⟩
      rw [World.drifted_state,moved.2]
      exact held
    | run active acted =>
      obtain ⟨routes,consistent⟩ := (certified.invariant before).store
      obtain ⟨after,represents,spares⟩ := consistent.spares acted _
      have there : ∃ t, after r.publicTaskId = some t := by
        rcases written_cons.mp known with wrote | known
        · exact spares.wrote r wrote (Option.isSome_iff_exists.mpr ⟨id,bound⟩)
        · obtain ⟨t,held,same⟩ := ih spared.tail known
          have stored := (ExactTaskRouteStorage.holds_iff consistent.represents).mp held
          have leads := consistent.latest known (same ▸ stored)
          have clear := spared _ _ (List.suffix_refl _) t (consistent.origin stored) same
            (leads.upstream bound)
          exact spares.kept r.publicTaskId t (same ▸ stored) clear
      obtain ⟨t,stored⟩ := there
      have same := (ExactTaskRouteStorage.wellFormed represents).id _ t stored
      refine ⟨t,?_,same⟩
      rw [World.after_state,ExactTaskRouteStorage.holds_iff represents,same]
      exact stored

/-- A submission that was acknowledged with a valid id and has returned: its route holds the
id, or held it and was removed when it had expired, or a cancel for the id was attempted. A
cancellation that was durable before the id was bound is always passed on. -/
theorem acknowledged_task_kept (hash : Function.Injective Sha256.digest)
    {c : Config (Shared σ) ProxyOp ProxyOp.Ret ProxyRequest ProxyResponse}
    (reachable : Reachable (proxySystem σ) c) {i : Nat} {response : ProxyResponse}
    (returned : c.threads[i]? = some (some (.pure response))) {source : SourceId}
    {request : CallToolRequestParams} {session : String} {timeout : Nat} {created : CreateTaskResult}
    (acknowledged : (⟨i,.callTool source request session timeout,.ok (.task created)⟩ : ProxyEvent) ∈
      c.world.trace) {id : UpstreamTaskId} (valid : UpstreamTaskId.new created.task.taskId = .ok id) :
    (CancelAttempted source id session c.world.trace ∨ ∃ publicTaskId : PublicTaskId,
      request.publicTaskId = some publicTaskId.text ∧
        (HoldsUpstream c.world.state.store publicTaskId id ∨
          ExpiredUpstream c.world publicTaskId id)) ∧
    ∀ r, Written r c.world.trace → request.publicTaskId = some r.publicTaskId.text →
      r.phase = .cancelRequested → r.upstreamTaskId ≠ some id →
        CancelAttempted source id session c.world.trace := by
  have certified := proxy_certified (σ := σ) hash
  have inv := certified.invariant reachable
  have sound := certified.sound reachable
  have bound : i < c.world.requests.length := by
    rw [← sound.length]
    exact (List.getElem?_eq_some_iff.mp returned).1
  have settled : Settled i c.world :=
    certified.result reachable (List.getElem?_eq_getElem bound) returned
  have accounted := settled _ acknowledged rfl id valid
  constructor
  · refine accounted.imp_right fun routed => ?_
    obtain ⟨r,known,named,-,held⟩ := routed
    exact ⟨r.publicTaskId,named,inv.bound known held⟩
  · intro r known named phase unbound
    rcases accounted with attempted | ⟨s,before,route,routed,held⟩
    · exact attempted
    · -- The record that was routed with the id would lie before or after the cancellation.
      have same : r.publicTaskId = s.publicTaskId := by
        rw [named] at route
        exact PublicTaskId.ext (Option.some.inj route)
      rcases written_leads inv.history known before same with leads | leads
      · rcases leads.cancelRequested phase with still | ended
        · rw [routed] at still
          cases still
        · rw [routed] at ended
          cases ended
      · exact absurd (leads.upstream held) unbound

/-- As long as the route of an acknowledged task cannot be removed, the task is not lost. In the
configuration in which the submission has just returned that is all that is asked. -/
theorem acknowledged_task_spared (hash : Function.Injective Sha256.digest)
    {c : Config (Shared σ) ProxyOp ProxyOp.Ret ProxyRequest ProxyResponse}
    (reachable : Reachable (proxySystem σ) c) {i : Nat} {response : ProxyResponse}
    (returned : c.threads[i]? = some (some (.pure response))) {source : SourceId}
    {request : CallToolRequestParams} {session : String} {timeout : Nat} {created : CreateTaskResult}
    (acknowledged : (⟨i,.callTool source request session timeout,.ok (.task created)⟩ : ProxyEvent) ∈
      c.world.trace) {id : UpstreamTaskId} (valid : UpstreamTaskId.new created.task.taskId = .ok id)
    (spared : ∀ publicTaskId : PublicTaskId, request.publicTaskId = some publicTaskId.text →
      Spared publicTaskId id c.world.trace) :
    (CancelAttempted source id session c.world.trace ∨ ∃ publicTaskId : PublicTaskId,
      request.publicTaskId = some publicTaskId.text ∧
        HoldsUpstream c.world.state.store publicTaskId id) ∧
    ∀ r, Written r c.world.trace → request.publicTaskId = some r.publicTaskId.text →
      r.phase = .cancelRequested → r.upstreamTaskId ≠ some id →
        CancelAttempted source id session c.world.trace := by
  obtain ⟨kept,passed⟩ := acknowledged_task_kept hash reachable returned acknowledged valid
  refine ⟨?_,passed⟩
  rcases kept with attempted | ⟨publicTaskId,named,holds | ⟨gone,r,known,same,bound,-⟩⟩
  · exact .inl attempted
  · exact .inr ⟨publicTaskId,named,holds⟩
  · subst same
    obtain ⟨t,held,still⟩ := spared_stored hash reachable (spared _ named) known bound
    exact absurd still (gone t held)

/-- A first submission whose acknowledgement matches in time returns with its task bound. -/
theorem bound_in_time (readable : ∀ r, ExactTaskRouteStorage.unreadable σ r = none)
    {start : Shared σ} (empty : start.store = TaskRouteStorage.empty) (undrawn : start.drawn = [])
    {proxy : TaskProxy} {tool : FederatedTool} {arguments : JsonObject} {submission : Value}
    {identity : AuthenticatedIdentity} {id : PublicTaskId} {session : String}
    {snapshot : Sha256Digest} {created : CreateTaskResult} {upstreamTaskId : UpstreamTaskId}
    {record : TaskRouteRecord}
    (prepares : TaskProxy.Prepares (World.started ⟨start,[],[]⟩
      (.submit proxy tool arguments submission identity)) tool arguments submission identity id
      session snapshot record)
    (owner : validateIdentifier proxy.instanceId maxIdentifierBytes "dispatch owner ID" = .ok ())
    (timely : start.clock < record.executionCutoff)
    (known : UpstreamTaskId.new created.task.taskId = .ok upstreamTaskId)
    (matching : executionAckMatches created.metaObject record = true) :
    ∃ c timeout response, Reachable (proxySystem σ) c ∧
      (∀ publicTaskId id, Spared publicTaskId id c.world.trace) ∧
      c.threads[0]? = some (some (.pure response)) ∧
      (⟨0,.callTool tool.identity.source
        (TaskProxy.callOf tool arguments (record.claimed proxy.instanceId start.clock))
        record.upstreamSessionId timeout,.ok (.task created)⟩ : ProxyEvent) ∈ c.world.trace := by
  have represents : ExactTaskRouteStorage.Represents start.store fun _ => none := by
    rw [empty]
    exact ExactTaskRouteStorage.empty
  obtain ⟨v,submitted,bound⟩ := first_bound (i := 0) readable prepares represents owner timely known
  obtain ⟨timeout,acknowledged⟩ := bound.acknowledged
  have clock : v.state.clock = start.clock := bound.clock
  have returns := bound_returns (i := 0) (w := v)
    ((record.claimed proxy.instanceId start.clock).routedTo upstreamTaskId start.clock) matching (clock ▸ timely)
  have initial : Reachable (proxySystem σ) ⟨⟨start,[],[]⟩,[]⟩ := .initial ⟨empty,undrawn⟩
  have done := served_submit (submitted.trans returns) initial
  refine ⟨_,timeout,_,done,?_,rfl,List.mem_cons_of_mem _ acknowledged⟩
  refine fun _ _ => Spared.of_early start.clock ?_
  refine List.forall_mem_cons.mpr ⟨trivial,?_⟩
  intro e member
  exact (bound.early.events e member).resolve_left List.not_mem_nil

/-- A first submission whose acknowledgement does not match is to be cancelled. When its route
expires and is purged before that is recorded, the submission fails, and neither a route nor a
cancel is left of its task. -/
theorem expired_unrecorded (readable : ∀ r, ExactTaskRouteStorage.unreadable σ r = none)
    {start : Shared σ} (empty : start.store = TaskRouteStorage.empty) (undrawn : start.drawn = [])
    {proxy : TaskProxy} {tool : FederatedTool} {arguments : JsonObject} {submission : Value}
    {identity : AuthenticatedIdentity} {id : PublicTaskId} {session : String}
    {snapshot : Sha256Digest} {created : CreateTaskResult} {upstreamTaskId : UpstreamTaskId}
    {record : TaskRouteRecord}
    (prepares : TaskProxy.Prepares (World.started ⟨start,[],[]⟩
      (.submit proxy tool arguments submission identity)) tool arguments submission identity id
      session snapshot record)
    (owner : validateIdentifier proxy.instanceId maxIdentifierBytes "dispatch owner ID" = .ok ())
    (timely : start.clock < record.executionCutoff)
    (known : UpstreamTaskId.new created.task.taskId = .ok upstreamTaskId)
    (unmatched : created.metaObject = none) :
    ∃ c timeout, Reachable (proxySystem σ) c ∧
      c.threads[0]? = some (some (.pure (.submitted (.error unknownTask)))) ∧
      (⟨0,.callTool tool.identity.source
        (TaskProxy.callOf tool arguments (record.claimed proxy.instanceId start.clock))
        record.upstreamSessionId timeout,.ok (.task created)⟩ : ProxyEvent) ∈ c.world.trace ∧
      (∀ s, ¬ExactTaskRouteStorage.holds c.world.state.store s) ∧
      ∀ e ∈ c.world.trace, cancelled e = none := by
  have represents : ExactTaskRouteStorage.Represents start.store fun _ => none := by
    rw [empty]
    exact ExactTaskRouteStorage.empty
  obtain ⟨v,submitted,bound⟩ := first_bound (i := 0) readable prepares represents owner timely known
  rw [World.started_state] at submitted bound
  generalize route : (record.claimed proxy.instanceId start.clock).routedTo upstreamTaskId
    start.clock = routed at submitted bound
  have phase : routed.phase = .routed := by rw [← route]; rfl
  have session : routed.upstreamSessionId = record.upstreamSessionId := by rw [← route]; rfl
  obtain ⟨timeout,acknowledged⟩ := bound.acknowledged
  -- the submission stops with its task bound, and the clock passes the expiry of the route
  have initial : Reachable (proxySystem σ) ⟨⟨start,[],[]⟩,[]⟩ := .initial ⟨empty,undrawn⟩
  have first := served_submit submitted initial
  let late : Shared σ := { v.state with clock := max v.state.clock routed.expiresAtUnixMs }
  have aged := first.step (.drift (s := late) ⟨le_max_left _ _,rfl⟩)
  have expired : routed.isExpired late.clock = true := decide_eq_true (le_max_right _ _)
  obtain ⟨u,purging,purged,cleared⟩ := single_purge_goes (i := 1)
    (w := (v.drifted late).started (.purgeExpired 128)) bound.represents expired
  have second := served_purge purging aged
  -- the cancellation finds no route any more
  obtain ⟨w,stops,missed,cleared⟩ := bound_missing (i := 0) created cleared phase
    unmatched
  have third : Reachable (proxySystem σ)
      ⟨w,[some (.pure (.submitted (.error unknownTask))),some (.pure (.done (.ok ())))]⟩ :=
    (stops fun r => .pure (.submitted r)).reachable second rfl rfl
  have quiet : Since (cancelled · = none) ⟨start,[],[]⟩ w := by
    have before : Since (cancelled · = none) ⟨start,[],[]⟩ v :=
      ⟨bound.early.past,(bound.early.imp fun _ => InTime.uncancelled).events⟩
    have between : Since (cancelled · = none) v u := ⟨purged.past,purged.events⟩
    exact (before.trans between).trans missed
  refine ⟨_,timeout,third,rfl,?_,?_,?_⟩
  · apply missed.past.mem
    apply purged.past.mem
    rw [← session]
    exact acknowledged
  · intro s held
    rw [ExactTaskRouteStorage.holds_iff cleared] at held
    cases held
  · intro e member
    rcases quiet.events e member with old | silent
    · cases old
    · exact silent

end
section Example
open Reference

/-- The example acknowledged without the envelope, its route purged in between. -/
theorem orphaned_by_purge :
    ∃ (c : Config (Shared MemoryTaskRoutes) ProxyOp ProxyOp.Ret ProxyRequest ProxyResponse)
      (response : ProxyResponse) (request : CallToolRequestParams) (timeout : Nat),
      Reachable (proxySystem MemoryTaskRoutes) c ∧
      c.threads[0]? = some (some (.pure response)) ∧
      (⟨0,.callTool ⟨"docs"⟩ request "gmus_1" timeout,
        .ok (.task (exampleAcknowledgement none))⟩ : ProxyEvent) ∈ c.world.trace ∧
      UpstreamTaskId.new (exampleAcknowledgement none).task.taskId = .ok ⟨"task-9"⟩ ∧
      ¬(CancelAttempted ⟨"docs"⟩ ⟨"task-9"⟩ "gmus_1" c.world.trace ∨
        ∃ publicTaskId : PublicTaskId, request.publicTaskId = some publicTaskId.text ∧
          HoldsUpstream c.world.state.store publicTaskId ⟨"task-9"⟩) := by
  obtain ⟨digest,prepares,timely⟩ := example_prepares (w := World.started ⟨exampleStart,[],[]⟩
    (.submit exampleProxy plainTool exampleArguments (toValue exampleTask) exampleIdentity)) rfl rfl
  obtain ⟨c,timeout,reachable,returned,acknowledged,empty,quiet⟩ := expired_unrecorded
    (fun _ => rfl) rfl rfl prepares rfl timely (exampleAcknowledgement_known none) rfl
  refine ⟨c,_,_,timeout,reachable,returned,acknowledged,
    exampleAcknowledgement_known _,?_⟩
  rintro (⟨e,member,attempt⟩ | ⟨publicTaskId,-,s,held,-⟩)
  · rw [quiet e member] at attempt
    cases attempt
  · exact empty s held

/-- The example acknowledged with its envelope keeps the task. -/
theorem acknowledged_task_spared_example :
    ∃ (c : Config (Shared MemoryTaskRoutes) ProxyOp ProxyOp.Ret ProxyRequest ProxyResponse)
      (request : CallToolRequestParams), Reachable (proxySystem MemoryTaskRoutes) c ∧
      (CancelAttempted ⟨"docs"⟩ ⟨"task-9"⟩ "gmus_1" c.world.trace ∨
        ∃ publicTaskId : PublicTaskId, request.publicTaskId = some publicTaskId.text ∧
          HoldsUpstream c.world.state.store publicTaskId ⟨"task-9"⟩) := by
  obtain ⟨digest,prepares,timely⟩ := example_prepares (w := World.started ⟨exampleStart,[],[]⟩
    (.submit exampleProxy plainTool exampleArguments (toValue exampleTask) exampleIdentity)) rfl rfl
  have matching : executionAckMatches (exampleAcknowledgement
      (some [(taskExecutionMetaKey,executionEnvelope (exampleRecord digest))])).metaObject
      (exampleRecord digest) = true := by
    simp [exampleAcknowledgement,executionAckMatches,Value.same_refl]
  obtain ⟨c,timeout,response,reachable,spared,returned,acknowledged⟩ := bound_in_time
    (fun _ => rfl) rfl rfl prepares rfl timely (exampleAcknowledgement_known _) matching
  exact ⟨c,_,reachable,(acknowledged_task_spared Function.injective_id reachable returned
    acknowledged (exampleAcknowledgement_known _) fun _ _ => spared _ _).1⟩

end Example
end GaugeMesh
