import GaugeMesh.Interleaving.Outcome
import GaugeMesh.Proxy.Consistency

/-! Most of what a proxy does needs no reason: it reads, it asks the upstreams, it moves a
record it has read. Whole programs stay within such operations, so they keep the invariant
and whatever their thread knows. -/
namespace GaugeMesh
open Json Interleaving ProxySystem

/-- The operations that need no reason, a verdict apart. -/
def plain (verdicts : Prop) : Set ProxyOp := fun op =>
  match op with
  | .randomTaskId | .beginOrExisting _ | .purgeExpiredTaskRoutes .. | .callTool .. => False
  | .compareAndSetTaskRoute _ _ _ update => Verdict update → verdicts
  | _ => True

namespace TaskProxy

variable {v : Prop}

/-- What follows a value that has to be there. -/
theorem within_required {alphabet : Set ProxyOp} {value : Option α} {error : McpError}
    {f : α → Proxy β} (rest : ∀ a, value = some a → (f a).run.Within alphabet) :
    (required value error >>= f).run.Within alphabet := by
  rcases value with _ | a
  · trivial
  · exact rest a rfl

theorem nowUnixMs_plain : nowUnixMs.run.Within (plain v) :=
  Fallible.within_bind (Fallible.within_perform trivial) fun _ => trivial

theorem transitionTime_plain (record : TaskRouteRecord) :
    (transitionTime record).run.Within (plain v) :=
  Fallible.within_bind nowUnixMs_plain fun _ => trivial

theorem readTaskRoute_plain (caller : TaskRouteCaller) (publicTaskId : PublicTaskId) :
    (readTaskRoute caller publicTaskId).run.Within (plain v) :=
  Fallible.within_bind (Fallible.within_perform trivial) fun _ =>
    Fallible.within_bind trivial fun _ => trivial

theorem update_plain (record : TaskRouteRecord) {change : TaskRouteUpdate}
    (allowed : Verdict change → v) : (update record change).run.Within (plain v) := by
  refine Fallible.within_bind (Fallible.within_perform allowed) fun reply => ?_
  split
  · trivial
  · trivial
  · exact readTaskRoute_plain _ _
  · trivial

theorem persistCancellation_plain (attempts : Nat) (current : TaskRouteRecord) :
    (persistCancellation attempts current).run.Within (plain v) := by
  induction attempts generalizing current with
  | zero => trivial
  | succ attempts ih =>
    rw [persistCancellation]
    split
    · trivial
    · exact Fallible.within_bind (transitionTime_plain _) fun _ =>
        Fallible.within_bind (update_plain _ nofun) fun next => ih next

theorem markReconciliation_plain (attempts : Nat) (current : TaskRouteRecord) :
    (markReconciliation attempts current).run.Within (plain v) := by
  induction attempts generalizing current with
  | zero => trivial
  | succ attempts ih =>
    rw [markReconciliation]
    split
    · trivial
    · exact Fallible.within_bind (transitionTime_plain _) fun _ =>
        Fallible.within_bind (update_plain _ nofun) fun next => ih next

theorem requestCancellation_plain (record : TaskRouteRecord) :
    (requestCancellation record).run.Within (plain v) := by
  refine Fallible.within_bind (persistCancellation_plain _ _) fun cancelling => ?_
  split
  · trivial
  · split
    · trivial
    · refine Fallible.within_bind (Fallible.within_perform trivial) fun acknowledged => ?_
      split
      · trivial
      · exact markReconciliation_plain _ _

theorem sourceBindingIsCurrent_plain (record : TaskRouteRecord) :
    (sourceBindingIsCurrent record).run.Within (plain v) := by
  rw [sourceBindingIsCurrent]
  split
  · trivial
  · refine Fallible.within_bind (Fallible.within_perform trivial) fun session => ?_
    split
    · trivial
    · refine Fallible.within_bind (Fallible.within_perform trivial) fun snapshot => ?_
      split
      · trivial
      · exact Fallible.within_bind (Fallible.within_perform trivial) fun _ => trivial

theorem drifted_plain (record : TaskRouteRecord) (concerned : Prop) [Decidable concerned] :
    (drifted record concerned).run.Within (plain v) := by
  rw [drifted]
  split
  · exact Fallible.within_bind (sourceBindingIsCurrent_plain record) fun _ => trivial
  · trivial

variable [FloatText] [Sha256] [Rmcp] [Chrono]

omit [FloatText] [Sha256] in
theorem finishTerminalWithin_plain (attempts : Nat) (current : TaskRouteRecord)
    {detailed : DetailedTask}
    (allowed : payloadState detailed.payload = some "not_dispatched" → v) :
    (finishTerminalWithin attempts current detailed).run.Within (plain v) := by
  induction attempts generalizing current detailed with
  | zero => trivial
  | succ attempts ih =>
    rw [finishTerminalWithin]
    split
    · trivial
    · refine Fallible.within_bind (transitionTime_plain _) fun time =>
        within_required fun cached serialized => ?_
      have verdict : Verdict (.terminal time cached) → v := fun verdict =>
        allowed (by rw [← verdict]; exact (executionState_detailed serialized).symm)
      exact Fallible.within_bind (update_plain _ verdict) fun next => ih next allowed

omit [Rmcp] in
/-- A rejection after the call is not a verdict. -/
theorem rejected_payload {record : TaskRouteRecord} {code : String} (verdict :
    payloadState (knownRejectionTask record code "completed").task.payload = some "not_dispatched") :
    v := by
  have same : some "completed" = some "not_dispatched" := verdict
  simp at same

theorem existingSubmission_plain (record : TaskRouteRecord) :
    (existingSubmission record).run.Within (plain v) := by
  rw [existingSubmission]
  split
  · exact Fallible.within_bind trivial fun _ => trivial
  all_goals trivial

theorem finishKnownRejection_plain (record : TaskRouteRecord) (code : String) :
    (finishKnownRejection record code).run.Within (plain v) :=
  Fallible.within_bind (finishTerminalWithin_plain _ _ rejected_payload) fun _ =>
    Fallible.within_bind trivial fun _ => trivial

theorem finishKnownRejectionResult_plain (record : TaskRouteRecord) (code : String) :
    (finishKnownRejectionResult record code).run.Within (plain v) :=
  Fallible.within_bind (finishTerminalWithin_plain _ _ rejected_payload) fun _ => trivial

theorem reconciled_plain (record : TaskRouteRecord) :
    (reconciled record).run.Within (plain v) :=
  Fallible.within_bind (markReconciliation_plain _ _) fun _ => trivial

theorem completed_plain (record : TaskRouteRecord) (result : CallToolResult) :
    (completed record result).run.Within (plain v) := by
  rw [completed]
  split
  · exact reconciled_plain record
  · refine Fallible.within_bind nowUnixMs_plain fun now => ?_
    split
    · exact finishKnownRejection_plain _ _
    · refine Fallible.within_bind trivial fun object => Fallible.within_bind trivial fun v => ?_
      split
      · exact finishKnownRejection_plain _ _
      · exact Fallible.within_bind (finishTerminalWithin_plain _ _ nofun) fun _ =>
          Fallible.within_bind trivial fun _ => trivial

omit [Rmcp] in
theorem cancelledAtBound_plain (record : TaskRouteRecord) (code : String) :
    (cancelledAtBound record code).run.Within (plain v) :=
  Fallible.within_bind (requestCancellation_plain _) fun _ => trivial

omit [FloatText] [Sha256] [Rmcp] [Chrono] in
theorem readmitted_plain (record : TaskRouteRecord) (upstreamId : UpstreamTaskId) :
    (readmitted record upstreamId).run.Within (plain v) := by
  rw [readmitted]
  split
  · exact Fallible.within_bind (transitionTime_plain _) fun _ => update_plain _ nofun
  · trivial

/-- What is taken over is a verdict only when the upstream says so. -/
theorem polled_plain (record : TaskRouteRecord) (upstreamId : UpstreamTaskId)
    {response : GetTaskResult}
    (allowed : payloadState response.task.payload = some "not_dispatched" → v) :
    (polled record upstreamId response).run.Within (plain v) := by
  rw [polled]
  split
  · exact Fallible.within_bind (markReconciliation_plain _ _) fun _ => trivial
  · refine Fallible.within_bind nowUnixMs_plain fun now => ?_
    split
    · split
      · exact finishKnownRejectionResult_plain _ _
      · exact cancelledAtBound_plain _ _
    · refine Fallible.within_bind trivial fun bytes => ?_
      split
      · exact cancelledAtBound_plain _ _
      · split
        · exact finishKnownRejectionResult_plain _ _
        · refine Fallible.within_bind (readmitted_plain _ _) fun active => ?_
          split
          · trivial
          · split
            · trivial
            · split
              · exact Fallible.within_bind (finishTerminalWithin_plain _ _ allowed) fun _ => trivial
              · trivial

omit [FloatText] [Sha256] [Rmcp] [Chrono] in
theorem updateTask_plain (taskId : String) (identity : AuthenticatedIdentity) :
    (updateTask taskId identity).run.Within (plain v) := by
  refine Fallible.within_bind trivial fun caller => Fallible.within_bind trivial fun publicId =>
    Fallible.within_bind (readTaskRoute_plain _ _) fun record =>
      Fallible.within_bind nowUnixMs_plain fun now => ?_
  split
  · trivial
  · split <;> trivial

omit [FloatText] [Sha256] [Rmcp] [Chrono] in
theorem cancelTask_plain (taskId : String) (identity : AuthenticatedIdentity) :
    (cancelTask taskId identity).run.Within (plain v) := by
  refine Fallible.within_bind trivial fun caller => Fallible.within_bind trivial fun publicId =>
    Fallible.within_bind (readTaskRoute_plain _ _) fun record =>
      Fallible.within_bind nowUnixMs_plain fun now => ?_
  split
  · trivial
  · split
    · trivial
    · refine Fallible.within_bind (persistCancellation_plain _ _) fun cancelling =>
        Fallible.within_bind (drifted_plain _ _) fun changed => ?_
      split
      · trivial
      · exact Fallible.within_bind (requestCancellation_plain _) fun _ => trivial

end TaskProxy

section
variable [FloatText] [Sha256]
variable {requests later : List ProxyRequest} {i : Nat}

theorem Reports.verdict {current r : TaskRouteRecord}
    {update : TaskRouteUpdate} (reports : Reports r)
    (step : TaskRouteRecord.Transitioned current update r) : Verdict update := by
  obtain ⟨phase,state⟩ := reports
  rw [routeExecutionState,phase] at state
  rw [Verdict,← step.cached]
  rcases said : r.cachedTerminalState.bind executionState with _ | text
  · rw [said] at state
    simp at state
  · rw [said] at state
    exact congrArg some state

omit [FloatText] [Sha256] in
/-- Requests are only added. -/
theorem Serves.more {r : TaskRouteRecord} (serves : Serves requests i r)
    (more : ∀ (j : Nat) request, requests[j]? = some request → later[j]? = some request) :
    Serves later i r := by
  obtain ⟨proxy,tool,arguments,submission,identity,task,served,rest⟩ := serves
  exact ⟨proxy,tool,arguments,submission,identity,task,more i _ served,rest⟩

theorem Reason.more {e : ProxyEvent} {past : List ProxyEvent} (reason : Reason requests e past)
    (more : ∀ (j : Nat) request, requests[j]? = some request → later[j]? = some request) :
    Reason later e past := by
  obtain ⟨j,op,reply⟩ := e
  cases op with
  | callTool source request session timeout =>
    obtain ⟨once,unjudged,claimed,licence,serves,named⟩ := reason
    exact ⟨once,unjudged,claimed,licence,serves.more more,named⟩
  | now => cases reply <;> exact reason
  | compareAndSetTaskRoute => rcases reply with _ | (_ | _) <;> exact reason
  | _ => exact reason

variable {σ : Type} [TaskRouteStorage σ] [ExactTaskRouteStorage σ] {w : ProxyWorld σ}

theorem Inv.started (inv : Inv w) (request : ProxyRequest) : Inv (w.started request) where
  history := by
    refine inv.history.weaken fun e past reason => Reason.more reason fun j other served => ?_
    exact (Permanent.request other).started w request served
  store := by
    obtain ⟨routes,consistent⟩ := inv.store
    exact ⟨routes,consistent.represents,consistent.origin,consistent.latest,consistent.removed,
      consistent.separate,consistent.clock,consistent.ids⟩

theorem Inv.drifted (inv : Inv w) {clock : Nat} (later : w.state.clock ≤ clock) :
    Inv (w.drifted { w.state with clock := clock }) where
  history := inv.history
  store := by
    obtain ⟨routes,consistent⟩ := inv.store
    exact ⟨routes,consistent.drift later⟩

/-- The invariant after one more event. -/
theorem Inv.next (inv : Inv w) {op : ProxyOp} {reply : op.Ret} {s : Shared σ}
    (reason : Reason w.requests ⟨i,op,reply⟩ w.trace)
    (store : ∃ routes, Consistent (w.after i op reply s) routes) : Inv (w.after i op reply s) :=
  ⟨⟨reason,inv.history⟩,store⟩

/-- An operation that does not concern the store. -/
theorem Inv.idle (inv : Inv w) {op : ProxyOp} {reply : op.Ret}
    (reason : Reason w.requests ⟨i,op,reply⟩ w.trace)
    (silent : written ⟨i,op,reply⟩ = none)
    (timeless : readTime ⟨i,op,reply⟩ = none) (undrawn : drawn ⟨i,op,reply⟩ = none) :
    Inv (w.after i op reply w.state) := by
  obtain ⟨routes,consistent⟩ := inv.store
  exact inv.next reason ⟨routes,consistent.idle silent (by rw [timeless]; nofun) undrawn⟩

theorem Inv.now (inv : Inv w) {reply : ProxyOp.now.Ret} {s : Shared σ}
    (acted : act .now w.state reply s) : s = w.state ∧
      (∀ now, reply = some now → now = w.state.clock) ∧ Inv (w.after i .now reply w.state) := by
  obtain ⟨routes,consistent⟩ := inv.store
  obtain ⟨same,time,after⟩ := consistent.now (i := i) acted
  refine ⟨same,time,inv.next ?_ ⟨routes,after⟩⟩
  rcases reply with _ | now
  · trivial
  · change Separate w.trace now
    rw [time now rfl]
    exact consistent.separate

theorem Inv.compareAndSet (inv : Inv w) {caller : TaskRouteCaller} {id : PublicTaskId}
    {version : Nat} {update : TaskRouteUpdate} {s : Shared σ}
    {reply : (ProxyOp.compareAndSetTaskRoute caller id version update).Ret}
    (acted : act (.compareAndSetTaskRoute caller id version update) w.state reply s)
    (verdict : Verdict update → Misled i w.trace ∨ version = 0 ∨
      Unsent i w.trace ∧ ∃ e ∈ w.trace, e.thread = i ∧ ∃ claimed, written e = some claimed ∧
        claimed.phase = .dispatching ∧ claimed.publicTaskId = id) :
    Inv (w.after i (.compareAndSetTaskRoute caller id version update) reply s) ∧
      ∀ r, reply = .ok (some r) → Committed i id version update r w.trace := by
  obtain ⟨routes,consistent⟩ := inv.store
  obtain ⟨store,moved⟩ := consistent.compareAndSet (i := i) acted
  have committed : ∀ r, reply = .ok (some r) → Committed i id version update r w.trace := by
    intro r same
    obtain ⟨current,before,named,fresh,step,led⟩ := moved r same
    exact ⟨⟨current,before,named,fresh,step,led⟩,fun reports => verdict (reports.verdict step)⟩
  refine ⟨inv.next ?_ store,committed⟩
  rcases reply with error | result
  · trivial
  · cases result with
    | none => trivial
    | some r => exact committed r rfl

end

section
variable [FloatText] [Sha256] [Rmcp] [Chrono]
variable {σ : Type} [TaskRouteStorage σ] [ExactTaskRouteStorage σ]
variable {v : Prop} {i : Nat} {fact other : ProxyWorld σ → Prop}

/-- Neither other threads nor plain operations of thread `i` undo the fact. -/
structure Quiet (verdicts : Prop) (i : Nat) (fact : ProxyWorld σ → Prop) : Prop where
  stable : Stable (proxySystem σ) Inv i fact
  kept : ∀ w op reply s, op ∈ plain verdicts → fact w → fact (w.after i op reply s)

theorem Quiet.permanent (permanent : Permanent fact) : Quiet v i fact :=
  ⟨permanent.stable,fun w op reply s _ holds => permanent.after w i op reply s holds⟩

theorem Quiet.and (first : Quiet v i fact) (second : Quiet v i other) :
    Quiet v i fun w => fact w ∧ other w :=
  ⟨first.stable.and second.stable,fun w op reply s member holds =>
    ⟨first.kept w op reply s member holds.1,second.kept w op reply s member holds.2⟩⟩

/-- What is known of each event of the thread, and holds of all plain ones. -/
theorem Quiet.owned {known : ProxyEvent → Prop} (free : ∀ e : ProxyEvent, e.op ∈ plain v → known e) :
    Quiet v i fun w : ProxyWorld σ => ∀ e ∈ w.trace, e.thread = i → known e := by
  refine ⟨Stable.owned fun e => Permanent.const (known e),fun w op reply s member holds e mem own => ?_⟩
  rcases List.mem_cons.mp mem with rfl | old
  · exact free _ member
  · exact holds e old own

omit [Rmcp] [Chrono] in
/-- A plain operation keeps the invariant. -/
theorem Inv.plain {w : ProxyWorld σ} (inv : Inv w) {op : ProxyOp} {reply : op.Ret} {s : Shared σ}
    (member : op ∈ plain v) (misled : v → Misled i w.trace)
    (acted : act op w.state reply s) : Inv (w.after i op reply s) := by
  obtain ⟨routes,consistent⟩ := inv.store
  cases op with
  | now =>
    obtain ⟨rfl,-,after⟩ := inv.now (i := i) acted
    exact after
  | compareAndSetTaskRoute caller id version update =>
    exact (inv.compareAndSet acted fun verdict => .inl (misled (member verdict))).1
  | findTaskRoute caller key =>
    obtain ⟨rfl,-⟩ := consistent.find acted
    exact inv.idle trivial rfl rfl rfl
  | getTaskRoute caller id =>
    obtain ⟨rfl,-⟩ := consistent.get acted
    exact inv.idle trivial rfl rfl rfl
  | sourceSnapshotDigest | sourceSessionId | sourceConfigurationDigest | cancelTask =>
    cases acted
    exact inv.idle trivial rfl rfl rfl
  | getTask =>
    cases acted
    exact inv.idle trivial rfl rfl rfl
  | randomTaskId | beginOrExisting | purgeExpiredTaskRoutes | callTool => exact member.elim

theorem Quiet.moves (quiet : Quiet v i fact)
    (misled : v → ∀ w, fact w → Misled i w.trace) {op : ProxyOp}
    (member : op ∈ plain v) : Moves (proxySystem σ) Inv i fact op fun _ => fact :=
  fun w reply s inv holds acted => ⟨inv.plain member (fun verdict => misled verdict w holds) acted,
    quiet.kept w op reply s member holds⟩

/-- A plain program keeps what its thread knows. -/
theorem Quiet.runs (quiet : Quiet v i fact)
    (misled : v → ∀ w, fact w → Misled i w.trace) {p : Proxy α}
    (within : p.run.Within (plain v)) :
    Interleaving.Runs (proxySystem σ) Inv i fact p (fun _ => fact) fact :=
  Interleaving.Runs.frame within quiet.stable fun _ member => quiet.moves misled member

theorem Quiet.plain (quiet : Quiet False i fact) {p : Proxy α}
    (within : p.run.Within (plain False)) :
    Interleaving.Runs (proxySystem σ) Inv i fact p (fun _ => fact) fact :=
  quiet.runs False.elim within

end
end GaugeMesh
