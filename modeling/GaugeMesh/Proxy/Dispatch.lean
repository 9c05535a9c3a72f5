import GaugeMesh.Proxy.Threads

/-! Claim, call and verdict of one thread. It calls only for a route it has claimed, in time
and once; it judges a route only while it has sent nothing; and it settles what it called. -/
namespace GaugeMesh
open Json Interleaving ProxySystem

section Traces

/-- The thread made the record durable. -/
def Claimed (i : Nat) (record : TaskRouteRecord) (trace : List ProxyEvent) : Prop :=
  ∃ e ∈ trace, e.thread = i ∧ written e = some record

theorem Claimed.written {i : Nat} {record : TaskRouteRecord} {trace : List ProxyEvent}
    (claimed : Claimed i record trace) : Written record trace := by
  obtain ⟨e,member,-,wrote⟩ := claimed
  exact ⟨e,member,wrote⟩

/-- The thread read the time when something was known. -/
def ReadAt (i now : Nat) (known : List ProxyEvent → Prop) (trace : List ProxyEvent) : Prop :=
  ∃ earlier, (⟨i,.now,some now⟩ : ProxyEvent) :: earlier <:+ trace ∧ known earlier

theorem accounted_uncalled {e : ProxyEvent} {trace : List ProxyEvent} (uncalled : called e = none) :
    Accounted trace e := by
  obtain ⟨i,op,reply⟩ := e
  cases op with
  | callTool => cases uncalled
  | _ => trivial

end Traces

section
variable {σ : Type} {i : Nat}

theorem Claimed.permanent (record : TaskRouteRecord) :
    Permanent fun w : ProxyWorld σ => Claimed i record w.trace := Permanent.past _

theorem ReadAt.permanent (now : Nat) (known : List ProxyEvent → Prop) :
    Permanent fun w : ProxyWorld σ => ReadAt i now known w.trace :=
  ⟨fun w _ _ _ _ ⟨earlier,read,holds⟩ => ⟨earlier,read.trans (List.suffix_cons _ w.trace),holds⟩,
    fun _ _ holds => holds,fun _ _ holds => holds⟩

theorem Serves.permanent (record : TaskRouteRecord) :
    Permanent fun w : ProxyWorld σ => Serves w.requests i record :=
  Permanent.exists fun proxy => Permanent.exists fun tool => Permanent.exists fun arguments =>
    Permanent.exists fun submission => Permanent.exists fun identity => Permanent.exists fun _ =>
      (Permanent.request (ProxyRequest.submit proxy tool arguments submission identity)).and (Permanent.const _)

theorem Accounted.permanent (e : ProxyEvent) :
    Permanent fun w : ProxyWorld σ => Accounted w.trace e := by
  obtain ⟨j,op,reply⟩ := e
  cases op with
  | callTool source request session timeout =>
    rcases reply with _ | _ | response
    · exact Permanent.const True
    · exact Permanent.const True
    · cases response with
      | task created =>
        exact Permanent.forall fun id => Permanent.forall fun _ =>
          (CancelAttempted.permanent _ _ _).or (Permanent.exists fun r =>
            (Written.permanent r).and (Permanent.const _))
      | _ => exact Permanent.const True
  | _ => exact Permanent.const True

/-- Every task that was acknowledged to the thread is accounted for. -/
def Settled (i : Nat) (w : ProxyWorld σ) : Prop := ∀ e ∈ w.trace, e.thread = i → Accounted w.trace e

theorem Settled.unsent {w : ProxyWorld σ} (unsent : Unsent i w.trace) : Settled i w :=
  fun e member own => accounted_uncalled (unsent e member own)

theorem Unsent.quietly {w : ProxyWorld σ} (own : Own i Quietly w) : Unsent i w.trace :=
  fun e member mine => (own e member mine).1

variable [FloatText] [Sha256] [Rmcp] [Chrono] [TaskRouteStorage σ] [ExactTaskRouteStorage σ]
  {v : Prop} {fact : ProxyWorld σ → Prop}

theorem settled_quiet : Quiet v i (Settled i : ProxyWorld σ → Prop) := by
  refine ⟨Stable.owned Accounted.permanent,fun w op reply s member holds e mem own => ?_⟩
  rcases List.mem_cons.mp mem with rfl | old
  · exact accounted_uncalled (plain_uncalled _ member)
  · exact (Accounted.permanent e).after w i op reply s (holds e old own)

theorem nowUnixMs_runs (known : List ProxyEvent → Prop) (quiet : Quiet False i fact)
    (knows : ∀ w, fact w → known w.trace) :
    Interleaving.Runs (proxySystem σ) Inv i fact TaskProxy.nowUnixMs
      (fun now w => ReadAt i now known w.trace ∧ fact w) fact := by
  have read : ∀ reply : Option Nat, Permanent fun w : ProxyWorld σ =>
      ∀ now, reply = some now → ReadAt i now known w.trace :=
    fun reply => Permanent.forall fun now => Permanent.forall fun _ => ReadAt.permanent now known
  have asked : Interleaving.Runs (proxySystem σ) Inv i fact (TaskProxy.ask .now)
      (fun reply w => (∀ now, reply = some now → ReadAt i now known w.trace) ∧ fact w) fact := by
    refine Interleaving.Runs.perform quiet.stable ?_ fun reply => (read reply).stable.and quiet.stable
    intro w reply s inv holds acted
    refine ⟨inv.plain (v := False) trivial False.elim acted,?_,
      quiet.kept w .now reply s trivial holds⟩
    rintro now rfl
    exact ⟨w.trace,List.suffix_rfl,knows w holds⟩
  refine Interleaving.Runs.bind asked fun reply => ?_
  refine (required_runs ((Quiet.permanent (read reply)).and quiet)).weaken
    (fun now w _ holds => ?_) fun _ _ holds => holds.2
  exact ⟨holds.2.1 now holds.1,holds.2.2⟩

/-- A route that nobody has claimed, or the thread itself without sending the call. -/
def Undispatched (i : Nat) (record : TaskRouteRecord) (w : ProxyWorld σ) : Prop :=
  Written record w.trace ∧
    (record.phase = .prepared ∨ record.phase = .dispatching ∧ Claimed i record w.trace) ∧
    Unsent i w.trace

theorem Undispatched.quiet (record : TaskRouteRecord) :
    Quiet v i (Undispatched i record : ProxyWorld σ → Prop) :=
  (Quiet.permanent (Written.permanent record)).and <| (Quiet.permanent <| (Permanent.const _).or <|
    (Permanent.const _).and (Claimed.permanent record)).and unsent_quiet

theorem finishNonDispatchOnce_runs (record : TaskRouteRecord) (code : String) :
    Interleaving.Runs (proxySystem σ) Inv i (Undispatched i record) (TaskProxy.finishNonDispatchOnce record code)
      (fun _ w => Unsent i w.trace) fun w => Unsent i w.trace := by
  have idle : Quiet False i (Undispatched i record : ProxyWorld σ → Prop) := Undispatched.quiet record
  rw [TaskProxy.finishNonDispatchOnce]
  refine Interleaving.Runs.bind ((idle.plain (TaskProxy.transitionTime_plain record)).weaken
    (fun _ _ _ holds => holds) fun _ _ holds => holds.2.2) fun time => ?_
  refine Interleaving.Runs.bind ((required_runs idle).weaken (fun _ _ _ holds => holds.2)
    fun _ _ holds => holds.2.2) fun cached => ?_
  have moves : Moves (proxySystem σ) Inv i (Undispatched i record)
      (.compareAndSetTaskRoute record.caller record.publicTaskId record.transitionVersion
        (.terminal time cached)) fun _ w => Unsent i w.trace := by
    intro w reply s inv holds acted
    obtain ⟨known,unclaimed,unsent⟩ := holds
    refine ⟨(inv.compareAndSet acted fun _ => .inr ?_).1,?_⟩
    · rcases unclaimed with prepared | ⟨dispatching,e,member,own,wrote⟩
      · exact .inl ((written_prepared inv.history known).2.mp prepared)
      · exact .inr ⟨unsent,e,member,own,record,wrote,dispatching,rfl⟩
    · exact (unsent_quiet (v := True)).kept w _ reply s (fun _ => trivial) unsent
  refine Interleaving.Runs.bind (Interleaving.Runs.perform idle.stable moves
    fun _ => (unsent_quiet (v := False)).stable) fun reply => ?_
  refine unsent_quiet.plain ?_
  split
  · trivial
  · trivial
  · exact TaskProxy.readTaskRoute_plain _ _
  · trivial

theorem finishKnownNonDispatch_runs (record : TaskRouteRecord) (code : String) :
    Interleaving.Runs (proxySystem σ) Inv i (Undispatched i record)
      (TaskProxy.finishKnownNonDispatch record code)
      (fun _ w => Unsent i w.trace) fun w => Unsent i w.trace :=
  Interleaving.Runs.bind (finishNonDispatchOnce_runs record code) fun current =>
    unsent_quiet.plain (TaskProxy.existingSubmission_plain current)

theorem finishKnownNonDispatchResult_runs (record : TaskRouteRecord) (code : String) :
    Interleaving.Runs (proxySystem σ) Inv i (Undispatched i record)
      (TaskProxy.finishKnownNonDispatchResult record code)
      (fun _ w => Unsent i w.trace) fun w => Unsent i w.trace := by
  refine Interleaving.Runs.bind (finishNonDispatchOnce_runs record code) fun current => unsent_quiet.plain ?_
  split <;> trivial

/-- Everything the call answered is taken care of. -/
theorem settle_runs {tool : FederatedTool} {request : CallToolRequestParams}
    {record : TaskRouteRecord} (timeout : Nat) (source : record.capabilitySource = tool.identity.source)
    (named : request.publicTaskId = some record.publicTaskId.text)
    (reply : UpstreamReply CallToolResponse) :
    Interleaving.Runs (proxySystem σ) Inv i (fun w => Written record w.trace ∧ Own i (fun e => called e = none ∨
        e = ⟨i,.callTool tool.identity.source request record.upstreamSessionId timeout,reply⟩) w)
      (TaskProxy.settle record reply) (fun _ => Settled i) (Settled i) := by
  have own : Quiet False i (Own i (fun e => called e = none ∨
      e = ⟨i,.callTool tool.identity.source request record.upstreamSessionId timeout,reply⟩) :
        ProxyWorld σ → Prop) := Own.quiet fun e member => .inl (plain_uncalled e member)
  have settled : ∀ w : ProxyWorld σ, Own i (fun e => called e = none ∨
      e = ⟨i,.callTool tool.identity.source request record.upstreamSessionId timeout,reply⟩) w →
      Accounted w.trace
        ⟨i,.callTool tool.identity.source request record.upstreamSessionId timeout,reply⟩ →
      Settled i w := by
    intro w known accounted e member mine
    rcases known e member mine with uncalled | rfl
    · exact accounted_uncalled uncalled
    · exact accounted
  have unanswered : (∀ trace, Accounted trace
      ⟨i,.callTool tool.identity.source request record.upstreamSessionId timeout,reply⟩) →
      ∀ p : Proxy CallToolResponse, p.run.Within (plain False) → Interleaving.Runs (proxySystem σ) Inv i
        (fun w => Written record w.trace ∧ Own i (fun e => called e = none ∨
          e = ⟨i,.callTool tool.identity.source request record.upstreamSessionId timeout,reply⟩) w)
        p (fun _ => Settled i) (Settled i) := by
    intro accounted p within
    exact ((own.plain within).weaken (fun _ w _ holds => settled w holds (accounted w.trace))
      fun w _ holds => settled w holds (accounted w.trace)).strengthen fun _ _ holds => holds.2
  rcases reply with _ | _ | response
  · exact unanswered (fun _ => trivial) _ (TaskProxy.reconciled_plain record)
  · exact unanswered (fun _ => trivial) _ (TaskProxy.reconciled_plain record)
  · cases response with
    | complete result =>
      exact unanswered (fun _ => trivial) _ (TaskProxy.completed_plain record result)
    | inputRequired => exact unanswered (fun _ => trivial) _ (TaskProxy.reconciled_plain record)
    | other => exact unanswered (fun _ => trivial) _ (TaskProxy.reconciled_plain record)
    | task created =>
      rcases valid : UpstreamTaskId.new created.task.taskId with error | id
      · refine unanswered (fun trace id made => ?_) _ ?_
        · rw [valid] at made
          cases made
        · rw [TaskProxy.settle,TaskProxy.acknowledged,valid]
          refine Fallible.within_bind ?_ fun _ => TaskProxy.reconciled_plain record
          rw [TaskProxy.cancelRawUpstream]
          split
          · trivial
          · exact Fallible.within_perform trivial
      · have kept : ∀ w : ProxyWorld σ, Kept record id w → Accounted w.trace
            ⟨i,.callTool tool.identity.source request record.upstreamSessionId timeout,
              .ok (.task created)⟩ := by
          intro w kept other made
          rw [valid] at made
          cases made
          rw [named,← source]
          exact kept
        exact (acknowledged_runs own valid).weaken
          (fun _ w _ holds => settled w holds.2 (kept w holds.1))
          fun w _ holds => settled w holds.2 (kept w holds.1)

/-- The thread has claimed the route of the submission it serves and sent nothing so far. -/
def Ready (i : Nat) (record : TaskRouteRecord) (w : ProxyWorld σ) : Prop :=
  Claimed i record w.trace ∧ Own i Quietly w ∧ Serves w.requests i record

theorem Ready.quiet (record : TaskRouteRecord) : Quiet False i (Ready i record : ProxyWorld σ → Prop) :=
  (Quiet.permanent (Claimed.permanent record)).and
    (quietly_quiet.and (Quiet.permanent (Serves.permanent record)))

theorem dispatch_runs {tool : FederatedTool} {arguments : JsonObject} {record : TaskRouteRecord}
    (phase : record.phase = .dispatching) (source : record.capabilitySource = tool.identity.source) :
    Interleaving.Runs (proxySystem σ) Inv i (Ready i record) (TaskProxy.dispatch tool arguments record)
      (fun _ => Settled i) (Settled i) := by
  have ready : Quiet False i (Ready i record : ProxyWorld σ → Prop) := Ready.quiet record
  have idle : ∀ w : ProxyWorld σ, Ready i record w → Settled i w :=
    fun w holds => Settled.unsent (Unsent.quietly holds.2.1)
  rw [TaskProxy.dispatch]
  refine Interleaving.Runs.bind ((nowUnixMs_runs (Claimed i record) ready fun w holds => holds.1).weaken
    (fun _ _ _ holds => holds) fun w _ holds => idle w holds) fun now => ?_
  dsimp only
  split
  · refine ((finishKnownNonDispatch_runs record _).weaken (fun _ w _ holds => Settled.unsent holds)
      fun w _ holds => Settled.unsent holds).strengthen fun w _ holds => ?_
    exact ⟨holds.2.1.written,.inr ⟨phase,holds.2.1⟩,Unsent.quietly holds.2.2.1⟩
  · next left =>
    have timely : now < record.executionCutoff := by
      by_contra late
      exact left (by simp [Nat.sub_eq_zero_of_le (not_lt.mp late)])
    refine Interleaving.Runs.bind (Interleaving.Runs.perform
      (((ReadAt.permanent now (Claimed i record)).stable).and ready.stable)
      (fun w reply s inv holds acted => ?_) fun reply => ?_) fun reply =>
        settle_runs (min (record.executionCutoff - now) maxTaskRuntimeMs) source (publicTaskId_envelope tool.nativeName arguments record) reply
    · obtain ⟨⟨earlier,read,known⟩,claimed,quietly,serves⟩ := holds
      cases acted
      refine ⟨inv.idle ?_ rfl rfl rfl,?_,?_⟩
      · exact ⟨Unsent.quietly quietly,fun e member own => (quietly e member own).2,
          record,⟨now,earlier,read,timely,phase,known⟩,serves,
            publicTaskId_envelope tool.nativeName arguments record⟩
      · exact (Written.permanent record).after w _ _ _ _ claimed.written
      · intro e member own
        rcases List.mem_cons.mp member with rfl | old
        · exact .inr rfl
        · exact .inl (quietly e old own).1
    · exact (Written.permanent record).stable.and (Stable.owned fun e => Permanent.const _)

/-- Who claims a route has made it durable, and it is in nobody else's hands. -/
theorem claimDispatch_runs (proxy : TaskProxy) (record : TaskRouteRecord) (quiet : Quiet False i fact) :
    Interleaving.Runs (proxySystem σ) Inv i (fun w => Written record w.trace ∧ fact w)
      (TaskProxy.claimDispatch proxy record)
      (fun claimed w => (∀ r, claimed = some r → record.SameRoute r ∧ r.phase = .dispatching ∧
        Claimed i r w.trace) ∧ fact w) fact := by
  have known := (Quiet.permanent (Written.permanent record)).and quiet
  rw [TaskProxy.claimDispatch]
  refine Interleaving.Runs.bind ((known.plain (TaskProxy.transitionTime_plain record)).weaken
    (fun _ _ _ holds => holds) fun _ _ holds => holds.2) fun time => ?_
  refine Interleaving.Runs.bind (compareAndSet_runs quiet nofun)
    fun reply => ?_
  have moved : Quiet False i fun w => Moved i record (.dispatching proxy.instanceId time) w reply ∧
      fact w := (Quiet.permanent (Moved.permanent record _ reply)).and quiet
  rcases reply with error | (_ | r)
  · cases error with
    | staleTransition =>
      exact Interleaving.Runs.pure moved.stable fun w _ holds => ⟨fun r same => (by cases same),holds.2⟩
    | _ => exact Interleaving.Runs.throw moved.stable fun _ _ holds => holds.2
  · exact Interleaving.Runs.throw moved.stable fun _ _ holds => holds.2
  · refine Interleaving.Runs.pure moved.stable fun w _ holds => ⟨fun next same => ?_,holds.2⟩
    cases same
    obtain ⟨step,claimed⟩ := holds.1
    exact ⟨step.sameRoute,step.phase,claimed⟩

end
end GaugeMesh
