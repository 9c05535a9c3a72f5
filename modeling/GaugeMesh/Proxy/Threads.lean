import GaugeMesh.Proxy.Plain

/-! What a thread knows where a proxy needs a reason: the verdict on a route that nobody
claimed, the claim of a route, its one call, and what becomes of the answer. -/
namespace GaugeMesh
open Json Interleaving ProxySystem

/-- The task an operation asked its upstream to cancel. -/
def cancelled : ProxyEvent → Option (SourceId × String × String)
  | ⟨_,.cancelTask source taskId session,_⟩ => some (source,taskId,session)
  | _ => none

def CancelAttempted (source : SourceId) (id : UpstreamTaskId) (session : String)
    (trace : List ProxyEvent) : Prop :=
  ∃ e ∈ trace, cancelled e = some (source,id.text,session)

/-- The id was durably bound to the route, by a record that is not cancelled. -/
def RoutedTo (publicTaskId : Option String) (id : UpstreamTaskId) (trace : List ProxyEvent) : Prop :=
  ∃ r, Written r trace ∧ publicTaskId = some r.publicTaskId.text ∧ r.phase = .routed ∧
    r.upstreamTaskId = some id

/-- A task that was acknowledged with a valid id is bound to its route, or a cancel request
for it was sent. -/
def Accounted (trace : List ProxyEvent) : ProxyEvent → Prop
  | ⟨_,.callTool source request session _,.ok (.task created)⟩ =>
      ∀ id, UpstreamTaskId.new created.task.taskId = .ok id →
        CancelAttempted source id session trace ∨ RoutedTo request.publicTaskId id trace
  | _ => True

section
variable {σ : Type} {i : Nat}

/-- What is known of each event of the thread. -/
def Own (i : Nat) (known : ProxyEvent → Prop) (w : ProxyWorld σ) : Prop :=
  ∀ e ∈ w.trace, e.thread = i → known e

theorem Own.weaken {known wider : ProxyEvent → Prop} {w : ProxyWorld σ} (own : Own i known w)
    (implies : ∀ e, known e → wider e) : Own i wider w :=
  fun e member mine => implies e (own e member mine)

/-- No call was sent and no verdict attempted. -/
def Quietly (e : ProxyEvent) : Prop := called e = none ∧ ¬judges e

theorem plain_uncalled {v : Prop} (e : ProxyEvent) (member : e.op ∈ plain v) :
    called e = none := by
  obtain ⟨i,op,reply⟩ := e
  cases op with
  | callTool => exact member.elim
  | _ => rfl

theorem plain_quietly (e : ProxyEvent) (member : e.op ∈ plain False) : Quietly e := by
  refine ⟨plain_uncalled e member,?_⟩
  obtain ⟨i,op,reply⟩ := e
  cases op with
  | compareAndSetTaskRoute => exact member
  | _ => exact id

theorem Written.permanent (r : TaskRouteRecord) :
    Permanent fun w : ProxyWorld σ => Written r w.trace := Permanent.past _

theorem Misled.permanent : Permanent fun w : ProxyWorld σ => Misled i w.trace :=
  Permanent.past fun e => e.thread = i ∧ forges e

theorem CancelAttempted.permanent (source : SourceId) (id : UpstreamTaskId) (session : String) :
    Permanent fun w : ProxyWorld σ => CancelAttempted source id session w.trace := Permanent.past _

variable [FloatText] [Sha256] [Rmcp] [Chrono] [TaskRouteStorage σ] [ExactTaskRouteStorage σ]

theorem Own.quiet {v : Prop} {known : ProxyEvent → Prop}
    (free : ∀ e : ProxyEvent, e.op ∈ plain v → known e) :
    Quiet v i (Own i known : ProxyWorld σ → Prop) := .owned free

theorem quietly_quiet : Quiet False i (Own i Quietly : ProxyWorld σ → Prop) :=
  Own.quiet plain_quietly

theorem unsent_quiet {v : Prop} :
    Quiet v i fun w : ProxyWorld σ => Unsent i w.trace := Own.quiet plain_uncalled

variable {fact failed : ProxyWorld σ → Prop} {v : Prop}

theorem orElse_runs {result : Except ε α} {convert : ε → McpError} (quiet : Quiet v i fact) :
    Interleaving.Runs (proxySystem σ) Inv i fact (TaskProxy.orElse result convert)
      (fun a w => result = .ok a ∧ fact w) fact := by
  refine (Interleaving.Runs.ofExcept quiet.stable).weaken (fun a _ _ holds => ⟨?_,holds.2⟩) fun _ _ holds => holds
  rcases result with e | b
  · cases holds.1
  · rw [Except.ok.inj holds.1]

theorem required_runs {value : Option α} {error : McpError} (quiet : Quiet v i fact) :
    Interleaving.Runs (proxySystem σ) Inv i fact (TaskProxy.required value error)
      (fun a w => value = some a ∧ fact w) fact :=
  (Interleaving.Runs.ofExcept quiet.stable).weaken
    (fun a _ _ holds => ⟨(okOr_ok value error a).mp holds.1,holds.2⟩) fun _ _ holds => holds

omit [Rmcp] [Chrono] in
/-- A compare-and-set from a record the thread has read moves just that record. -/
theorem Committed.read {record r : TaskRouteRecord} {update : TaskRouteUpdate} {trace : List ProxyEvent}
    (committed : Committed i record.publicTaskId record.transitionVersion update r trace)
    (read : Written record trace) : TaskRouteRecord.Transitioned record update r := by
  obtain ⟨current,-,-,version,step,led⟩ := committed.moved
  rw [← (led record read rfl).unmoved (by omega)]
  exact step

/-- What a compare-and-set from a record comes back with. -/
def Moved (i : Nat) (record : TaskRouteRecord) (update : TaskRouteUpdate) (w : ProxyWorld σ) :
    Except TaskRouteStorageError (Option TaskRouteRecord) → Prop
  | .ok (some r) => TaskRouteRecord.Transitioned record update r ∧
      ∃ e ∈ w.trace, e.thread = i ∧ written e = some r
  | _ => True

omit [Rmcp] [Chrono] [TaskRouteStorage σ] [ExactTaskRouteStorage σ] in
theorem Moved.permanent (record : TaskRouteRecord) (update : TaskRouteUpdate)
    (reply : Except TaskRouteStorageError (Option TaskRouteRecord)) :
    Permanent fun w : ProxyWorld σ => Moved i record update w reply := by
  rcases reply with error | (_ | r)
  · exact Permanent.const True
  · exact Permanent.const True
  · exact (Permanent.const _).and (Permanent.past _)

theorem compareAndSet_runs {record : TaskRouteRecord} {update : TaskRouteUpdate}
    (quiet : Quiet False i fact) (harmless : ¬Verdict update) :
    Interleaving.Runs (proxySystem σ) Inv i (fun w => Written record w.trace ∧ fact w)
      (TaskProxy.ask (.compareAndSetTaskRoute record.caller record.publicTaskId
        record.transitionVersion update))
      (fun reply w => Moved i record update w reply ∧ fact w) fact := by
  refine Interleaving.Runs.perform ((Written.permanent record).stable.and quiet.stable) ?_ fun reply =>
    ((Moved.permanent record update reply).stable.and quiet.stable)
  intro w reply s inv holds acted
  obtain ⟨after,committed⟩ := inv.compareAndSet (i := i) acted fun verdict => absurd verdict harmless
  refine ⟨after,?_,quiet.kept w _ reply s (fun verdict => harmless verdict) holds.2⟩
  rcases reply with error | (_ | r)
  · trivial
  · trivial
  · exact ⟨(committed r rfl).read holds.1,_,List.mem_cons_self,rfl,rfl⟩

/-- A record that was read for its caller. -/
def Read (caller : TaskRouteCaller) (publicTaskId : PublicTaskId) (r : TaskRouteRecord)
    (w : ProxyWorld σ) : Prop :=
  Written r w.trace ∧ r.publicTaskId = publicTaskId ∧ r.caller = caller

omit [FloatText] [Sha256] [Rmcp] [Chrono] [TaskRouteStorage σ] [ExactTaskRouteStorage σ] in
theorem Read.permanent (caller : TaskRouteCaller) (publicTaskId : PublicTaskId)
    (r : TaskRouteRecord) : Permanent (Read caller publicTaskId r : ProxyWorld σ → Prop) :=
  (Written.permanent r).and (Permanent.const _)

theorem readTaskRoute_runs {caller : TaskRouteCaller} {publicTaskId : PublicTaskId}
    (quiet : Quiet v i fact) :
    Interleaving.Runs (proxySystem σ) Inv i fact (TaskProxy.readTaskRoute caller publicTaskId)
      (fun r w => Read caller publicTaskId r w ∧ fact w) fact := by
  have known : ∀ reply : Except TaskRouteStorageError (Option TaskRouteRecord),
      Permanent fun w : ProxyWorld σ => ∀ r, reply = .ok (some r) → Read caller publicTaskId r w :=
    fun reply => Permanent.forall fun r => Permanent.forall fun _ => Read.permanent caller publicTaskId r
  have asked : Interleaving.Runs (proxySystem σ) Inv i fact (TaskProxy.ask (.getTaskRoute caller publicTaskId))
      (fun reply w => (∀ r, reply = .ok (some r) → Read caller publicTaskId r w) ∧ fact w) fact := by
    refine Interleaving.Runs.perform quiet.stable ?_ fun reply => (known reply).stable.and quiet.stable
    intro w reply s inv holds acted
    obtain ⟨routes,consistent⟩ := inv.store
    obtain ⟨rfl,read⟩ := consistent.get acted
    have after : Inv (w.after i (.getTaskRoute caller publicTaskId) reply w.state) :=
      inv.idle trivial rfl rfl rfl
    exact ⟨after,fun r same => (Read.permanent caller publicTaskId r).after _ _ _ _ _ (read r same),
      quiet.kept w _ reply _ trivial holds⟩
  refine Interleaving.Runs.bind asked fun reply => ?_
  have replied := (Quiet.permanent (known reply)).and quiet
  refine Interleaving.Runs.bind ((orElse_runs replied).weaken (fun _ _ _ holds => holds) fun _ _ holds => holds.2)
    fun found => Interleaving.Runs.assuming fun same => ?_
  refine (required_runs replied).weaken (fun r w _ holds => ?_) fun _ _ holds => holds.2
  obtain ⟨there,read,kept⟩ := holds
  exact ⟨read r (by rw [same,there]),kept⟩

/-- What binding an acknowledged id comes back with. -/
structure Bound (record : TaskRouteRecord) (id : UpstreamTaskId) (result : TaskRouteRecord × Bool)
    (w : ProxyWorld σ) : Prop where
  written : Written result.1 w.trace
  route : result.1.publicTaskId = record.publicTaskId
  bound : result.1.upstreamTaskId = some id → result.2 = decide (result.1.phase = .cancelRequested)
  unbound : result.1.upstreamTaskId ≠ some id → result.2 = true

theorem bindUpstream_runs (record : TaskRouteRecord) (id : UpstreamTaskId)
    (quiet : Quiet False i fact) (attempts : Nat) (current : TaskRouteRecord)
    (route : current.publicTaskId = record.publicTaskId) :
    Interleaving.Runs (proxySystem σ) Inv i (fun w => Written current w.trace ∧ fact w)
      (TaskProxy.bindUpstream record id attempts current)
      (fun result w => Bound record id result w ∧ fact w) fact := by
  have known := (Quiet.permanent (Written.permanent current)).and quiet
  induction attempts generalizing current with
  | zero => exact Interleaving.Runs.throw known.stable fun _ _ holds => holds.2
  | succ attempts ih =>
    rw [TaskProxy.bindUpstream]
    split
    · next held =>
      refine Interleaving.Runs.pure known.stable fun w _ holds => ⟨⟨holds.1,route,fun _ => rfl,?_⟩,holds.2⟩
      exact fun other => absurd held other
    · next other =>
      split
      · exact Interleaving.Runs.pure known.stable fun w _ holds =>
          ⟨⟨holds.1,route,fun held => absurd held other,fun _ => rfl⟩,holds.2⟩
      · next open' =>
        split
        · exact Interleaving.Runs.pure known.stable fun w _ holds =>
            ⟨⟨holds.1,route,fun held => absurd held other,fun _ => rfl⟩,holds.2⟩
        · split
          · exact Interleaving.Runs.throw known.stable fun _ _ holds => holds.2
          · refine Interleaving.Runs.bind ((known.plain (TaskProxy.transitionTime_plain current)).weaken
              (fun _ _ _ holds => holds) fun _ _ holds => holds.2) fun time => ?_
            have unbound : current.upstreamTaskId = none := by
              by_contra some
              exact open' (.inl (Option.isSome_iff_ne_none.mpr some))
            generalize change : (if current.phase = .cancelRequested then
              TaskRouteUpdate.cancelRequestedWithUpstream id time else .routed id time) = update
            have assigns : update.upstreamTaskId = some id ∧ update.cachedTerminalState = none := by
              rw [← change]
              split <;> exact ⟨rfl,rfl⟩
            have harmless : ¬Verdict update := by
              rw [Verdict,assigns.2]
              simp
            refine Interleaving.Runs.bind (compareAndSet_runs quiet harmless) fun reply => ?_
            have moved : Quiet False i fun w => Moved i current update w reply ∧ fact w :=
              (Quiet.permanent (Moved.permanent current update reply)).and quiet
            rcases reply with error | (_ | next)
            · cases error with
              | staleTransition =>
                refine Interleaving.Runs.bind ((readTaskRoute_runs moved).weaken
                  (fun _ _ _ holds => holds) fun _ _ holds => holds.2) fun next => ?_
                refine (Interleaving.Runs.assuming fun route => ih next route
                  ((Quiet.permanent (Written.permanent next)).and quiet)).strengthen ?_
                exact fun w _ holds => ⟨holds.1.2.1,holds.1.1,holds.2.2⟩
              | _ => exact Interleaving.Runs.throw moved.stable fun _ _ holds => holds.2
            · exact Interleaving.Runs.throw moved.stable fun _ _ holds => holds.2
            · refine Interleaving.Runs.pure moved.stable fun w _ holds => ?_
              obtain ⟨⟨step,e,member,-,wrote⟩,kept⟩ := holds
              have held : next.upstreamTaskId = some id := by
                rw [step.assigned unbound,assigns.1]
              exact ⟨⟨⟨e,member,wrote⟩,step.sameRoute.publicTaskId.trans route,fun _ => rfl,
                fun other => absurd held other⟩,kept⟩

theorem cancelUpstream_runs (quiet : Quiet False i fact) (record : TaskRouteRecord)
    (id : UpstreamTaskId) :
    Interleaving.Runs (proxySystem σ) Inv i fact (TaskProxy.cancelUpstream record id)
      (fun _ w => CancelAttempted record.capabilitySource id record.upstreamSessionId w.trace ∧ fact w)
      failed := by
  refine Interleaving.Runs.perform quiet.stable (fun w reply s inv holds acted => ?_) fun _ =>
    (CancelAttempted.permanent _ _ _).stable.and quiet.stable
  refine ⟨inv.plain (v := False) trivial False.elim acted,?_,quiet.kept w _ reply s trivial holds⟩
  exact ⟨_,List.mem_cons_self,rfl⟩

/-- What has become of a task that the upstream acknowledged for the route. -/
def Kept (record : TaskRouteRecord) (id : UpstreamTaskId) (w : ProxyWorld σ) : Prop :=
  CancelAttempted record.capabilitySource id record.upstreamSessionId w.trace ∨
    RoutedTo (some record.publicTaskId.text) id w.trace

omit [FloatText] [Sha256] [Rmcp] [Chrono] [TaskRouteStorage σ] [ExactTaskRouteStorage σ] in
theorem Kept.permanent (record : TaskRouteRecord) (id : UpstreamTaskId) :
    Permanent (Kept record id : ProxyWorld σ → Prop) :=
  (CancelAttempted.permanent _ _ _).or <| Permanent.exists fun r =>
    (Written.permanent r).and (Permanent.const _)

/-- A cancel request to the upstream of the route accounts for the task. -/
theorem cancelled_runs (quiet : Quiet False i fact) {record routed : TaskRouteRecord}
    (route : record.SameRoute routed) (id : UpstreamTaskId) :
    Interleaving.Runs (proxySystem σ) Inv i fact (TaskProxy.cancelUpstream routed id)
      (fun _ w => Kept record id w ∧ fact w) failed := by
  refine (cancelUpstream_runs quiet routed id).weaken (fun _ w _ holds => ⟨.inl ?_,holds.2⟩)
    fun _ _ holds => holds
  rw [← route.capabilitySource,← route.upstreamSessionId]
  exact holds.1

/-- A durable intent is passed on at once. -/
theorem requestCancellation_runs (quiet : Quiet False i fact) {record routed : TaskRouteRecord}
    {id : UpstreamTaskId} (route : record.SameRoute routed) (phase : routed.phase = .cancelRequested)
    (held : routed.upstreamTaskId = some id) :
    Interleaving.Runs (proxySystem σ) Inv i fact (TaskProxy.requestCancellation routed)
      (fun _ w => Kept record id w ∧ fact w) (fun w => Kept record id w ∧ fact w) := by
  have persisted : TaskProxy.persistCancellationIntent routed = pure routed := by
    rw [TaskProxy.persistCancellationIntent,maxRouteCasAttempts,TaskProxy.persistCancellation,
      if_pos (.inl phase)]
  have kept := (Quiet.permanent (Kept.permanent record id)).and quiet
  rw [TaskProxy.requestCancellation,persisted]
  refine Interleaving.Runs.bind (Interleaving.Runs.pure quiet.stable fun w _ holds => ⟨rfl,holds⟩ :
    Interleaving.Runs _ _ i fact _ (fun found w => found = routed ∧ fact w) _) fun found => Interleaving.Runs.assuming ?_
  rintro rfl
  rw [if_neg (by rw [phase]; decide),held]
  refine Interleaving.Runs.bind (cancelled_runs quiet route id) fun done => ?_
  split
  · exact Interleaving.Runs.pure kept.stable fun _ _ holds => holds
  · exact kept.plain (TaskProxy.markReconciliation_plain _ _)

/-- However the id was bound or not, the task is kept or cancelled. -/
theorem acknowledged_runs (quiet : Quiet False i fact) {record : TaskRouteRecord}
    {created : CreateTaskResult} {id : UpstreamTaskId}
    (valid : UpstreamTaskId.new created.task.taskId = .ok id) :
    Interleaving.Runs (proxySystem σ) Inv i (fun w => Written record w.trace ∧ fact w)
      (TaskProxy.acknowledged record created) (fun _ w => Kept record id w ∧ fact w)
      fun w => Kept record id w ∧ fact w := by
  have kept := (Quiet.permanent (Kept.permanent record id)).and quiet
  have cancels : ∀ {routed : TaskRouteRecord} (p : Proxy CallToolResponse),
      (p.run.Within (plain False)) → record.SameRoute routed →
      Interleaving.Runs (proxySystem σ) Inv i fact (do
        let _ ← TaskProxy.cancelUpstream routed id
        p) (fun _ w => Kept record id w ∧ fact w) fun w => Kept record id w ∧ fact w :=
    fun p within route => Interleaving.Runs.bind (cancelled_runs quiet route id) fun _ => kept.plain within
  have binds := bindUpstream_runs record id
    ((Quiet.permanent (Written.permanent record)).and quiet) maxRouteCasAttempts record rfl
  rw [TaskProxy.acknowledged,valid]
  refine Interleaving.Runs.bind (Interleaving.Runs.attempt (binds.strengthen fun w _ holds => ⟨holds.1,holds⟩)) fun bound => ?_
  rcases bound with error | ⟨routed,cancellationRequired⟩
  · refine (cancels (throw error) trivial (.refl record)).strengthen fun w _ holds => holds.2
  · refine (Interleaving.Runs.assuming fun known => ?_ : Interleaving.Runs _ _ i (fun w =>
      (record.SameRoute routed ∧
        (routed.upstreamTaskId = some id →
          cancellationRequired = decide (routed.phase = .cancelRequested)) ∧
        (routed.upstreamTaskId ≠ some id → cancellationRequired = true)) ∧
        Written routed w.trace ∧ fact w) _ _ _).strengthen fun w inv holds => ?_
    · obtain ⟨route,bound,unbound⟩ := known
      have quietly := (Quiet.permanent (Written.permanent routed)).and quiet
      have cancel : ∀ p : Proxy CallToolResponse, p.run.Within (plain False) →
          Interleaving.Runs (proxySystem σ) Inv i (fun w => Written routed w.trace ∧ fact w) (do
            let _ ← TaskProxy.cancelUpstream routed id
            p) (fun _ w => Kept record id w ∧ fact w) fun w => Kept record id w ∧ fact w :=
        fun p within => (cancels p within route).strengthen fun _ _ holds => holds.2
      change Interleaving.Runs _ _ _ _ (if cancellationRequired then _ else _) _ _
      split
      · next required =>
        split
        · next held =>
          have phase : routed.phase = .cancelRequested := by
            rw [bound held.1] at required
            exact of_decide_eq_true required
          exact Interleaving.Runs.bind ((requestCancellation_runs quiet route phase held.1).strengthen
            fun _ _ holds => holds.2) fun _ => kept.plain trivial
        · exact cancel _ trivial
      · next optional =>
        have held : routed.upstreamTaskId = some id := by
          by_contra other
          exact optional (unbound other)
        split
        · exact cancel _ trivial
        · next phase =>
          have stays : ∀ p : Proxy CallToolResponse, p.run.Within (plain False) →
              Interleaving.Runs (proxySystem σ) Inv i (fun w => Written routed w.trace ∧ fact w) p
                (fun _ w => Kept record id w ∧ fact w) fun w => Kept record id w ∧ fact w := by
            refine fun p within => (kept.plain within).strengthen fun w _ holds => ⟨.inr ?_,holds.2⟩
            exact ⟨routed,holds.1,by rw [route.publicTaskId],not_not.mp phase,held⟩
          refine stays _ ?_
          split
          · exact Fallible.within_bind (TaskProxy.requestCancellation_plain _) fun _ =>
              TaskProxy.reconciled_plain _
          · refine Fallible.within_bind TaskProxy.nowUnixMs_plain fun now => ?_
            split
            · exact Fallible.within_bind (TaskProxy.requestCancellation_plain _) fun _ => trivial
            · trivial
    · obtain ⟨result,written,kept⟩ := holds
      exact ⟨⟨written_route inv.history written result.written result.route.symm,
        result.bound,result.unbound⟩,result.written,kept⟩

end
end GaugeMesh
