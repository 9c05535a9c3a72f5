import GaugeMesh.Run.Driven

/-! Every call of the run tool keeps the invariant: from the authority of a plan and the
verification of an artifact over the parts of a sweep to the actions. -/
namespace GaugeMesh
open Json Interleaving RunSystem

namespace RunSystem

variable [SerdeJson] [SerdeJson.Bytes] [Sha256] [RmcpTexts] {i : Nat} {runId : String}
  {plan : RunPlan} {driving : Driving} {step : RunStep} {s : StepState}
  {pre : DriverWorld → Prop} {context : RunContext} {args : JsonObject}

/-- The plan itself gives the step arguments that a tool bound to it takes. -/
def Sampled (plan : RunPlan) (step : RunStep) : Prop :=
  ∃ sample, sampleArguments plan step = .ok sample ∧ ∃ tool : FederatedTool, tool.Takes step sample

theorem authorizeStep_runs {lease : CapabilityLease} (permanent : Permanent pre) :
    Interleaving.Runs runSystem Inv i pre (RunDriver.authorizeStep plan lease context step)
      (fun _ w => Sampled plan step ∧ pre w) fun _ => True := by
  rw [RunDriver.authorizeStep]
  refine Interleaving.Runs.bind (required_runs permanent) fun tool => ?_
  refine Interleaving.Runs.assuming fun found => ?_
  refine Interleaving.Runs.bind (demand_runs permanent) fun _ => ?_
  refine Interleaving.Runs.assuming fun bound => ?_
  refine Interleaving.Runs.bind (checked_runs permanent) fun sample => ?_
  refine Interleaving.Runs.assuming fun sampled => ?_
  refine Interleaving.Runs.bind (demand_runs permanent) fun _ => ?_
  refine Interleaving.Runs.assuming fun small => ?_
  refine Interleaving.Runs.bind (checked_runs permanent) fun _ => ?_
  refine Interleaving.Runs.assuming fun validated => ?_
  refine Interleaving.Runs.bind (nowUnixMs_runs permanent) fun now => ?_
  refine (checked_runs permanent).weaken (fun _ _ _ holds => ⟨?_,holds.2⟩) fun _ _ holds => holds
  exact ⟨sample,sampled,tool,bound.1,bound.2.1,validated⟩

theorem authorizeSteps_runs {lease : CapabilityLease} (permanent : Permanent pre)
    (steps : List RunStep) :
    Interleaving.Runs runSystem Inv i pre (RunDriver.authorizeSteps plan lease context steps)
      (fun _ w => (∀ step ∈ steps, Sampled plan step) ∧ pre w) fun _ => True := by
  induction steps with
  | nil => exact pure_runs permanent fun _ _ holds => ⟨nofun,holds⟩
  | cons step rest ih =>
    rw [RunDriver.authorizeSteps]
    refine Interleaving.Runs.bind (authorizeStep_runs permanent) fun _ => ?_
    refine Interleaving.Runs.assuming fun sampled => ?_
    refine ih.weaken (fun _ _ _ holds => ⟨?_,holds.2⟩) fun _ _ holds => holds
    exact List.forall_mem_cons.mpr ⟨sampled,holds.1⟩

theorem authorizePlan_runs (permanent : Permanent pre) :
    Interleaving.Runs runSystem Inv i pre (RunDriver.authorizePlan plan args context)
      (fun _ w => (∀ step ∈ plan.steps, Sampled plan step) ∧ pre w) fun _ => True := by
  rw [RunDriver.authorizePlan]
  refine Interleaving.Runs.bind (required_runs permanent) fun leaseId => ?_
  refine Interleaving.Runs.assuming fun named => ?_
  refine Interleaving.Runs.bind (ask_runs permanent trivial) fun reply => ?_
  have asked := (Asked.permanent i pre (.getLease leaseId) reply).and permanent
  refine Interleaving.Runs.bind (required_runs asked) fun read => ?_
  refine Interleaving.Runs.assuming fun present => ?_
  refine Interleaving.Runs.bind (required_runs asked) fun lease => ?_
  refine Interleaving.Runs.assuming fun live => ?_
  exact (authorizeSteps_runs permanent plan.steps).strengthen fun _ _ holds => holds.2

/-- What a verification gives back was read from the artifact files. -/
def Accepted (answered : RunAnswers) (runId : String) (plan : RunPlan) (step : RunStep)
    (s : StepState) (result : Value × Value) : Prop :=
  ∃ terminal submission path bytes,
    Attested answered runId plan step s terminal submission path bytes result.1 ∧
      result.1 ≠ .null ∧ result.2 = verificationReport step bytes result.1

omit [RmcpTexts] in
theorem Accepted.suffix {thread : Nat} {r : RunRecord} {past trace : List DriverEvent}
    {result : Value × Value} (accepted : Accepted (heard thread r past) runId plan step s result)
    (earlier : past <:+ trace) : Accepted (heard thread r trace) runId plan step s result := by
  obtain ⟨terminal,submission,path,bytes,attested,rest⟩ := accepted
  exact ⟨terminal,submission,path,bytes,attested.mono fun _ _ told => heard_suffix told earlier,rest⟩

omit [RmcpTexts] in
theorem Accepted.permanent (thread : Nat) (r : RunRecord) (runId : String) (plan : RunPlan)
    (step : RunStep) (s : StepState) (result : Value × Value) :
    Permanent fun w : DriverWorld => Accepted (heard thread r w.trace) runId plan step s result := by
  have grows : ∀ (e : DriverEvent) past, Accepted (heard thread r past) runId plan step s result →
      Accepted (heard thread r (e :: past)) runId plan step s result :=
    fun _ _ accepted => accepted.suffix (List.suffix_cons _ _)
  exact .grown grows

theorem verifyStep_runs {r : RunRecord} (permanent : Permanent pre)
    (known : ∀ w, pre w → Known r w.trace) :
    Interleaving.Runs runSystem Inv i pre (RunDriver.verifyStep runId plan step s)
      (fun result w => Accepted (heard i r w.trace) runId plan step s result) fun _ => True := by
  rw [RunDriver.verifyStep]
  refine Interleaving.Runs.bind (required_runs permanent) fun terminal => ?_
  refine Interleaving.Runs.assuming fun held => ?_
  refine Interleaving.Runs.bind (demand_runs permanent) fun _ => ?_
  refine Interleaving.Runs.assuming fun completed => ?_
  refine Interleaving.Runs.bind (required_runs permanent) fun submission => ?_
  refine Interleaving.Runs.assuming fun submitted => ?_
  refine Interleaving.Runs.bind (demand_runs permanent) fun _ => ?_
  refine Interleaving.Runs.assuming fun bound => ?_
  refine Interleaving.Runs.bind (required_runs permanent) fun path => ?_
  refine Interleaving.Runs.assuming fun named => ?_
  have reads : RunOp.readArtifact plan.artifactRoot path step.maxArtifactBytes ∈ plain := trivial
  refine Interleaving.Runs.bind (ask_runs permanent reads) fun read => ?_
  have asked := (Asked.permanent i pre
    (.readArtifact plan.artifactRoot path step.maxArtifactBytes) read).and permanent
  refine Interleaving.Runs.bind (ofExcept_runs asked) fun bytes => ?_
  refine Interleaving.Runs.assuming fun found => ?_
  refine Interleaving.Runs.bind (demand_runs asked) fun _ => ?_
  refine Interleaving.Runs.assuming fun digest => ?_
  refine Interleaving.Runs.bind (required_runs asked) fun artifact => ?_
  refine Interleaving.Runs.assuming fun parsed => ?_
  refine Interleaving.Runs.bind (required_runs asked) fun described => ?_
  refine Interleaving.Runs.assuming fun object => ?_
  refine Interleaving.Runs.bind (demand_runs asked) fun _ => ?_
  refine Interleaving.Runs.assuming fun same => ?_
  refine Interleaving.Runs.bind (demand_runs asked) fun _ => ?_
  refine Interleaving.Runs.assuming fun _ => ?_
  refine Interleaving.Runs.bind (demand_runs asked) fun _ => ?_
  refine Interleaving.Runs.assuming fun accepts => ?_
  refine pure_runs asked fun w _ holds => ?_
  cases found
  have told := holds.1.heard known
  refine ⟨terminal,submission,path,bytes,⟨held,completed,submitted,bound,named,told,digest,parsed,
    ⟨described,object,same.1⟩,accepts⟩,?_,rfl⟩
  rintro rfl
  cases same.1

theorem tryVerify_runs {r : RunRecord} (permanent : Permanent pre)
    (known : ∀ w, pre w → Known r w.trace) :
    Interleaving.Runs runSystem Inv i pre (RunDriver.tryVerify runId plan step s)
      (fun outcome w => (∀ result, outcome = .ok result →
        Accepted (heard i r w.trace) runId plan step s result) ∧ pre w) fun _ => True := by
  refine Interleaving.Runs.attempt ?_
  refine Triple.weaken (Triple.strengthen ((verifyStep_runs permanent known).keep permanent)
    fun _ _ holds => ⟨holds,holds⟩) ?_
  intro outcome w _ holds
  rcases outcome with error | result
  · exact ⟨nofun,holds.2⟩
  · refine ⟨?_,holds.2⟩
    rintro _ ⟨⟩
    exact holds.1

theorem observeDeadline_runs :
    Interleaving.Runs runSystem Inv i (fun w => Drives runId plan driving w.trace)
      (RunDriver.observeDeadline driving) (fun driven w => Drives runId plan driven w.trace)
      fun _ => True := by
  have permanent := Drives.permanent runId plan driving
  rw [RunDriver.observeDeadline]
  refine Interleaving.Runs.bind (nowUnixMs_runs permanent) fun now => ?_
  split
  · next due =>
    refine ((save_runs _).weaken (fun _ _ _ holds => holds.2) fun _ _ holds => holds).strengthen ?_
    exact fun _ _ drives => ⟨drives,.expired (Bool.eq_false_of_not_eq_true due.2)⟩
  · exact pure_runs permanent fun _ _ drives => drives

theorem reverifyStep_runs (member : step ∈ plan.steps) :
    Interleaving.Runs runSystem Inv i (fun w => Drives runId plan driving w.trace)
      (RunDriver.reverifyStep driving step) (fun driven w => Drives runId plan driven w.trace)
      fun _ => True := by
  have permanent := Drives.permanent runId plan driving
  rw [RunDriver.reverifyStep]
  refine Interleaving.Runs.bind (required_runs permanent) fun s => ?_
  refine Interleaving.Runs.assuming fun found => ?_
  split
  · next phase =>
    refine Interleaving.Runs.bind (((tryVerify_runs permanent fun _ drives => drives.known).weaken
      fun _ _ _ holds => holds.2) fun _ _ holds => holds) fun outcome => ?_
    rcases outcome with error | result
    · refine ((saveStep_runs runId _ member found).weaken (fun _ _ _ holds => holds.2)
        fun _ _ holds => holds).strengthen ?_
      exact fun _ _ drives => ⟨drives,.refuted phase _⟩
    · exact pure_runs permanent fun _ _ drives => drives
  · exact pure_runs permanent fun _ _ drives => drives

/-- A task is submitted or recovered with what its step was committed with. -/
theorem call_runs {call : StepCall} {op : RunOp} (permanent : Permanent pre)
    (calls : op = .submit call ∨ op = .recoverSubmission call)
    (sent : ∀ w, pre w → ∃ record state step s, Known record w.trace ∧ Sent call record state step s) :
    Interleaving.Runs runSystem Inv i pre (RunDriver.ask op : Driver op.Ret) (fun _ => pre)
      fun _ => True := by
  refine Interleaving.Runs.perform permanent.stable ?_ fun _ => permanent.stable
  intro w reply t valid holds acted
  rcases calls with rfl | rfl
  all_goals
    cases acted
    exact ⟨valid.quiet rfl (sent w holds),permanent.after _ _ _ _ _ holds⟩

omit [SerdeJson.Bytes] in
theorem Drives.sent {call : StepCall} {trace : List DriverEvent}
    (drives : Drives runId plan driving trace) (member : step ∈ plan.steps)
    (found : driving.state.step? step.id = some s) (phase : s.phase = .submitting)
    (runId' : call.runId = driving.record.runId) (stepId : call.stepId = step.id)
    (arguments : s.arguments = some call.arguments)
    (submission : s.submission = some call.submission) :
    ∃ record state step s, Known record trace ∧ Sent call record state step s := by
  obtain ⟨saved,holds,unsaved⟩ := drives.held
  have alike := RunState.alike_of_unsaved unsaved
  obtain ⟨t,there,samePhase,sameArguments,sameSubmission⟩ := alike.found found
  have planned : step ∈ saved.plan.steps := by
    rw [← alike.plan,drives.plan]
    exact member
  exact ⟨driving.record,saved,step,t,drives.known,runId'.symm,stepId.symm,holds,planned,there,
    samePhase ▸ phase,sameArguments ▸ arguments,sameSubmission ▸ submission⟩

/-- What a driver knows of a step whose submission is saved. -/
theorem submitStep_runs (member : step ∈ plan.steps)
    (found : driving.state.step? step.id = some s) (phase : s.phase = .submitting) :
    Interleaving.Runs runSystem Inv i (fun w => Drives runId plan driving w.trace)
      (RunDriver.submitStep context driving step)
      (fun driven w => driven.state.ending = driving.state.ending ∧
        Drives runId plan driven w.trace) fun _ => True := by
  have permanent := Drives.permanent runId plan driving
  rw [RunDriver.submitStep]
  refine Interleaving.Runs.bind (required_runs permanent) fun t => ?_
  refine Interleaving.Runs.assuming fun there => ?_
  rw [found] at there
  cases there
  refine Interleaving.Runs.bind (required_runs permanent) fun tool => ?_
  refine Interleaving.Runs.assuming fun _ => ?_
  refine Interleaving.Runs.bind (required_runs permanent) fun arguments => ?_
  refine Interleaving.Runs.assuming fun held => ?_
  refine Interleaving.Runs.bind (required_runs permanent) fun submission => ?_
  refine Interleaving.Runs.assuming fun submitted => ?_
  have answered (response : Except McpError CallToolResponse) :
      Interleaving.Runs runSystem Inv i (fun w => Drives runId plan driving w.trace)
        (RunDriver.saveStep driving step (s.acknowledged response) "task_identity_observed")
        (fun driven w => driven.state.ending = driving.state.ending ∧
          Drives runId plan driven w.trace) fun _ => True := by
    refine ((saveStep_runs runId _ member found).weaken (fun driven _ _ holds => ⟨?_,holds.2⟩)
      fun _ _ holds => holds).strengthen fun _ _ drives => ⟨drives,.acknowledged phase response⟩
    rw [holds.1]
    rfl
  dsimp only
  split
  · exact Interleaving.Runs.bind (call_runs permanent (.inr rfl) fun w drives =>
      drives.sent member found phase rfl rfl held submitted) answered
  · exact Interleaving.Runs.bind (call_runs permanent (.inl rfl) fun w drives =>
      drives.sent member found phase rfl rfl held submitted) answered

theorem recoverStep_runs (member : step ∈ plan.steps) :
    Interleaving.Runs runSystem Inv i (fun w => Drives runId plan driving w.trace)
      (RunDriver.recoverStep context driving step) (fun driven w => Drives runId plan driven w.trace)
      fun _ => True := by
  have permanent := Drives.permanent runId plan driving
  rw [RunDriver.recoverStep]
  refine Interleaving.Runs.bind (required_runs permanent) fun s => ?_
  refine Interleaving.Runs.assuming fun found => ?_
  split
  · next phase =>
    exact (submitStep_runs member found phase).weaken (fun _ _ _ holds => holds.2)
      fun _ _ holds => holds
  · exact pure_runs permanent fun _ _ drives => drives

/-- A step of the state that is held is still polled for its task. -/
def Polled (driving : Driving) (step : RunStep) (taskId : String) : Prop :=
  ∃ s, driving.state.step? step.id = some s ∧ s.polledFor = some taskId

theorem intended_runs {taskId : String} (member : step ∈ plan.steps)
    (found : driving.state.step? step.id = some s) (polled : s.polledFor = some taskId)
    (ending : driving.state.ending) (pending : s.cancellationAcknowledged = false)
    (fresh : s.cancellationIntent = false) :
    Interleaving.Runs runSystem Inv i (fun w => Drives runId plan driving w.trace)
      (RunDriver.saveStep driving step { s with cancellationIntent := true }
        "task_cancellation_intent")
      (fun intended w => (∃ t, intended.state.step? step.id = some t ∧ t.polledFor = some taskId ∧
        t.cancellationAcknowledged = false) ∧ Drives runId plan intended w.trace)
      fun _ => True := by
  refine ((saveStep_runs runId _ member found).weaken (fun driven _ _ holds => ⟨?_,holds.2⟩)
    fun _ _ holds => holds).strengthen fun _ _ drives => ⟨drives,.intended polled ending fresh⟩
  rw [holds.1]
  exact ⟨_,RunState.step?_set_self found _,polled,pending⟩

theorem responded_runs {taskId : String} (identity : AuthenticatedIdentity)
    {answer : Except McpError Unit} (member : step ∈ plan.steps)
    (found : driving.state.step? step.id = some s) (polled : s.polledFor = some taskId)
    (pending : s.cancellationAcknowledged = false) :
    Interleaving.Runs runSystem Inv i
      (fun w => since driving.record w.trace (.cancelTask taskId identity) answer ∧
        Drives runId plan driving w.trace)
      (if Sha256Digest.ofJson (toValue (s.responded answer)) ≠ Sha256Digest.ofJson (toValue s) then
          RunDriver.saveStep driving step (s.responded answer) "task_cancellation_response"
        else return ⟨driving.record,driving.state.set step.id (s.responded answer)⟩ : Driver Driving)
      (fun driven w => Polled driven step taskId ∧ Drives runId plan driven w.trace)
      fun _ => True := by
  have permanent := (since_permanent driving.record (.cancelTask taskId identity) answer).and
    (Drives.permanent runId plan driving)
  split
  · next changed =>
    have new : s.responded answer ≠ s := by
      intro same
      rw [same] at changed
      exact changed rfl
    refine ((saveStep_runs runId _ member found).weaken (fun driven _ _ holds => ⟨?_,holds.2⟩)
      fun _ _ holds => holds).strengthen fun _ _ holds =>
        ⟨holds.2,.responded polled pending holds.1 new⟩
    rw [Polled,holds.1]
    exact ⟨_,RunState.step?_set_self found _,polled⟩
  · refine pure_runs permanent ?_
    rintro w _ ⟨told,drives⟩
    refine ⟨⟨_,RunState.step?_set_self found _,polled⟩,drives.runId,drives.plan,drives.known,?_⟩
    obtain ⟨saved,holds,unsaved⟩ := drives.held
    have planned : step ∈ driving.state.plan.steps := by
      rw [drives.plan]
      exact member
    exact ⟨saved,holds,unsaved.tail (.responded planned found polled pending told)⟩

theorem cancelStep_runs {taskId : String} (member : step ∈ plan.steps)
    (found : driving.state.step? step.id = some s) (polled : s.polledFor = some taskId) :
    Interleaving.Runs runSystem Inv i (fun w => Drives runId plan driving w.trace)
      (RunDriver.cancelStep context driving step taskId)
      (fun driven w => Polled driven step taskId ∧ Drives runId plan driven w.trace)
      fun _ => True := by
  have permanent := Drives.permanent runId plan driving
  rw [RunDriver.cancelStep]
  refine Interleaving.Runs.bind (required_runs permanent) fun t => ?_
  refine Interleaving.Runs.assuming fun there => ?_
  rw [found] at there
  cases there
  split
  · next asks =>
    have pending : s.cancellationAcknowledged = false := Bool.eq_false_of_not_eq_true asks.2
    have responds (intended : Driving) : Interleaving.Runs runSystem Inv i
        (fun w => (∃ t, intended.state.step? step.id = some t ∧ t.polledFor = some taskId ∧
          t.cancellationAcknowledged = false) ∧ Drives runId plan intended w.trace)
        (do
          let cancellation ← RunDriver.ask (.cancelTask taskId context.identity)
          let s ← RunDriver.stepOf intended.state step
          let responded := s.responded cancellation
          if Sha256Digest.ofJson (toValue responded) ≠ Sha256Digest.ofJson (toValue s) then
            RunDriver.saveStep intended step responded "task_cancellation_response"
          else return ⟨intended.record,intended.state.set step.id responded⟩ : Driver Driving)
        (fun driven w => Polled driven step taskId ∧ Drives runId plan driven w.trace)
        fun _ => True := by
      refine Interleaving.Runs.assuming fun known => ?_
      obtain ⟨t,there,polled,pending⟩ := known
      have permanent := Drives.permanent runId plan intended
      refine Interleaving.Runs.bind (ask_runs permanent trivial) fun answer => ?_
      have asked := (Asked.permanent i (fun w => Drives runId plan intended w.trace)
        (.cancelTask taskId context.identity) answer).and permanent
      refine Interleaving.Runs.bind (required_runs asked) fun u => ?_
      refine Interleaving.Runs.assuming fun here => ?_
      rw [there] at here
      cases here
      refine (responded_runs context.identity member there polled pending).strengthen fun w _ holds => ?_
      exact ⟨holds.1.since fun _ drives => drives.known,holds.2⟩
    dsimp only
    split
    · exact (responds driving).strengthen fun _ _ drives => ⟨⟨s,found,polled,pending⟩,drives⟩
    · next fresh =>
      exact Interleaving.Runs.bind (intended_runs member found polled asks.1 pending
        (Bool.eq_false_of_not_eq_true fresh)) responds
  · exact pure_runs permanent fun _ _ drives => ⟨⟨s,found,polled⟩,drives⟩

/-- What a poll makes of a step of the state that is held. -/
def Observes (driving : Driving) (step : RunStep) (s : StepState)
    (reply : Except McpError GetTaskResult) (t : StepState) (trace : List DriverEvent) : Prop :=
  Observed (since driving.record trace) driving.record.runId driving.state.plan step s reply t

theorem Observes.permanent (driving : Driving) (step : RunStep) (s : StepState)
    (reply : Except McpError GetTaskResult) (t : StepState) :
    Permanent fun w : DriverWorld => Observes driving step s reply t w.trace := by
  have grows : ∀ (e : DriverEvent) past, Observes driving step s reply t past →
      Observes driving step s reply t (e :: past) := fun e past observes =>
    observes.mono fun _ _ told => since_suffix told (List.suffix_cons e past)
  exact .grown grows

theorem completeStep_runs {result : GetTaskResult} {value : Value} (permanent : Permanent pre)
    (known : ∀ w, pre w → Known driving.record w.trace)
    (document : RmcpTexts.getTaskResult result = some value) (present : value ≠ .null)
    (reconciled : (((value.index "_meta").index taskRouteMetaKey).index "routePhase").asStr ≠
      some "reconciliation_required") :
    Interleaving.Runs runSystem Inv i pre
      (RunDriver.completeStep driving step { s with terminal := some value })
      (fun t w => Observes driving step s (.ok result) t w.trace ∧ pre w) fun _ => True := by
  rw [RunDriver.completeStep]
  refine Interleaving.Runs.bind (tryVerify_runs permanent known) fun outcome => ?_
  rcases outcome with error | ⟨artifact,report⟩
  · exact (pure_runs permanent fun _ _ holds => ⟨.rejected document present error,holds⟩).strengthen
      fun _ _ holds => holds.2
  · have accepted := (Accepted.permanent i driving.record driving.record.runId driving.state.plan
      step { s with terminal := some value } (artifact,report)).and permanent
    refine (pure_runs accepted fun w _ holds => ⟨?_,holds.2⟩).strengthen
      fun _ _ holds => ⟨holds.1 _ rfl,holds.2⟩
    obtain ⟨terminal,submission,path,bytes,attested,notNull,reported⟩ := holds.1
    rw [show report = verificationReport step bytes artifact from reported]
    exact .verified document reconciled (attested.mono fun _ _ told => ⟨i,told⟩) notNull

theorem observe_runs {reply : Except McpError GetTaskResult} (permanent : Permanent pre)
    (known : ∀ w, pre w → Known driving.record w.trace) :
    Interleaving.Runs runSystem Inv i pre (RunDriver.observe driving step s reply)
      (fun next w => (∀ t, next = some t → Observes driving step s reply t w.trace) ∧ pre w)
      fun _ => True := by
  have nothing : Interleaving.Runs runSystem Inv i pre (pure none : Driver (Option StepState))
      (fun next w => (∀ t, next = some t → Observes driving step s reply t w.trace) ∧ pre w)
      fun _ => True :=
    pure_runs permanent fun _ _ holds =>
      ⟨fun _ none => (Option.some_ne_none _ none.symm).elim,holds⟩
  have something {t : StepState} (observes : ∀ trace, Observes driving step s reply t trace) :
      Interleaving.Runs runSystem Inv i pre (pure (some t) : Driver (Option StepState))
      (fun next w => (∀ t, next = some t → Observes driving step s reply t w.trace) ∧ pre w)
      fun _ => True := by
    refine pure_runs permanent fun _ _ holds => ⟨?_,holds⟩
    rintro _ ⟨⟩
    exact observes _
  rcases reply with error | result
  · rw [RunDriver.observe]
    split
    · exact nothing
    · next new => exact something fun _ => .unanswered new
  · rw [RunDriver.observe]
    refine Interleaving.Runs.bind (required_runs permanent) fun value => ?_
    refine Interleaving.Runs.assuming fun document => ?_
    split
    · next reconciling =>
      have present : value ≠ .null := by
        rintro rfl
        cases reconciling
      split
      · exact nothing
      · next new => exact something fun _ => .unreconciled document present new
    · next reconciled =>
      have present {text : String} (status : (value.index "status").asStr = some text) :
          value ≠ .null := by
        rintro rfl
        cases status
      split
      · next completed =>
        refine Interleaving.Runs.bind
          (completeStep_runs permanent known document (present completed) reconciled) fun t => ?_
        have observes := (Observes.permanent driving step s (.ok result) t).and permanent
        refine pure_runs observes fun _ _ holds => ⟨?_,holds.2⟩
        rintro _ ⟨⟩
        exact holds.1
      · next failed => exact something fun _ => .failed document (present failed)
      · next cancelled => exact something fun _ => .cancelled document (present cancelled)
      · exact nothing

theorem pollStep_runs (member : step ∈ plan.steps) :
    Interleaving.Runs runSystem Inv i (fun w => Drives runId plan driving w.trace)
      (RunDriver.pollStep context driving step)
      (fun polled w => Drives runId plan polled.1 w.trace) fun _ => True := by
  have permanent := Drives.permanent runId plan driving
  rw [RunDriver.pollStep]
  refine Interleaving.Runs.bind (required_runs permanent) fun s => ?_
  refine Interleaving.Runs.assuming fun found => ?_
  split
  · exact pure_runs permanent fun _ _ drives => drives
  · next taskId polled =>
    refine Interleaving.Runs.bind (cancelStep_runs member found polled) fun cancelled => ?_
    refine Interleaving.Runs.assuming fun still => ?_
    obtain ⟨t,there,polled⟩ := still
    have permanent := Drives.permanent runId plan cancelled
    refine Interleaving.Runs.bind (ask_runs permanent trivial) fun reply => ?_
    have asked := (Asked.permanent i (fun w => Drives runId plan cancelled w.trace)
      (.getTask taskId context.identity) reply).and permanent
    refine Interleaving.Runs.bind (required_runs asked) fun u => ?_
    refine Interleaving.Runs.assuming fun here => ?_
    rw [there] at here
    cases here
    refine Interleaving.Runs.bind (observe_runs asked fun _ holds => holds.2.known) fun next => ?_
    rcases next with _ | next
    · refine (pure_runs asked fun _ _ holds => holds.2).strengthen fun _ _ holds => holds.2
    · refine Interleaving.Runs.bind (((saveStep_runs runId _ member there).weaken
        (fun _ _ _ holds => holds.2) fun _ _ holds => holds).strengthen fun _ _ holds => ?_)
        fun saved => pure_runs (Drives.permanent runId plan saved) fun _ _ drives => drives
      obtain ⟨observes,asked,drives⟩ := holds
      have told := asked.since fun _ drives => drives.known
      have observed := observes _ rfl
      rw [Observes,drives.runId] at observed
      exact ⟨drives,.observed polled told observed⟩

theorem dispatchStep_runs (member : step ∈ plan.steps)
    (found : driving.state.step? step.id = some s) (going : driving.state.stopped = false)
    (room : driving.state.activeSteps < driving.state.plan.maxConcurrency)
    (ready : RunDriver.ready driving.state step s) :
    Interleaving.Runs runSystem Inv i (fun w => Drives runId plan driving w.trace)
      (RunDriver.dispatchStep args context driving step s)
      (fun sent w => sent.state.ending = driving.state.ending ∧ Drives runId plan sent w.trace)
      fun _ => True := by
  have permanent := Drives.permanent runId plan driving
  rw [RunDriver.ready,Bool.and_eq_true,beq_iff_eq,List.all_eq_true] at ready
  obtain ⟨phase,verified⟩ := ready
  rw [RunDriver.dispatchStep]
  refine Interleaving.Runs.bind (authorizePlan_runs permanent) fun _ => ?_
  refine Interleaving.Runs.assuming fun sampled => ?_
  refine Interleaving.Runs.bind (checked_runs permanent) fun arguments => ?_
  refine Interleaving.Runs.assuming fun resolved => ?_
  refine Interleaving.Runs.bind (required_runs permanent) fun tool => ?_
  refine Interleaving.Runs.assuming fun _ => ?_
  refine Interleaving.Runs.bind (checked_runs permanent) fun _ => ?_
  refine Interleaving.Runs.assuming fun _ => ?_
  refine Interleaving.Runs.bind (demand_runs permanent) fun _ => ?_
  refine Interleaving.Runs.assuming fun _ => ?_
  refine Interleaving.Runs.bind (nowUnixMs_runs permanent) fun now => ?_
  refine Interleaving.Runs.bind ((saveStep_runs runId _ member found).strengthen fun w _ drives => ?_)
    fun saved => ?_
  · have planned : step ∈ driving.state.plan.steps := by
      rw [drives.plan]
      exact member
    obtain ⟨sample,sampled,tool,takes⟩ := sampled step planned
    have ready : ∀ id ∈ step.dependsOn, driving.state.phaseOf id = some .verified :=
      fun id depends => by simpa using verified id depends
    refine ⟨drives,?_⟩
    rw [drives.runId]
    exact .dispatched phase going room ready resolved sampled tool takes now
  · refine Interleaving.Runs.assuming fun written => ?_
    have there (t : StepState) (written : saved.state = driving.state.set step.id t) :
        saved.state.step? step.id = some t := by
      rw [written]
      exact RunState.step?_set_self found t
    refine (submitStep_runs member (there _ written) rfl).weaken (fun sent _ _ holds => ⟨?_,holds.2⟩)
      fun _ _ holds => holds
    rw [holds.1,written]
    rfl

theorem reverify_runs (steps : List RunStep) (members : ∀ step ∈ steps, step ∈ plan.steps) :
    Interleaving.Runs runSystem Inv i (fun w => Drives runId plan driving w.trace)
      (RunDriver.reverify steps driving) (fun driven w => Drives runId plan driven w.trace)
      fun _ => True := by
  induction steps generalizing driving with
  | nil => exact pure_runs (Drives.permanent runId plan driving) fun _ _ drives => drives
  | cons step rest ih =>
    obtain ⟨member,members⟩ := List.forall_mem_cons.mp members
    rw [RunDriver.reverify]
    exact Interleaving.Runs.bind (reverifyStep_runs member) fun driven => ih members

theorem recover_runs (steps : List RunStep) (members : ∀ step ∈ steps, step ∈ plan.steps) :
    Interleaving.Runs runSystem Inv i (fun w => Drives runId plan driving w.trace)
      (RunDriver.recover context steps driving) (fun driven w => Drives runId plan driven w.trace)
      fun _ => True := by
  induction steps generalizing driving with
  | nil => exact pure_runs (Drives.permanent runId plan driving) fun _ _ drives => drives
  | cons step rest ih =>
    obtain ⟨member,members⟩ := List.forall_mem_cons.mp members
    rw [RunDriver.recover]
    exact Interleaving.Runs.bind (recoverStep_runs member) fun driven => ih members

theorem poll_runs (steps : List RunStep) (members : ∀ step ∈ steps, step ∈ plan.steps) :
    Interleaving.Runs runSystem Inv i (fun w => Drives runId plan driving w.trace)
      (RunDriver.poll context steps driving) (fun polled w => Drives runId plan polled.1 w.trace)
      fun _ => True := by
  induction steps generalizing driving with
  | nil => exact pure_runs (Drives.permanent runId plan driving) fun _ _ drives => drives
  | cons step rest ih =>
    obtain ⟨member,members⟩ := List.forall_mem_cons.mp members
    rw [RunDriver.poll]
    refine Interleaving.Runs.bind (pollStep_runs member) fun polled => ?_
    refine Interleaving.Runs.bind (ih members) fun last => ?_
    exact pure_runs (Drives.permanent runId plan last.1) fun _ _ drives => drives

theorem dispatch_runs (steps : List RunStep) (members : ∀ step ∈ steps, step ∈ plan.steps)
    (going : driving.state.stopped = false) :
    Interleaving.Runs runSystem Inv i (fun w => Drives runId plan driving w.trace)
      (RunDriver.dispatch args context steps driving)
      (fun driven w => Drives runId plan driven w.trace) fun _ => True := by
  induction steps generalizing driving with
  | nil => exact pure_runs (Drives.permanent runId plan driving) fun _ _ drives => drives
  | cons step rest ih =>
    have permanent := Drives.permanent runId plan driving
    obtain ⟨member,members⟩ := List.forall_mem_cons.mp members
    rw [RunDriver.dispatch]
    split
    · exact pure_runs permanent fun _ _ drives => drives
    · next room =>
      refine Interleaving.Runs.bind (required_runs permanent) fun s => ?_
      refine Interleaving.Runs.assuming fun found => ?_
      split
      · next ready =>
        refine Interleaving.Runs.bind
          (dispatchStep_runs member found going (Nat.lt_of_not_ge room) ready) fun sent => ?_
        refine Interleaving.Runs.assuming fun ending => ?_
        split
        · exact pure_runs (Drives.permanent runId plan sent) fun _ _ drives => drives
        · next free =>
          refine ih members ?_
          rw [RunState.stopped,Bool.or_eq_false_iff] at going ⊢
          exact ⟨ending.trans going.1,Bool.eq_false_of_not_eq_true free⟩
      · exact ih members going

variable {record : RunRecord} {state : RunState} {caller : TaskRouteCaller} {id : String}

/-- A state that was read is the one the record was written for. -/
theorem Known.read {trace : List DriverEvent} (justified : Justified Reason trace)
    (known : Known record trace) (read : stateFrom record = .ok state) : Holds record state := by
  obtain ⟨-,a,holds⟩ := known.holds justified
  have decoded := RunState.decode_encode holds.lawful.written
  have found := stateFrom_data read
  rw [holds.data] at found
  have same : some a = some state := decoded.symm.trans found
  cases same
  exact holds

theorem stateFrom_runs :
    Interleaving.Runs runSystem Inv i (fun w => Known record w.trace)
      (Fallible.ofExcept (stateFrom record) : Driver RunState)
      (fun state w => Holds record state ∧ Known record w.trace) fun _ => True :=
  (ofExcept_runs (Known.permanent record)).weaken
    (fun _ _ valid holds => ⟨holds.2.read valid.history holds.1,holds.2⟩) fun _ _ holds => holds

omit [SerdeJson.Bytes] in
theorem Holds.drives {trace : List DriverEvent} (holds : Holds record state)
    (known : Known record trace) : Drives record.runId state.plan ⟨record,state⟩ trace :=
  ⟨rfl,rfl,known,state,holds,.refl⟩

theorem summarize_runs (permanent : Permanent pre) :
    Interleaving.Runs runSystem Inv i pre (RunDriver.summarize driving) (fun _ => pre)
      fun _ => True :=
  (ofExcept_runs permanent).weaken (fun _ _ _ holds => holds.2) fun _ _ holds => holds

/-- What is left of a sweep after the polls. -/
theorem settle_runs (observed : Bool) :
    Interleaving.Runs runSystem Inv i (fun w => Drives runId plan driving w.trace)
      (if driving.state.stopped then do
          let skipped ←
            if driving.state.unsent then
              RunDriver.save driving driving.state.skipUnsent "unsent_steps_skipped"
            else pure driving
          RunDriver.summarize skipped
        else if observed then RunDriver.summarize driving
        else do RunDriver.summarize (← RunDriver.dispatch args context plan.steps driving))
      (fun _ _ => True) fun _ => True := by
  have permanent := Drives.permanent runId plan driving
  have ends (last : Driving) : Interleaving.Runs runSystem Inv i
      (fun w => Drives runId plan last w.trace) (RunDriver.summarize last) (fun _ _ => True)
      fun _ => True :=
    (summarize_runs (Drives.permanent runId plan last)).weaken (fun _ _ _ _ => trivial)
      fun _ _ holds => holds
  split
  · next stopped =>
    dsimp only
    split
    · next unsent =>
      refine Interleaving.Runs.bind (((save_runs _).weaken (fun _ _ _ holds => holds.2)
        fun _ _ holds => holds).strengthen fun _ _ drives => ?_) ends
      exact ⟨drives,.skipped stopped unsent⟩
    · exact ends driving
  · next going =>
    split
    · exact ends driving
    · refine Interleaving.Runs.bind (dispatch_runs plan.steps (fun _ member => member) ?_) ends
      exact Bool.eq_false_of_not_eq_true going

theorem drive_runs :
    Interleaving.Runs runSystem Inv i (fun w => Known record w.trace)
      (RunDriver.drive record args context) (fun _ _ => True) fun _ => True := by
  rw [RunDriver.drive]
  refine Interleaving.Runs.bind stateFrom_runs fun state => ?_
  refine Interleaving.Runs.assuming fun holds => ?_
  have all : ∀ step ∈ state.plan.steps, step ∈ state.plan.steps := fun _ member => member
  have sweeps : Interleaving.Runs runSystem Inv i (fun w => Known record w.trace) (do
      let dated ← RunDriver.observeDeadline ⟨record,state⟩
      let verified ← RunDriver.reverify state.plan.steps dated
      let recovered ← RunDriver.recover context state.plan.steps verified
      let polled ← RunDriver.poll context state.plan.steps recovered
      if polled.1.state.stopped then
        let skipped ←
          if polled.1.state.unsent then
            RunDriver.save polled.1 polled.1.state.skipUnsent "unsent_steps_skipped"
          else pure polled.1
        RunDriver.summarize skipped
      else if polled.2 then RunDriver.summarize polled.1
      else RunDriver.summarize (← RunDriver.dispatch args context state.plan.steps polled.1) :
        Driver Value) (fun _ _ => True) fun _ => True := by
    refine Interleaving.Runs.bind (observeDeadline_runs.strengthen
      fun _ _ known => holds.drives known) fun dated => ?_
    refine Interleaving.Runs.bind (reverify_runs state.plan.steps all) fun verified => ?_
    refine Interleaving.Runs.bind (recover_runs state.plan.steps all) fun recovered => ?_
    exact Interleaving.Runs.bind (poll_runs state.plan.steps all) fun polled =>
      settle_runs polled.2
  split
  · refine Interleaving.Runs.bind (authorizePlan_runs (Known.permanent record)) fun _ => ?_
    exact sweeps.strengthen fun _ _ holds => holds.2
  · exact sweeps

/-- The run has been committed as cancelled. -/
def CancelRequested (id : String) (trace : List DriverEvent) : Prop :=
  ∃ record state, Known record trace ∧ record.runId = id ∧ Holds record state ∧
    state.cancelRequested = true

theorem cancelRun_runs :
    Interleaving.Runs runSystem Inv i (fun w => Known record w.trace) (RunDriver.cancelRun record)
      (fun _ w => CancelRequested record.runId w.trace) fun _ => True := by
  rw [RunDriver.cancelRun]
  refine Interleaving.Runs.bind stateFrom_runs fun state => ?_
  refine Interleaving.Runs.assuming fun holds => ?_
  split
  · next requested =>
    refine (ofExcept_runs (Known.permanent record)).weaken (fun _ _ _ known => ?_)
      fun _ _ holds => holds
    exact ⟨record,state,known.2,rfl,holds,requested⟩
  · next fresh =>
    refine Interleaving.Runs.bind ((save_runs _).strengthen fun _ _ known =>
      ⟨holds.drives known,.cancelled (Bool.eq_false_of_not_eq_true fresh)⟩) fun cancelled => ?_
    refine Interleaving.Runs.assuming fun written => ?_
    refine (summarize_runs (Drives.permanent record.runId state.plan cancelled)).weaken
      (fun _ w valid drives => ?_) fun _ _ holds => holds
    obtain ⟨saved,there,unsaved⟩ := drives.held
    have alike := RunState.alike_of_unsaved unsaved
    refine ⟨cancelled.record,saved,drives.known,drives.runId,there,?_⟩
    rw [← alike.cancelRequested,written]

/-- Every step that counts was verified once more by the thread, against its artifact. -/
structure Recounted (thread : Nat) (record : RunRecord) (state : RunState) (steps : List RunStep)
    (verified : Nat) (trace : List DriverEvent) : Prop where
  count : verified = steps.countP fun step => state.phaseOf step.id == some .verified
  accepted : ∀ step ∈ steps, ∀ s, state.step? step.id = some s → s.phase = .verified →
    ∃ result, Accepted (heard thread record trace) record.runId state.plan step s result

omit [RmcpTexts] in
theorem Recounted.permanent (thread : Nat) (record : RunRecord) (state : RunState)
    (steps : List RunStep) (verified : Nat) :
    Permanent fun w : DriverWorld => Recounted thread record state steps verified w.trace := by
  have grows : ∀ (e : DriverEvent) past, Recounted thread record state steps verified past →
      Recounted thread record state steps verified (e :: past) := by
    intro e past recounted
    refine ⟨recounted.count,fun step member s found phase => ?_⟩
    obtain ⟨result,accepted⟩ := recounted.accepted step member s found phase
    exact ⟨result,accepted.suffix (List.suffix_cons _ _)⟩
  exact .grown grows

theorem verifySteps_runs (steps : List RunStep) :
    Interleaving.Runs runSystem Inv i (fun w => Known record w.trace)
      (RunDriver.verifySteps record.runId state steps)
      (fun verified w => Recounted i record state steps verified w.trace ∧ Known record w.trace)
      fun _ => True := by
  have permanent := Known.permanent record
  induction steps with
  | nil => exact pure_runs permanent fun _ _ known => ⟨⟨rfl,nofun⟩,known⟩
  | cons step rest ih =>
    rw [RunDriver.verifySteps]
    refine Interleaving.Runs.bind (required_runs permanent) fun s => ?_
    refine Interleaving.Runs.assuming fun found => ?_
    split
    · next phase =>
      refine Interleaving.Runs.bind (tryVerify_runs permanent fun _ known => known) fun outcome => ?_
      rcases outcome with error | result
      · exact (Interleaving.Runs.throw permanent.stable fun _ _ _ => trivial).strengthen
          fun _ _ holds => holds.2
      have accepted := Accepted.permanent i record record.runId state.plan step s result
      refine (Interleaving.Runs.bind (checked_runs (accepted.and permanent)) fun _ => ?_).strengthen
        fun _ _ holds => ⟨holds.1 _ rfl,holds.2⟩
      refine Interleaving.Runs.assuming fun _ => ?_
      refine Interleaving.Runs.bind (((ih.keep accepted).weaken (fun _ _ _ holds => holds)
        fun _ _ _ => trivial).strengthen fun _ _ holds => ⟨holds.2,holds.1⟩) fun verified => ?_
      have recounted := Recounted.permanent i record state rest verified
      refine pure_runs ((recounted.and permanent).and accepted) fun w _ holds => ?_
      refine ⟨⟨?_,?_⟩,holds.1.2⟩
      · rw [holds.1.1.count,List.countP_cons_of_pos]
        rw [RunState.phaseOf,found,Option.map_some,phase]
        exact beq_self_eq_true _
      · refine List.forall_mem_cons.mpr ⟨fun t there _ => ?_,holds.1.1.accepted⟩
        rw [found] at there
        cases there
        exact ⟨result,holds.2⟩
    · next other =>
      refine ih.weaken (fun verified w _ holds => ⟨⟨?_,?_⟩,holds.2⟩) fun _ _ holds => holds
      · rw [holds.1.count,List.countP_cons_of_neg]
        rw [RunState.phaseOf,found]
        simpa using other
      · refine List.forall_mem_cons.mpr ⟨fun t there phase => ?_,holds.1.accepted⟩
        rw [found] at there
        cases there
        exact (other phase).elim

/-- The answer to a verification counts the steps that a version of the run has verified. -/
def Reverified (thread : Nat) (id : String) (value : Value) (trace : List DriverEvent) : Prop :=
  ∃ record state verified, Known record trace ∧ record.runId = id ∧ Holds record state ∧
    Recounted thread record state state.plan.steps verified trace ∧
    value.index "verifiedSteps" = toValue verified ∧
    value.index "complete" = .bool (verified == state.plan.steps.length)

theorem verifyRecord_runs :
    Interleaving.Runs runSystem Inv i (fun w => Known record w.trace) (RunDriver.verifyRecord record)
      (fun value w => Reverified i record.runId value w.trace) fun _ => True := by
  rw [RunDriver.verifyRecord]
  refine Interleaving.Runs.bind stateFrom_runs fun state => ?_
  refine Interleaving.Runs.assuming fun holds => ?_
  refine Interleaving.Runs.bind (verifySteps_runs state.plan.steps) fun verified => ?_
  have recounted := Recounted.permanent i record state state.plan.steps verified
  refine pure_runs (recounted.and (Known.permanent record)) fun w _ counted => ?_
  exact ⟨record,state,verified,counted.2,rfl,holds,counted.1,rfl,rfl⟩

theorem readRun_runs (permanent : Permanent pre) :
    Interleaving.Runs runSystem Inv i pre (RunDriver.readRun caller id)
      (fun record w => record.runId = id ∧ Known record w.trace ∧ pre w) fun _ => True := by
  rw [RunDriver.readRun]
  refine Interleaving.Runs.bind (ask_runs permanent trivial) fun reply => ?_
  have asked := (Asked.permanent i pre (.getRun caller id) reply).and permanent
  refine Interleaving.Runs.bind (stored_runs asked) fun found => ?_
  refine Interleaving.Runs.assuming fun replied => ?_
  refine (required_runs asked).weaken (fun record w _ holds => ?_) fun _ _ holds => holds
  obtain ⟨rfl,asked,kept⟩ := holds
  subst replied
  obtain ⟨known,same,-⟩ := getRun_known asked
  exact ⟨same,known,kept⟩

/-- What an action that succeeded says of its run. -/
structure Acted (thread : Nat) (action id : String) (value : Value) (trace : List DriverEvent) :
    Prop where
  cancelled : action = "cancel" → CancelRequested id trace
  verified : action = "verify" → Reverified thread id value trace

theorem act_runs (action : String) :
    Interleaving.Runs runSystem Inv i (fun _ => True) (RunDriver.act caller action id args context)
      (fun value w => Acted i action id value w.trace) fun _ => True := by
  have always : Permanent fun _ : DriverWorld => True := .const True
  rw [RunDriver.act]
  refine Interleaving.Runs.bind (readRun_runs always) fun record => ?_
  refine Interleaving.Runs.assuming fun same => ?_
  subst same
  have harmless (p : Driver Value) (name : String) (other : name ≠ "cancel" ∧ name ≠ "verify")
      (runs : Interleaving.Runs runSystem Inv i (fun _ => True) p (fun _ _ => True) fun _ => True) :
      Interleaving.Runs runSystem Inv i (fun w => Known record w.trace ∧ True) p
        (fun value w => Acted i name record.runId value w.trace) fun _ => True :=
    (runs.weaken (fun _ _ _ _ => ⟨fun same => absurd same other.1,fun same => absurd same other.2⟩)
      fun _ _ holds => holds).strengthen fun _ _ _ => trivial
  split
  · exact harmless _ _ (by decide)
      ((ofExcept_runs always).weaken (fun _ _ _ _ => trivial) fun _ _ holds => holds)
  · exact harmless _ _ (by decide) (pure_runs always fun _ _ _ => trivial)
  · refine (verifyRecord_runs.weaken (fun _ _ _ holds => ⟨fun same => ?_,fun _ => holds⟩)
      fun _ _ holds => holds).strengthen fun _ _ holds => holds.1
    exact absurd same (by decide)
  · refine (cancelRun_runs.weaken (fun _ _ _ holds => ⟨fun _ => holds,fun same => ?_⟩)
      fun _ _ holds => holds).strengthen fun _ _ holds => holds.1
    exact absurd same (by decide)
  · refine harmless _ _ (by decide) ?_
    refine Interleaving.Runs.bind (readRun_runs always) fun again => ?_
    exact drive_runs.strengthen fun _ _ holds => holds.2.1
  · exact Interleaving.Runs.throw ((Known.permanent record).and always).stable fun _ _ _ => trivial

/-- The plan was valid when it was first accepted, or a run with its key is there already. -/
def Acceptable (caller : TaskRouteCaller) (plan : RunPlan) (acceptedAt : Nat)
    (trace : List DriverEvent) : Prop :=
  plan.validate acceptedAt = .ok () ∨
    ∃ r, Known r trace ∧ r.caller = caller ∧ r.runKey = plan.runKey

omit [SerdeJson.Bytes] [RmcpTexts] in
theorem Acceptable.permanent (caller : TaskRouteCaller) (plan : RunPlan) (acceptedAt : Nat) :
    Permanent fun w : DriverWorld => Acceptable caller plan acceptedAt w.trace :=
  (Permanent.const _).or (.exists fun r => (Known.permanent r).and (.const _))

theorem begin_moves {acceptedAt : Nat} :
    Moves runSystem Inv i (fun w => Acceptable caller plan acceptedAt w.trace)
      (.beginRun caller plan.runKey (toValue (RunState.accepted plan acceptedAt)))
      fun _ _ => True := by
  rintro w reply s valid acceptable ⟨fresh,acted⟩
  rcases acted with ⟨rfl,rfl⟩ | ⟨error,rfl,rfl⟩
  · obtain ⟨runs,represents,begins⟩ := valid.represents.begin fresh caller plan.runKey
      (toValue (RunState.accepted plan acceptedAt))
    generalize RunTable.beginRun fresh caller plan.runKey
      (toValue (RunState.accepted plan acceptedAt)) w.state = performed at represents begins
    obtain ⟨reply,table⟩ := performed
    cases begins with
    | refused => exact ⟨⟨⟨trivial,valid.history⟩,represents⟩,trivial⟩
    | @existing record stored owner held digest =>
      refine ⟨⟨⟨⟨.existing stored,owner,held,digest⟩,valid.history⟩,?_⟩,trivial⟩
      change RunTable.Represents table (runsOf (_ :: w.trace))
      rw [runsOf_commits rfl,← stored,Function.update_eq_self]
      exact represents
    | @accepted record new free made =>
      obtain ⟨shape,integrity,-⟩ := RunRecord.append_ok.mp made
      have runId : record.runId = fresh := by rw [shape]
      have data : record.data = toValue (RunState.accepted plan acceptedAt) := by rw [shape]
      have accepted : plan.validate acceptedAt = .ok () := by
        refine acceptable.resolve_right ?_
        rintro ⟨r,known,owner,key⟩
        obtain ⟨latest,found,later⟩ := known.later valid.history
        apply new _ latest found
        exact ⟨later.continues.caller.trans owner,later.continues.runKey.trans key⟩
      have holds : Holds record (.accepted plan acceptedAt) :=
        ⟨data,RunState.accepted_lawful accepted record.runId⟩
      have free : runsOf w.trace record.runId = none := by
        rw [runId]
        exact free
      have version : record.version = 0 := by rw [shape]
      have answers : Answers record caller plan.runKey (toValue (RunState.accepted plan acceptedAt)) := by
        rw [shape]
        exact ⟨rfl,rfl,rfl⟩
      refine ⟨⟨⟨⟨.accepted free version integrity plan acceptedAt holds,answers⟩,valid.history⟩,?_⟩,
        trivial⟩
      change RunTable.Represents table (runsOf (_ :: w.trace))
      rw [runsOf_commits rfl,runId]
      exact represents
  · exact ⟨valid.quiet rfl trivial,trivial⟩

theorem submitRun_runs :
    Interleaving.Runs runSystem Inv i (fun _ => True) (RunDriver.submitRun caller args context)
      (fun _ _ => True) fun _ => True := by
  have always : Permanent fun _ : DriverWorld => True := .const True
  rw [RunDriver.submitRun]
  refine Interleaving.Runs.bind (required_runs always) fun value => ?_
  refine Interleaving.Runs.assuming fun _ => ?_
  refine Interleaving.Runs.bind (demand_runs always) fun _ => ?_
  refine Interleaving.Runs.assuming fun _ => ?_
  refine Interleaving.Runs.bind (required_runs always) fun plan => ?_
  refine Interleaving.Runs.assuming fun _ => ?_
  refine Interleaving.Runs.bind (nowUnixMs_runs always) fun acceptedAt => ?_
  have finds : RunOp.findRun caller plan.runKey ∈ plain := trivial
  refine Interleaving.Runs.bind (ask_runs always finds) fun reply => ?_
  have asked := (Asked.permanent i (fun _ : DriverWorld => True) (.findRun caller plan.runKey)
    reply).and always
  refine Interleaving.Runs.bind (stored_runs asked) fun existing => ?_
  refine Interleaving.Runs.assuming fun replied => ?_
  subst replied
  refine Interleaving.Runs.bind (checked_runs asked) fun _ => ?_
  refine Interleaving.Runs.assuming fun valid => ?_
  have acceptable := Acceptable.permanent caller plan acceptedAt
  refine Interleaving.Runs.strengthen ?_ fun w (_ : Inv w) holds =>
    (show Acceptable caller plan acceptedAt w.trace from ?_)
  · have opens : RunOp.openRoot plan.artifactRoot ∈ plain := trivial
    refine Interleaving.Runs.bind ((ask_runs acceptable opens).weaken
      (fun _ _ _ holds => holds.2) fun _ _ holds => holds) fun opened => ?_
    refine Interleaving.Runs.bind (checked_runs acceptable) fun _ => ?_
    refine Interleaving.Runs.assuming fun _ => ?_
    refine Interleaving.Runs.bind (authorizePlan_runs acceptable) fun _ => ?_
    refine Interleaving.Runs.assuming fun _ => ?_
    refine Interleaving.Runs.bind (Interleaving.Runs.perform acceptable.stable begin_moves
      fun _ => always.stable) fun begun => ?_
    refine Interleaving.Runs.bind (stored_runs always) fun record => ?_
    refine Interleaving.Runs.assuming fun _ => ?_
    exact (ofExcept_runs always).weaken (fun _ _ _ _ => trivial) fun _ _ holds => holds
  · rcases existing with _ | record
    · exact .inl valid
    · obtain ⟨known,owner,key⟩ := findRun_known holds.1
      exact .inr ⟨record,known,owner,key⟩

/-- What a call on a run has done when it comes back with a value. -/
def Served (thread : Nat) (request : RunRequest) (value : Value) (trace : List DriverEvent) : Prop :=
  ∀ action id, (Value.find "action" request.args).bind Value.asStr = some action →
    action ≠ "submit" → (Value.find "runId" request.args).bind Value.asStr = some id →
      Acted thread action id value trace

theorem toolCall_runs :
    Interleaving.Runs runSystem Inv i (fun _ => True) (RunDriver.call args context)
      (fun value w => Served i ⟨args,context⟩ value w.trace) fun _ => True := by
  have always : Permanent fun _ : DriverWorld => True := .const True
  rw [RunDriver.call]
  refine Interleaving.Runs.bind (demand_runs always) fun _ => ?_
  refine Interleaving.Runs.assuming fun _ => ?_
  refine Interleaving.Runs.bind (ofExcept_runs always) fun caller => ?_
  refine Interleaving.Runs.assuming fun _ => ?_
  refine Interleaving.Runs.bind (required_runs always) fun action => ?_
  refine Interleaving.Runs.assuming fun named => ?_
  split
  · next submits =>
    refine submitRun_runs.weaken (fun _ _ _ _ other _ acts differs _ => ?_) fun _ _ holds => holds
    exact absurd ((Option.some.inj (acts.symm.trans named)).trans submits) differs
  · refine Interleaving.Runs.bind (required_runs always) fun id => ?_
    refine Interleaving.Runs.assuming fun identified => ?_
    refine Interleaving.Runs.bind (demand_runs always) fun _ => ?_
    refine Interleaving.Runs.assuming fun _ => ?_
    refine (act_runs action).weaken (fun _ _ _ holds other target acts _ same => ?_)
      fun _ _ holds => holds
    rw [← Option.some.inj (named.symm.trans acts),← Option.some.inj (identified.symm.trans same)]
    exact holds

/-- Whatever the drivers are called for, the histories keep their reasons. -/
theorem run_certified : Certified runSystem Inv
    fun request i result w => ∀ value, result = .ok value → Served i request value w.trace where
  initial table start := by
    cases start
    exact ⟨trivial,.empty⟩
  drift _ _ _ moved := moved.elim
  start _ _ valid := ⟨valid.history,valid.represents⟩
  body request i := by
    refine Triple.weaken (Triple.strengthen toolCall_runs fun _ _ _ => trivial) ?_
    intro outcome w _ holds
    rcases outcome with error | value
    · exact nofun
    · rintro _ ⟨⟩
      exact holds

end RunSystem
end GaugeMesh
