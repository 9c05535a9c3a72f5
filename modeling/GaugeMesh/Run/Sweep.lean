import GaugeMesh.Proxy.Library
import GaugeMesh.Run.Progress

/-! A sweep over a run where nobody comes in between: an idle step is passed over, one that is ready
goes out, and one whose task has completed is verified. The run at the end has all three. -/
namespace GaugeMesh
open Json Interleaving

namespace RunSystem

variable [SerdeJson] [SerdeJson.Bytes] [Sha256] [RmcpTexts]

variable {i : Nat} {w w' : DriverWorld} {plan : RunPlan} {lease : CapabilityLease}
  {context : RunContext} {args : JsonObject} {now : Nat} {step : RunStep} {driving : Driving}

theorem stepOf_can {s : StepState} (found : driving.state.step? step.id = some s) :
    Can runSystem i (RunDriver.stepOf driving.state step) w fun t w' => t = s ∧ Unchanged w w' :=
  required_can found

theorem observeDeadline_can (early : now < driving.state.plan.deadlineUnixMs) :
    Can runSystem i (RunDriver.observeDeadline driving) w fun d w' => d = driving ∧ Unchanged w w' := by
  rw [RunDriver.observeDeadline]
  refine Can.bind (nowUnixMs_can now) fun now w1 first => ?_
  obtain ⟨rfl,first⟩ := first
  refine Can.elseBranch (fun late => ?_) (Can.value ⟨rfl,first⟩)
  omega

/-- No step is in a phase of this kind. -/
def Free (state : RunState) (steps : List RunStep) (kind : StepState → Prop) : Prop :=
  ∀ step ∈ steps, ∃ s, state.step? step.id = some s ∧ ¬kind s

theorem reverify_can {steps : List RunStep}
    (free : Free driving.state steps fun s => s.phase = .verified) :
    Can runSystem i (RunDriver.reverify steps driving) w fun d w' => d = driving ∧ Unchanged w w' := by
  induction steps generalizing w with
  | nil => exact Can.value ⟨rfl,.refl w⟩
  | cons step rest ih =>
    obtain ⟨⟨s,found,idle⟩,tail⟩ := List.forall_mem_cons.mp free
    have head : Can runSystem i (RunDriver.reverifyStep driving step) w
        fun d w' => d = driving ∧ Unchanged w w' := by
      rw [RunDriver.reverifyStep]
      refine Can.bind (stepOf_can found) fun s w1 first => ?_
      obtain ⟨rfl,first⟩ := first
      exact Can.elseBranch idle (Can.value ⟨rfl,first⟩)
    rw [RunDriver.reverify]
    refine Can.bind head fun driving w1 first => ?_
    obtain ⟨rfl,first⟩ := first
    exact (ih tail).mono fun _ _ _ later => ⟨later.1,first.trans later.2⟩

theorem recover_can {steps : List RunStep}
    (free : Free driving.state steps fun s => s.phase = .submitting) :
    Can runSystem i (RunDriver.recover context steps driving) w
      fun d w' => d = driving ∧ Unchanged w w' := by
  induction steps generalizing w with
  | nil => exact Can.value ⟨rfl,.refl w⟩
  | cons step rest ih =>
    obtain ⟨⟨s,found,idle⟩,tail⟩ := List.forall_mem_cons.mp free
    have head : Can runSystem i (RunDriver.recoverStep context driving step) w
        fun d w' => d = driving ∧ Unchanged w w' := by
      rw [RunDriver.recoverStep]
      refine Can.bind (stepOf_can found) fun s w1 first => ?_
      obtain ⟨rfl,first⟩ := first
      exact Can.elseBranch idle (Can.value ⟨rfl,first⟩)
    rw [RunDriver.recover]
    refine Can.bind head fun driving w1 first => ?_
    obtain ⟨rfl,first⟩ := first
    exact (ih tail).mono fun _ _ _ later => ⟨later.1,first.trans later.2⟩

theorem poll_can {steps : List RunStep}
    (free : Free driving.state steps fun s => s.polledFor ≠ none) :
    Can runSystem i (RunDriver.poll context steps driving) w
      fun d w' => d = (driving,false) ∧ Unchanged w w' := by
  induction steps generalizing w with
  | nil => exact Can.value ⟨rfl,.refl w⟩
  | cons step rest ih =>
    obtain ⟨⟨s,found,idle⟩,tail⟩ := List.forall_mem_cons.mp free
    have head : Can runSystem i (RunDriver.pollStep context driving step) w
        fun d w' => d = (driving,false) ∧ Unchanged w w' := by
      rw [RunDriver.pollStep]
      refine Can.bind (stepOf_can found) fun s w1 first => ?_
      obtain ⟨rfl,first⟩ := first
      rw [not_not.mp idle]
      exact Can.value ⟨rfl,first⟩
    rw [RunDriver.poll]
    refine Can.bind head fun polled w1 first => ?_
    obtain ⟨rfl,first⟩ := first
    refine Can.bind (ih tail) fun polled w2 second => ?_
    obtain ⟨rfl,second⟩ := second
    exact Can.value ⟨rfl,first.trans second⟩

/-- A sweep over a run that is under way and has nothing to recover: it is described after the poll,
where that saw an outcome, and else after what could be dispatched. -/
theorem drive_can {r : RunRecord} {a : RunState} {leaseId : String}
    (post : Driving → DriverWorld → Prop) (loads : stateFrom r = .ok a) (going : a.cancelRequested = false)
    (authorizes : Authorizes a.plan args context now leaseId lease) (early : now < a.plan.deadlineUnixMs)
    (reverifies : ∀ w', Unchanged w w' → Can runSystem i (RunDriver.reverify a.plan.steps ⟨r,a⟩) w'
      fun d w'' => d = ⟨r,a⟩ ∧ Unchanged w' w'')
    (free : Free a a.plan.steps fun s => s.phase = .submitting)
    (polls : ∀ w', Unchanged w w' → Can runSystem i (RunDriver.poll context a.plan.steps ⟨r,a⟩) w'
      fun polled w'' => polled.1.state.stopped = false ∧
        (polled.2 = true ∧ Known polled.1.record w''.trace ∧ post polled.1 w'' ∨
          polled.2 = false ∧ Can runSystem i (RunDriver.dispatch args context a.plan.steps polled.1) w''
            fun last w''' => Known last.record w'''.trace ∧ post last w''')) :
    Can runSystem i (RunDriver.drive r args context) w fun _ w' => ∃ last, post last w' := by
  have summarizes {last : Driving} {w' : DriverWorld} (known : Known last.record w'.trace)
      (holds : post last w') : Can runSystem i (RunDriver.summarize last) w'
        fun _ w'' => ∃ last, post last w'' := by
    refine Can.live fun live => ?_
    obtain ⟨b,-,held⟩ := known.loads (live_inv live).history
    obtain ⟨value,described⟩ := summary_can live known held
    exact Can.ofExcept described ⟨last,holds⟩
  have read : Can runSystem i (Fallible.ofExcept (stateFrom r) : Driver RunState) w
      fun b w' => b = a ∧ w' = w := Can.ofExcept loads ⟨rfl,rfl⟩
  rw [RunDriver.drive]
  refine Can.bind read fun b w' read => ?_
  obtain ⟨rfl,rfl⟩ := read
  refine Can.thenBranch (by simp [going]) (Can.bind (authorizePlan_can authorizes) fun _ w1 first => ?_)
  refine Can.bind (observeDeadline_can early) fun dated w2 second => ?_
  obtain ⟨rfl,second⟩ := second
  refine Can.bind (reverifies w2 (first.trans second)) fun verified w3 third => ?_
  obtain ⟨rfl,third⟩ := third
  refine Can.bind (recover_can free) fun recovered w4 fourth => ?_
  obtain ⟨rfl,fourth⟩ := fourth
  have till4 := first.trans (second.trans (third.trans fourth))
  refine Can.bind (polls w4 till4) fun polled w5 done => ?_
  obtain ⟨polled,observed⟩ := polled
  obtain ⟨open',⟨rfl,known,holds⟩ | ⟨rfl,dispatches⟩⟩ := done
  · refine Can.elseBranch (by simp [open']) (Can.thenBranch rfl ?_)
    exact summarizes known holds
  · refine Can.elseBranch (by simp [open']) (Can.elseBranch Bool.false_ne_true ?_)
    exact Can.bind dispatches fun last w6 done => summarizes done.1 done.2
/-- The call that a step is submitted with. -/
def callFor (context : RunContext) (driving : Driving) (step : RunStep) (tool : FederatedTool)
    (arguments : Entries Value) (submission : Value) : StepCall :=
  ⟨driving.record.runId,step.id,tool,arguments,submission,context.identity⟩

/-- A committed submission goes out, and the state with its answer is saved. -/
theorem submitStep_can {s : StepState} {tool : FederatedTool} {arguments : Entries Value}
    {submission : Value} (response : Except McpError CallToolResponse)
    (current : runsOf w.trace driving.record.runId = some driving.record)
    (holds : Holds driving.record driving.state) (going : driving.state.stopped = false)
    (found : driving.state.step? step.id = some s)
    (bound : context.federation.tool step.aliasName = some tool)
    (has : s.arguments = some arguments) (submits : s.submission = some submission)
    (room : driving.record.version < maxRunVersion)
    (shallow : driving.record.data.depth ≤ SerdeJson.recursionLimit)
    (small : (toValue (driving.state.set step.id (s.acknowledged response))).byteLength ≤
      maxRunDocumentBytes) :
    Can runSystem i (RunDriver.submitStep context driving step) w fun next w' =>
      (⟨i,.submit (callFor context driving step tool arguments submission),response⟩ : DriverEvent) ∈
        w'.trace ∧
      Advances driving (driving.state.set step.id (s.acknowledged response)) next w w' := by
  rw [RunDriver.submitStep]
  refine Can.bind (stepOf_can found) fun s w1 first => ?_
  obtain ⟨rfl,first⟩ := first
  refine Can.bind (required_can bound) fun tool w2 second => ?_
  obtain ⟨rfl,second⟩ := second
  refine Can.bind (required_can has) fun arguments w3 third => ?_
  obtain ⟨rfl,third⟩ := third
  refine Can.bind (required_can submits) fun submission w4 fourth => ?_
  obtain ⟨rfl,fourth⟩ := fourth
  have till4 := first.trans (second.trans (third.trans fourth))
  let op := RunOp.submit (callFor context driving step tool arguments submission)
  have sent : Can runSystem i (RunDriver.ask op : Driver op.Ret) w4 fun v w' =>
      v = response ∧ (⟨i,op,response⟩ : DriverEvent) ∈ w'.trace ∧ Unchanged w4 w' :=
    Can.perform response w4.state rfl ⟨rfl,List.mem_cons_self,.after rfl rfl⟩
  have goes : ¬driving.state.stopped := by simp [going]
  refine Can.elseBranch goes (Can.bind sent fun response w5 fifth => Can.live fun live' => ?_)
  obtain ⟨rfl,happened,fifth⟩ := fifth
  have till5 := till4.trans fifth
  have here : runsOf w5.trace driving.record.runId = some driving.record := by
    rw [till5.runs]
    exact current
  have saves : Can runSystem i (RunDriver.saveStep driving step (s.acknowledged response)
      "task_identity_observed") w5 fun next =>
        Advances driving (driving.state.set step.id (s.acknowledged response)) next w5 :=
    save_can live' here holds rfl room shallow (by decide) small
  refine saves.mono fun next w' _ advances => ?_
  exact ⟨advances.past.subset happened,till5.advances advances⟩

/-- A step that is ready is authorized, committed and submitted. -/
theorem dispatchStep_can {s : StepState} {tool : FederatedTool} {arguments : Entries Value}
    {leaseId : String} (response : Except McpError CallToolResponse)
    (current : runsOf w.trace driving.record.runId = some driving.record)
    (holds : Holds driving.record driving.state)
    (authorizes : Authorizes driving.state.plan args context now leaseId lease)
    (resolved : resolveInputs step driving.state = .ok arguments)
    (bound : context.federation.tool step.aliasName = some tool)
    (input : Inputs.validateInput tool.inputSchema (.object arguments) 0 = .ok ())
    (short : (Value.object arguments).byteLength ≤ 8192) {submitting : StepState}
    (shape : submitting = { s with
      phase := .submitting
      arguments := some arguments
      submission := some (stepSubmission driving.record.runId driving.state.plan step arguments now) })
    (found : (driving.state.set step.id submitting).step? step.id = some submitting)
    (going : (driving.state.set step.id submitting).stopped = false)
    (written : ∀ entry ∈ (driving.state.set step.id submitting).steps, entry.2.Written)
    (room : driving.record.version + 1 < maxRunVersion)
    (shallow : driving.record.data.depth ≤ SerdeJson.recursionLimit)
    (shallow' : (toValue (driving.state.set step.id submitting)).depth ≤ SerdeJson.recursionLimit)
    (small : (toValue (driving.state.set step.id submitting)).byteLength ≤ maxRunDocumentBytes)
    (small' : (toValue ((driving.state.set step.id submitting).set step.id
      (submitting.acknowledged response))).byteLength ≤ maxRunDocumentBytes) :
    Can runSystem i (RunDriver.dispatchStep args context driving step s) w fun next w' =>
      (∃ submission, (⟨i,.submit (callFor context driving step tool arguments submission),response⟩ :
        DriverEvent) ∈ w'.trace) ∧
      ∃ middle w1, Advances driving (driving.state.set step.id submitting) middle w w1 ∧
        Advances middle ((driving.state.set step.id submitting).set step.id
          (submitting.acknowledged response)) next w1 w' := by
  rw [RunDriver.dispatchStep]
  refine Can.bind (authorizePlan_can authorizes) fun _ w1 first => ?_
  refine Can.bind (checked_can resolved) fun arguments w2 second => ?_
  obtain ⟨rfl,second⟩ := second
  refine Can.bind (required_can bound) fun tool w3 third => ?_
  obtain ⟨rfl,third⟩ := third
  refine Can.bind (checked_can input) fun _ w4 fourth => ?_
  refine Can.bind (demand_can short) fun _ w5 fifth => ?_
  refine Can.bind (nowUnixMs_can now) fun now w6 sixth => Can.live fun live' => ?_
  obtain ⟨rfl,sixth⟩ := sixth
  have till6 := first.trans (second.trans (third.trans (fourth.2.trans (fifth.trans sixth))))
  have here : runsOf w6.trace driving.record.runId = some driving.record := by
    rw [till6.runs]
    exact current
  have saves : Can runSystem i (RunDriver.saveStep driving step submitting "task_submission_intent")
      w6 fun middle => Advances driving (driving.state.set step.id submitting) middle w6 :=
    save_can live' here holds rfl (by omega) shallow (by decide) small
  dsimp only
  rw [← shape]
  refine Can.bind saves fun middle w7 advances => Can.live fun live'' => ?_
  obtain ⟨record,state⟩ := middle
  obtain rfl : state = _ := advances.same
  have later := advances.holds live'' written
  have submits : submitting.submission =
      some (stepSubmission driving.record.runId driving.state.plan step arguments now) := by
    rw [shape]
  refine (submitStep_can response advances.current later going found bound
    (by rw [shape]) submits (advances.continues.2.2 ▸ room) (advances.data ▸ shallow') small').mono
    fun next w' _ sent => ?_
  have runId : record.runId = driving.record.runId := advances.continues.1
  have same (state : RunState) (submission : Value) :
      callFor context ⟨record,state⟩ step tool arguments submission =
        callFor context driving step tool arguments submission := by
    rw [callFor,callFor,runId]
  rw [same] at sent
  exact ⟨⟨_,sent.1⟩,_,w7,till6.advances advances,sent.2⟩

/-- What is asked of an artifact beside its evidence. -/
structure Agreed (s : StepState) (terminal artifact : Value) : Prop where
  bound : (artifact.index "binding").same
    (((terminal.index "result").index "_meta").index taskExecutionMetaKey)
  kept : s.verifiedArtifact.all (·.same artifact)

theorem verifyStep_can {answered : RunAnswers} {runId path : String} {s : StepState}
    {terminal submission artifact : Value} {bytes : List UInt8}
    (attested : Attested answered runId plan step s terminal submission path bytes artifact)
    (fits : Agreed s terminal artifact) :
    Can runSystem i (RunDriver.verifyStep runId plan step s) w fun result w' =>
      result = (artifact,verificationReport step bytes artifact) ∧ Unchanged w w' := by
  obtain ⟨described,object,same⟩ := attested.described
  rw [RunDriver.verifyStep]
  refine Can.bind (required_can attested.ended) fun terminal w1 first => ?_
  obtain ⟨rfl,first⟩ := first
  refine Can.bind (demand_can attested.completed) fun _ w2 second => ?_
  refine Can.bind (required_can attested.submitted) fun submission w3 third => ?_
  obtain ⟨rfl,third⟩ := third
  refine Can.bind (demand_can attested.bound) fun _ w4 fourth => ?_
  refine Can.bind (required_can attested.located) fun path w5 fifth => ?_
  obtain ⟨rfl,fifth⟩ := fifth
  refine Can.bind (ask_can (.readArtifact ..) (.ok bytes) rfl rfl rfl) fun _ w6 sixth => ?_
  obtain ⟨rfl,sixth⟩ := sixth
  have read : Can runSystem i (Fallible.ofExcept (.ok bytes) : Fallible RunOp RunOp.Ret String _) w6
      fun v w' => v = bytes ∧ Unchanged w6 w' := Can.ofExcept rfl ⟨rfl,.refl w6⟩
  refine Can.bind read fun bytes w7 seventh => ?_
  obtain ⟨rfl,seventh⟩ := seventh
  refine Can.bind (demand_can attested.digest) fun _ w8 eighth => ?_
  refine Can.bind (required_can attested.parsed) fun artifact w9 ninth => ?_
  obtain ⟨rfl,ninth⟩ := ninth
  refine Can.bind (required_can object) fun described w10 tenth => ?_
  obtain ⟨rfl,tenth⟩ := tenth
  refine Can.bind (demand_can ⟨same,fits.bound⟩) fun _ w11 eleventh => ?_
  refine Can.bind (demand_can fits.kept) fun _ w12 twelfth => ?_
  refine Can.bind (demand_can attested.accepts) fun _ w13 last => ?_
  exact Can.value ⟨rfl,first.trans (second.trans (third.trans (fourth.trans (fifth.trans (sixth.trans
    (seventh.trans (eighth.trans (ninth.trans (tenth.trans (eleventh.trans
      (twelfth.trans last)))))))))))⟩

/-- The thread was told this of the task, and no other task was asked about. -/
structure Told (i : Nat) (id : String) (result : GetTaskResult) (w w' : DriverWorld) : Prop where
  past : w.trace <:+ w'.trace
  asked : ∃ identity, (⟨i,.getTask id identity,.ok result⟩ : DriverEvent) ∈ w'.trace
  only : ∀ e ∈ w'.trace, e ∈ w.trace ∨ asksTask e.op = false ∨
    ∃ identity, e = ⟨i,.getTask id identity,.ok result⟩

omit [SerdeJson] [SerdeJson.Bytes] [Sha256] [RmcpTexts] in
theorem Steady.polled {tasks : TaskAnswers} {id : String} {result : GetTaskResult}
    (steady : Steady tasks w.trace) (told : Told i id result w w')
    (known : tasks.get id = .ok result) : Steady tasks w'.trace where
  cancel other identity answer := by
    rintro ⟨thread,happened⟩
    rcases told.only _ happened with old | elsewhere | ⟨_,same⟩
    · exact steady.cancel other identity answer ⟨thread,old⟩
    · cases elsewhere
    · cases same
  get other identity reply := by
    rintro ⟨thread,happened⟩
    rcases told.only _ happened with old | elsewhere | ⟨_,same⟩
    · exact steady.get other identity reply ⟨thread,old⟩
    · cases elsewhere
    · cases same
      exact known.symm

/-- A task that has completed makes its step a verified one. -/
theorem pollStep_can {answered : RunAnswers} {id path : String} {s : StepState}
    {result : GetTaskResult} {terminal submission artifact : Value} {bytes : List UInt8}
    (current : runsOf w.trace driving.record.runId = some driving.record)
    (holds : Holds driving.record driving.state) (going : driving.state.ending = false)
    (found : driving.state.step? step.id = some s) (polled : s.polledFor = some id)
    (document : RmcpTexts.getTaskResult result = some terminal)
    (reconciled : (((terminal.index "_meta").index taskRouteMetaKey).index "routePhase").asStr ≠
      some "reconciliation_required")
    (attested : Attested answered driving.record.runId driving.state.plan step
      { s with terminal := some terminal } terminal submission path bytes artifact)
    (fits : Agreed s terminal artifact) {next : StepState}
    (shape : next = { s with
      phase := .verified
      terminal := some terminal
      verifiedArtifact := some artifact
      verification := some (verificationReport step bytes artifact) })
    (room : driving.record.version < maxRunVersion)
    (shallow : driving.record.data.depth ≤ SerdeJson.recursionLimit)
    (small : (toValue (driving.state.set step.id next)).byteLength ≤ maxRunDocumentBytes) :
    Can runSystem i (RunDriver.pollStep context driving step) w fun polled w' => polled.2 = true ∧
      ∃ w1, Told i id result w w1 ∧
        Advances driving (driving.state.set step.id next) polled.1 w1 w' := by
  rw [RunDriver.pollStep]
  refine Can.bind (stepOf_can found) fun s w1 first => ?_
  obtain ⟨rfl,first⟩ := first
  rw [polled]
  have left : Can runSystem i (RunDriver.cancelStep context driving step id) w1
      fun d w' => d = driving ∧ Unchanged w1 w' := by
    rw [RunDriver.cancelStep]
    refine Can.bind (stepOf_can found) fun s w2 second => ?_
    obtain ⟨rfl,second⟩ := second
    refine Can.elseBranch ?_ (Can.value ⟨rfl,second⟩)
    rw [going]
    exact fun both => Bool.false_ne_true both.1
  refine Can.bind left fun driving w2 second => ?_
  obtain ⟨rfl,second⟩ := second
  let asked : DriverEvent := ⟨i,.getTask id context.identity,.ok result⟩
  have asks : Can runSystem i (RunDriver.ask (.getTask id context.identity) : Driver _) w2
      fun v w' => v = .ok result ∧ w'.trace = asked :: w2.trace :=
    Can.perform (.ok result) w2.state rfl ⟨rfl,rfl⟩
  refine Can.bind asks fun _ w3 third => ?_
  obtain ⟨rfl,third⟩ := third
  refine Can.bind (stepOf_can found) fun s w4 fourth => ?_
  obtain ⟨rfl,fourth⟩ := fourth
  have observed : Can runSystem i (RunDriver.observe driving step s (.ok result)) w4
      fun v w' => v = some next ∧ Unchanged w4 w' := by
    rw [RunDriver.observe]
    refine Can.bind (required_can document) fun terminal w5 fifth => ?_
    obtain ⟨rfl,fifth⟩ := fifth
    refine Can.elseBranch reconciled ?_
    have status := attested.completed.1
    split
    · have verified : Can runSystem i (RunDriver.completeStep driving step
          { s with terminal := some terminal }) w5 fun v w' => v = next ∧ Unchanged w5 w' := by
        rw [RunDriver.completeStep]
        have tried : Can runSystem i (RunDriver.tryVerify driving.record.runId driving.state.plan step
            { s with terminal := some terminal }) w5 fun v w' =>
              v = .ok (artifact,verificationReport step bytes artifact) ∧ Unchanged w5 w' :=
          Can.lift ((verifyStep_can attested ⟨fits.bound,fits.kept⟩).mono
            fun v w' _ done => ⟨congrArg Except.ok done.1,done.2⟩)
        refine Can.bind tried fun v w6 sixth => ?_
        obtain ⟨rfl,sixth⟩ := sixth
        exact Can.value ⟨shape.symm,sixth⟩
      refine Can.bind verified fun v w6 sixth => ?_
      obtain ⟨rfl,sixth⟩ := sixth
      exact Can.value ⟨rfl,fifth.trans sixth⟩
    · next other => simp [status] at other
    · next other => simp [status] at other
    · next other _ _ => exact absurd status other
  refine Can.bind observed fun v w5 fifth => Can.live fun live' => ?_
  obtain ⟨rfl,fifth⟩ := fifth
  have till2 := first.trans second
  have after := fourth.trans fifth
  have here : runsOf w5.trace driving.record.runId = some driving.record := by
    rw [after.runs,third,runsOf_quiet rfl,till2.runs]
    exact current
  have occurred : asked :: w2.trace <:+ w5.trace := third ▸ after.past
  have reported : Told i id result w w5 := by
    refine ⟨till2.past.trans ((List.suffix_cons _ _).trans occurred),
      ⟨_,occurred.subset List.mem_cons_self⟩,fun e happened => ?_⟩
    rcases after.untasked e happened with before | other
    · rw [third] at before
      rcases List.mem_cons.mp before with rfl | old
      · exact .inr (.inr ⟨_,rfl⟩)
      · exact (till2.untasked e old).imp_right .inl
    · exact .inr (.inl other)
  have saves : Can runSystem i (RunDriver.saveStep driving step next "task_outcome_observed") w5
      fun saved => Advances driving (driving.state.set step.id next) saved w5 :=
    save_can live' here holds rfl room shallow (by decide) small
  refine Can.bind saves fun saved w6 advances => ?_
  exact Can.value ⟨rfl,w5,reported,advances⟩

end RunSystem

namespace Reference

def errorText : McpError → String
  | .invalidParams message | .internalError message => message

scoped instance rmcpTexts : RmcpTexts where
  getTaskResult result := some (.object (taskFields result.task.task ++ payloadFields result.task.payload ++
    (result.metaObject.map fun object => ("_meta",Value.object object)).toList))
  errorText := errorText
  debugResponse
    | .ok _ => "response"
    | .error error => errorText error

end Reference

namespace ExampleRun
open Reference

def capability : CapabilityId := ⟨⟨"source"⟩,.tool,.default,.default,⟨"1"⟩,.default⟩

def schema : Value := .object [
  ("additionalProperties",.bool false),
  ("properties",.object [("topic",.object [("type",.string "string")])]),
  ("type",.string "object")]

def tool : FederatedTool := ⟨capability,"lookup",schema,.nonIdempotentWrite,.null⟩

def policy : ArtifactPolicy := ⟨"gaugemesh.json-artifact-policy/1",[⟨"/ok",.bool true,true⟩]⟩

def inputs : Entries RunInput := [("topic",.literal (.string "routes"))]

def arguments : Entries Value := [("topic",.string "routes")]

noncomputable def step : RunStep where
  id := "only"
  dependsOn := []
  aliasName := "lookup"
  capabilityId := capability.digest
  providerInterfaceVersion := capability.schemaDigest.toString
  arguments := inputs
  inputsSha256 := .ofJson (toValue inputs)
  policy := policy
  policySha256 := .ofJson (toValue policy)
  permittedEffect := .nonIdempotentWrite
  maxRuntimeMs := 1000
  maxArtifactBytes := 1048576

/-- A step like that one, under another name. -/
noncomputable def named (name : String) : RunStep := { step with id := name }

noncomputable def plan : RunPlan where
  schemaVersion := "gaugemesh.run-plan/1"
  runKey := "key"
  deadlineUnixMs := 5000
  maxConcurrency := 1
  maxAttempts := 1
  failurePolicy := "fail_fast_account_inflight"
  uncertaintyPolicy := "stop_no_replay"
  cancellationPolicy := "intent_then_poll"
  artifactRoot := "/artifacts"
  steps := [step]

theorem size_policy : size (toValue policy).text ≤ 1300 := by
  have check : size (Value.object [("expected",.bool true),("pointer",.string "/ok"),
      ("required",.bool true)]).text ≤ 620 := by
    refine (size_bounded [("expected",_),("pointer",_),("required",_)] [5,20,5] ?_).trans (by decide)
    exact sized (by decide) <|
      .cons size_true (.cons (size_literal 3 rfl (by decide)) (.cons size_true .nil))
  have checks : size (toValue policy.checks).text ≤ 622 := by
    have bracket : size (Value.itemsText []) = 1 := by decide
    have whole := size_array (.object [("expected",.bool true),("pointer",.string "/ok"),
      ("required",.bool true)]) []
    change size (Value.array [.object [("expected",.bool true),("pointer",.string "/ok"),
      ("required",.bool true)]]).text ≤ 622
    omega
  refine (size_bounded [("checks",_),("schemaVersion",_)] [622,242] ?_).trans (by decide)
  exact sized (by decide) <| .cons checks (.cons (size_literal 40 rfl (by decide)) .nil)

theorem policy_small : (toValue policy).byteLength ≤ 32768 := by
  rw [byteLength_eq]
  exact size_policy.trans (by decide)

theorem step_valid : plan.validateStep step = .ok () := by
  simp only [RunPlan.validateStep,Except.then_ok,ensure_ok]
  refine ⟨by decide,?_,by decide,?_,rfl,?_,by decide⟩
  · decide
  · exact ⟨by decide,by decide,rfl⟩
  · exact ⟨rfl,by decide,by decide,by decide,by decide,policy_small,rfl⟩

theorem plan_valid : plan.validate 1000 = .ok () := by
  simp only [RunPlan.validate,Except.then_ok,ensure_ok]
  refine ⟨rfl,by decide,by decide,by decide,by decide,by decide,by decide,?_,by decide⟩
  exact checkEach_ok.mpr fun other member => by
    rw [List.mem_singleton.mp member]
    exact step_valid

def identity : AuthenticatedIdentity := ⟨localPrincipal,localTenant,[]⟩

def context : RunContext := ⟨⟨[("lookup",tool)]⟩,fun _ => true,identity⟩

noncomputable def lease : CapabilityLease :=
  .issueWithSideEffects ⟨"lease-1"⟩ localPrincipal localTenant "mcp-request" [capability] ⟨∅⟩ 61000 0
    4096 1 {.nonIdempotentWrite}

theorem lease_authorizes {now : Nat} (alive : now < 61000) :
    authorizeCurrentInvocation lease identity capability .nonIdempotentWrite now = .ok () := by
  have scopes : identityAuthorizesEffect identity .nonIdempotentWrite = true := by decide
  have unexpired : ¬61000 ≤ now := by omega
  have authorized : lease.authorizeInvocation identity.principal identity.tenant capability
      .nonIdempotentWrite now = .ok () := by
    simp [CapabilityLease.authorizeInvocation,CapabilityLease.authorize,lease,
      CapabilityLease.issueWithSideEffects,sortCapabilities,reject,identity,unexpired]
  rw [authorizeCurrentInvocation,authorized,scopes]
  rfl

theorem input_valid : Inputs.validateInput schema (.object arguments) 0 = .ok () := by decide +kernel

theorem arguments_small : (Value.object arguments).byteLength ≤ 8192 := by decide

theorem authorizes {args : JsonObject} {now : Nat}
    (named : (Value.find "leaseId" args).bind Value.asStr = some "lease-1") (alive : now < 61000) :
    RunSystem.Authorizes plan args context now "lease-1" lease where
  named := named
  grants := by
    intro other member
    rw [List.mem_singleton.mp member]
    have bound : tool.identity.digest = step.capabilityId := by rw [tool,step]
    exact ⟨tool,arguments,rfl,⟨bound,rfl,rfl⟩,rfl,arguments_small,input_valid,lease_authorizes alive⟩

noncomputable def submission : Value := stepSubmission "run-1" plan step arguments 2000

noncomputable def submitting : StepState := { StepState.new with
  phase := .submitting
  arguments := some arguments
  submission := some submission }

def response : Except McpError CallToolResponse :=
  .ok (.task ⟨⟨"task-1",.working,none,"","",none,none⟩,none⟩)

noncomputable def routed : StepState := { submitting with phase := .routed, taskId := some "task-1" }

noncomputable def request : Value := .object [
  ("capabilityId",.string capability.digest.toString),
  ("task",submission)]

noncomputable def binding : Value := .object [
  ("publicTaskId",.string "task-1"),
  ("requestSha256",.string (Sha256Digest.ofJson request).toString),
  ("submission",request)]

noncomputable def artifact : Value := .object [("binding",binding),("ok",.bool true)]

noncomputable def content : Value := .object [
  ("artifact",.object [
    ("path",.string "out.json"),
    ("sha256",.string (Sha256Digest.ofBytes (written artifact)).toString)]),
  ("binding",binding),
  ("ok",.bool true)]

noncomputable def outcome : Entries Value := [
  ("_meta",.object [(taskExecutionMetaKey,binding)]),
  ("structuredContent",content)]

noncomputable def completed : GetTaskResult :=
  ⟨true,⟨⟨"task-1",.completed,none,"","",none,none⟩,.completed outcome⟩,none⟩

/-- The task proxy has completed the task and knows of no other. -/
noncomputable def obliging : TaskAnswers where
  cancel _ := .error (.invalidParams "unknown task")
  get id := if id = "task-1" then .ok completed else .error (.invalidParams "unknown task")

theorem obliging_get : obliging.get "task-1" = .ok completed := by
  rw [obliging]
  dsimp only
  exact if_pos rfl

noncomputable def terminal : Value := .object [
  ("taskId",.string "task-1"),
  ("status",.string "completed"),
  ("statusMessage",.null),
  ("createdAt",.string ""),
  ("lastUpdatedAt",.string ""),
  ("ttlMs",.null),
  ("pollIntervalMs",.null),
  ("result",.object outcome)]

theorem completed_document : RmcpTexts.getTaskResult completed = some terminal := rfl

noncomputable def verified : StepState := { routed with
  phase := .verified
  terminal := some terminal
  verifiedArtifact := some artifact
  verification := some (verificationReport step (written artifact) artifact) }

noncomputable def state (s : StepState) : RunState := ⟨plan,1000,false,false,[("only",s)]⟩

/-- Whatever was asked was answered. -/
def anything : RunAnswers := fun _ _ => True

theorem attested (s : StepState) (submitted : s.submission = some submission)
    (ended : s.terminal = some terminal) (task : s.taskId = some "task-1")
    (given : s.arguments = some arguments) :
    Attested anything "run-1" plan step s terminal submission "out.json" (written artifact)
      artifact where
  ended := ended
  completed := ⟨rfl,by simp [terminal,outcome,Value.index,Value.find]⟩
  submitted := submitted
  bound := by
    refine ⟨rfl,Value.same_refl _,?_,Value.same_refl _,rfl,rfl,rfl,rfl,rfl,rfl,rfl,Value.same_refl _,?_⟩
    · rw [task]
      rfl
    · rw [given]
      exact Value.same_refl _
  located := rfl
  read := trivial
  digest := rfl
  parsed := fromSlice_written (by decide)
  described := ⟨_,rfl,Value.same_refl _⟩
  accepts := by decide

theorem state_shallow {s : StepState} (shallow : (toValue s).depth ≤ 20) :
    (toValue (state s)).depth ≤ SerdeJson.recursionLimit := by
  have planned : (toValue plan).depth ≤ 20 := by decide
  change (Value.object [("acceptedAtUnixMs",.number (.posInt 1000)),("cancelRequested",.bool false),
    ("deadlineObserved",.bool false),("plan",toValue plan),("steps",.object [("only",toValue s)])]).depth ≤ 127
  simp only [Value.depth,Value.depthEntries]
  omega

theorem submitting_shallow : (toValue submitting).depth ≤ 20 := by decide
theorem routed_shallow : (toValue routed).depth ≤ 20 := by decide
theorem verified_shallow : (toValue verified).depth ≤ 20 := by decide

theorem size_capability : size (Value.string capability.digest.toString).text ≤ 3300 := by
  have whole : size (toValue capability).text ≤ 1600 := by
    refine (size_bounded [("source",_),("kind",_),("native_identity_digest",_),("schema_digest",_),
      ("revision",_),("source_configuration_digest",_)] [62,32,73,73,32,73] ?_).trans (by decide)
    exact sized (by decide) <|
      .cons (size_literal 10 rfl (by decide)) (.cons (size_literal 5 rfl (by decide))
        (.cons size_default (.cons size_default
          (.cons (size_literal 5 rfl (by decide)) (.cons size_default .nil)))))
  exact (size_json whole).trans (by decide)

theorem size_named {name : String} (small : size (Value.string name).text ≤ 62) :
    size (toValue (named name)).text ≤ 11030 := by
  have short : ∀ key ∈ ["alias","arguments","capabilityId","dependsOn","id","inputsSha256",
      "maxArtifactBytes","maxRuntimeMs","permittedEffect","policy","policySha256",
      "providerInterfaceVersion"], key.utf8ByteSize ≤ 32 := by decide
  have each : List.Forall₂ Sized [("alias",toValue "lookup"),("arguments",toValue inputs),
      ("capabilityId",.string capability.digest.toString),("dependsOn",.array []),
      ("id",.string name),("inputsSha256",toValue (Sha256Digest.ofJson (toValue inputs))),
      ("maxArtifactBytes",toValue (1048576 : Nat)),("maxRuntimeMs",toValue (1000 : Nat)),
      ("permittedEffect",toValue SideEffectClass.nonIdempotentWrite),("policy",toValue policy),
      ("policySha256",toValue (Sha256Digest.ofJson (toValue policy))),
      ("providerInterfaceVersion",.string capability.schemaDigest.toString)]
      [62,60,3300,5,62,129,8,8,242,1300,2609,73] :=
    sized short <| .cons (size_literal 10 rfl (by decide)) (.cons (by decide)
      (.cons size_capability (.cons (by decide) (.cons small
        (.cons (size_json (show size (toValue inputs).text ≤ 60 by decide)) (.cons (size_number (by decide))
          (.cons (size_number (by decide)) (.cons (size_literal 40 rfl (by decide))
            (.cons size_policy (.cons (size_json size_policy)
              (.cons size_default .nil)))))))))))
  exact (size_bounded _ _ each).trans (by simp)

theorem size_step : size (toValue step).text ≤ 11030 := by
  have whole : size (toValue (named "only")).text ≤ 11030 := size_named (by decide)
  exact whole

theorem size_plan : size (toValue plan).text ≤ 15000 := by
  have steps : size (toValue plan.steps).text ≤ 11040 := by
    have bracket : size (Value.itemsText []) = 1 := by decide
    have whole := size_array (toValue step) []
    have one := size_step
    change size (Value.array [toValue step]).text ≤ 11040
    omega
  refine (size_bounded [("artifactRoot",_),("cancellationPolicy",_),("deadlineUnixMs",_),
    ("failurePolicy",_),("maxAttempts",_),("maxConcurrency",_),("runKey",_),("schemaVersion",_),
    ("steps",_),("uncertaintyPolicy",_)] [242,242,8,242,8,8,242,242,11040,242] ?_).trans (by decide)
  exact sized (by decide) <|
    .cons (size_literal 40 rfl (by decide)) (.cons (size_literal 40 rfl (by decide))
      (.cons (size_number (by decide)) (.cons (size_literal 40 rfl (by decide))
        (.cons (size_number (by decide)) (.cons (size_number (by decide))
          (.cons (size_literal 40 rfl (by decide))
            (.cons (size_literal 40 rfl (by decide)) (.cons steps
              (.cons (size_literal 40 rfl (by decide)) .nil)))))))))

theorem size_key {name : String} (small : size (Value.array [.string "run-1",.string name]).text ≤ 40) :
    size (Value.string (stepKey "run-1" name)).text ≤ 1000 := by
  have whole := size_ofJson_le (.array [.string "run-1",.string name])
  have bytes : (stepKey "run-1" name).utf8ByteSize ≤ 150 := by
    have front : size ['g','m','s','_'] = 4 := by decide
    rw [size_digestText] at whole
    rw [stepKey,← size_toList,String.toList_append,size_append]
    simp only [String.toList_ofList,size_hexChars]
    change size ['g','m','s','_'] + _ ≤ 150
    omega
  have bound := size_stringText_le (stepKey "run-1" name)
  rw [Value.text]
  omega

theorem size_stepSubmission {name : String}
    (small : size (Value.array [.string "run-1",.string name]).text ≤ 40)
    (logical : size (Value.string ("run-1" ++ "/" ++ name)).text ≤ 122) :
    size (stepSubmission "run-1" plan (named name) arguments 2000).text ≤ 11000 := by
  have scope : size (Value.object [("root",toValue plan.artifactRoot),
      ("runId",toValue "run-1")]).text ≤ 700 := by
    refine (size_bounded [("root",_),("runId",_)] [242,62] ?_).trans (by decide)
    exact sized (by decide) <|
      .cons (size_literal 40 rfl (by decide)) (.cons (size_literal 10 rfl (by decide))
        .nil)
  have limits : size (Value.object [("maxArtifactBytes",toValue step.maxArtifactBytes),
      ("maxAttempts",toValue (1 : Nat)),("maxOutputBytes",toValue (32768 : Nat)),
      ("maxRuntimeMs",toValue step.maxRuntimeMs)]).text ≤ 900 := by
    refine (size_bounded [("maxArtifactBytes",_),("maxAttempts",_),("maxOutputBytes",_),
      ("maxRuntimeMs",_)] [8,8,8,8] ?_).trans (by decide)
    exact sized (by decide) <| .cons (size_number (by decide)) (.cons (size_number (by decide))
      (.cons (size_number (by decide)) (.cons (size_number (by decide)) .nil)))
  have short : ∀ key ∈ ["acceptancePolicySha256","artifactScopeSha256","attemptId","cleanupRequired",
      "correlationId","deadlineUnixMs","idempotencyKey","inputSha256","limits","logicalTaskId",
      "permittedEffect","providerInterfaceVersion","retentionMs","schemaVersion"],
      key.utf8ByteSize ≤ 32 := by decide
  have soon : min plan.deadlineUnixMs (saturatingAdd 2000 step.maxRuntimeMs) < 10 ^ 8 := by decide
  refine (size_bounded _ [2609,1409,1000,5,62,8,1000,69,900,122,242,73,8,242] ?_).trans (by simp)
  exact sized (by exact short) <| .cons (size_json size_policy) (.cons (size_json scope)
    (.cons (size_key small) (.cons size_true
      (.cons (size_literal 10 rfl (by decide)) (.cons (size_number soon)
        (.cons (size_key small) (.cons (size_json (show size (Value.object arguments).text ≤ 30 by decide))
          (.cons limits (.cons logical
            (.cons (size_literal 40 rfl (by decide)) (.cons size_default
              (.cons (size_number (by decide))
                (.cons (size_literal 40 rfl (by decide)) .nil)))))))))))))

theorem size_submission : size submission.text ≤ 11000 := by
  have whole : size (stepSubmission "run-1" plan (named "only") arguments 2000).text ≤ 11000 :=
    size_stepSubmission (by decide) (by decide)
  exact whole

theorem size_binding : size binding.text ≤ 46000 := by
  have whole : size request.text ≤ 15000 := by
    refine (size_bounded [("capabilityId",_),("task",_)] [3300,11000] ?_).trans (by decide)
    exact sized (by decide) <| .cons size_capability (.cons size_submission .nil)
  refine (size_bounded [("publicTaskId",_),("requestSha256",_),("submission",_)]
    [62,30009,15000] ?_).trans (by decide)
  exact sized (by decide) <| .cons (size_literal 10 rfl (by decide)) (.cons (size_json whole)
    (.cons whole .nil))

theorem size_artifact : size artifact.text ≤ 47000 := by
  refine (size_bounded [("binding",_),("ok",_)] [46000,5] ?_).trans (by decide)
  exact sized (by decide) <| .cons size_binding (.cons size_true .nil)

theorem size_written : size (Value.string (Sha256Digest.ofBytes (written artifact)).toString).text ≤
    94009 := by
  have bytes := length_written artifact
  have bound := size_artifact
  have whole := size_digestText (Sha256Digest.ofBytes (written artifact))
  rw [bytes_ofBytes] at whole
  omega

theorem size_terminal : size terminal.text ≤ 195000 := by
  have located : size (Value.object [("path",.string "out.json"),
      ("sha256",.string (Sha256Digest.ofBytes (written artifact)).toString)]).text ≤ 95000 := by
    refine (size_bounded [("path",_),("sha256",_)] [62,94009] ?_).trans (by decide)
    exact sized (by decide) <| .cons (size_literal 10 rfl (by decide)) (.cons size_written .nil)
  have whole : size content.text ≤ 142000 := by
    refine (size_bounded [("artifact",_),("binding",_),("ok",_)] [95000,46000,5] ?_).trans (by decide)
    exact sized (by decide) <| .cons located (.cons size_binding (.cons size_true .nil))
  have bound : size (Value.object [(taskExecutionMetaKey,binding)]).text ≤ 47000 := by
    refine (size_bounded [(taskExecutionMetaKey,_)] [46000] ?_).trans (by decide)
    exact sized (by decide) <| .cons size_binding .nil
  have result : size (Value.object outcome).text ≤ 190000 := by
    refine (size_bounded [("_meta",_),("structuredContent",_)] [47000,142000] ?_).trans (by decide)
    exact sized (by decide) <| .cons bound (.cons whole .nil)
  refine (size_bounded [("taskId",_),("status",_),("statusMessage",_),("createdAt",_),
    ("lastUpdatedAt",_),("ttlMs",_),("pollIntervalMs",_),("result",_)]
    [62,62,5,62,62,5,5,190000] ?_).trans (by decide)
  exact sized (by decide) <|
    .cons (size_literal 10 rfl (by decide)) (.cons (size_literal 10 rfl (by decide))
      (.cons size_null (.cons (size_literal 10 rfl (by decide))
        (.cons (size_literal 10 rfl (by decide)) (.cons size_null
          (.cons size_null (.cons result .nil)))))))

theorem size_report : size (verificationReport step (written artifact) artifact).text ≤ 98000 := by
  have checks : size (Value.array [.object [("passed",.bool true),("pointer",.string "/ok"),
      ("required",.bool true)]]).text ≤ 60 := by decide
  refine (size_bounded [("artifactSha256",_),("checks",_),("policySha256",_),("status",_)]
    [94009,60,2609,62] ?_).trans (by decide)
  exact sized (by decide) <| .cons size_written (.cons checks
    (.cons (size_json size_policy) (.cons (size_literal 10 rfl (by decide)) .nil)))

/-- A state fits in its row where its step does. -/
theorem state_small {s : StepState} (small : size (toValue s).text ≤ 1000000) :
    (toValue (state s)).byteLength ≤ maxRunDocumentBytes := by
  have steps : size (Value.object [("only",toValue s)]).text ≤ 1000200 := by
    have short : ∀ key ∈ ["only"], key.utf8ByteSize ≤ 32 := by decide
    have whole := size_bounded [("only",toValue s)] [1000000] (sized short (.cons small .nil))
    exact whole.trans (by simp)
  have short : ∀ key ∈ ["acceptedAtUnixMs","cancelRequested","deadlineObserved","plan","steps"],
      key.utf8ByteSize ≤ 32 := by decide
  have each : List.Forall₂ Sized [("acceptedAtUnixMs",.number (.posInt 1000)),
      ("cancelRequested",.bool false),("deadlineObserved",.bool false),("plan",toValue plan),
      ("steps",.object [("only",toValue s)])] [8,5,5,15000,1000200] :=
    sized short <| .cons (size_number (by decide)) (.cons size_false (.cons size_false
      (.cons size_plan (.cons steps .nil))))
  rw [byteLength_eq]
  exact (size_bounded _ _ each).trans (by simp [maxRunDocumentBytes])

/-- A step is no longer than its documents. -/
theorem step_small (s : StepState) (bounds : List Nat) (bound : bounds.sum ≤ 900000)
    (each : List.Forall₂ (fun entry most => size entry.2.text ≤ most) [
      ("arguments",toValue s.arguments),
      ("cancellationAcknowledged",toValue s.cancellationAcknowledged),
      ("cancellationIntent",toValue s.cancellationIntent),
      ("cancellationRequestSent",toValue s.cancellationRequestSent),
      ("diagnostic",toValue s.diagnostic),("phase",toValue s.phase),
      ("submission",toValue s.submission),("taskId",toValue s.taskId),
      ("terminal",toValue s.terminal),("verification",toValue s.verification),
      ("verifiedArtifact",toValue s.verifiedArtifact)] bounds) :
    size (toValue s).text ≤ 1000000 := by
  have short : ∀ key ∈ ["arguments","cancellationAcknowledged","cancellationIntent",
      "cancellationRequestSent","diagnostic","phase","submission","taskId","terminal",
      "verification","verifiedArtifact"], key.utf8ByteSize ≤ 32 := by decide
  have whole := size_bounded _ _ (sized (by exact short) each)
  simp only [List.length_cons,List.length_nil] at whole
  exact whole.trans (by omega)

theorem size_phase (phase : StepPhase) : size (toValue phase).text ≤ 62 := by
  cases phase <;> exact size_literal 10 rfl (by decide)

theorem pending_small : size (toValue StepState.new).text ≤ 1000000 := by
  refine step_small .new [5,5,5,5,5,62,5,5,5,5,5] (by decide) ?_
  exact .cons size_null (.cons size_false (.cons size_false
    (.cons size_false (.cons size_null (.cons (size_phase _)
      (.cons size_null (.cons size_null (.cons size_null
        (.cons size_null (.cons size_null .nil))))))))))

theorem submitting_small : size (toValue submitting).text ≤ 1000000 := by
  have given : size (Value.object arguments).text ≤ 30 := by decide
  refine step_small submitting [30,5,5,5,5,62,11000,5,5,5,5] (by decide) ?_
  exact .cons given (.cons size_false (.cons size_false
    (.cons size_false (.cons size_null (.cons (size_phase _)
      (.cons size_submission (.cons size_null (.cons size_null
        (.cons size_null (.cons size_null .nil))))))))))

theorem routed_small : size (toValue routed).text ≤ 1000000 := by
  have given : size (Value.object arguments).text ≤ 30 := by decide
  refine step_small routed [30,5,5,5,5,62,11000,62,5,5,5] (by decide) ?_
  exact .cons given (.cons size_false (.cons size_false
    (.cons size_false (.cons size_null (.cons (size_phase _)
      (.cons size_submission (.cons (size_literal 10 rfl (by decide))
        (.cons size_null (.cons size_null (.cons size_null .nil))))))))))

theorem verified_small : size (toValue verified).text ≤ 1000000 := by
  have given : size (Value.object arguments).text ≤ 30 := by decide
  refine step_small verified [30,5,5,5,5,62,11000,62,195000,98000,47000] (by decide) ?_
  exact .cons given (.cons size_false (.cons size_false
    (.cons size_false (.cons size_null (.cons (size_phase _)
      (.cons size_submission (.cons (size_literal 10 rfl (by decide))
        (.cons size_terminal (.cons size_report
          (.cons size_artifact .nil))))))))))

open RunSystem

def start : RunConfig := ⟨⟨.empty,[],[]⟩,[]⟩

theorem start_reachable : Reachable runSystem start := .initial rfl

theorem written_step {s : StepState} (written : s.Written) :
    ∀ entry ∈ (state s).steps, entry.2.Written := by
  intro entry member
  rw [List.mem_singleton.mp member]
  exact written

theorem new_written : StepState.new.Written := ⟨nofun,nofun,nofun,nofun⟩

theorem submitting_written : submitting.Written := ⟨nofun,nofun,nofun,nofun⟩

theorem routed_written : routed.Written := ⟨nofun,nofun,nofun,nofun⟩

theorem verified_written : verified.Written := ⟨nofun,nofun,nofun,nofun⟩

noncomputable def submitArgs (p : RunPlan) : JsonObject := [
  ("action",.string "submit"),
  ("leaseId",.string "lease-1"),
  ("plan",toValue p)]

def runArgs (action : String) : JsonObject := [
  ("action",.string action),
  ("leaseId",.string "lease-1"),
  ("runId",.string "run-1")]

theorem local_context : Local context := ⟨rfl,rfl⟩

/-- A plan that the local user may have accepted. -/
structure Submittable (p : RunPlan) : Prop where
  valid : p.validate 1000 = .ok ()
  fits : (toValue p).byteLength ≤ 256 * 1024
  authorized : Authorizes p (submitArgs p) context 1000 "lease-1" lease
  keyed : ¬(p.runKey.isEmpty ∨ p.runKey.utf8ByteSize > 128 ∨
    ¬((toValue (RunState.accepted p 1000)).index "plan").isObject)
  small : (toValue (RunState.accepted p 1000)).byteLength ≤ maxRunDocumentBytes

theorem plan_submittable : Submittable plan where
  valid := plan_valid
  fits := by
    rw [byteLength_eq]
    exact size_plan.trans (by decide)
  authorized := authorizes rfl (by decide)
  keyed := by decide
  small := state_small pending_small

theorem submits {p : RunPlan} {c : RunConfig} {r : RunRecord} {after : RunTable}
    {existing : Option RunRecord} (submittable : Submittable p) (reachable : Reachable runSystem c)
    (found : c.world.state.findRun localCaller p.runKey = .ok existing)
    (valid : p.validate ((existing.bind fun record =>
      (record.data.index "acceptedAtUnixMs").asU64).getD 1000) = .ok ())
    (begins : RunTable.beginRun "run-1" localCaller p.runKey (toValue (RunState.accepted p 1000))
      c.world.state = (.ok r,after)) :
    ∃ d, Reachable runSystem d ∧ runsOf d.world.trace =
        Function.update (runsOf c.world.trace) r.runId (some r) ∧
      (⟨c.threads.length,.beginRun localCaller p.runKey (toValue (RunState.accepted p 1000)),
        .ok r⟩ : DriverEvent) ∈ d.world.trace ∧ c.world.trace <:+ d.world.trace ∧
      Untasked c.world.trace d.world.trace ∧
      d.world.requests = c.world.requests ++ [⟨submitArgs p,context⟩] := by
  have body : runSystem.body ⟨submitArgs p,context⟩ = (RunDriver.call (submitArgs p) context).run := rfl
  have serves : Can runSystem c.threads.length (RunDriver.call (submitArgs p) context)
      (c.world.started ⟨submitArgs p,context⟩) fun value w' => ∃ w1,
        Unchanged (c.world.started ⟨submitArgs p,context⟩) w1 ∧
          Submitted c.threads.length localCaller p 1000 r value w1 w' := by
    refine submitCall_can local_context rfl fun w1 unchanged => ?_
    have state : w1.state = c.world.state := unchanged.state
    rw [← state] at found begins
    exact (submitRun_can rfl submittable.fits found valid submittable.authorized begins).mono
      fun _ _ _ submitted => ⟨w1,unchanged,submitted⟩
  obtain ⟨value,w',there,requests,past,w1,unchanged,submitted⟩ := Can.served body serves reachable
  refine ⟨_,there,?_,submitted.begun,past,unchanged.untasked.trans submitted.untasked,requests⟩
  rw [submitted.runs,unchanged.runs]
  rfl

theorem state_step (s : StepState) : (state s).step? step.id = some s := rfl

theorem state_free (s : StepState) {kind : StepState → Prop} (other : ¬kind s) :
    Free (state s) [step] kind := by
  intro only member
  rw [List.mem_singleton.mp member]
  exact ⟨s,rfl,other⟩

variable {tasks : TaskAnswers} {i n : Nat} {w w' : DriverWorld} {a b : RunState} {r : RunRecord}
  {s : StepState} {id : String}

/-- The run is there in this version and state, and the task proxy has answered as it does. -/
structure Found (tasks : TaskAnswers) (w : DriverWorld) (a : RunState) (version : Nat)
    (r : RunRecord) : Prop where
  current : runsOf w.trace "run-1" = some r
  caller : r.caller = localCaller
  number : r.version = version
  data : r.data = toValue a
  steady : Steady tasks w.trace

theorem Found.runId (here : Found tasks w a n r) : r.runId = "run-1" := runsOf_id here.current

theorem Found.unchanged (here : Found tasks w a n r) (unchanged : Unchanged w w') :
    Found tasks w' a n r := by
  refine ⟨?_,here.caller,here.number,here.data,here.steady.untasked unchanged.untasked⟩
  rw [unchanged.runs]
  exact here.current

theorem Found.holds (here : Found tasks w a n r) (live : Live runSystem w)
    (written : ∀ entry ∈ a.steps, entry.2.Written) : Holds r a :=
  (Known.current here.current).written (live_inv live).history here.data written

theorem Found.next {w'' : DriverWorld} {next : Driving} (here : Found tasks w a n r)
    (steady : Steady tasks w'.trace) (advances : Advances ⟨r,a⟩ b next w' w'') :
    Found tasks w'' b (n + 1) next.record := by
  have runId : next.record.runId = "run-1" := advances.continues.1.trans here.runId
  refine ⟨?_,advances.continues.2.1.trans here.caller,?_,advances.data,
    steady.untasked advances.untasked⟩
  · rw [← runId]
    exact advances.current
  · rw [advances.continues.2.2]
    exact congrArg (· + 1) here.number

theorem Found.saves {kind : String} (live : Live runSystem w) (here : Found tasks w a n r)
    (written : ∀ entry ∈ a.steps, entry.2.Written) (plan : b.plan = a.plan) (room : n < maxRunVersion)
    (shallow : (toValue a).depth ≤ SerdeJson.recursionLimit)
    (named : kind.utf8ByteSize ≤ maxRunEventKindBytes)
    (small : (toValue b).byteLength ≤ maxRunDocumentBytes) :
    Can runSystem i (RunDriver.save ⟨r,a⟩ b kind) w fun next w' =>
      next.state = b ∧ Found tasks w' b (n + 1) next.record := by
  have current : runsOf w.trace r.runId = some r := by
    rw [here.runId]
    exact here.current
  have saves : Can runSystem i (RunDriver.save ⟨r,a⟩ b kind) w fun next => Advances ⟨r,a⟩ b next w :=
    save_can live current (here.holds live written) plan (here.number ▸ room) (here.data ▸ shallow)
      named small
  exact saves.mono fun next w' _ advances => ⟨advances.same,here.next here.steady advances⟩

theorem Found.cancels {identity : AuthenticatedIdentity} (here : Found tasks w a n r) :
    Can runSystem i (RunDriver.ask (.cancelTask id identity) : Driver _) w fun answer w' =>
      answer = tasks.cancel id ∧ Found tasks w' a n r := by
  refine Can.perform (tasks.cancel id) w.state rfl ⟨rfl,?_⟩
  refine ⟨?_,here.caller,here.number,here.data,here.steady.cons ⟨?_,?_⟩⟩
  · exact (congrFun (runsOf_quiet rfl w.trace) "run-1").trans here.current
  · rintro other identity' answer ⟨thread,same⟩
    cases same
    rfl
  · rintro other identity' reply ⟨thread,same⟩
    cases same

theorem Found.gets {identity : AuthenticatedIdentity} (here : Found tasks w a n r) :
    Can runSystem i (RunDriver.ask (.getTask id identity) : Driver _) w fun reply w' =>
      reply = tasks.get id ∧ Found tasks w' a n r := by
  refine Can.perform (tasks.get id) w.state rfl ⟨rfl,?_⟩
  refine ⟨?_,here.caller,here.number,here.data,here.steady.cons ⟨?_,?_⟩⟩
  · exact (congrFun (runsOf_quiet rfl w.trace) "run-1").trans here.current
  · rintro other identity' answer ⟨thread,same⟩
    cases same
  · rintro other identity' reply ⟨thread,same⟩
    cases same
    rfl

/-- A step is committed to be submitted, called for, and saved with the answer. -/
theorem Found.dispatches {step : RunStep} {next : StepState} (live : Live runSystem w)
    (here : Found tasks w a n r) (written : ∀ entry ∈ a.steps, entry.2.Written)
    (authority : Authorizes a.plan (runArgs "resume") context 2000 "lease-1" lease)
    (resolved : resolveInputs step a = .ok arguments)
    (bound : context.federation.tool step.aliasName = some tool)
    (response : Except McpError CallToolResponse)
    (shape : next = { s with
      phase := .submitting
      arguments := some arguments
      submission := some (stepSubmission "run-1" a.plan step arguments 2000) })
    (found : (a.set step.id next).step? step.id = some next)
    (going : (a.set step.id next).stopped = false)
    (written' : ∀ entry ∈ (a.set step.id next).steps, entry.2.Written)
    (room : n + 1 < maxRunVersion) (shallow : (toValue a).depth ≤ SerdeJson.recursionLimit)
    (shallow' : (toValue (a.set step.id next)).depth ≤ SerdeJson.recursionLimit)
    (small : (toValue (a.set step.id next)).byteLength ≤ maxRunDocumentBytes)
    (small' : (toValue ((a.set step.id next).set step.id (next.acknowledged response))).byteLength ≤
      maxRunDocumentBytes) :
    Can runSystem i (RunDriver.dispatchStep (runArgs "resume") context ⟨r,a⟩ step s) w fun last w' =>
      last.state = (a.set step.id next).set step.id (next.acknowledged response) ∧
        Found tasks w' ((a.set step.id next).set step.id (next.acknowledged response)) (n + 2)
          last.record ∧
        ∃ middle, Known middle w'.trace ∧ middle.runId = "run-1" ∧ middle.version = n + 1 ∧
          Holds middle (a.set step.id next) := by
  have current : runsOf w.trace r.runId = some r := by
    rw [here.runId]
    exact here.current
  rw [← here.runId] at shape
  have can : Can runSystem i (RunDriver.dispatchStep (runArgs "resume") context ⟨r,a⟩ step s) w _ :=
    dispatchStep_can response current (here.holds live written) authority resolved bound input_valid
      arguments_small shape found going written' (here.number ▸ room) (here.data ▸ shallow) shallow'
      small small'
  refine can.mono fun last w' live' sent => ?_
  obtain ⟨-,⟨record,middle⟩,w1,first,second⟩ := sent
  obtain rfl : middle = a.set step.id next := first.same
  have there := here.next here.steady first
  have known : Known record w'.trace := (Known.current there.current).suffix second.past
  exact ⟨second.same,there.next there.steady second,record,known,there.runId,there.number,
    known.written (live_inv live').history there.data written'⟩

/-- The step was committed to be submitted where it had been pending, it was called for, and its
task is routed. -/
structure Sends (tasks : TaskAnswers) (i : Nat) (n : Nat) (next : RunRecord) (w' : DriverWorld) : Prop where
  found : Found tasks w' (state routed) (n + 2) next
  called : ∃ call, (⟨i,.submit call,response⟩ : DriverEvent) ∈ w'.trace
  intended : ∃ e past old middle, e :: past <:+ w'.trace ∧ committed e = some middle ∧
    runsOf past middle.runId = some old ∧ old.data = toValue (state .new) ∧
    middle.data = toValue (state submitting)
  saved : ∃ e ∈ w'.trace, committed e = some next

theorem dispatchStep_sends (room : n + 1 < maxRunVersion) (live : Live runSystem w)
    (here : Found tasks w (state .new) n r) :
    Can runSystem i (RunDriver.dispatchStep (runArgs "resume") context ⟨r,state .new⟩ step .new) w
      fun next w' => next.state = state routed ∧ Sends tasks i n next.record w' := by
  have current : runsOf w.trace r.runId = some r := by
    rw [here.runId]
    exact here.current
  have shape : submitting = { StepState.new with
      phase := .submitting
      arguments := some arguments
      submission := some (stepSubmission r.runId plan step arguments 2000) } := by
    rw [here.runId]
    rfl
  have shallow : r.data.depth ≤ SerdeJson.recursionLimit := by
    rw [here.data]
    exact state_shallow (by decide)
  have resolved : resolveInputs step (state .new) = .ok arguments := rfl
  have authority : Authorizes (state .new).plan (runArgs "resume") context 2000 "lease-1" lease :=
    authorizes rfl (by decide)
  have going : (state submitting).stopped = false := rfl
  have latest : r.version + 1 < maxRunVersion := by
    rw [here.number]
    exact room
  have bound : context.federation.tool step.aliasName = some tool := rfl
  have can : Can runSystem i (RunDriver.dispatchStep (runArgs "resume") context ⟨r,state .new⟩ step
      .new) w _ :=
    dispatchStep_can response current (here.holds live (written_step new_written)) authority resolved bound
      input_valid arguments_small shape (state_step submitting) going (written_step submitting_written)
      latest shallow (state_shallow submitting_shallow) (state_small submitting_small)
      (state_small routed_small)
  refine can.mono fun next w' _ sent => ?_
  obtain ⟨⟨_,called⟩,⟨record,middle⟩,w1,first,second⟩ := sent
  obtain rfl : middle = state submitting := first.same
  have found := here.next here.steady first
  refine ⟨second.same,found.next found.steady second,⟨_,called⟩,?_,?_⟩
  · obtain ⟨e,past,occurs,commits,runs⟩ := first.saved
    refine ⟨e,past,r,record,occurs.trans second.past,commits,?_,here.data,first.data⟩
    rw [runs,first.continues.1]
    exact current
  · obtain ⟨e,past,occurs,commits,-⟩ := second.saved
    exact ⟨e,occurs.subset List.mem_cons_self,commits⟩

theorem dispatch_sends (room : n + 1 < maxRunVersion) (here : Found tasks w (state .new) n r) :
    Can runSystem i (RunDriver.dispatch (runArgs "resume") context [step] ⟨r,state .new⟩) w
      fun next w' => next.state = state routed ∧ Sends tasks i n next.record w' := by
  have idle : ¬(state .new).activeSteps ≥ (state .new).plan.maxConcurrency := by decide
  have ready : RunDriver.ready (state .new) step .new = true := rfl
  rw [RunDriver.dispatch]
  refine Can.elseBranch idle ?_
  refine Can.bind (stepOf_can (state_step .new)) fun s w1 first => Can.live fun live => ?_
  obtain ⟨rfl,first⟩ := first
  refine Can.thenBranch ready ?_
  refine Can.bind (dispatchStep_sends room live (here.unchanged first)) fun next w2 sends => ?_
  have open' : ¬next.state.blocked := by
    rw [sends.1]
    decide
  exact Can.elseBranch open' (Can.value sends)

theorem Found.loaded (here : Found tasks w a n r) (live : Live runSystem w)
    (written : ∀ entry ∈ a.steps, entry.2.Written) : stateFrom r = .ok a :=
  (here.holds live written).loads (live_inv live).history (.current here.current)

/-- A first sweep sends the step. -/
theorem drive_sends (room : n + 1 < maxRunVersion) (live : Live runSystem w)
    (here : Found tasks w (state .new) n r) :
    Can runSystem i (RunDriver.drive r (runArgs "resume") context) w
      fun _ w' => ∃ next, Sends tasks i n next w' := by
  have authority : Authorizes plan (runArgs "resume") context 2000 "lease-1" lease :=
    authorizes rfl (by decide)
  refine (drive_can (fun last w' => Sends tasks i n last.record w')
    (here.loaded live (written_step new_written)) rfl authority (by decide)
    (fun _ _ => reverify_can (state_free .new (by decide))) (state_free .new (by decide))
    fun w1 till1 => ?_).mono fun _ _ _ sent => sent.elim fun last sends => ⟨last.record,sends⟩
  refine (poll_can (state_free .new (by decide))).mono fun polled w2 _ till2 => ?_
  obtain ⟨rfl,till2⟩ := till2
  refine ⟨rfl,.inr ⟨rfl,?_⟩⟩
  exact (dispatch_sends room ((here.unchanged till1).unchanged till2)).mono fun last w3 _ sends =>
    ⟨.current sends.2.found.current,sends.2⟩

/-- The task was seen to complete, and its step is verified. -/
structure Completed (i : Nat) (n : Nat) (next : RunRecord) (w' : DriverWorld) : Prop where
  found : Found obliging w' (state verified) n next
  asked : ∃ identity, (⟨i,.getTask "task-1" identity,.ok completed⟩ : DriverEvent) ∈ w'.trace

theorem pollStep_verifies (room : n < maxRunVersion) (live : Live runSystem w)
    (here : Found obliging w (state routed) n r) :
    Can runSystem i (RunDriver.pollStep context ⟨r,state routed⟩ step) w
      fun polled w' => polled.2 = true ∧ polled.1.state = state verified ∧
        Completed i (n + 1) polled.1.record w' := by
  have current : runsOf w.trace r.runId = some r := by
    rw [here.runId]
    exact here.current
  have shallow : r.data.depth ≤ SerdeJson.recursionLimit := by
    rw [here.data]
    exact state_shallow routed_shallow
  have latest : r.version < maxRunVersion := by
    rw [here.number]
    exact room
  have attested : Attested anything r.runId plan step { routed with terminal := some terminal } terminal
      submission "out.json" (written artifact) artifact := by
    rw [here.runId]
    exact attested _ rfl rfl rfl rfl
  have going : (state routed).ending = false := rfl
  have polled : routed.polledFor = some "task-1" := rfl
  have reconciled : (((terminal.index "_meta").index taskRouteMetaKey).index "routePhase").asStr ≠
      some "reconciliation_required" := by decide
  have fits : Agreed routed terminal artifact := ⟨Value.same_refl _,rfl⟩
  have can : Can runSystem i (RunDriver.pollStep context ⟨r,state routed⟩ step) w _ :=
    pollStep_can current (here.holds live (written_step routed_written)) going (state_step routed) polled
      completed_document reconciled attested fits (show verified = _ from rfl) latest shallow
      (state_small verified_small)
  refine can.mono fun polled w' _ done => ?_
  obtain ⟨observed,w1,reported,advances⟩ := done
  obtain ⟨identity,asked⟩ := reported.asked
  have steady : Steady obliging w1.trace := here.steady.polled reported obliging_get
  exact ⟨observed,advances.same,here.next steady advances,identity,advances.past.subset asked⟩

/-- A sweep after the task has completed accepts its artifact. -/
theorem drive_verifies (room : n < maxRunVersion) (live : Live runSystem w)
    (here : Found obliging w (state routed) n r) :
    Can runSystem i (RunDriver.drive r (runArgs "resume") context) w
      fun _ w' => ∃ next, Completed i (n + 1) next w' := by
  have authority : Authorizes plan (runArgs "resume") context 2000 "lease-1" lease :=
    authorizes rfl (by decide)
  refine (drive_can (fun last w' => Completed i (n + 1) last.record w')
    (here.loaded live (written_step routed_written)) rfl authority (by decide)
    (fun _ _ => reverify_can (state_free routed (by decide))) (state_free routed (by decide))
    fun w1 till1 => Can.live fun live1 => ?_).mono
      fun _ _ _ done => done.elim fun last done => ⟨last.record,done⟩
  change Can runSystem i (RunDriver.poll context [step] ⟨r,state routed⟩) w1 _
  rw [RunDriver.poll]
  refine Can.bind (pollStep_verifies room live1 (here.unchanged till1)) fun polled w2 done => ?_
  obtain ⟨⟨record,saved⟩,observed⟩ := polled
  obtain ⟨rfl,rfl,done⟩ := done
  exact Can.value ⟨rfl,.inl ⟨rfl,.current done.found.current,done⟩⟩

variable {c : RunConfig}

/-- What can come of a sweep, comes of a resume. -/
theorem resumes {post : Value → DriverWorld → Prop} (reachable : Reachable runSystem c)
    (here : Found tasks c.world a n r) (shallow : (toValue a).depth ≤ SerdeJson.recursionLimit)
    (drives : ∀ w, Live runSystem w → Found tasks w a n r →
      Can runSystem c.threads.length (RunDriver.drive r (runArgs "resume") context) w post) :
    ∃ d value, Reachable runSystem d ∧ c.world.trace <:+ d.world.trace ∧
      d.world.requests = c.world.requests ++ [⟨runArgs "resume",context⟩] ∧ post value d.world := by
  have body : runSystem.body ⟨runArgs "resume",context⟩ =
      (RunDriver.call (runArgs "resume") context).run := rfl
  have readable : r.data.depth ≤ SerdeJson.recursionLimit := by
    rw [here.data]
    exact shallow
  have serves (w1 : DriverWorld) (unchanged : Unchanged (c.world.started ⟨runArgs "resume",context⟩) w1)
      (live : Live runSystem w1) :
      Can runSystem c.threads.length (RunDriver.act localCaller "resume" "run-1" (runArgs "resume")
        context) w1 post := by
    have here : Found tasks c.world a n r := here
    have first : Found tasks w1 a n r := here.unchanged ⟨unchanged.state,unchanged.runs,unchanged.past,
      unchanged.untasked⟩
    rw [RunDriver.act]
    refine Can.bind (readRun_can live first.current first.caller readable) fun _ w2 second =>
      Can.live fun live' => ?_
    have second' := first.unchanged second.2
    refine Can.bind (readRun_can live' second'.current second'.caller readable) fun found w3 third =>
      Can.live fun live'' => ?_
    obtain ⟨rfl,third⟩ := third
    exact drives w3 live'' (second'.unchanged third)
  obtain ⟨value,w',there,requests,past,done⟩ := Can.served body (call_can local_context rfl (by decide)
    rfl (by decide) fun w1 unchanged => Can.live (serves w1 unchanged)) reachable
  exact ⟨_,value,there,past,requests,done⟩

/-- A run after it was submitted. -/
theorem begun {p : RunPlan} (submittable : Submittable p) (tasks : TaskAnswers) :
    ∃ c r, Reachable runSystem c ∧ Found tasks c.world (RunState.accepted p 1000) 0 r ∧
      c.world.requests = [⟨submitArgs p,context⟩] ∧
      (⟨0,.beginRun localCaller p.runKey (toValue (RunState.accepted p 1000)),.ok r⟩ : DriverEvent) ∈
        c.world.trace := by
  have rep := RunTable.Represents.empty
  obtain ⟨r,made,runId,caller,version,data⟩ := accepted_made localCaller "run-1" submittable.small
  obtain ⟨after,begins⟩ := rep.begin_accepts submittable.keyed nofun rfl (by decide) made
  have unheld : start.world.state.findRun localCaller p.runKey = .ok none := rfl
  obtain ⟨d,reachable,runs,begun,-,untasked,requests⟩ :=
    submits submittable start_reachable unheld submittable.valid begins
  have steady : Steady tasks start.world.trace :=
    ⟨fun _ _ _ ⟨_,happened⟩ => absurd happened List.not_mem_nil,
      fun _ _ _ ⟨_,happened⟩ => absurd happened List.not_mem_nil⟩
  refine ⟨d,r,reachable,⟨?_,caller,version,data,steady.untasked untasked⟩,requests,begun⟩
  rw [runs,← runId,Function.update_self]

theorem submitted (tasks : TaskAnswers) : ∃ c r, Reachable runSystem c ∧
    Found tasks c.world (state .new) 0 r ∧
    c.world.requests = [⟨submitArgs plan,context⟩] ∧
    (⟨0,.beginRun localCaller plan.runKey (toValue (state .new)),.ok r⟩ : DriverEvent) ∈
      c.world.trace := begun plan_submittable tasks

/-- The run after it was submitted twice. -/
theorem resubmitted : ∃ c i j r s data data', i ≠ j ∧ Reachable runSystem c ∧
    (⟨i,.beginRun localCaller plan.runKey data,.ok r⟩ : DriverEvent) ∈ c.world.trace ∧
    (⟨j,.beginRun localCaller plan.runKey data',.ok s⟩ : DriverEvent) ∈ c.world.trace := by
  obtain ⟨c,r,reachable,found,requests,begun⟩ := submitted obliging
  have inv := run_certified.invariant reachable
  obtain ⟨past,occurs⟩ := occurs begun
  have answers : Answers r localCaller plan.runKey (toValue (state .new)) :=
    (inv.history.reason_of occurs).2
  have shallow : r.data.depth ≤ SerdeJson.recursionLimit := by
    rw [found.data]
    exact state_shallow (by decide)
  have stored : runsOf c.world.trace r.runId = some r := by
    rw [found.runId]
    exact found.current
  have here : c.world.state.findRun localCaller plan.runKey = .ok (some r) :=
    inv.represents.find_iff.mpr ⟨stored,found.caller,answers.runKey,shallow⟩
  have retained : (r.data.index "acceptedAtUnixMs").asU64 = some 1000 := by
    rw [found.data]
    rfl
  have begins : RunTable.beginRun "run-1" localCaller plan.runKey
      (toValue (RunState.accepted plan 1000)) c.world.state = (.ok r,c.world.state) :=
    inv.represents.begin_existing plan_submittable.keyed stored found.caller answers.runKey shallow
      answers.planSha256
  have valid : plan.validate (((some r).bind fun record =>
      (record.data.index "acceptedAtUnixMs").asU64).getD 1000) = .ok () := by
    rw [Option.bind_some,retained]
    exact plan_valid
  obtain ⟨d,there,-,again,past,-,-⟩ :=
    submits plan_submittable reachable here valid begins
  refine ⟨d,0,c.threads.length,r,r,_,_,?_,there,past.subset begun,again⟩
  rw [(run_certified.sound reachable).length,requests]
  decide

/-- The run after its step was sent. -/
theorem sent (tasks : TaskAnswers) : ∃ c r i, Reachable runSystem c ∧ Sends tasks i 0 r c.world ∧
    c.world.requests = [⟨submitArgs plan,context⟩,⟨runArgs "resume",context⟩] := by
  obtain ⟨c,r,reachable,found,requests,-⟩ := submitted tasks
  obtain ⟨d,-,there,-,requests',next,sends⟩ := resumes reachable found (state_shallow (by decide))
    fun w live here => drive_sends (by decide) live here
  refine ⟨d,next,_,there,sends,?_⟩
  rw [requests',requests]
  rfl

/-- The run after its task has completed. -/
theorem completes : ∃ c r i, Reachable runSystem c ∧ Completed i 3 r c.world := by
  obtain ⟨c,r,_,reachable,sends,-⟩ := sent obliging
  obtain ⟨d,-,there,-,-,next,done⟩ := resumes reachable sends.found (state_shallow routed_shallow)
    fun w live here => drive_verifies (by decide) live here
  exact ⟨d,next,_,there,done⟩

theorem Found.loads (here : Found tasks c.world a n r) (reachable : Reachable runSystem c)
    (written : ∀ entry ∈ a.steps, entry.2.Written) : stateFrom r = .ok a :=
  (here.holds ⟨_,reachable⟩ written).loads (run_certified.invariant reachable).history
    (.current here.current)

/-- The run after it was cancelled before anything was sent. -/
theorem cancelled : ∃ c r s, Reachable runSystem c ∧ Known r c.world.trace ∧
    Known s c.world.trace ∧ r.runId = s.runId ∧ stateFrom r = .ok (state .new) ∧
    stateFrom s = .ok { state .new with cancelRequested := true } := by
  obtain ⟨c,r,reachable,found,-⟩ := submitted obliging
  have body : runSystem.body ⟨runArgs "cancel",context⟩ =
      (RunDriver.call (runArgs "cancel") context).run := rfl
  have readable : r.data.depth ≤ SerdeJson.recursionLimit := by
    rw [found.data]
    exact state_shallow (by decide)
  have room : r.version < maxRunVersion := by
    rw [found.number]
    decide
  have loads := found.loads reachable (written_step new_written)
  have holds := found.holds ⟨_,reachable⟩ (written_step new_written)
  have cancels : Can runSystem c.threads.length (RunDriver.call (runArgs "cancel") context)
      (c.world.started ⟨runArgs "cancel",context⟩) _ :=
    cancelCall_can found.current holds found.caller room readable local_context rfl rfl (by decide)
  obtain ⟨value,w',there,-,past,s,current,loads',-⟩ := Can.served body cancels reachable
  refine ⟨_,r,s,there,(Known.current found.current).suffix past,.current current,?_,loads,loads'⟩
  rw [found.runId,runsOf_id current]

theorem cancel_succeeds_example : ∃ value w, ∃ threads, Reachable runSystem ⟨w,threads⟩ ∧
    some (.pure (.ok value)) ∈ threads ∧ ∃ s, runsOf w.trace "run-1" = some s ∧
      stateFrom s = .ok { state .new with cancelRequested := true } ∧ summary s = .ok value := by
  obtain ⟨c,r,reachable,found,-⟩ := submitted obliging
  have readable : r.data.depth ≤ SerdeJson.recursionLimit := by
    rw [found.data]
    exact state_shallow (by decide)
  have room : r.version < maxRunVersion := by
    rw [found.number]
    decide
  have acts : (Value.find "action" (runArgs "cancel")).bind Value.asStr = some "cancel" := rfl
  have named : (Value.find "runId" (runArgs "cancel")).bind Value.asStr = some "run-1" := rfl
  obtain ⟨value,w,there,s,current,loads,described⟩ := cancel_succeeds reachable found.current
    (found.loads reachable (written_step new_written)) found.caller room readable local_context acts named (by decide)
  exact ⟨value,w,_,there,by simp,s,current,loads,described⟩

/-- The artifact of the verified step is accepted again. -/
theorem tryVerify_accepts {p : RunPlan} (here : Found tasks w a n r)
    (attested : Attested anything "run-1" p step verified terminal submission "out.json"
      (written artifact) artifact) :
    Can runSystem i (RunDriver.tryVerify r.runId p step verified) w fun result w' =>
      result = .ok (artifact,verificationReport step (written artifact) artifact) ∧
        Unchanged w w' := by
  have kept : verified.verifiedArtifact.all (·.same artifact) = true := by
    rw [show verified.verifiedArtifact = some artifact from rfl,Option.all_some]
    exact Value.same_refl _
  have fits : Agreed verified terminal artifact := ⟨Value.same_refl _,kept⟩
  rw [← here.runId] at attested
  exact Can.lift ((verifyStep_can attested fits).mono fun v w' _ done =>
    ⟨congrArg Except.ok done.1,done.2⟩)

theorem reverifyStep_accepts (here : Found tasks w a n r) (found : a.step? step.id = some verified)
    (attested : Attested anything "run-1" a.plan step verified terminal submission "out.json"
      (written artifact) artifact) :
    Can runSystem i (RunDriver.reverifyStep ⟨r,a⟩ step) w
      fun d w' => d = ⟨r,a⟩ ∧ Unchanged w w' := by
  rw [RunDriver.reverifyStep]
  refine Can.bind (stepOf_can found) fun s w1 first => ?_
  obtain ⟨rfl,first⟩ := first
  refine Can.thenBranch rfl ?_
  refine Can.bind (tryVerify_accepts (here.unchanged first) attested) fun v w2 second => ?_
  obtain ⟨rfl,second⟩ := second
  exact Can.value ⟨rfl,first.trans second⟩

theorem verifyRecord_completes (live : Live runSystem w)
    (here : Found obliging w (state verified) n r) :
    Can runSystem i (RunDriver.verifyRecord r) w fun value _ => value.index "complete" = .bool true := by
  have loads := (here.holds live (written_step verified_written)).loads (live_inv live).history
    (.current here.current)
  have read : Can runSystem i (Fallible.ofExcept (stateFrom r) : Driver RunState) w
      fun b w' => b = state verified ∧ Unchanged w w' := Can.ofExcept loads ⟨rfl,.refl w⟩
  rw [RunDriver.verifyRecord]
  refine Can.bind read fun b w1 first => ?_
  obtain ⟨rfl,first⟩ := first
  have steps : Can runSystem i (RunDriver.verifySteps r.runId (state verified) [step]) w1
      fun count _ => count = 1 := by
    rw [RunDriver.verifySteps]
    have known : Can runSystem i (RunDriver.stepOf (state verified) step) w1
        fun s w' => s = verified ∧ Unchanged w1 w' := required_can (state_step verified)
    refine Can.bind known fun s w2 second => ?_
    obtain ⟨rfl,second⟩ := second
    refine Can.thenBranch rfl ?_
    have there := (here.unchanged first).unchanged second
    refine Can.bind (tryVerify_accepts there (attested verified rfl rfl rfl rfl)) fun v w3 third => ?_
    obtain ⟨rfl,third⟩ := third
    exact Can.bind (checked_can rfl) fun _ w4 _ => Can.bind (Can.value rfl) fun count w5 none => by
      rw [show count = 0 from none]
      exact Can.value rfl
  refine Can.bind steps fun count w2 one => ?_
  rw [show count = 1 from one]
  exact Can.value rfl

/-- A sweep over the run after its task has completed only looks at the artifact again. -/
theorem drive_checks (live : Live runSystem w) (here : Found obliging w (state verified) n r) :
    Can runSystem i (RunDriver.drive r (runArgs "resume") context) w
      fun _ w' => Found obliging w' (state verified) n r := by
  have authority : Authorizes plan (runArgs "resume") context 2000 "lease-1" lease :=
    authorizes rfl (by decide)
  have reverifies (w1 : DriverWorld) (till1 : Unchanged w w1) :
      Can runSystem i (RunDriver.reverify [step] ⟨r,state verified⟩) w1
        fun d w2 => d = ⟨r,state verified⟩ ∧ Unchanged w1 w2 := by
    have head : Can runSystem i (RunDriver.reverifyStep ⟨r,state verified⟩ step) w1
        fun d w2 => d = ⟨r,state verified⟩ ∧ Unchanged w1 w2 :=
      reverifyStep_accepts (here.unchanged till1) (state_step verified)
        (attested verified rfl rfl rfl rfl)
    rw [RunDriver.reverify]
    refine Can.bind head fun d w2 till2 => ?_
    obtain ⟨rfl,till2⟩ := till2
    exact Can.value ⟨rfl,till2⟩
  have idle : ¬(state verified).activeSteps ≥ plan.maxConcurrency := by decide
  have done : ¬RunDriver.ready (state verified) step verified := by decide
  refine (drive_can (fun _ w' => Found obliging w' (state verified) n r)
    (here.loaded live (written_step verified_written)) rfl authority (by decide) reverifies
    (state_free verified (by decide)) fun w1 till1 => ?_).mono
      fun _ _ _ found => found.elim fun _ found => found
  refine (poll_can (state_free verified (by decide))).mono fun polled w2 _ till2 => ?_
  obtain ⟨rfl,till2⟩ := till2
  refine ⟨rfl,.inr ⟨rfl,?_⟩⟩
  change Can runSystem i (RunDriver.dispatch (runArgs "resume") context [step] ⟨r,state verified⟩) w2 _
  rw [RunDriver.dispatch]
  refine Can.elseBranch idle (Can.bind (stepOf_can (state_step verified)) fun s w3 till3 => ?_)
  obtain ⟨rfl,till3⟩ := till3
  have found := ((here.unchanged till1).unchanged till2).unchanged till3
  exact Can.elseBranch done (Can.value ⟨.current found.current,found⟩)

/-- The run after its task has completed, resumed for ever. -/
theorem checks_on : ∃ (runs : Nat → RunConfig) (r : RunRecord),
    (∀ n, Reachable runSystem (runs n) ∧ Found obliging (runs n).world (state verified) 3 r) ∧
    ∀ n, (runs n).world.trace <:+ (runs (n + 1)).world.trace ∧
      (runs (n + 1)).world.requests = (runs n).world.requests ++ [⟨runArgs "resume",context⟩] := by
  obtain ⟨c,r,_,reachable,found,-⟩ := completes
  have next (c : { c : RunConfig // Reachable runSystem c ∧ Found obliging c.world (state verified) 3 r }) :
      ∃ d : { d : RunConfig // Reachable runSystem d ∧ Found obliging d.world (state verified) 3 r },
        c.1.world.trace <:+ d.1.world.trace ∧
          d.1.world.requests = c.1.world.requests ++ [⟨runArgs "resume",context⟩] := by
    obtain ⟨d,-,there,past,requests,found⟩ := resumes c.2.1 c.2.2 (state_shallow verified_shallow)
      fun w live here => drive_checks live here
    exact ⟨⟨d,there,found⟩,past,requests⟩
  choose later goes using next
  let runs (n : Nat) := later^[n] ⟨c,reachable,found⟩
  refine ⟨fun n => (runs n).1,r,fun n => (runs n).2,fun n => ?_⟩
  simp only [runs,Function.iterate_succ_apply']
  exact goes _

/-- The run after it was verified once more. -/
theorem checked : ∃ (c : RunConfig) (i : Nat) (value : Value), Reachable runSystem c ∧
    c.world.requests[i]? = some ⟨runArgs "verify",context⟩ ∧
    c.threads[i]? = some (some (.pure (.ok value))) ∧ value.index "complete" = .bool true := by
  obtain ⟨c,r,_,reachable,found,-⟩ := completes
  have body : runSystem.body ⟨runArgs "verify",context⟩ =
      (RunDriver.call (runArgs "verify") context).run := rfl
  have readable : r.data.depth ≤ SerdeJson.recursionLimit := by
    rw [found.data]
    exact state_shallow verified_shallow
  have serves (w1 : DriverWorld) (unchanged : Unchanged (c.world.started ⟨runArgs "verify",context⟩) w1)
      (live : Live runSystem w1) :
      Can runSystem c.threads.length (RunDriver.act localCaller "verify" "run-1" (runArgs "verify")
        context) w1 fun value _ => value.index "complete" = .bool true := by
    have first : Found obliging w1 (state verified) 3 r :=
      found.unchanged ⟨unchanged.state,unchanged.runs,unchanged.past,unchanged.untasked⟩
    rw [RunDriver.act]
    refine Can.bind (readRun_can live first.current first.caller readable) fun record w2 second =>
      Can.live fun live' => ?_
    obtain ⟨rfl,second⟩ := second
    exact verifyRecord_completes live' (first.unchanged second)
  obtain ⟨value,w',there,requests,-,done⟩ := Can.served body (call_can local_context rfl (by decide) rfl
    (by decide) fun w1 unchanged => Can.live (serves w1 unchanged)) reachable
  refine ⟨_,c.threads.length,value,there,?_,List.getElem?_concat_length,done⟩
  rw [requests,(run_certified.sound reachable).length]
  exact List.getElem?_concat_length

end ExampleRun
end GaugeMesh
