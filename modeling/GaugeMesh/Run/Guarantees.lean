import GaugeMesh.Run.Sweep

/-! What every run keeps, whoever drives it and however: its versions can be read, its flags and
phases only go forward, every dispatch is guarded, and a step is always called with what was
committed for it. -/
namespace GaugeMesh
open Json Interleaving

namespace RunState

variable {answered : RunAnswers} {runId : String}
  {state next saved : RunState} {step : RunStep} {s t : StepState}

/-- Nothing stands in the way of the step. -/
structure Clear (state : RunState) (step : RunStep) : Prop where
  verified : ∀ id ∈ step.dependsOn, state.phaseOf id = some .verified
  cancelRequested : state.cancelRequested = false
  deadlineObserved : state.deadlineObserved = false
  unblocked : ∀ id phase, state.phaseOf id = some phase → phase.blocks = false

theorem phaseOf_set {id : String} (different : id ≠ step.id) (t : StepState) :
    (state.set step.id t).phaseOf id = state.phaseOf id := by
  rw [phaseOf,step?_set_ne different]
  rfl

theorem phaseOf_set_self (found : state.step? step.id = some s) (t : StepState) :
    (state.set step.id t).phaseOf step.id = some t.phase := by
  rw [phaseOf,step?_set_self found]
  rfl

theorem unblocked_phase (unblocked : state.blocked = false) {id : String} {phase : StepPhase}
    (here : state.phaseOf id = some phase) : phase.blocks = false := by
  obtain ⟨s,found,rfl⟩ := Option.map_eq_some_iff.mp here
  have all := List.any_eq_false.mp unblocked _ (mem_of_step? found)
  exact Bool.eq_false_of_not_eq_true all

theorem clear_of_going (going : state.stopped = false)
    (ready : ∀ id ∈ step.dependsOn, state.phaseOf id = some .verified) : state.Clear step := by
  obtain ⟨ending,blocked⟩ := Bool.or_eq_false_iff.mp going
  obtain ⟨requested,observed⟩ := Bool.or_eq_false_iff.mp ending
  exact ⟨ready,requested,observed,fun _ _ here => unblocked_phase blocked here⟩

/-- A step does not stand in its own way. -/
theorem Clear.set (clear : state.Clear step) (apart : step.id ∉ step.dependsOn)
    (found : state.step? step.id = some s) (open' : t.phase.blocks = false) :
    (state.set step.id t).Clear step where
  verified id depends := by
    rw [phaseOf_set (fun same => apart (same ▸ depends))]
    exact clear.verified id depends
  cancelRequested := clear.cancelRequested
  deadlineObserved := clear.deadlineObserved
  unblocked id phase here := by
    by_cases same : id = step.id
    · subst same
      rw [phaseOf_set_self found] at here
      cases here
      exact open'
    · rw [phaseOf_set same] at here
      exact clear.unblocked id phase here

theorem Clear.alike (clear : next.Clear step) (alike : Alike saved next) : saved.Clear step where
  verified id depends := by
    rw [← alike.phaseOf]
    exact clear.verified id depends
  cancelRequested := alike.cancelRequested.symm.trans clear.cancelRequested
  deadlineObserved := alike.deadlineObserved.symm.trans clear.deadlineObserved
  unblocked id phase here := by
    rw [← alike.phaseOf] at here
    exact clear.unblocked id phase here

variable [FloatText] [Sha256] [RmcpTexts] [SerdeJson.Bytes]

theorem observed_left {plan : RunPlan} {reply : Except McpError GetTaskResult}
    (observed : Observed answered runId plan step s reply t) : t.phase ≠ .submitting := by
  cases observed <;> simp

omit [FloatText] [Sha256] [SerdeJson.Bytes] in
theorem acknowledged_phase (s : StepState) (response : Except McpError CallToolResponse) :
    (s.acknowledged response).phase = .routed ∨ (s.acknowledged response).phase = .unknown := by
  rcases response with error | (created | result | _ | _)
  case ok.task =>
    rw [StepState.acknowledged]
    split <;> simp
  all_goals simp [StepState.acknowledged]

/-- A step is being submitted after a change: it was before, or nothing stood in its way. -/
theorem Change.enters (lawful : Lawful runId state) (change : Change answered runId state next)
    (member : step ∈ state.plan.steps) (enters : next.phaseOf step.id = some .submitting) :
    state.phaseOf step.id = some .submitting ∨ state.Clear step ∧ next.Clear step := by
  cases change with
  | cancelled => exact .inl enters
  | expired => exact .inl enters
  | skipped =>
    left
    rw [phaseOf,step?_skipUnsent,Option.map_map] at enters
    obtain ⟨s,found,phase⟩ := Option.map_eq_some_iff.mp enters
    rw [phaseOf,found]
    rw [Function.comp_apply,StepState.skipped] at phase
    split at phase
    · cases phase
    · exact congrArg some phase
  | @step other s t there found change =>
    by_cases same : step.id = other.id
    · have equal : step = other := List.inj_on_of_nodup_map
        (RunPlan.validate_ok lawful.accepted).distinct member there same
      subst equal
      rw [phaseOf_set_self found] at enters
      have phase := Option.some.inj enters
      cases change with
      | refuted => cases phase
      | acknowledged _ response =>
        rcases acknowledged_phase s response with left | left <;> rw [left] at phase <;> cases phase
      | intended => exact .inl (by rw [phaseOf,found]; exact congrArg some phase)
      | responded => exact .inl (by rw [phaseOf,found]; exact congrArg some phase)
      | observed _ _ outcome => exact absurd phase (observed_left outcome)
      | dispatched _ going _ ready =>
        have clear := clear_of_going going ready
        have apart : step.id ∉ step.dependsOn := fun depends =>
          ((RunPlan.validate_ok lawful.accepted).edges step member _ depends).2 rfl
        exact .inr ⟨clear,clear.set apart found rfl⟩
    · left
      rw [phaseOf_set same] at enters
      exact enters

theorem Save.enters (lawful : Lawful runId state) (save : Save answered runId state next)
    (member : step ∈ state.plan.steps) (enters : next.phaseOf step.id = some .submitting) :
    state.phaseOf step.id = some .submitting ∨ state.Clear step ∧ next.Clear step := by
  obtain ⟨held,unsaved,change⟩ := save
  have alike := alike_of_unsaved unsaved
  rcases change.enters (held_lawful lawful unsaved).1 (alike.plan.symm ▸ member) enters with
    before | ⟨clear,after⟩
  · rw [alike.phaseOf] at before
    exact .inl before
  · exact .inr ⟨clear.alike alike,after⟩

omit [FloatText] [Sha256] [RmcpTexts] [SerdeJson.Bytes] in
theorem resolveEach_same {resolve resolve' : RunInput → Except String Value}
    {inputs : Entries RunInput} {arguments sample : Entries Value}
    (each : ∀ entry ∈ inputs, ∀ v w, resolve entry.2 = .ok v → resolve' entry.2 = .ok w → v.same w)
    (resolved : resolveEach resolve inputs = .ok arguments)
    (sampled : resolveEach resolve' inputs = .ok sample) : Value.sameEntries arguments sample := by
  induction inputs generalizing arguments sample with
  | nil =>
    cases resolved
    cases sampled
    rfl
  | cons entry rest ih =>
    obtain ⟨name,input⟩ := entry
    obtain ⟨first,others⟩ := List.forall_mem_cons.mp each
    simp only [resolveEach] at resolved sampled
    obtain ⟨v,found,resolved⟩ := Except.bind_ok.mp resolved
    obtain ⟨vs,more,resolved⟩ := Except.bind_ok.mp resolved
    obtain ⟨w,found',sampled⟩ := Except.bind_ok.mp sampled
    obtain ⟨ws,more',sampled⟩ := Except.bind_ok.mp sampled
    cases resolved
    cases sampled
    rw [Value.sameEntries,Bool.and_eq_true,Bool.and_eq_true]
    exact ⟨⟨beq_self_eq_true name,first v w found found'⟩,ih others more more'⟩

omit [RmcpTexts] [SerdeJson.Bytes] in
/-- An accepted artifact has what the required check expects where the plan refers to it. -/
theorem Lawful.input_planned (lawful : Lawful runId state) {input : RunInput} {v w : Value}
    (resolved : resolveInput state input = .ok v) (sampled : sampleInput state.plan input = .ok w) :
    v.same w := by
  cases input with
  | literal value =>
    cases resolved
    cases sampled
    exact Value.same_refl _
  | predecessor source pointer =>
    rw [resolveInput,okOr_ok] at resolved
    rw [sampleInput,okOr_bind_ok] at sampled
    obtain ⟨predecessor,found,sampled⟩ := sampled
    have member := List.mem_of_find?_eq_some found
    have named : predecessor.id = source := by simpa using List.find?_some found
    split at sampled
    · next check only =>
      cases sampled
      have chosen : check ∈ predecessor.policy.checks.filter fun check =>
          check.required && check.pointer == pointer := by
        rw [only]
        exact List.mem_singleton_self check
      obtain ⟨listed,matching⟩ := List.mem_filter.mp chosen
      rw [Bool.and_eq_true,beq_iff_eq] at matching
      obtain ⟨artifact,held,found⟩ := Option.bind_eq_some_iff.mp resolved
      obtain ⟨s,stored,accepted⟩ := Option.bind_eq_some_iff.mp held
      rw [← named] at stored
      have accepts := ((lawful.found member stored).1.artifact artifact accepted).1
      have passes := accepts check listed matching.1
      rw [ArtifactCheck.passes,matching.2,found] at passes
      exact passes
    · cases sampled

omit [RmcpTexts] [SerdeJson.Bytes] in
/-- Arguments that were resolved are those the plan gives by itself. -/
theorem Lawful.arguments_planned (lawful : Lawful runId state) {arguments sample : Entries Value}
    (resolved : resolveInputs step state = .ok arguments)
    (sampled : sampleArguments state.plan step = .ok sample) :
    (Value.object arguments).same (.object sample) := by
  rw [Value.same]
  exact resolveEach_same (fun _ _ _ _ found found' => lawful.input_planned found found')
    resolved sampled

end RunState

namespace RunSystem

variable {c d : RunConfig} {r s : RunRecord} {a b : RunState} {e f : DriverEvent}
  {past trace : List DriverEvent}

section
variable [SerdeJson] [SerdeJson.Bytes] [Sha256] [RmcpTexts]

omit [SerdeJson] [SerdeJson.Bytes] [Sha256] [RmcpTexts] in
theorem Known.occurred (occurs : e :: past <:+ trace) (commits : committed e = some r) :
    Known r trace := (Known.commit commits past).suffix occurs

/-- Whatever is committed can be read again. -/
theorem committed_state_loads (reachable : Reachable runSystem c) (happened : e ∈ c.world.trace)
    (commits : committed e = some r) :
    ∃ state, stateFrom r = .ok state ∧ r.data = toValue state := by
  have inv := run_certified.invariant reachable
  obtain ⟨past,occurs⟩ := occurs happened
  obtain ⟨state,loads,holds⟩ := (Known.occurred occurs commits).loads inv.history
  exact ⟨state,loads,holds.data⟩

end

section Example
open Reference ExampleRun

/-- The version of the run that was saved when the answer to its call was known. -/
theorem committed_state_loads_example : ∃ c r e, Reachable runSystem c ∧ e ∈ c.world.trace ∧
    committed e = some r ∧ r.version = 2 ∧
      ∃ state, stateFrom r = .ok state ∧ r.data = toValue state := by
  obtain ⟨c,r,i,reachable,sends,-⟩ := sent obliging
  obtain ⟨e,happened,commits⟩ := sends.saved
  exact ⟨c,r,e,reachable,happened,commits,sends.found.number,
    committed_state_loads reachable happened commits⟩

end Example

section
variable [SerdeJson] [SerdeJson.Bytes] [Sha256] [RmcpTexts]

/-- Never are more steps active than the plan allows, and a step comes to be submitted only where
its predecessors are verified and nothing has stopped the run. -/
theorem dispatch_gated (reachable : Reachable runSystem c) (occurs : e :: past <:+ c.world.trace)
    (commits : committed e = some r) :
    ∃ b, stateFrom r = .ok b ∧ b.activeSteps ≤ b.plan.maxConcurrency ∧
      ∀ step ∈ b.plan.steps, b.phaseOf step.id = some .submitting →
        ∃ old a, runsOf past r.runId = some old ∧ stateFrom old = .ok a ∧
          (a.phaseOf step.id = some .submitting ∨ a.Clear step ∧ b.Clear step) := by
  have inv := run_certified.invariant reachable
  obtain ⟨b,loads,holds⟩ := (Known.occurred occurs commits).loads inv.history
  refine ⟨b,loads,holds.lawful.room,fun step member enters => ?_⟩
  have justified := inv.history.suffix occurs
  rcases committed_reason commits justified.1 with begun | ⟨old,data,kind,continued⟩
  · cases begun with
    | existing stored => exact ⟨r,b,stored,loads,.inl enters⟩
    | accepted _ _ _ plan acceptedAt first =>
      cases first.unique holds
      obtain ⟨s,found,phase⟩ := Option.map_eq_some_iff.mp enters
      have new : s = StepState.new :=
        RunState.accepted_new first.lawful.accepted (RunState.mem_of_step? found)
      rw [new] at phase
      cases phase
  · obtain ⟨before,after,held,there,saved⟩ := continued.saved
    cases there.unique holds
    have leads := (saved.lawful held.lawful).2
    have known : Known old past := .current continued.stored
    refine ⟨old,before,?_,held.loads justified.2 known,?_⟩
    · rw [continued.advanced.continues.runId]
      exact continued.stored
    · exact saved.enters held.lawful (leads.plan ▸ member) enters

end

section Example
open Reference ExampleRun

/-- The step was pending in the version before it was submitted in, so it was clear to go. -/
theorem dispatch_gated_example : ∃ c r e past, Reachable runSystem c ∧
    e :: past <:+ c.world.trace ∧ committed e = some r ∧
      ∃ b, stateFrom r = .ok b ∧ b.activeSteps ≤ b.plan.maxConcurrency ∧
        b.phaseOf step.id = some .submitting ∧ ∃ old a, runsOf past r.runId = some old ∧
          stateFrom old = .ok a ∧ a.phaseOf step.id = some .pending ∧ a.Clear step ∧ b.Clear step := by
  obtain ⟨c,r,i,reachable,sends,-⟩ := sent obliging
  obtain ⟨e,past,old,middle,occurs,commits,stored,before,after⟩ := sends.intended
  have history := (run_certified.invariant reachable).history
  have justified := history.suffix occurs
  have first := (Known.current stored).written justified.2 before (written_step new_written)
  have second := (Known.occurred occurs commits).written history after
    (written_step submitting_written)
  obtain ⟨b,loads,room,gated⟩ := dispatch_gated reachable occurs commits
  cases (second.loads history (.occurred occurs commits)).symm.trans loads
  obtain ⟨last,a,found,loads',clear⟩ := gated step (List.mem_singleton_self step) rfl
  cases stored.symm.trans found
  cases (first.loads justified.2 (.current stored)).symm.trans loads'
  rcases clear with stays | clear
  · cases stays
  · exact ⟨c,middle,e,past,reachable,occurs,commits,_,loads,room,rfl,old,_,stored,loads',rfl,clear⟩

end Example

section
variable [SerdeJson] [SerdeJson.Bytes] [Sha256] [RmcpTexts]

/-- Flags and phases only go forward over the versions of a run, and what a cancellation has
answered for stays. -/
theorem run_only_goes_forward (reachable : Reachable runSystem c) :
    (∀ r s, Known r c.world.trace → Known s c.world.trace → r.runId = s.runId →
      r.version ≤ s.version →
        ∃ a b, stateFrom r = .ok a ∧ stateFrom s = .ok b ∧ RunState.Leads a b) ∧
    ∀ (i : Nat) request value id, c.world.requests[i]? = some request →
      c.threads[i]? = some (some (.pure (.ok value))) →
      (Value.find "action" request.args).bind Value.asStr = some "cancel" →
      (Value.find "runId" request.args).bind Value.asStr = some id →
      ∀ d : RunConfig, Relation.ReflTransGen (Step runSystem) c d → ∀ e past s,
        e :: past <:+ d.world.trace → c.world.trace <:+ past → committed e = some s →
        s.runId = id → ∃ b, stateFrom s = .ok b ∧ b.cancelRequested = true := by
  have inv := run_certified.invariant reachable
  constructor
  · intro r s first second same order
    obtain ⟨a,loads,holds⟩ := first.loads inv.history
    have before := first.carried (before_carried _) inv.history second same order
    obtain ⟨b,there,leads⟩ := before.leads a holds
    exact ⟨a,b,loads,there.loads inv.history second,leads⟩
  · intro i request value id served finished cancels named d steps e past s occurs after commits same
    obtain ⟨r,a,known,runId,holds,requested⟩ :=
      (run_certified.result reachable served finished value rfl "cancel" id cancels (by decide)
        named).cancelled rfl
    have later := (run_certified.invariant (reachable.later steps).1).history.suffix occurs
    obtain ⟨t,found,before⟩ := (known.suffix after).later later.2
    obtain ⟨u,there,next⟩ := runsOf_step (before_carried _) later.1 found
    rw [runsOf_commits commits,runId,same,Function.update_self] at there
    cases there
    obtain ⟨b,last,leads⟩ := (before.trans next).leads a holds
    exact ⟨b,last.loads later (.commit commits past),leads.cancelRequested requested⟩

end

section Example
open Reference ExampleRun

/-- The run that is cancelled has been cancelled since. -/
theorem run_only_goes_forward_example : ∃ c r s, Reachable runSystem c ∧ Known r c.world.trace ∧
    Known s c.world.trace ∧ r.version < s.version := by
  obtain ⟨c,r,s,reachable,known,known',same,loads,loads'⟩ := cancelled
  refine ⟨c,r,s,reachable,known,known',Nat.lt_of_not_le fun order => ?_⟩
  obtain ⟨a,b,first,second,leads⟩ :=
    (run_only_goes_forward reachable).1 s r known' known same.symm order
  cases loads.symm.trans second
  cases loads'.symm.trans first
  exact absurd (leads.cancelRequested rfl) (by decide)

end Example

section
variable [SerdeJson] [SerdeJson.Bytes] [Sha256] [RmcpTexts]

/-- The call an operation made of the task proxy. -/
def called : DriverEvent → Option StepCall
  | ⟨_,.submit call,_⟩ => some call
  | ⟨_,.recoverSubmission call,_⟩ => some call
  | _ => none

theorem called_reason {call : StepCall} (calls : called e = some call) (reason : Reason e past) :
    ∃ record state step s, Known record past ∧ Sent call record state step s := by
  obtain ⟨i,op,reply⟩ := e
  cases op with
  | submit =>
    cases calls
    exact reason
  | recoverSubmission =>
    cases calls
    exact reason
  | _ => cases calls

omit [SerdeJson.Bytes] [RmcpTexts] in
/-- The key of a submission is that of its run and step. -/
theorem Sent.key {call : StepCall} {step : RunStep} {t : StepState} (sent : Sent call r a step t) :
    call.submission.index "idempotencyKey" = .string (stepKey call.runId call.stepId) := by
  have lawful := (sent.holds.lawful.found sent.member sent.found).1
  have unsent : t.phase.unsent = false := by
    rw [sent.phase]
    rfl
  obtain ⟨arguments,now,-,-,submission⟩ := lawful.sent unsent
  rw [sent.submission] at submission
  rw [Option.some.inj submission,← sent.runId,← sent.stepId]
  rfl

omit [SerdeJson.Bytes] [RmcpTexts] in
/-- Two calls of one step, the state of one of which led to that of the other. -/
theorem Sent.same {call call' : StepCall} {step step' : RunStep} {t u : StepState}
    (first : Sent call r a step t) (second : Sent call' s b step' u) (leads : RunState.Leads a b)
    (id : step.id = step'.id) :
    call.arguments = call'.arguments ∧ call.submission = call'.submission := by
  obtain ⟨v,found,kept⟩ := leads.steps _ t first.found
  rw [id,second.found] at found
  cases found
  have sent : t.phase.unsent = false := by
    rw [first.phase]
    rfl
  obtain ⟨arguments,submission⟩ := kept.submission sent
  rw [first.arguments,second.arguments] at arguments
  rw [first.submission,second.submission] at submission
  exact ⟨(Option.some.inj arguments).symm,(Option.some.inj submission).symm⟩

omit [SerdeJson.Bytes] [RmcpTexts] in
theorem stepKey_injective (hash : Function.Injective Sha256.digest) {runId runId' stepId stepId' : String}
    (same : stepKey runId stepId = stepKey runId' stepId') : runId = runId' ∧ stepId = stepId' := by
  have chars := congrArg String.toList same
  simp only [stepKey,String.toList_append,String.toList_ofList] at chars
  have decoded := congrArg Sha256Digest.hexDecode (List.append_cancel_left chars)
  rw [Sha256Digest.hexDecode_hexChars,Sha256Digest.hexDecode_hexChars] at decoded
  have digests : Sha256Digest.ofJson (.array [.string runId,.string stepId]) =
      .ofJson (.array [.string runId',.string stepId']) :=
    congrArg Sha256Digest.mk (Option.some.inj decoded)
  have arrays := Sha256Digest.ofJson_injective hash _ _ digests
  simp only [canonicalJson,canonicalItems,Value.array.injEq,List.cons.injEq,Value.string.injEq,
    and_true] at arrays
  exact arrays

/-- Every call of a step carries the arguments and the submission that were committed for it
before, the same each time; calls of different steps never share a key where digests do not
collide. -/
theorem step_calls_identified (reachable : Reachable runSystem c) :
    (∀ e past call, e :: past <:+ c.world.trace → called e = some call →
      ∃ r a s, Known r past ∧ r.runId = call.runId ∧ stateFrom r = .ok a ∧
        a.step? call.stepId = some s ∧ s.phase = .submitting ∧ s.arguments = some call.arguments ∧
        s.submission = some call.submission) ∧
    ∀ e ∈ c.world.trace, ∀ f ∈ c.world.trace, ∀ call call', called e = some call →
      called f = some call' →
      (call.runId = call'.runId ∧ call.stepId = call'.stepId →
        call.arguments = call'.arguments ∧ call.submission = call'.submission) ∧
      (Function.Injective Sha256.digest →
        call.submission.index "idempotencyKey" = call'.submission.index "idempotencyKey" →
          call.runId = call'.runId ∧ call.stepId = call'.stepId) := by
  have inv := run_certified.invariant reachable
  have sent : ∀ e past call, e :: past <:+ c.world.trace → called e = some call →
      ∃ r a step s, Known r past ∧ Sent call r a step s := fun e past call occurs calls =>
    called_reason calls (inv.history.reason_of occurs)
  constructor
  · intro e past call occurs calls
    obtain ⟨r,a,step,s,known,sent⟩ := sent e past call occurs calls
    have loads := sent.holds.loads (inv.history.suffix (past_suffix occurs)) known
    exact ⟨r,a,s,known,sent.runId,loads,sent.stepId ▸ sent.found,sent.phase,sent.arguments,
      sent.submission⟩
  · intro e first f second call call' calls calls'
    obtain ⟨past,occurs⟩ := occurs first
    obtain ⟨rest,occurs'⟩ := Interleaving.occurs second
    obtain ⟨r,a,step,s,known,one⟩ := sent e past call occurs calls
    obtain ⟨r',a',step',s',known',other⟩ := sent f rest call' occurs' calls'
    constructor
    · rintro ⟨sameRun,sameStep⟩
      have run : r.runId = r'.runId := one.runId.trans (sameRun.trans other.runId.symm)
      have id : step.id = step'.id := one.stepId.trans (sameStep.trans other.stepId.symm)
      rcases (known.suffix (past_suffix occurs)).ordered inv.history
        (known'.suffix (past_suffix occurs')) run with before | before
      · obtain ⟨b,holds,leads⟩ := before.leads a one.holds
        cases holds.unique other.holds
        exact one.same other leads id
      · obtain ⟨b,holds,leads⟩ := before.leads a' other.holds
        cases holds.unique one.holds
        obtain ⟨arguments,submission⟩ := other.same one leads id.symm
        exact ⟨arguments.symm,submission.symm⟩
    · intro hash same
      rw [one.key,other.key,Value.string.injEq] at same
      exact stepKey_injective hash same

end

section Example
open Reference ExampleRun

theorem step_calls_identified_example : ∃ c e past call, Reachable runSystem c ∧
    e :: past <:+ c.world.trace ∧ called e = some call ∧
      ∃ r a s, Known r past ∧ r.runId = call.runId ∧ stateFrom r = .ok a ∧
        a.step? call.stepId = some s ∧ s.phase = .submitting ∧ s.arguments = some call.arguments ∧
        s.submission = some call.submission := by
  obtain ⟨c,r,i,reachable,sends,-⟩ := sent obliging
  obtain ⟨call,calls⟩ := sends.called
  obtain ⟨past,occurs⟩ := occurs calls
  exact ⟨c,_,past,call,reachable,occurs,rfl,
    (step_calls_identified reachable).1 _ past call occurs rfl⟩

end Example

section
variable [SerdeJson] [SerdeJson.Bytes] [Sha256] [RmcpTexts]

/-- A key of a caller belongs to one run. -/
theorem Inv.key_unique {w : DriverWorld} (inv : Inv w) {id id' : String}
    (found : runsOf w.trace id = some r) (found' : runsOf w.trace id' = some s)
    (caller : r.caller = s.caller) (key : r.runKey = s.runKey) : r = s := by
  have first := inv.represents.member found
  have second := inv.represents.member found'
  have rows : RunTable.stored r = RunTable.stored s := by
    by_contra different
    have distinct := w.state.uniqueRuns.forall first second different
    apply distinct.2
    change (r.caller.principal.text,r.caller.tenant.text,r.runKey) =
      (s.caller.principal.text,s.caller.tenant.text,s.runKey)
    rw [caller,key]
  have same : r.runId = s.runId := congrArg StoredRun.runId rows
  rw [runsOf_id found,runsOf_id found'] at same
  rw [same,found'] at found
  exact (Option.some.inj found).symm

/-- However often a caller submits under one key, and from however many processes: there is one
run, and, where digests do not collide, no other plan is accepted for it. -/
theorem submissions_idempotent (reachable : Reachable runSystem c) {i j : Nat}
    {caller : TaskRouteCaller} {key : String} {data data' : Value}
    (first : (⟨i,.beginRun caller key data,.ok r⟩ : DriverEvent) ∈ c.world.trace)
    (second : (⟨j,.beginRun caller key data',.ok s⟩ : DriverEvent) ∈ c.world.trace) :
    r.runId = s.runId ∧ (Before r s ∨ Before s r) ∧
      (Function.Injective Sha256.digest →
        canonicalJson (data.index "plan") = canonicalJson (data'.index "plan")) := by
  have inv := run_certified.invariant reachable
  obtain ⟨past,occurs⟩ := occurs first
  obtain ⟨rest,occurs'⟩ := Interleaving.occurs second
  have answers : Answers r caller key data := (inv.history.reason_of occurs).2
  have answers' : Answers s caller key data' := (inv.history.reason_of occurs').2
  have known : Known r c.world.trace := .occurred occurs rfl
  have known' : Known s c.world.trace := .occurred occurs' rfl
  obtain ⟨a,current,before⟩ := known.later inv.history
  obtain ⟨b,current',before'⟩ := known'.later inv.history
  have same : a = b := by
    apply inv.key_unique current current'
    · rw [before.continues.caller,before'.continues.caller,answers.caller,answers'.caller]
    · rw [before.continues.runKey,before'.continues.runKey,answers.runKey,answers'.runKey]
  subst same
  have runId : r.runId = s.runId := before.continues.runId.symm.trans before'.continues.runId
  have digests : r.planSha256 = s.planSha256 :=
    before.continues.planSha256.symm.trans before'.continues.planSha256
  rw [answers.planSha256,answers'.planSha256] at digests
  exact ⟨runId,known.ordered inv.history known' runId,fun hash =>
    Sha256Digest.ofJson_injective hash _ _ digests⟩

end

section Example
open Reference ExampleRun

/-- The example is submitted once more. -/
theorem submissions_idempotent_example : ∃ c i j r s data data', i ≠ j ∧ Reachable runSystem c ∧
    (⟨i,.beginRun localCaller plan.runKey data,.ok r⟩ : DriverEvent) ∈ c.world.trace ∧
    (⟨j,.beginRun localCaller plan.runKey data',.ok s⟩ : DriverEvent) ∈ c.world.trace ∧
      r.runId = s.runId ∧ (Before r s ∨ Before s r) ∧
        canonicalJson (data.index "plan") = canonicalJson (data'.index "plan") := by
  obtain ⟨c,i,j,r,s,data,data',other,reachable,first,second⟩ := resubmitted
  obtain ⟨run,before,plans⟩ := submissions_idempotent reachable first second
  exact ⟨c,i,j,r,s,data,data',other,reachable,first,second,run,before,
    plans Function.injective_id⟩

end Example

section
variable [SerdeJson] [SerdeJson.Bytes] [Sha256] [RmcpTexts]

/-- In two runs of one plan every step that was sent was sent with the same arguments, those that
the plan gives by itself and that a tool bound to the step takes. -/
theorem sent_arguments_planned (first : Reachable runSystem c) (second : Reachable runSystem d)
    (here : Known r c.world.trace) (there : Known s d.world.trace) (loads : stateFrom r = .ok a)
    (loads' : stateFrom s = .ok b) (plan : a.plan = b.plan) {step : RunStep} (member : step ∈ a.plan.steps)
    {t u : StepState} (found : a.step? step.id = some t) (found' : b.step? step.id = some u)
    (sent : t.phase.unsent = false) (sent' : u.phase.unsent = false) :
    ∃ arguments arguments' sample, t.arguments = some arguments ∧ u.arguments = some arguments' ∧
      resolveInputs step a = .ok arguments ∧ resolveInputs step b = .ok arguments' ∧
      sampleArguments a.plan step = .ok sample ∧ (∃ tool : FederatedTool, tool.Takes step sample) ∧
      (Value.object arguments).same (.object sample) ∧
      (Value.object arguments').same (.object sample) ∧
      (Value.object arguments).same (.object arguments') := by
  have holds := here.read (run_certified.invariant first).history loads
  have holds' := there.read (run_certified.invariant second).history loads'
  have one := (holds.lawful.found member found).1
  have other := (holds'.lawful.found (plan ▸ member) found').1
  obtain ⟨arguments,now,held,resolved,-⟩ := one.sent sent
  obtain ⟨arguments',now',held',resolved',-⟩ := other.sent sent'
  obtain ⟨sample,sampled,tool,takes⟩ := one.sampled sent
  have planned := holds.lawful.arguments_planned resolved sampled
  have planned' := holds'.lawful.arguments_planned resolved' (plan ▸ sampled)
  exact ⟨arguments,arguments',sample,held,held',resolved,resolved',sampled,⟨tool,takes⟩,planned,
    planned',Value.same_trans planned (Value.same_symm planned')⟩

end

section Example
open Reference ExampleRun

/-- Of two runs one has had its step called for, and the other its task completed. -/
theorem sent_arguments_planned_example : ∃ c d r s, Reachable runSystem c ∧ Reachable runSystem d ∧
    Known r c.world.trace ∧ Known s d.world.trace ∧ stateFrom r = .ok (state routed) ∧
    stateFrom s = .ok (state verified) ∧ routed.arguments = some arguments ∧
    verified.arguments = some arguments ∧ ∃ sample, sampleArguments plan step = .ok sample ∧
      (Value.object arguments).same (.object sample) := by
  obtain ⟨c,r,_,reachable,sends,-⟩ := sent obliging
  obtain ⟨d,s,_,reachable',found,-⟩ := completes
  have known : Known r c.world.trace := .current sends.found.current
  have known' : Known s d.world.trace := .current found.current
  have loads := sends.found.loads reachable (written_step routed_written)
  have loads' := found.loads reachable' (written_step verified_written)
  obtain ⟨sent,_,sample,held,-,-,-,sampled,-,same,-⟩ := sent_arguments_planned reachable reachable'
    known known' loads loads' rfl (List.mem_singleton_self step) (state_step routed)
    (state_step verified) rfl rfl
  cases held
  exact ⟨c,d,r,s,reachable,reachable',known,known',loads,loads',rfl,rfl,sample,sampled,same⟩

end Example

section
variable [SerdeJson] [SerdeJson.Bytes] [Sha256] [RmcpTexts]

/-- In every state that is reached the store answers exactly what the history says of the runs: a
read the current version, a save only from it, and a submission the run of its key or a new one. -/
theorem store_answers_exactly (reachable : Reachable runSystem c) :
    (∀ caller id r, c.world.state.getRun caller id = .ok (some r) ↔
      runsOf c.world.trace id = some r ∧ r.caller = caller ∧
        r.data.depth ≤ SerdeJson.recursionLimit) ∧
    (∀ caller key r, c.world.state.findRun caller key = .ok (some r) ↔
      runsOf c.world.trace r.runId = some r ∧ r.caller = caller ∧ r.runKey = key ∧
        r.data.depth ≤ SerdeJson.recursionLimit) ∧
    (∀ old data kind next, (RunTable.advanceRun old data kind c.world.state).1 = .ok next ↔
      ∃ current, runsOf c.world.trace old.runId = some current ∧ current.caller = old.caller ∧
        current.version = old.version ∧ current.data.depth ≤ SerdeJson.recursionLimit ∧
        RunTable.samePlan (data.get "plan") (current.data.get "plan") = true ∧
        RunRecord.append { current with version := current.version + 1, data } kind = .ok next) ∧
    ∀ fresh caller key data record,
      (RunTable.beginRun fresh caller key data c.world.state).1 = .ok record ↔
        ¬(key.isEmpty ∨ key.utf8ByteSize > 128 ∨ ¬(data.index "plan").isObject) ∧
        ((∃ i, runsOf c.world.trace i = some record ∧ record.caller = caller ∧ record.runKey = key ∧
            record.data.depth ≤ SerdeJson.recursionLimit ∧
            record.planSha256 = .ofJson (data.index "plan")) ∨
          (∀ id r, runsOf c.world.trace id = some r → ¬(r.caller = caller ∧ r.runKey = key)) ∧
            runsOf c.world.trace fresh = none ∧ c.world.state.runs.length < maxStoredRuns ∧
            RunRecord.append ⟨runSchemaVersion,fresh,caller,key,.ofJson (data.index "plan"),0,data,[]⟩
              "accepted" = .ok record) := by
  have rep := (run_certified.invariant reachable).represents
  exact ⟨fun _ _ _ => rep.load_iff,fun _ _ _ => rep.find_iff,fun _ _ _ _ => rep.advance_iff,
    fun _ _ _ _ _ => rep.begin_iff⟩

end

section Example
open Reference ExampleRun

theorem store_answers_exactly_example : ∃ c r, Reachable runSystem c ∧
    c.world.state.getRun localCaller "run-1" = .ok (some r) := by
  obtain ⟨c,r,reachable,found,-⟩ := submitted obliging
  refine ⟨c,r,reachable,((store_answers_exactly reachable).1 _ _ _).mpr ⟨found.current,found.caller,?_⟩⟩
  rw [found.data]
  exact state_shallow (by decide)

end Example
end RunSystem
end GaugeMesh
