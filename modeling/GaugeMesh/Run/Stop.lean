import GaugeMesh.Run.Guarantees

/-! What stops a run stays. A run that was cancelled, that its deadline ended or one of whose steps
failed dispatches nothing any more; where it waits only for steps whose outcome is unknown, nothing
but the completion of the task of such a step lets it go on. -/
namespace GaugeMesh
open Json Interleaving

namespace RunState

variable {answered : RunAnswers} {runId : String}
  {state next saved : RunState} {step : RunStep} {s t : StepState}

/-- Nothing that was not sent is sent. -/
def Undispatched (state next : RunState) : Prop :=
  ∀ id phase, state.phaseOf id = some phase → phase.unsent →
    ∃ later, next.phaseOf id = some later ∧ later.unsent

/-- The run is stopped for good. -/
def Ended (state : RunState) : Prop :=
  state.ending ∨ ∃ id, state.phaseOf id = some .failed ∨ state.phaseOf id = some .cancelled

theorem Undispatched.refl (state : RunState) : Undispatched state state :=
  fun _ phase found unsent => ⟨phase,found,unsent⟩

theorem Undispatched.trans {last : RunState} (first : Undispatched state next)
    (second : Undispatched next last) : Undispatched state last := by
  intro id phase found unsent
  obtain ⟨middle,there,still⟩ := first id phase found unsent
  exact second id middle there still

theorem Undispatched.pending (kept : Undispatched state next) {id : String}
    (found : state.phaseOf id = some .pending) :
    next.phaseOf id = some .pending ∨ next.phaseOf id = some .skipped := by
  obtain ⟨later,there,unsent⟩ := kept id .pending found rfl
  cases later with
  | pending => exact .inl there
  | skipped => exact .inr there
  | _ => cases unsent

theorem ending_stopped (ending : state.ending) : state.stopped := by
  rw [stopped,ending]
  rfl

/-- A step that blocks its run is found by its id. -/
theorem blocked_phase (distinct : Keyed.Distinct state.steps) (blocked : state.blocked) :
    ∃ id phase, state.phaseOf id = some phase ∧ phase.blocks := by
  obtain ⟨⟨id,s⟩,there,blocks⟩ := List.any_eq_true.mp blocked
  refine ⟨id,s.phase,?_,blocks⟩
  rw [phaseOf,step?,Keyed.lookup_of_mem distinct there]
  rfl

theorem phase_stopped {id : String} {phase : StepPhase} (found : state.phaseOf id = some phase)
    (blocks : phase.blocks) : state.stopped := by
  rw [stopped,Bool.or_eq_true]
  right
  by_contra unblocked
  have free := unblocked_phase (Bool.eq_false_of_not_eq_true unblocked) found
  rw [free] at blocks
  cases blocks

theorem Ended.stopped (ended : state.Ended) : state.stopped := by
  rcases ended with ending | ⟨id,failed | cancelled⟩
  · exact ending_stopped ending
  · exact phase_stopped failed rfl
  · exact phase_stopped cancelled rfl

theorem Leads.ending (leads : Leads state next) (ending : state.ending) : next.ending := by
  rcases Bool.or_eq_true_iff.mp ending with requested | observed
  · exact Bool.or_eq_true_iff.mpr (.inl (leads.cancelRequested requested))
  · exact Bool.or_eq_true_iff.mpr (.inr (leads.deadlineObserved observed))

theorem Leads.phaseOf (leads : Leads state next) {id : String} {phase : StepPhase}
    (found : state.phaseOf id = some phase) :
    ∃ later, next.phaseOf id = some later ∧ phase.Leads later := by
  obtain ⟨s,there,rfl⟩ := Option.map_eq_some_iff.mp found
  obtain ⟨t,later,step⟩ := leads.steps id s there
  exact ⟨t.phase,congrArg (Option.map StepState.phase) later,step.phase⟩

theorem Leads.ended (leads : Leads state next) (ended : state.Ended) : next.Ended := by
  rcases ended with ending | ⟨id,closed⟩
  · exact .inl (leads.ending ending)
  · right
    refine ⟨id,?_⟩
    rcases closed with failed | cancelled
    · obtain ⟨later,there,goes⟩ := leads.phaseOf failed
      rw [goes.ended (.inl rfl)] at there
      exact .inl there
    · obtain ⟨later,there,goes⟩ := leads.phaseOf cancelled
      rw [goes.ended (.inr (.inl rfl))] at there
      exact .inr there

theorem Alike.stopped (alike : Alike saved state) (distinct : Keyed.Distinct saved.steps)
    (stopped : saved.stopped) : state.stopped := by
  rcases Bool.or_eq_true_iff.mp stopped with ending | blocked
  · apply ending_stopped
    rw [RunState.ending,alike.cancelRequested,alike.deadlineObserved]
    exact ending
  · obtain ⟨id,phase,found,blocks⟩ := blocked_phase distinct blocked
    rw [← alike.phaseOf] at found
    exact phase_stopped found blocks

variable [FloatText] [Sha256] [RmcpTexts] [SerdeJson.Bytes]

/-- The task of a step whose outcome was unknown has completed, and the step is verified. -/
structure Completes (answered : RunAnswers) (state next : RunState) (step : RunStep) (s : StepState)
    (taskId : String) (result : GetTaskResult) : Prop where
  member : step ∈ state.plan.steps
  found : state.step? step.id = some s
  unknown : s.phase = .unknown
  task : s.taskId = some taskId
  told : ∃ identity, answered (.getTask taskId identity) (.ok result)
  completed : ∃ value, RmcpTexts.getTaskResult result = some value ∧
    (value.index "status").asStr = some "completed"
  verified : next.phaseOf step.id = some .verified

theorem StepChange.undispatched (stopped : state.stopped)
    (change : StepChange answered runId state step s t) (unsent : s.phase.unsent) :
    t.phase.unsent := by
  cases change with
  | refuted phase =>
    rw [phase] at unsent
    cases unsent
  | acknowledged phase =>
    rw [phase] at unsent
    cases unsent
  | intended => exact unsent
  | responded => exact unsent
  | observed polled =>
    rw [polled_unsent polled] at unsent
    cases unsent
  | dispatched _ going =>
    rw [stopped] at going
    cases going

theorem Change.undispatched (stopped : state.stopped) (change : Change answered runId state next) :
    Undispatched state next := by
  intro id phase found unsent
  cases change with
  | cancelled => exact ⟨phase,found,unsent⟩
  | expired => exact ⟨phase,found,unsent⟩
  | @step other s t _ there change =>
    by_cases same : id = other.id
    · subst same
      rw [RunState.phaseOf,there] at found
      cases found
      exact ⟨t.phase,phaseOf_set_self there t,change.undispatched stopped unsent⟩
    · exact ⟨phase,(phaseOf_set same t).trans found,unsent⟩
  | skipped =>
    obtain ⟨s,there,rfl⟩ := Option.map_eq_some_iff.mp found
    refine ⟨s.skipped.phase,?_,?_⟩
    · rw [RunState.phaseOf,step?_skipUnsent,there]
      rfl
    · rw [StepState.skipped]
      split
      · rfl
      · exact unsent

/-- What is saved of a stopped run dispatches nothing. -/
theorem Save.undispatched (lawful : Lawful runId state) (save : Save answered runId state next)
    (stopped : state.stopped) : Undispatched state next := by
  obtain ⟨held,unsaved,change⟩ := save
  have alike := alike_of_unsaved unsaved
  intro id phase found unsent
  rw [← alike.phaseOf] at found
  exact change.undispatched (alike.stopped lawful.distinct stopped) id phase found unsent

theorem observed_blocks {plan : RunPlan} {reply : Except McpError GetTaskResult}
    (observed : Observed answered runId plan step s reply t) :
    t.phase.blocks ∨ t.phase = .verified ∧ ∃ result value, reply = .ok result ∧
      RmcpTexts.getTaskResult result = some value ∧
      (value.index "status").asStr = some "completed" := by
  cases observed with
  | verified document _ attested =>
    have completed := attested.completed.1
    cases attested.ended
    exact .inr ⟨rfl,_,_,rfl,document,completed⟩
  | _ => exact .inl rfl

/-- A step of unknown outcome blocks its run until its task has completed and it is verified. -/
theorem StepChange.blocks (phase : s.phase = .unknown)
    (change : StepChange answered runId state step s t) :
    t.phase.blocks ∨ t.phase = .verified ∧ ∃ taskId identity result value, s.taskId = some taskId ∧
      answered (.getTask taskId identity) (.ok result) ∧
      RmcpTexts.getTaskResult result = some value ∧
      (value.index "status").asStr = some "completed" := by
  have still : s.phase.blocks = true := by
    rw [phase]
    rfl
  cases change with
  | refuted verified => simp [phase] at verified
  | acknowledged submitting => simp [phase] at submitting
  | intended => exact .inl still
  | responded => exact .inl still
  | observed polled told outcome =>
    rcases observed_blocks outcome with blocks | ⟨verified,result,value,rfl,document,status⟩
    · exact .inl blocks
    · exact .inr ⟨verified,_,_,result,value,(polledFor_eq_some.mp polled).2,told,document,status⟩
  | dispatched pending => simp [phase] at pending

theorem Change.stopped (lawful : Lawful runId state) (stopped : state.stopped)
    (change : Change answered runId state next) :
    next.stopped ∨ ∃ step s taskId result, Completes answered state next step s taskId result := by
  have leads := (change.lawful lawful).2
  rcases Bool.or_eq_true_iff.mp stopped with ending | blocked
  · exact .inl (ending_stopped (leads.ending ending))
  obtain ⟨id,phase,found,blocks⟩ := blocked_phase lawful.distinct blocked
  obtain ⟨later,there,goes⟩ := leads.phaseOf found
  cases phase with
  | failed =>
    rw [goes.ended (.inl rfl)] at there
    exact .inl (phase_stopped there rfl)
  | cancelled =>
    rw [goes.ended (.inr (.inl rfl))] at there
    exact .inl (phase_stopped there rfl)
  | unknown =>
    cases change with
    | cancelled => exact .inl (phase_stopped found rfl)
    | expired => exact .inl (phase_stopped found rfl)
    | @step other s t member here change =>
      by_cases same : id = other.id
      · subst same
        have unknown : s.phase = .unknown := by
          rw [RunState.phaseOf,here] at found
          exact Option.some.inj found
        have moved := phaseOf_set_self here t
        rcases change.blocks unknown with
          blocks | ⟨verified,taskId,identity,result,value,task,told,completed⟩
        · exact .inl (phase_stopped moved blocks)
        · rw [verified] at moved
          exact .inr ⟨other,s,taskId,result,member,here,unknown,task,⟨identity,told⟩,
            ⟨value,completed⟩,moved⟩
      · exact .inl (phase_stopped ((phaseOf_set same t).trans found) rfl)
    | skipped =>
      obtain ⟨s,here,unknown⟩ := Option.map_eq_some_iff.mp found
      have kept : state.skipUnsent.phaseOf id = some .unknown := by
        rw [RunState.phaseOf,step?_skipUnsent,here,Option.map_some,Option.map_some,StepState.skipped,
          if_neg (by rw [unknown]; decide),unknown]
      exact .inl (phase_stopped kept rfl)
  | _ => cases blocks

/-- A run that was stopped is stopped after a save, unless the save has a step verified whose
outcome was unknown. -/
theorem Save.stopped (lawful : Lawful runId state) (save : Save answered runId state next)
    (stopped : state.stopped) :
    next.stopped ∨ ∃ step s taskId result, Completes answered state next step s taskId result := by
  obtain ⟨held,unsaved,change⟩ := save
  have alike := alike_of_unsaved unsaved
  rcases change.stopped (held_lawful lawful unsaved).1 (alike.stopped lawful.distinct stopped) with
    still | ⟨step,s,taskId,result,completes⟩
  · exact .inl still
  · right
    have same := alike.steps step.id
    rw [completes.found] at same
    obtain ⟨t,there,kept⟩ := Option.map_eq_some_iff.mp same.symm
    have phase : t.phase = s.phase := (congrArg StepState.phase kept :)
    have task : t.taskId = s.taskId := (congrArg StepState.taskId kept :)
    exact ⟨step,t,taskId,result,alike.plan ▸ completes.member,there,phase.trans completes.unknown,
      task.trans completes.task,completes.told,completes.completed,completes.verified⟩

end RunState

namespace RunSystem

section
variable [SerdeJson] [SerdeJson.Bytes] [Sha256] [RmcpTexts]

variable {c : RunConfig} {r s t : RunRecord} {a b : RunState} {trace : List DriverEvent}

/-- From one version of a run to another a step of unknown outcome was verified: its task was seen
to complete after the version it was unknown in, and it is verified in the next. -/
def Reopened (trace : List DriverEvent) (r s : RunRecord) : Prop :=
  ∃ t u state next, Known t trace ∧ Known u trace ∧ t.runId = r.runId ∧ u.runId = r.runId ∧
    r.version ≤ t.version ∧ u.version = t.version + 1 ∧ u.version ≤ s.version ∧
    stateFrom t = .ok state ∧ stateFrom u = .ok next ∧
    ∃ step v taskId result, RunState.Completes (since t trace) state next step v taskId result

omit [SerdeJson.Bytes] in
theorem Reopened.upto (reopened : Reopened trace r s) (later : s.version ≤ t.version) :
    Reopened trace r t := by
  obtain ⟨t,u,state,next,known,known',same,same',low,follows,high,rest⟩ := reopened
  exact ⟨t,u,state,next,known,known',same,same',low,follows,high.trans later,rest⟩

omit [SerdeJson.Bytes] in
theorem Reopened.since (reopened : Reopened trace s t) (runId : s.runId = r.runId)
    (earlier : r.version ≤ s.version) : Reopened trace r t := by
  obtain ⟨t,u,state,next,known,known',same,same',low,rest⟩ := reopened
  exact ⟨t,u,state,next,known,known',same.trans runId,same'.trans runId,earlier.trans low,rest⟩

/-- What the later record has to keep of a run that was stopped at the earlier one. -/
structure Stops (trace : List DriverEvent) (r s : RunRecord) : Prop where
  before : Before r s
  ended : ∀ a b, Holds r a → Holds s b → a.Ended → b.Ended ∧ a.Undispatched b
  stopped : ∀ a b, Holds r a → Holds s b → a.stopped →
    b.stopped ∧ a.Undispatched b ∨ Reopened trace r s

omit [SerdeJson.Bytes] in
theorem Stops.refl (trace : List DriverEvent) (r : RunRecord) : Stops trace r r where
  before := .refl r
  ended a b first second ended := by
    cases first.unique second
    exact ⟨ended,.refl a⟩
  stopped a b first second stopped := by
    cases first.unique second
    exact .inl ⟨stopped,.refl a⟩

omit [SerdeJson.Bytes] in
theorem Stops.trans (first : Stops trace r s) (second : Stops trace s t) : Stops trace r t where
  before := first.before.trans second.before
  ended a d start last ended := by
    obtain ⟨b,middle,-⟩ := first.before.leads a start
    obtain ⟨ended,kept⟩ := first.ended a b start middle ended
    obtain ⟨ended,kept'⟩ := second.ended b d middle last ended
    exact ⟨ended,kept.trans kept'⟩
  stopped a d start last stopped := by
    obtain ⟨b,middle,-⟩ := first.before.leads a start
    have continues := first.before.continues
    rcases first.stopped a b start middle stopped with ⟨stopped,kept⟩ | reopened
    · rcases second.stopped b d middle last stopped with ⟨stopped,kept'⟩ | reopened
      · exact .inl ⟨stopped,kept.trans kept'⟩
      · exact .inr (reopened.since continues.runId continues.version)
    · exact .inr (reopened.upto second.before.continues.version)

end

section Example
open Reference ExampleRun

end Example
end RunSystem

namespace ExampleRun
open Reference RunSystem

variable {tasks : TaskAnswers} {i n : Nat} {w : DriverWorld} {r : RunRecord} {s t : StepState}

/-- A plan of two steps that do not depend on each other. -/
noncomputable def longer : RunPlan := { plan with steps := [step,named "other"] }

noncomputable def both (s t : StepState) : RunState :=
  ⟨longer,1000,false,false,[("only",s),("other",t)]⟩

end ExampleRun
end GaugeMesh
