import GaugeMesh.Run.System

/-! Every action of a driver keeps the invariant of the histories: what it saves continues the
record it holds by one save, and what it submits is committed. -/
namespace GaugeMesh
open Json Interleaving RunSystem

section
variable {first second : RunAnswers} {runId : String} {state next : RunState} {step : RunStep}
  {s t : StepState}

namespace RunState

/-- What a response to a cancellation leaves of a step as it is. -/
def kept (s : StepState) : StepState :=
  { s with cancellationRequestSent := false, cancellationAcknowledged := false, diagnostic := none }

/-- A state that was not saved differs from the saved one in the responses to cancellations
alone. -/
structure Alike (saved held : RunState) : Prop where
  plan : held.plan = saved.plan
  cancelRequested : held.cancelRequested = saved.cancelRequested
  deadlineObserved : held.deadlineObserved = saved.deadlineObserved
  steps : ∀ id, (held.step? id).map kept = (saved.step? id).map kept

theorem Alike.refl (state : RunState) : Alike state state := ⟨rfl,rfl,rfl,fun _ => rfl⟩

theorem Alike.found {saved held : RunState} {id : String} (alike : Alike saved held)
    (found : held.step? id = some s) : ∃ t, saved.step? id = some t ∧ s.phase = t.phase ∧
      s.arguments = t.arguments ∧ s.submission = t.submission := by
  have same := alike.steps id
  rw [found] at same
  obtain ⟨t,there,same⟩ := Option.map_eq_some_iff.mp same.symm
  exact ⟨t,there,(congrArg StepState.phase same).symm,(congrArg StepState.arguments same).symm,
    (congrArg StepState.submission same).symm⟩

theorem Alike.phaseOf {saved held : RunState} (alike : Alike saved held) (id : String) :
    held.phaseOf id = saved.phaseOf id := by
  have same := congrArg (Option.map StepState.phase) (alike.steps id)
  rw [Option.map_map,Option.map_map] at same
  exact same

end RunState

variable [FloatText] [Sha256] [RmcpTexts] [SerdeJson.Bytes]

omit [RmcpTexts] in
theorem Attested.mono {plan : RunPlan} {terminal submission artifact : Value} {path : String}
    {bytes : List UInt8} (told : ∀ op reply, first op reply → second op reply)
    (attested : Attested first runId plan step s terminal submission path bytes artifact) :
    Attested second runId plan step s terminal submission path bytes artifact :=
  { attested with read := told _ _ attested.read }

theorem Observed.mono {plan : RunPlan} {reply : Except McpError GetTaskResult}
    (told : ∀ op reply, first op reply → second op reply)
    (observed : Observed first runId plan step s reply t) :
    Observed second runId plan step s reply t := by
  cases observed with
  | unanswered new => exact .unanswered new
  | unreconciled document present new => exact .unreconciled document present new
  | verified document reconciled attested present =>
    exact .verified document reconciled (attested.mono told) present
  | rejected document present error => exact .rejected document present error
  | failed document present => exact .failed document present
  | cancelled document present => exact .cancelled document present

namespace RunState

theorem StepChange.mono (told : ∀ op reply, first op reply → second op reply)
    (change : StepChange first runId state step s t) : StepChange second runId state step s t := by
  cases change with
  | refuted phase error => exact .refuted phase error
  | acknowledged phase response => exact .acknowledged phase response
  | intended polled ending fresh => exact .intended polled ending fresh
  | responded polled pending answer new => exact .responded polled pending (told _ _ answer) new
  | observed polled reply outcome => exact .observed polled (told _ _ reply) (outcome.mono told)
  | dispatched phase going room ready resolved sampled tool takes now =>
    exact .dispatched phase going room ready resolved sampled tool takes now

omit [FloatText] [Sha256] [SerdeJson.Bytes] in
theorem Unsaved.mono (told : ∀ op reply, first op reply → second op reply)
    (unsaved : Unsaved first state next) : Unsaved second state next := by
  cases unsaved with
  | responded member found polled pending answer =>
    exact .responded member found polled pending (told _ _ answer)

omit [FloatText] [Sha256] [SerdeJson.Bytes] in
theorem Unsaved.alike {saved : RunState} (alike : Alike saved state)
    (unsaved : Unsaved first state next) : Alike saved next := by
  cases unsaved with
  | @responded step s taskId identity answer member found polled pending told =>
    refine ⟨alike.plan,alike.cancelRequested,alike.deadlineObserved,fun id => ?_⟩
    rw [← alike.steps id]
    by_cases same : id = step.id
    · subst same
      rw [step?_set_self found,found]
      rfl
    · rw [step?_set_ne same]

omit [FloatText] [Sha256] [SerdeJson.Bytes] in
theorem alike_of_unsaved (unsaved : Relation.ReflTransGen (Unsaved first) state next) :
    Alike state next := by
  induction unsaved with
  | refl => exact .refl state
  | tail _ more ih => exact more.alike ih

end RunState
end

namespace RunSystem

section Operations
variable [SerdeJson] [SerdeJson.Bytes] [Sha256] [RmcpTexts] {w : DriverWorld} {i : Nat}
  {pre : DriverWorld → Prop} {r : RunRecord}

omit [SerdeJson] [SerdeJson.Bytes] [Sha256] [RmcpTexts] in
theorem Known.permanent (r : RunRecord) : Permanent fun w : DriverWorld => Known r w.trace :=
  .grown fun _ _ known => known.suffix (List.suffix_cons _ _)

omit [SerdeJson] [SerdeJson.Bytes] [Sha256] [RmcpTexts] in
theorem since_permanent (r : RunRecord) (op : RunOp) (reply : op.Ret) :
    Permanent fun w : DriverWorld => since r w.trace op reply := by
  have grows : ∀ (e : DriverEvent) past, since r past op reply → since r (e :: past) op reply :=
    fun _ _ told => since_suffix told (List.suffix_cons _ _)
  exact .grown grows

/-- An operation that commits nothing. -/
theorem Inv.quiet {op : RunOp} {reply : op.Ret} (inv : Inv w) (quiet : committed ⟨i,op,reply⟩ = none)
    (reason : Reason ⟨i,op,reply⟩ w.trace) : Inv (w.after i op reply w.state) where
  history := ⟨reason,inv.history⟩
  represents := by
    change RunTable.Represents w.state (runsOf (⟨i,op,reply⟩ :: w.trace))
    rw [runsOf_quiet quiet]
    exact inv.represents

/-- The operations that neither write nor call a task. -/
def plain : Set RunOp
  | .beginRun .. | .advanceRun .. | .submit _ | .recoverSubmission _ => False
  | _ => True

theorem plain_kept {op : RunOp} {reply : op.Ret} {s t : RunTable} (quiet : op ∈ plain)
    (acted : act op s reply t) (past : List DriverEvent) :
    t = s ∧ committed ⟨i,op,reply⟩ = none ∧ Reason ⟨i,op,reply⟩ past := by
  have reads {α : Type} {performed reply : Except RunError α}
      (stored : Stores s (performed,s) reply t) : t = s := by
    rcases stored with ⟨-,same⟩ | ⟨_,-,same⟩ <;> exact same
  cases op with
  | beginRun => exact quiet.elim
  | advanceRun => exact quiet.elim
  | submit => exact quiet.elim
  | recoverSubmission => exact quiet.elim
  | findRun => exact ⟨reads acted,rfl,trivial⟩
  | getRun => exact ⟨reads acted,rfl,trivial⟩
  | _ => exact ⟨acted,rfl,trivial⟩

/-- The operation was answered in a world with the fact. -/
def Asked (i : Nat) (pre : DriverWorld → Prop) (op : RunOp) (reply : op.Ret)
    (trace : List DriverEvent) : Prop :=
  ∃ u, pre u ∧ Inv u ∧ (⟨i,op,reply⟩ : DriverEvent) :: u.trace <:+ trace ∧
    ∃ t, act op u.state reply t

theorem Asked.permanent (i : Nat) (pre : DriverWorld → Prop) (op : RunOp) (reply : op.Ret) :
    Permanent fun w : DriverWorld => Asked i pre op reply w.trace := by
  refine .grown ?_
  rintro event past ⟨u,holds,valid,earlier,acted⟩
  exact ⟨u,holds,valid,earlier.trans (List.suffix_cons _ _),acted⟩

theorem Asked.heard {op : RunOp} {reply : op.Ret} {trace : List DriverEvent}
    (asked : Asked i pre op reply trace) (known : ∀ u, pre u → Known r u.trace) :
    heard i r trace op reply := by
  obtain ⟨u,holds,-,earlier,-⟩ := asked
  exact ⟨u.trace,earlier,known u holds⟩

theorem Asked.since {op : RunOp} {reply : op.Ret} {trace : List DriverEvent}
    (asked : Asked i pre op reply trace) (known : ∀ u, pre u → Known r u.trace) :
    since r trace op reply := ⟨i,asked.heard known⟩

theorem ask_runs {op : RunOp} (permanent : Permanent pre) (quiet : op ∈ plain) :
    Interleaving.Runs runSystem Inv i pre (RunDriver.ask op : Fallible RunOp RunOp.Ret ε op.Ret)
      (fun reply w => Asked i pre op reply w.trace ∧ pre w) fun _ => True := by
  refine Interleaving.Runs.perform permanent.stable ?_ fun reply =>
    ((Asked.permanent i pre op reply).and permanent).stable
  intro w reply s valid holds acted
  obtain ⟨rfl,quiet,reason⟩ := plain_kept quiet acted w.trace
  refine ⟨valid.quiet quiet reason,⟨w,holds,valid,List.suffix_rfl,w.state,acted⟩,?_⟩
  exact permanent.after _ _ _ _ _ holds

theorem demand_runs {condition : Prop} [Decidable condition] {error : ε} (permanent : Permanent pre) :
    Interleaving.Runs runSystem Inv i pre
      (RunDriver.demand condition error : Fallible RunOp RunOp.Ret ε Unit)
      (fun _ w => condition ∧ pre w) fun _ => True := by
  refine (Interleaving.Runs.ofExcept permanent.stable).weaken ?_ fun _ _ _ => trivial
  exact fun _ _ _ holds => ⟨(ensure_ok _ _).mp holds.1,holds.2⟩

theorem required_runs {value : Option α} {error : ε} (permanent : Permanent pre) :
    Interleaving.Runs runSystem Inv i pre
      (RunDriver.required value error : Fallible RunOp RunOp.Ret ε α)
      (fun a w => value = some a ∧ pre w) fun _ => True := by
  refine (Interleaving.Runs.ofExcept permanent.stable).weaken ?_ fun _ _ _ => trivial
  exact fun _ _ _ holds => ⟨(okOr_ok _ _ _).mp holds.1,holds.2⟩

theorem ofExcept_runs {result : Except ε α} (permanent : Permanent pre) :
    Interleaving.Runs runSystem Inv i pre (Fallible.ofExcept result : Fallible RunOp RunOp.Ret ε α)
      (fun a w => result = .ok a ∧ pre w) fun _ => True :=
  (Interleaving.Runs.ofExcept permanent.stable).weaken (fun _ _ _ holds => holds) fun _ _ _ => trivial

theorem checked_runs {result : Except String α} (permanent : Permanent pre) :
    Interleaving.Runs runSystem Inv i pre (RunDriver.checked result)
      (fun a w => result = .ok a ∧ pre w) fun _ => True := by
  refine (ofExcept_runs permanent).weaken ?_ fun _ _ _ => trivial
  exact fun _ _ _ holds => ⟨bailed_ok.mp holds.1,holds.2⟩

theorem stored_runs {result : Except RunError α} (permanent : Permanent pre) :
    Interleaving.Runs runSystem Inv i pre (RunDriver.stored result)
      (fun a w => result = .ok a ∧ pre w) fun _ => True := by
  refine (ofExcept_runs permanent).weaken ?_ fun _ _ _ => trivial
  exact fun _ _ _ holds => ⟨mapError_ok.mp holds.1,holds.2⟩

theorem pure_runs {value : α} {done : α → DriverWorld → Prop} (permanent : Permanent pre)
    (result : ∀ w, Inv w → pre w → done value w) :
    Interleaving.Runs runSystem Inv i pre (pure value : Fallible RunOp RunOp.Ret ε α) done
      fun _ => True :=
  Interleaving.Runs.pure permanent.stable result

theorem nowUnixMs_runs (permanent : Permanent pre) :
    Interleaving.Runs runSystem Inv i pre RunDriver.nowUnixMs (fun _ => pre) fun _ => True := by
  refine Interleaving.Runs.bind (ask_runs permanent trivial) fun reply => ?_
  have permanent' := (Asked.permanent i pre .now reply).and permanent
  exact (required_runs permanent').weaken (fun _ _ _ holds => holds.2.2) fun _ _ holds => holds

end Operations
section Store
variable [SerdeJson] [SerdeJson.Bytes] [Sha256] [RmcpTexts] {i : Nat} {r : RunRecord}
  {caller : TaskRouteCaller} {id : String} {pre : DriverWorld → Prop}

/-- A record that was read is known. -/
theorem read_known {u : DriverWorld} (valid : Inv u)
    (read : u.state.load caller id = .ok (some r)) :
    Known r u.trace ∧ r.runId = id ∧ r.caller = caller := by
  obtain ⟨found,owner⟩ := valid.represents.load_ok read
  have same := valid.represents.id id r found
  exact ⟨.current found,same,owner⟩

theorem getRun_known {trace : List DriverEvent}
    (asked : Asked i pre (.getRun caller id) (.ok (some r)) trace) :
    Known r trace ∧ r.runId = id ∧ r.caller = caller := by
  obtain ⟨u,-,valid,earlier,t,acted⟩ := asked
  rcases acted with ⟨read,-⟩ | ⟨_,failed,-⟩
  · obtain ⟨known,same⟩ := read_known valid read.symm
    exact ⟨known.suffix (past_suffix earlier),same⟩
  · cases failed

theorem findRun_known {trace : List DriverEvent} {key : String}
    (asked : Asked i pre (.findRun caller key) (.ok (some r)) trace) :
    Known r trace ∧ r.caller = caller ∧ r.runKey = key := by
  obtain ⟨u,-,valid,earlier,t,acted⟩ := asked
  rcases acted with ⟨read,-⟩ | ⟨_,failed,-⟩
  · obtain ⟨found,held⟩ := valid.represents.findRun_ok read.symm
    exact ⟨(Known.current found).suffix (past_suffix earlier),held⟩
  · cases failed

end Store

section Saves
variable [SerdeJson] [SerdeJson.Bytes] [Sha256] [RmcpTexts] {i : Nat} {runId : String}
  {plan : RunPlan} {driving driven : Driving} {step : RunStep} {s t : StepState}
  {next : RunState} {trace : List DriverEvent}

/-- The record a driver holds is known, and its state is that of the record but for responses
that were not saved. -/
structure Drives (runId : String) (plan : RunPlan) (driving : Driving) (trace : List DriverEvent) :
    Prop where
  runId : driving.record.runId = runId
  plan : driving.state.plan = plan
  known : Known driving.record trace
  held : ∃ saved, Holds driving.record saved ∧
    Relation.ReflTransGen (RunState.Unsaved (since driving.record trace)) saved driving.state

omit [SerdeJson.Bytes] in
theorem Drives.permanent (runId : String) (plan : RunPlan) (driving : Driving) :
    Permanent fun w : DriverWorld => Drives runId plan driving w.trace := by
  refine .grown fun event past drives => ?_
  obtain ⟨saved,holds,unsaved⟩ := drives.held
  have later : past <:+ event :: past := List.suffix_cons _ _
  refine ⟨drives.runId,drives.plan,drives.known.suffix later,saved,holds,?_⟩
  exact Relation.ReflTransGen.mono
    (fun _ _ => RunState.Unsaved.mono fun _ _ told => since_suffix told later) _ _ unsaved

/-- What may be saved of the state a driver holds. -/
def Saves (driving : Driving) (next : RunState) (trace : List DriverEvent) : Prop :=
  RunState.Change (since driving.record trace) driving.record.runId driving.state next

theorem Saves.permanent (driving : Driving) (next : RunState) :
    Permanent fun w : DriverWorld => Saves driving next w.trace := by
  refine .grown fun event past saves => ?_
  have later : past <:+ event :: past := List.suffix_cons _ _
  cases saves with
  | cancelled fresh => exact .cancelled fresh
  | expired fresh => exact .expired fresh
  | step member found change =>
    exact .step member found (change.mono fun _ _ told => since_suffix told later)
  | skipped stopped unsent => exact .skipped stopped unsent

/-- An accepted save continues the record by one save. -/
theorem advance_moves {kind : String} :
    Moves runSystem Inv i
      (fun w => Drives runId plan driving w.trace ∧ Saves driving next w.trace)
      (.advanceRun driving.record (toValue next) kind)
      fun reply w => ∀ record, reply = .ok record → next.plan = plan ∧ record.runId = runId ∧
        Known record w.trace ∧ Holds record next := by
  rintro w reply s valid ⟨drives,saves⟩ acted
  obtain ⟨before,holds,unsaved⟩ := drives.held
  have saved : RunState.Save (since driving.record w.trace) driving.record.runId before next :=
    ⟨_,unsaved,saves⟩
  rcases acted with ⟨rfl,rfl⟩ | ⟨error,rfl,rfl⟩
  · obtain ⟨runs,represents,advance⟩ :=
      valid.represents.advance driving.record (toValue next) kind
    generalize RunTable.advanceRun driving.record (toValue next) kind w.state = performed
      at represents advance
    obtain ⟨reply,table⟩ := performed
    cases advance with
    | refused =>
      exact ⟨⟨⟨trivial,valid.history⟩,represents⟩,nofun⟩
    | @advanced current record stored owner fresh same made =>
      obtain ⟨latest,found,later⟩ := drives.known.later valid.history
      rw [stored] at found
      cases found
      cases later.unique fresh
      have advanced := RunRecord.advanced same made
      obtain ⟨lawful,leads⟩ := saved.lawful holds.lawful
      have runId' := advanced.continues.runId
      have after : Holds record next := ⟨advanced.data,runId' ▸ lawful⟩
      have integrity := (RunRecord.append_ok.mp made).2.1
      have current : runsOf (⟨i,.advanceRun driving.record (toValue next) kind,.ok record⟩ :: w.trace) =
          Function.update (runsOf w.trace) driving.record.runId (some record) := by
        rw [runsOf_commits rfl,runId']
      refine ⟨⟨⟨⟨stored,advanced,integrity,before,next,holds,after,saved⟩,valid.history⟩,?_⟩,?_⟩
      · change RunTable.Represents table (runsOf (_ :: w.trace))
        rw [current]
        exact represents
      · rintro _ ⟨⟩
        exact ⟨leads.plan.trans ((RunState.alike_of_unsaved unsaved).plan.symm.trans drives.plan),
          runId'.trans drives.runId,.commit rfl w.trace,after⟩
  · exact ⟨valid.quiet rfl trivial,nofun⟩

theorem save_runs (kind : String) :
    Interleaving.Runs runSystem Inv i
      (fun w => Drives runId plan driving w.trace ∧ Saves driving next w.trace)
      (RunDriver.save driving next kind)
      (fun driven w => driven.state = next ∧ Drives runId plan driven w.trace) fun _ => True := by
  have permanent := (Drives.permanent runId plan driving).and (Saves.permanent driving next)
  have committed (reply : Except RunError RunRecord) : Permanent fun w : DriverWorld =>
      ∀ record, reply = .ok record → next.plan = plan ∧ record.runId = runId ∧
        Known record w.trace ∧ Holds record next := by
    refine .forall fun record => .forall fun _ => ?_
    exact (Permanent.const _).and ((Permanent.const _).and
      ((Known.permanent record).and (Permanent.const _)))
  rw [RunDriver.save]
  refine Interleaving.Runs.bind (Interleaving.Runs.perform permanent.stable advance_moves
    fun reply => (committed reply).stable) fun reply => ?_
  refine Interleaving.Runs.bind (stored_runs (committed reply)) fun record => ?_
  refine Interleaving.Runs.assuming fun replied => pure_runs (committed reply) fun w _ known => ?_
  obtain ⟨samePlan,runId',known,holds⟩ := known record replied
  exact ⟨rfl,runId',samePlan,known,next,holds,.refl⟩

/-- A step is saved. -/
theorem saveStep_runs (runId kind : String) (member : step ∈ plan.steps)
    (found : driving.state.step? step.id = some s) :
    Interleaving.Runs runSystem Inv i (fun w => Drives runId plan driving w.trace ∧
        RunState.StepChange (since driving.record w.trace) runId driving.state step s t)
      (RunDriver.saveStep driving step t kind)
      (fun driven w => driven.state = driving.state.set step.id t ∧
        Drives runId plan driven w.trace) fun _ => True := by
  refine (save_runs kind).strengthen fun w _ holds => ⟨holds.1,?_⟩
  rw [Saves,holds.1.runId]
  exact .step (holds.1.plan ▸ member) found holds.2

end Saves

end RunSystem
end GaugeMesh
