import GaugeMesh.Run.Guarantees

/-! What stands behind a step that is verified: its task was seen completed, with a result bound to
what was submitted, and the artifact that the result names was read, had the digest it states and
passed the checks. -/
namespace GaugeMesh
open Json Interleaving

namespace RunState

variable [FloatText] [Sha256] [RmcpTexts] [SerdeJson.Bytes] {answered : RunAnswers}
  {runId : String} {state next : RunState} {step : RunStep} {s t : StepState}

/-- The answers that verified a step, as it is since then. -/
def Backed (answered : RunAnswers) (runId : String) (plan : RunPlan) (step : RunStep)
    (s : StepState) : Prop :=
  ∃ taskId identity result terminal submission path bytes artifact,
    s.taskId = some taskId ∧ answered (.getTask taskId identity) (.ok result) ∧
    RmcpTexts.getTaskResult result = some terminal ∧
    Attested answered runId plan step s terminal submission path bytes artifact ∧
    s.verifiedArtifact = some artifact ∧
    s.verification = some (verificationReport step bytes artifact)

theorem Backed.mono {second : RunAnswers} {plan : RunPlan}
    (told : ∀ op reply, answered op reply → second op reply)
    (backed : Backed answered runId plan step s) : Backed second runId plan step s := by
  obtain ⟨taskId,identity,result,terminal,submission,path,bytes,artifact,task,heard,document,attested,
    rest⟩ := backed
  exact ⟨taskId,identity,result,terminal,submission,path,bytes,artifact,task,told _ _ heard,document,
    attested.mono told,rest⟩

omit [FloatText] [Sha256] [RmcpTexts] [SerdeJson.Bytes] in
theorem polled_phase {id : String} (polled : s.polledFor = some id) : s.phase ≠ .verified := by
  rcases (polledFor_eq_some.mp polled).1 with phase | phase <;> rw [phase] <;> nofun

/-- A step comes to be verified by evidence. -/
theorem StepChange.backed (change : StepChange answered runId state step s t)
    (verified : t.phase = .verified) : Backed answered runId state.plan step t := by
  cases change with
  | refuted => cases verified
  | acknowledged _ response =>
    rcases acknowledged_phase s response with phase | phase <;> rw [phase] at verified <;> cases verified
  | intended polled => exact absurd verified (polled_phase polled)
  | responded polled => exact absurd verified (polled_phase polled)
  | dispatched => cases verified
  | @observed taskId identity reply _ polled told outcome =>
    cases outcome with
    | unanswered => cases verified
    | unreconciled => cases verified
    | rejected => cases verified
    | failed => cases verified
    | cancelled => cases verified
    | @verified result value terminal submission path bytes artifact document _ attested =>
      have task := (polledFor_eq_some.mp polled).2
      cases attested.ended
      exact ⟨taskId,identity,result,value,submission,path,bytes,artifact,task,told,document,
        ⟨rfl,attested.completed,attested.submitted,attested.bound,attested.located,attested.read,
          attested.digest,attested.parsed,attested.described,attested.accepts⟩,rfl,rfl⟩

omit [FloatText] [Sha256] [SerdeJson.Bytes] in
theorem Unsaved.verified (unsaved : Unsaved answered state next) {id : String}
    (found : next.step? id = some t) (verified : t.phase = .verified) : state.step? id = some t := by
  cases unsaved with
  | @responded other s taskId identity answer _ there polled =>
    by_cases same : id = other.id
    · subst same
      rw [step?_set_self there] at found
      cases found
      exact absurd verified (polled_phase polled)
    · rw [step?_set_ne same] at found
      exact found

omit [FloatText] [Sha256] [SerdeJson.Bytes] in
theorem unsaved_verified (unsaved : Relation.ReflTransGen (Unsaved answered) state next) {id : String}
    (found : next.step? id = some t) (verified : t.phase = .verified) : state.step? id = some t := by
  induction unsaved with
  | refl => exact found
  | tail _ last ih => exact ih (last.verified found verified)

/-- A step that is verified was so before, or has its evidence now. -/
theorem Save.backed (lawful : Lawful runId state) (save : Save answered runId state next)
    (member : step ∈ state.plan.steps) (found : next.step? step.id = some t)
    (verified : t.phase = .verified) :
    state.step? step.id = some t ∨ Backed answered runId state.plan step t := by
  obtain ⟨held,unsaved,change⟩ := save
  have plan := (alike_of_unsaved unsaved).plan
  cases change with
  | cancelled => exact .inl (unsaved_verified unsaved found verified)
  | expired => exact .inl (unsaved_verified unsaved found verified)
  | @step other s u there here change =>
    by_cases same : step.id = other.id
    · have equal : step = other := List.inj_on_of_nodup_map
        (RunPlan.validate_ok lawful.accepted).distinct member (plan ▸ there) same
      subst equal
      rw [step?_set_self here] at found
      cases found
      right
      rw [← plan]
      exact change.backed verified
    · rw [step?_set_ne same] at found
      exact .inl (unsaved_verified unsaved found verified)
  | skipped =>
    left
    rw [step?_skipUnsent] at found
    obtain ⟨s,here,rfl⟩ := Option.map_eq_some_iff.mp found
    rw [StepState.skipped] at verified found
    split at verified
    · cases verified
    · next sent =>
      rw [here,Option.map_some,if_neg sent] at found
      rw [StepState.skipped,if_neg sent]
      exact unsaved_verified unsaved here verified

end RunState

namespace RunSystem

variable {c : RunConfig} {r : RunRecord} {a : RunState} {trace : List DriverEvent}

section
variable [SerdeJson] [SerdeJson.Bytes] [Sha256] [RmcpTexts]

/-- Every answer given so far. -/
def given (trace : List DriverEvent) : RunAnswers :=
  fun op reply => ∃ thread, (⟨thread,op,reply⟩ : DriverEvent) ∈ trace

omit [SerdeJson] [SerdeJson.Bytes] [Sha256] [RmcpTexts] in
theorem since_given {op : RunOp} {reply : op.Ret} (told : since r trace op reply) :
    given trace op reply := by
  obtain ⟨thread,past,occurs,-⟩ := told
  exact ⟨thread,mem_of_occurrence occurs⟩

/-- Every verified step of the record has its evidence in the history. -/
def Proven (r : RunRecord) (trace : List DriverEvent) : Prop :=
  ∀ a, Holds r a → ∀ step ∈ a.plan.steps, ∀ s, a.step? step.id = some s → s.phase = .verified →
    RunState.Backed (given trace) r.runId a.plan step s

theorem Proven.grows {e : DriverEvent} {past : List DriverEvent} (proven : Proven r past) :
    Proven r (e :: past) := by
  intro a holds step member s found verified
  refine (proven a holds step member s found verified).mono ?_
  rintro op reply ⟨thread,there⟩
  exact ⟨thread,List.mem_cons_of_mem _ there⟩

theorem runsOf_proven {id : String} (justified : Justified Reason trace)
    (found : runsOf trace id = some r) : Proven r trace := by
  refine runsOf_established Proven (fun _ _ _ => Proven.grows) ?_ ?_ justified found
  · intro r e past plan acceptedAt _ _ _ holds a there step member s found verified
    cases holds.unique there
    have new := RunState.accepted_new holds.lawful.accepted (RunState.mem_of_step? found)
    rw [show s = StepState.new from new] at verified
    cases verified
  · intro old data kind r e past _ _ continued proven a there step member s found verified
    obtain ⟨before,after,first,second,saved⟩ := continued.saved
    cases second.unique there
    have leads := (saved.lawful first.lawful).2
    have runId := continued.advanced.continues.runId
    rw [leads.plan] at member ⊢
    rw [runId]
    rcases saved.backed first.lawful member found verified with already | backed
    · refine (proven before first step member s already verified).mono ?_
      rintro op reply ⟨thread,there⟩
      exact ⟨thread,List.mem_cons_of_mem _ there⟩
    · refine backed.mono fun op reply told => ?_
      obtain ⟨thread,there⟩ := since_given told
      exact ⟨thread,List.mem_cons_of_mem _ there⟩

/-- No version of a run has a verified step without its evidence: a poll of its task that completed
it with a result bound to what was submitted, and a read of the artifact that the result names,
with the digest it states and a content that the policy of the step accepts. -/
theorem verified_has_evidence (reachable : Reachable runSystem c) (known : Known r c.world.trace)
    (loads : stateFrom r = .ok a) {step : RunStep} (member : step ∈ a.plan.steps) {s : StepState}
    (found : a.step? step.id = some s) (verified : s.phase = .verified) :
    RunState.Backed (given c.world.trace) r.runId a.plan step s := by
  have history := (run_certified.invariant reachable).history
  obtain ⟨past,earlier,current⟩ := known
  have holds := Known.read history ⟨past,earlier,current⟩ loads
  have proven := runsOf_proven (history.suffix earlier) current
  refine (proven a holds step member s found verified).mono ?_
  rintro op reply ⟨thread,there⟩
  exact ⟨thread,earlier.subset there⟩

end

section Example
open Reference ExampleRun

theorem verified_has_evidence_example : ∃ c r, Reachable runSystem c ∧ Known r c.world.trace ∧
    stateFrom r = .ok (state verified) ∧
      RunState.Backed (given c.world.trace) r.runId plan step verified := by
  obtain ⟨c,r,_,reachable,found,-⟩ := completes
  have known : Known r c.world.trace := .current found.current
  have loads := found.loads reachable (written_step verified_written)
  exact ⟨c,r,reachable,known,loads,verified_has_evidence reachable known loads
    (List.mem_singleton_self step) (state_step verified) rfl⟩

end Example

section
variable [SerdeJson] [SerdeJson.Bytes] [Sha256] [RmcpTexts]

/-- A verification that answers with completeness has found every step of a version verified, and
has read and accepted each artifact itself. -/
theorem verification_sound (reachable : Reachable runSystem c) {i : Nat} {request : RunRequest}
    {value : Value} {id : String} (served : c.world.requests[i]? = some request)
    (finished : c.threads[i]? = some (some (.pure (.ok value))))
    (verifies : (Value.find "action" request.args).bind Value.asStr = some "verify")
    (named : (Value.find "runId" request.args).bind Value.asStr = some id)
    (complete : value.index "complete" = .bool true) :
    ∃ r a, Known r c.world.trace ∧ r.runId = id ∧ stateFrom r = .ok a ∧
      ∀ step ∈ a.plan.steps, ∃ s terminal submission path bytes artifact,
        a.step? step.id = some s ∧ s.phase = .verified ∧
        Attested (heard i r c.world.trace) id a.plan step s terminal submission path bytes
          artifact := by
  have history := (run_certified.invariant reachable).history
  obtain ⟨r,a,verified,known,rfl,holds,recounted,-,answer⟩ :=
    (run_certified.result reachable served finished value rfl "verify" id verifies (by decide)
      named).verified rfl
  refine ⟨r,a,known,rfl,holds.loads history known,fun step member => ?_⟩
  rw [answer,Value.bool.injEq,beq_iff_eq,recounted.count,List.countP_eq_length] at complete
  obtain ⟨s,found,phase⟩ := Option.map_eq_some_iff.mp (beq_iff_eq.mp (complete step member))
  obtain ⟨result,terminal,submission,path,bytes,attested,-⟩ :=
    recounted.accepted step member s found phase
  exact ⟨s,terminal,submission,path,bytes,result.1,found,phase,attested⟩

end

section Example
open Reference ExampleRun

theorem verification_sound_example : ∃ (c : RunConfig) (i : Nat) (value : Value),
    Reachable runSystem c ∧ c.threads[i]? = some (some (.pure (.ok value))) ∧
      ∃ r a, Known r c.world.trace ∧ r.runId = "run-1" ∧ stateFrom r = .ok a ∧
        ∀ step ∈ a.plan.steps, ∃ s, a.step? step.id = some s ∧ s.phase = .verified := by
  obtain ⟨c,i,value,reachable,served,finished,complete⟩ := checked
  obtain ⟨r,a,known,runId,loads,each⟩ :=
    verification_sound reachable served finished rfl rfl complete
  refine ⟨c,i,value,reachable,finished,r,a,known,runId,loads,fun step member => ?_⟩
  obtain ⟨s,-,-,-,-,-,found,phase,-⟩ := each step member
  exact ⟨s,found,phase⟩

end Example
end RunSystem
end GaugeMesh
