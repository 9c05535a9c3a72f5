import GaugeMesh.Interleaving.Alphabet
import GaugeMesh.Run.Sweep

/-! What a request may do to a run and to the world, by its action: only the local user's requests
do anything, each only to the run it names, and only a resume reaches the task proxy. -/
namespace GaugeMesh
open Json Interleaving

namespace RunRequest

def text (request : RunRequest) (name : String) : Option String :=
  (Value.find name request.args).bind Value.asStr

def Asks (request : RunRequest) (action : String) : Prop := request.text "action" = some action

/-- The request authorizes a plan. -/
def Authorizes (request : RunRequest) : Prop := request.Asks "submit" ∨ request.Asks "resume"

/-- The operations of a request. -/
inductive Allowed (request : RunRequest) : RunOp → Prop
  | now (authorizes : request.Authorizes) : Allowed request .now
  | findRun (submits : request.Asks "submit") (key : String) :
      Allowed request (.findRun RunSystem.localCaller key)
  | beginRun (submits : request.Asks "submit") (key : String) (data : Value) :
      Allowed request (.beginRun RunSystem.localCaller key data)
  | getRun (other : ¬request.Asks "submit") (named : request.text "runId" = some runId) :
      Allowed request (.getRun RunSystem.localCaller runId)
  | advanceRun (drives : request.Asks "cancel" ∨ request.Asks "resume")
      (named : request.text "runId" = some old.runId) (owned : old.caller = RunSystem.localCaller)
      (data : Value) (event : String) : Allowed request (.advanceRun old data event)
  | getLease (authorizes : request.Authorizes) (named : request.text "leaseId" = some leaseId) :
      Allowed request (.getLease leaseId)
  | openRoot (submits : request.Asks "submit") (path : String) : Allowed request (.openRoot path)
  | readArtifact (reads : request.Asks "verify" ∨ request.Asks "resume") (root path : String)
      (maxBytes : Nat) : Allowed request (.readArtifact root path maxBytes)
  | submit (resumes : request.Asks "resume") (named : request.text "runId" = some call.runId)
      (federated : ∃ name, request.context.federation.tool name = some call.tool)
      (own : call.identity = request.context.identity) : Allowed request (.submit call)
  | recoverSubmission (resumes : request.Asks "resume")
      (named : request.text "runId" = some call.runId)
      (federated : ∃ name, request.context.federation.tool name = some call.tool)
      (own : call.identity = request.context.identity) : Allowed request (.recoverSubmission call)
  | cancelTask (resumes : request.Asks "resume") (taskId : String) :
      Allowed request (.cancelTask taskId request.context.identity)
  | getTask (resumes : request.Asks "resume") (taskId : String) :
      Allowed request (.getTask taskId request.context.identity)

def alphabet (request : RunRequest) : Set RunOp :=
  {op | RunSystem.Local request.context ∧ request.Allowed op}

end RunRequest

namespace RunSystem

/-- A store answers for the run it was asked for. -/
def honest : (op : RunOp) → op.Ret → Prop
  | .getRun caller id, .ok (some r) => r.runId = id ∧ r.caller = caller
  | .advanceRun old _ _, .ok next => next.runId = old.runId ∧ next.caller = old.caller
  | _,_ => True

variable {request : RunRequest}

/-- A part of a request's program is confined to what the request may do. -/
abbrev Keeps (request : RunRequest) (p : Fallible RunOp RunOp.Ret ε α) (post : α → Prop) : Prop :=
  Confines honest request.alphabet p post

theorem ask_keeps {op : RunOp} (user : Local request.context) (allowed : request.Allowed op) :
    Keeps request (RunDriver.ask op : Fallible RunOp RunOp.Ret ε op.Ret) (honest op) :=
  Confines.perform ⟨user,allowed⟩

theorem ofExcept_keeps {result : Except ε α} :
    Keeps request (Fallible.ofExcept result : Fallible RunOp RunOp.Ret ε α)
      fun v => result = .ok v :=
  Confines.ofExcept fun _ known => known

theorem demand_keeps {condition : Prop} [Decidable condition] {error : ε} :
    Keeps request (RunDriver.demand condition error) fun _ => condition :=
  Confines.ofExcept fun _ passed => (ensure_ok _ _).mp passed

theorem required_keeps {option : Option α} {error : ε} :
    Keeps request (RunDriver.required option error) fun v => option = some v :=
  Confines.ofExcept fun _ found => (okOr_ok _ _ _).mp found

theorem checked_keeps {result : Except String α} :
    Keeps request (RunDriver.checked result) fun _ => True := Confines.ofExcept fun _ _ => trivial

theorem stored_keeps {result : Except RunError α} :
    Keeps request (RunDriver.stored result) fun v => result = .ok v :=
  Confines.ofExcept fun _ known => mapError_ok.mp known

theorem nowUnixMs_keeps (user : Local request.context) (authorizes : request.Authorizes) :
    Keeps request RunDriver.nowUnixMs fun _ => True := by
  refine Confines.bind (ask_keeps user (.now authorizes)) fun _ _ => ?_
  exact required_keeps.mono fun _ _ => trivial

theorem toolOf_keeps {step : RunStep} :
    Keeps request (RunDriver.toolOf request.context step)
      fun tool => request.context.federation.tool step.aliasName = some tool := required_keeps

theorem stepOf_keeps {state : RunState} {step : RunStep} :
    Keeps request (RunDriver.stepOf state step) fun _ => True :=
  required_keeps.mono fun _ _ => trivial

/-- A driver's record is that of the run the request names, and it is the local user's. -/
structure Names (request : RunRequest) (record : RunRecord) : Prop where
  named : request.text "runId" = some record.runId
  owned : record.caller = localCaller

/-- The run that a driver has made. -/
abbrev Handles (request : RunRequest) (driving : Driving) : Prop := Names request driving.record

variable {driving : Driving} {step : RunStep}

theorem save_keeps (user : Local request.context) (drives : request.Asks "cancel" ∨ request.Asks "resume")
    (names : Names request driving.record) {state : RunState} {event : String} :
    Keeps request (RunDriver.save driving state event) (Handles request) := by
  refine Confines.bind (ask_keeps user (.advanceRun drives names.named names.owned _ _))
    fun reply answers => ?_
  refine Confines.bind stored_keeps fun record known => ?_
  subst known
  refine Confines.value ⟨?_,answers.2.trans names.owned⟩
  rw [answers.1]
  exact names.named

theorem saveStep_keeps (user : Local request.context)
    (drives : request.Asks "cancel" ∨ request.Asks "resume") (names : Names request driving.record)
    {s : StepState} {event : String} :
    Keeps request (RunDriver.saveStep driving step s event) (Handles request) :=
  save_keeps user drives names

theorem readRun_keeps (user : Local request.context) (other : ¬request.Asks "submit") {id : String}
    (named : request.text "runId" = some id) :
    Keeps request (RunDriver.readRun localCaller id) (Names request) := by
  refine Confines.bind (ask_keeps user (.getRun other named)) fun reply answers => ?_
  refine Confines.bind stored_keeps fun found known => ?_
  refine required_keeps.mono fun r same => ?_
  subst known same
  exact ⟨named.trans (congrArg some answers.1.symm),answers.2⟩

section
variable [SerdeJson] [Sha256]

theorem load_honest {table : RunTable} {caller : TaskRouteCaller} {id : String} {r : RunRecord}
    (read : table.load caller id = .ok (some r)) : r.runId = id ∧ r.caller = caller := by
  rw [RunTable.load] at read
  split at read
  · cases read
  · obtain ⟨_,-,read⟩ := Except.bind_ok.mp read
    obtain ⟨digest,-,read⟩ := Except.bind_ok.mp read
    obtain ⟨data,-,read⟩ := Except.bind_ok.mp read
    obtain ⟨journal,-,read⟩ := Except.bind_ok.mp read
    obtain ⟨_,-,read⟩ := Except.bind_ok.mp read
    cases read
    exact ⟨rfl,rfl⟩

theorem advance_honest {table after : RunTable} {old next : RunRecord} {data : Value} {event : String}
    (advanced : RunTable.advanceRun old data event table = (.ok next,after)) :
    next.runId = old.runId ∧ next.caller = old.caller := by
  rw [RunTable.advanceRun,atomically_ok] at advanced
  obtain ⟨found,read,advanced⟩ := Except.bind_ok.mp advanced
  obtain ⟨current,rfl,checks⟩ := okOr_bind_ok.mp advanced
  simp only [Except.then_ok] at checks
  obtain ⟨made,appended,writes⟩ := Except.bind_ok.mp checks.2.2
  rw [Except.then_ok] at writes
  obtain ⟨last,-,done⟩ := Except.bind_ok.mp writes.2
  cases done
  obtain ⟨rfl,-⟩ := RunRecord.append_ok.mp appended
  have same : current.runId = old.runId ∧ current.caller = old.caller := load_honest read
  exact same

theorem act_honest {op : RunOp} {s t : RunTable} {reply : op.Ret} (acted : act op s reply t) :
    honest op reply := by
  cases op with
  | getRun caller id =>
    rcases acted with ⟨rfl,-⟩ | ⟨error,rfl,-⟩
    · cases read : s.getRun caller id with
      | error error => trivial
      | ok found =>
        cases found with
        | none => trivial
        | some r => exact load_honest read
    · trivial
  | advanceRun old data event =>
    rcases acted with ⟨rfl,rfl⟩ | ⟨error,rfl,-⟩
    · cases advanced : RunTable.advanceRun old data event s with
      | mk reply after =>
        cases reply with
        | error error => trivial
        | ok next => exact advance_honest advanced
    · trivial
  | _ => trivial

theorem authorizeStep_keeps (user : Local request.context) (authorizes : request.Authorizes)
    {plan : RunPlan} {lease : CapabilityLease} {step : RunStep} :
    Keeps request (RunDriver.authorizeStep plan lease request.context step) fun _ => True := by
  refine Confines.bind toolOf_keeps fun tool _ => ?_
  refine Confines.bind demand_keeps fun _ _ => ?_
  refine Confines.bind checked_keeps fun sample _ => ?_
  refine Confines.bind demand_keeps fun _ _ => ?_
  refine Confines.bind checked_keeps fun _ _ => ?_
  exact Confines.bind (nowUnixMs_keeps user authorizes) fun _ _ => checked_keeps

theorem authorizeSteps_keeps (user : Local request.context) (authorizes : request.Authorizes)
    {plan : RunPlan} {lease : CapabilityLease} {steps : List RunStep} :
    Keeps request (RunDriver.authorizeSteps plan lease request.context steps) fun _ => True := by
  induction steps with
  | nil => exact Confines.value trivial
  | cons step rest ih => exact Confines.bind (authorizeStep_keeps user authorizes) fun _ _ => ih

theorem authorizePlan_keeps (user : Local request.context) (authorizes : request.Authorizes)
    {plan : RunPlan} :
    Keeps request (RunDriver.authorizePlan plan request.args request.context) fun _ => True := by
  refine Confines.bind required_keeps fun leaseId named => ?_
  refine Confines.bind (ask_keeps user (.getLease authorizes named)) fun _ _ => ?_
  refine Confines.bind required_keeps fun _ _ => ?_
  exact Confines.bind required_keeps fun _ _ => authorizeSteps_keeps user authorizes

theorem submitRun_keeps (user : Local request.context) (submits : request.Asks "submit") :
    Keeps request (RunDriver.submitRun localCaller request.args request.context) fun _ => True := by
  refine Confines.bind required_keeps fun value _ => ?_
  refine Confines.bind demand_keeps fun _ _ => ?_
  refine Confines.bind required_keeps fun plan _ => ?_
  refine Confines.bind (nowUnixMs_keeps user (.inl submits)) fun acceptedAt _ => ?_
  refine Confines.bind (ask_keeps user (.findRun submits _)) fun _ _ => ?_
  refine Confines.bind stored_keeps fun existing _ => ?_
  refine Confines.bind checked_keeps fun _ _ => ?_
  refine Confines.bind (ask_keeps user (.openRoot submits _)) fun _ _ => ?_
  refine Confines.bind checked_keeps fun _ _ => ?_
  refine Confines.bind (authorizePlan_keeps user (.inl submits)) fun _ _ => ?_
  refine Confines.bind (ask_keeps user (.beginRun submits _ _)) fun _ _ => ?_
  exact Confines.bind stored_keeps fun _ _ => Confines.ofExcept fun _ _ => trivial

theorem cancelRun_keeps (user : Local request.context) (cancels : request.Asks "cancel")
    {record : RunRecord} (names : Names request record) :
    Keeps request (RunDriver.cancelRun record) fun _ => True := by
  refine Confines.bind ofExcept_keeps fun state _ => ?_
  refine Confines.branch (fun _ => Confines.ofExcept fun _ _ => trivial) fun _ => ?_
  have start : Names request (Driving.mk record state).record := names
  refine Confines.bind (save_keeps user (.inl cancels) start) fun _ _ => ?_
  exact Confines.ofExcept fun _ _ => trivial

variable [SerdeJson.Bytes]

theorem verifyStep_keeps (user : Local request.context)
    (reads : request.Asks "verify" ∨ request.Asks "resume") {runId : String} {plan : RunPlan}
    {step : RunStep} {s : StepState} :
    Keeps request (RunDriver.verifyStep runId plan step s) fun _ => True := by
  refine Confines.bind required_keeps fun _ _ => ?_
  refine Confines.bind demand_keeps fun _ _ => ?_
  refine Confines.bind required_keeps fun _ _ => ?_
  refine Confines.bind demand_keeps fun _ _ => ?_
  refine Confines.bind required_keeps fun path _ => ?_
  refine Confines.bind (ask_keeps user (.readArtifact reads _ _ _)) fun _ _ => ?_
  refine Confines.bind ofExcept_keeps fun bytes _ => ?_
  refine Confines.bind demand_keeps fun _ _ => ?_
  refine Confines.bind required_keeps fun _ _ => ?_
  refine Confines.bind required_keeps fun _ _ => ?_
  refine Confines.bind demand_keeps fun _ _ => ?_
  refine Confines.bind demand_keeps fun _ _ => ?_
  exact Confines.bind demand_keeps fun _ _ => Confines.value trivial

theorem tryVerify_keeps (user : Local request.context)
    (reads : request.Asks "verify" ∨ request.Asks "resume") {runId : String} {plan : RunPlan}
    {step : RunStep} {s : StepState} :
    Keeps request (RunDriver.tryVerify runId plan step s) fun _ => True :=
  (verifyStep_keeps user reads).lift.mono fun _ _ => trivial

theorem verifySteps_keeps (user : Local request.context) (verifies : request.Asks "verify")
    {runId : String} {state : RunState} {steps : List RunStep} :
    Keeps request (RunDriver.verifySteps runId state steps) fun _ => True := by
  induction steps with
  | nil => exact Confines.value trivial
  | cons step rest ih =>
    refine Confines.bind stepOf_keeps fun s _ => ?_
    refine Confines.branch (fun _ => ?_) fun _ => ih
    refine Confines.bind (tryVerify_keeps user (.inl verifies)) fun _ _ => ?_
    refine Confines.bind checked_keeps fun _ _ => ?_
    exact Confines.bind ih fun _ _ => Confines.value trivial

section Resume

variable (user : Local request.context) (resumes : request.Asks "resume")
include user resumes

omit [SerdeJson] [Sha256] [SerdeJson.Bytes] in
theorem observeDeadline_keeps (names : Names request driving.record) :
    Keeps request (RunDriver.observeDeadline driving) (Handles request) := by
  refine Confines.bind (nowUnixMs_keeps user (.inr resumes)) fun _ _ => ?_
  exact Confines.branch (fun _ => save_keeps user (.inr resumes) names) fun _ => Confines.value names

theorem reverifyStep_keeps (names : Names request driving.record) :
    Keeps request (RunDriver.reverifyStep driving step) (Handles request) := by
  refine Confines.bind stepOf_keeps fun s _ => ?_
  refine Confines.branch (fun _ => ?_) fun _ => Confines.value names
  refine Confines.bind (tryVerify_keeps user (.inr resumes)) fun outcome _ => ?_
  cases outcome with
  | ok _ => exact Confines.value names
  | error _ => exact saveStep_keeps user (.inr resumes) names

theorem completeStep_keeps {s : StepState} :
    Keeps request (RunDriver.completeStep driving step s) fun _ => True := by
  refine Confines.bind (tryVerify_keeps user (.inr resumes)) fun outcome _ => ?_
  cases outcome with
  | ok _ => exact Confines.value trivial
  | error _ => exact Confines.value trivial

theorem reverify_keeps {steps : List RunStep} (names : Names request driving.record) :
    Keeps request (RunDriver.reverify steps driving) (Handles request) := by
  induction steps generalizing driving with
  | nil => exact Confines.value names
  | cons step rest ih =>
    exact Confines.bind (reverifyStep_keeps user resumes names) fun _ names => ih names

variable [RmcpTexts]

omit [SerdeJson] [Sha256] [SerdeJson.Bytes] in
theorem submitStep_keeps (names : Names request driving.record) :
    Keeps request (RunDriver.submitStep request.context driving step) (Handles request) := by
  refine Confines.bind stepOf_keeps fun s _ => ?_
  refine Confines.bind toolOf_keeps fun tool federated => ?_
  refine Confines.bind required_keeps fun arguments _ => ?_
  refine Confines.bind required_keeps fun submission _ => ?_
  refine Confines.branch (fun _ => ?_) fun _ => ?_
  · exact Confines.bind (ask_keeps user (.recoverSubmission resumes names.named ⟨_,federated⟩ rfl))
      fun _ _ => saveStep_keeps user (.inr resumes) names
  · exact Confines.bind (ask_keeps user (.submit resumes names.named ⟨_,federated⟩ rfl))
      fun _ _ => saveStep_keeps user (.inr resumes) names

omit [SerdeJson] [Sha256] [SerdeJson.Bytes] in
theorem recoverStep_keeps (names : Names request driving.record) :
    Keeps request (RunDriver.recoverStep request.context driving step) (Handles request) := by
  refine Confines.bind stepOf_keeps fun s _ => ?_
  exact Confines.branch (fun _ => submitStep_keeps user resumes names) fun _ => Confines.value names

omit [SerdeJson.Bytes] in
theorem cancelStep_keeps (names : Names request driving.record) {id : String} :
    Keeps request (RunDriver.cancelStep request.context driving step id) (Handles request) := by
  refine Confines.bind stepOf_keeps fun s _ => ?_
  refine Confines.branch (fun _ => ?_) fun _ => Confines.value names
  have responds (intended : Driving) (names : Names request intended.record) : Keeps request (do
      let cancellation ← RunDriver.ask (.cancelTask id request.context.identity)
      let s ← RunDriver.stepOf intended.state step
      let responded := s.responded cancellation
      if Sha256Digest.ofJson (toValue responded) ≠ Sha256Digest.ofJson (toValue s) then
        RunDriver.saveStep intended step responded "task_cancellation_response"
      else return ⟨intended.record,intended.state.set step.id responded⟩ : Driver Driving)
      (Handles request) := by
    refine Confines.bind (ask_keeps user (.cancelTask resumes id)) fun _ _ => ?_
    refine Confines.bind stepOf_keeps fun s _ => ?_
    exact Confines.branch (fun _ => saveStep_keeps user (.inr resumes) names) fun _ =>
      Confines.value names
  refine Confines.branch (fun _ => responds driving names) fun _ => ?_
  exact Confines.bind (saveStep_keeps user (.inr resumes) names) responds

theorem observe_keeps {s : StepState} {reply : Except McpError GetTaskResult} :
    Keeps request (RunDriver.observe driving step s reply) fun _ => True := by
  cases reply with
  | error error => exact Confines.branch (fun _ => Confines.value trivial) fun _ => Confines.value trivial
  | ok result =>
    refine Confines.bind required_keeps fun value _ => ?_
    refine Confines.branch (fun _ => ?_) fun _ => ?_
    · exact Confines.branch (fun _ => Confines.value trivial) fun _ => Confines.value trivial
    · split
      · exact Confines.bind (completeStep_keeps user resumes) fun _ _ => Confines.value trivial
      · exact Confines.value trivial
      · exact Confines.value trivial
      · exact Confines.value trivial

theorem pollStep_keeps (names : Names request driving.record) :
    Keeps request (RunDriver.pollStep request.context driving step)
      fun polled => Handles request polled.1 := by
  refine Confines.bind stepOf_keeps fun s _ => ?_
  cases s.polledFor with
  | none => exact Confines.value names
  | some id =>
    refine Confines.bind (cancelStep_keeps user resumes names) fun cancelled names => ?_
    refine Confines.bind (ask_keeps user (.getTask resumes id)) fun result _ => ?_
    refine Confines.bind stepOf_keeps fun s _ => ?_
    refine Confines.bind (observe_keeps user resumes) fun next _ => ?_
    cases next with
    | none => exact Confines.value names
    | some next =>
      exact Confines.bind (saveStep_keeps user (.inr resumes) names) fun _ names =>
        Confines.value names

omit [SerdeJson.Bytes] in
theorem dispatchStep_keeps (names : Names request driving.record) {s : StepState} :
    Keeps request (RunDriver.dispatchStep request.args request.context driving step s)
      (Handles request) := by
  refine Confines.bind (authorizePlan_keeps user (.inr resumes)) fun _ _ => ?_
  refine Confines.bind checked_keeps fun arguments _ => ?_
  refine Confines.bind toolOf_keeps fun tool _ => ?_
  refine Confines.bind checked_keeps fun _ _ => ?_
  refine Confines.bind demand_keeps fun _ _ => ?_
  refine Confines.bind (nowUnixMs_keeps user (.inr resumes)) fun now _ => ?_
  refine Confines.bind (saveStep_keeps user (.inr resumes) names) fun saved names => ?_
  exact submitStep_keeps user resumes names

omit [SerdeJson] [Sha256] [SerdeJson.Bytes] in
theorem recover_keeps {steps : List RunStep} (names : Names request driving.record) :
    Keeps request (RunDriver.recover request.context steps driving) (Handles request) := by
  induction steps generalizing driving with
  | nil => exact Confines.value names
  | cons step rest ih =>
    exact Confines.bind (recoverStep_keeps user resumes names) fun _ names => ih names

theorem poll_keeps {steps : List RunStep} (names : Names request driving.record) :
    Keeps request (RunDriver.poll request.context steps driving)
      fun polled => Handles request polled.1 := by
  induction steps generalizing driving with
  | nil => exact Confines.value names
  | cons step rest ih =>
    refine Confines.bind (pollStep_keeps user resumes names) fun _ names => ?_
    exact Confines.bind (ih names) fun _ names => Confines.value names

omit [SerdeJson.Bytes] in
theorem dispatch_keeps {steps : List RunStep} (names : Names request driving.record) :
    Keeps request (RunDriver.dispatch request.args request.context steps driving)
      (Handles request) := by
  induction steps generalizing driving with
  | nil => exact Confines.value names
  | cons step rest ih =>
    refine Confines.branch (fun _ => Confines.value names) fun _ => ?_
    refine Confines.bind stepOf_keeps fun s _ => ?_
    refine Confines.branch (fun _ => ?_) fun _ => ih names
    refine Confines.bind (dispatchStep_keeps user resumes names) fun sent names => ?_
    exact Confines.branch (fun _ => Confines.value names) fun _ => ih names

theorem drive_keeps {record : RunRecord} (names : Names request record) :
    Keeps request (RunDriver.drive record request.args request.context) fun _ => True := by
  have described {driving : Driving} : Keeps request (RunDriver.summarize driving) fun _ => True :=
    Confines.ofExcept fun _ _ => trivial
  refine Confines.bind ofExcept_keeps fun state _ => ?_
  have sweeps : Keeps request (do
      let dated ← RunDriver.observeDeadline ⟨record,state⟩
      let verified ← RunDriver.reverify state.plan.steps dated
      let recovered ← RunDriver.recover request.context state.plan.steps verified
      let polled ← RunDriver.poll request.context state.plan.steps recovered
      if polled.1.state.stopped then
        let skipped ←
          if polled.1.state.unsent then
            RunDriver.save polled.1 polled.1.state.skipUnsent "unsent_steps_skipped"
          else pure polled.1
        RunDriver.summarize skipped
      else if polled.2 then RunDriver.summarize polled.1
      else
        RunDriver.summarize
          (← RunDriver.dispatch request.args request.context state.plan.steps polled.1) :
      Driver Value) fun _ => True := by
    refine Confines.bind (observeDeadline_keeps user resumes names) fun dated names => ?_
    refine Confines.bind (reverify_keeps user resumes names) fun verified names => ?_
    refine Confines.bind (recover_keeps user resumes names) fun recovered names => ?_
    refine Confines.bind (poll_keeps user resumes names) fun polled names => ?_
    refine Confines.branch (fun _ => ?_) fun _ => Confines.branch (fun _ => described) fun _ => ?_
    · refine Confines.branch (fun _ => ?_) fun _ => described
      exact Confines.bind (save_keeps user (.inr resumes) names) fun _ _ => described
    · exact Confines.bind (dispatch_keeps user resumes names) fun _ _ => described
  refine Confines.branch (fun _ => ?_) fun _ => sweeps
  exact Confines.bind (authorizePlan_keeps user (.inr resumes)) fun _ _ => sweeps

end Resume

variable [RmcpTexts]

theorem act_keeps (user : Local request.context) {action id : String} (asks : request.Asks action)
    (other : action ≠ "submit") (named : request.text "runId" = some id) :
    Keeps request (RunDriver.act localCaller action id request.args request.context)
      fun _ => True := by
  have apart : ¬request.Asks "submit" := fun submits => other (Option.some.inj (asks.symm.trans submits))
  refine Confines.bind (readRun_keeps user apart named) fun record names => ?_
  split
  · exact Confines.ofExcept fun _ _ => trivial
  · exact Confines.value trivial
  · refine Confines.bind ofExcept_keeps fun state _ => ?_
    exact Confines.bind (verifySteps_keeps user asks) fun _ _ => Confines.value trivial
  · exact cancelRun_keeps user asks names
  · exact Confines.bind (readRun_keeps user apart named) fun _ names => drive_keeps user asks names
  · exact Confines.fail _

theorem call_keeps (request : RunRequest) :
    Keeps request (RunDriver.call request.args request.context) fun _ => True := by
  refine Confines.bind demand_keeps fun _ user => ?_
  refine Confines.bind ofExcept_keeps fun caller made => ?_
  have same : caller = localCaller := by
    rw [user.1,user.2,show TaskRouteCaller.new localPrincipal localTenant = .ok localCaller by decide]
      at made
    exact (Except.ok.inj made).symm
  subst same
  refine Confines.bind required_keeps fun action asks => ?_
  refine Confines.branch (fun submits => ?_) fun other => ?_
  · subst submits
    exact submitRun_keeps user asks
  · refine Confines.bind required_keeps fun id named => ?_
    exact Confines.bind demand_keeps fun _ _ => act_keeps user asks other named

theorem run_confining : Confining runSystem honest RunRequest.alphabet where
  act _ _ _ _ _ acted := act_honest acted
  body request := Prog.Confined.mono (call_keeps request) fun _ _ => trivial

/-- Whatever is done in a run is done for a request of the local user that may do it: only a
submission begins runs, only a cancellation or a resume writes the run it names, and only a resume
reaches the task proxy, with a federated tool and the identity of the request. -/
theorem requests_confined {c : RunConfig} {e : DriverEvent} (reachable : Reachable runSystem c)
    (happened : e ∈ c.world.trace) : ∃ request, c.world.requests[e.thread]? = some request ∧
      Local request.context ∧ request.Allowed e.op :=
  (reachable.bounded run_confining).events e happened

end

section Example
open Reference ExampleRun

theorem requests_confined_example : ∃ (c : RunConfig) (e : DriverEvent), Reachable runSystem c ∧
    e ∈ c.world.trace ∧ ∃ request, c.world.requests[e.thread]? = some request ∧
      Local request.context ∧ request.Allowed e.op := by
  obtain ⟨c,r,i,reachable,sends,-⟩ := sent obliging
  obtain ⟨call,calls⟩ := sends.called
  exact ⟨c,_,reachable,calls,requests_confined reachable calls⟩

end Example
end RunSystem
end GaugeMesh
