import GaugeMesh.Run.Driver
import Mathlib.Logic.Relation

/-! What one save does to the state of a run, and what every state of a run has to be. A save
changes one flag or one step, or skips every step that was never sent; what a step becomes is
decided by its phase and by an answer that the driver was given. -/
namespace GaugeMesh
open Json Interleaving

/-- The answers a driver has been given. -/
abbrev RunAnswers := (op : RunOp) → op.Ret → Prop

def StepPhase.unsent : StepPhase → Bool
  | .pending | .skipped => true
  | _ => false

/-- How the phase of a step may change, over one save or many. -/
structure StepPhase.Leads (before after : StepPhase) : Prop where
  ended : before = .failed ∨ before = .cancelled ∨ before = .skipped → after = before
  verified : before = .verified → after = .verified ∨ after = .failed
  pending : after = .pending → before = .pending
  submitting : after = .submitting → before = .pending ∨ before = .submitting
  skipped : after = .skipped → before = .pending ∨ before = .skipped

namespace StepPhase.Leads

variable {a b c : StepPhase}

theorem refl (a : StepPhase) : Leads a a :=
  ⟨fun _ => rfl,.inl,id,.inr,.inr⟩

theorem trans (first : Leads a b) (second : Leads b c) : Leads a c where
  ended closed := by
    have same := first.ended closed
    rw [← same] at closed
    exact (second.ended closed).trans same
  verified accepted := by
    rcases first.verified accepted with still | refuted
    · exact second.verified still
    · exact .inr ((second.ended (.inl refuted)).trans refuted)
  pending unsent := first.pending (second.pending unsent)
  submitting sent := by
    rcases second.submitting sent with pending | submitting
    · exact .inl (first.pending pending)
    · exact first.submitting submitting
  skipped unsent := by
    rcases second.skipped unsent with pending | skipped
    · exact .inl (first.pending pending)
    · exact first.skipped skipped

/-- What was sent stays sent. -/
theorem sent (leads : Leads a b) (sent : a.unsent = false) : b.unsent = false := by
  cases b with
  | pending => rw [leads.pending rfl] at sent; exact sent
  | skipped =>
    rcases leads.skipped rfl with pending | skipped
    · rw [pending] at sent; exact sent
    · rw [skipped] at sent; exact sent
  | _ => rfl

end StepPhase.Leads

def FederatedTool.Takes [FloatText] [Sha256] (tool : FederatedTool) (step : RunStep)
    (arguments : Entries Value) : Prop :=
  tool.identity.digest = step.capabilityId ∧
    tool.identity.schemaDigest.toString = step.providerInterfaceVersion ∧
    Inputs.validateInput tool.inputSchema (.object arguments) 0 = .ok ()

section
variable [FloatText] [Sha256] [RmcpTexts]

variable [SerdeJson.Bytes]

/-- The artifact that a completed task left for a step, as it was read and accepted. -/
structure Attested (answered : RunAnswers) (runId : String) (plan : RunPlan) (step : RunStep)
    (s : StepState) (terminal submission : Value) (path : String) (bytes : List UInt8)
    (artifact : Value) : Prop where
  ended : s.terminal = some terminal
  completed : (terminal.index "status").asStr = some "completed" ∧
    (terminal.index "result").index "isError" ≠ .bool true
  submitted : s.submission = some submission
  bound : BoundResult runId plan step s submission
    ((terminal.index "result").index "structuredContent")
    (((terminal.index "result").index "_meta").index taskExecutionMetaKey)
  located : ((((terminal.index "result").index "structuredContent").index "artifact").index
    "path").asStr = some path
  read : answered (.readArtifact plan.artifactRoot path step.maxArtifactBytes) (.ok bytes)
  digest : ((((terminal.index "result").index "structuredContent").index "artifact").index
    "sha256").asStr = some (Sha256Digest.ofBytes bytes).toString
  parsed : SerdeJson.Bytes.fromSlice bytes = some artifact
  described : ∃ described,
    ((terminal.index "result").index "structuredContent").asObject = some described ∧
      artifact.same (.object (Keyed.remove "artifact" described))
  accepts : step.policy.Accepts artifact

/-- What a poll makes of a step, where it says something new. -/
inductive Observed (answered : RunAnswers) (runId : String) (plan : RunPlan) (step : RunStep)
    (s : StepState) : Except McpError GetTaskResult → StepState → Prop
  | unanswered (new : ¬(s.phase = .unknown ∧ s.diagnostic = some (RmcpTexts.errorText error))) :
      Observed answered runId plan step s (.error error)
        { s with phase := .unknown, diagnostic := some (RmcpTexts.errorText error) }
  | unreconciled (document : RmcpTexts.getTaskResult result = some value) (present : value ≠ .null)
      (new : ¬(s.phase = .unknown ∧ s.terminal.any (·.same value))) :
      Observed answered runId plan step s (.ok result) { s with
        phase := .unknown
        terminal := some value
        diagnostic := some "GM_RUN_TASK_RECONCILIATION_REQUIRED" }
  | verified (document : RmcpTexts.getTaskResult result = some value)
      (reconciled : (((value.index "_meta").index taskRouteMetaKey).index "routePhase").asStr ≠
        some "reconciliation_required")
      (attested : Attested answered runId plan step { s with terminal := some value } terminal
        submission path bytes artifact) (present : artifact ≠ .null) :
      Observed answered runId plan step s (.ok result) { s with
        phase := .verified
        terminal := some value
        verifiedArtifact := some artifact
        verification := some (verificationReport step bytes artifact) }
  | rejected (document : RmcpTexts.getTaskResult result = some value) (present : value ≠ .null)
      (error : String) :
      Observed answered runId plan step s (.ok result)
        { s with phase := .failed, terminal := some value, diagnostic := some error }
  | failed (document : RmcpTexts.getTaskResult result = some value) (present : value ≠ .null) :
      Observed answered runId plan step s (.ok result)
        { s with phase := .failed, terminal := some value }
  | cancelled (document : RmcpTexts.getTaskResult result = some value) (present : value ≠ .null) :
      Observed answered runId plan step s (.ok result)
        { s with phase := .cancelled, terminal := some value }

namespace RunState

inductive StepChange (answered : RunAnswers) (runId : String) (state : RunState) (step : RunStep)
    (s : StepState) : StepState → Prop
  | refuted (phase : s.phase = .verified) (error : String) :
      StepChange answered runId state step s
        { s with phase := .failed, diagnostic := some error }
  | acknowledged (phase : s.phase = .submitting) (response : Except McpError CallToolResponse) :
      StepChange answered runId state step s (s.acknowledged response)
  | intended (polled : s.polledFor = some taskId) (ending : state.ending)
      (fresh : s.cancellationIntent = false) :
      StepChange answered runId state step s { s with cancellationIntent := true }
  | responded (polled : s.polledFor = some taskId) (pending : s.cancellationAcknowledged = false)
      (told : answered (.cancelTask taskId identity) answer) (new : s.responded answer ≠ s) :
      StepChange answered runId state step s (s.responded answer)
  | observed (polled : s.polledFor = some taskId) (told : answered (.getTask taskId identity) reply)
      (outcome : Observed answered runId state.plan step s reply t) :
      StepChange answered runId state step s t
  | dispatched (phase : s.phase = .pending) (going : state.stopped = false)
      (room : state.activeSteps < state.plan.maxConcurrency)
      (ready : ∀ id ∈ step.dependsOn, state.phaseOf id = some .verified)
      (resolved : resolveInputs step state = .ok arguments)
      (sampled : sampleArguments state.plan step = .ok sample) (tool : FederatedTool)
      (takes : tool.Takes step sample) (now : Nat) :
      StepChange answered runId state step s { s with
        phase := .submitting
        arguments := some arguments
        submission := some (stepSubmission runId state.plan step arguments now) }

inductive Change (answered : RunAnswers) (runId : String) (state : RunState) : RunState → Prop
  | cancelled (fresh : state.cancelRequested = false) :
      Change answered runId state { state with cancelRequested := true }
  | expired (fresh : state.deadlineObserved = false) :
      Change answered runId state { state with deadlineObserved := true }
  | step (member : step ∈ state.plan.steps) (found : state.step? step.id = some s)
      (change : StepChange answered runId state step s t) :
      Change answered runId state (state.set step.id t)
  | skipped (stopped : state.stopped) (unsent : state.unsent) :
      Change answered runId state state.skipUnsent

/-- A response that was not saved, as its digest was that of the step before. -/
inductive Unsaved (answered : RunAnswers) (state : RunState) : RunState → Prop
  | responded (member : step ∈ state.plan.steps) (found : state.step? step.id = some s)
      (polled : s.polledFor = some taskId) (pending : s.cancellationAcknowledged = false)
      (told : answered (.cancelTask taskId identity) answer) :
      Unsaved answered state (state.set step.id (s.responded answer))

/-- One save, from the state that was saved last. -/
def Save (answered : RunAnswers) (runId : String) (state next : RunState) : Prop :=
  ∃ held, Relation.ReflTransGen (Unsaved answered) state held ∧ Change answered runId held next

/-- One step of a state: it was never sent and holds nothing, or it holds what it was sent with,
and what it was accepted with once it was. -/
structure StepLawful (runId : String) (state : RunState) (step : RunStep) (s : StepState) :
    Prop where
  sent : s.phase.unsent = false → ∃ arguments now, s.arguments = some arguments ∧
    resolveInputs step state = .ok arguments ∧
    s.submission = some (stepSubmission runId state.plan step arguments now)
  sampled : s.phase.unsent = false → ∃ sample, sampleArguments state.plan step = .ok sample ∧
    ∃ tool : FederatedTool, tool.Takes step sample
  unsent : s.phase.unsent = true → s.arguments = none ∧ s.submission = none ∧ s.taskId = none ∧
    s.terminal = none ∧ s.verifiedArtifact = none ∧ s.verification = none
  task : s.phase = .routed ∨ s.phase = .verified ∨ s.phase = .cancelled → s.taskId.isSome
  verified : s.phase = .verified → s.terminal.isSome ∧ s.verifiedArtifact.isSome ∧
    ∃ report, s.verification = some report ∧ (report.index "status").asStr = some "verified"
  artifact : ∀ artifact, s.verifiedArtifact = some artifact → step.policy.Accepts artifact ∧
    (s.phase = .verified ∨ s.phase = .failed)

structure Lawful (runId : String) (state : RunState) : Prop where
  accepted : state.plan.validate state.acceptedAtUnixMs = .ok ()
  distinct : Keyed.Distinct state.steps
  length : state.steps.length = state.plan.steps.length
  steps : ∀ step ∈ state.plan.steps, ∃ s, state.step? step.id = some s ∧
    StepLawful runId state step s
  written : ∀ entry ∈ state.steps, entry.2.Written
  room : state.activeSteps ≤ state.plan.maxConcurrency

variable {answered : RunAnswers} {runId : String} {state next : RunState} {step other : RunStep}
  {s t : StepState}

omit [FloatText] [Sha256] [RmcpTexts] [SerdeJson.Bytes]

theorem step?_set (state : RunState) (id name : String) (t : StepState) :
    (state.set id t).step? name = if name = id then (state.step? name).map fun _ => t
      else state.step? name :=
  Keyed.lookup_update id name (fun _ => t) state.steps

theorem step?_set_self (found : state.step? name = some s) (t : StepState) :
    (state.set name t).step? name = some t := by
  rw [step?_set,if_pos rfl,found]
  rfl

theorem step?_set_ne {id name : String} (different : name ≠ id) (t : StepState) :
    (state.set id t).step? name = state.step? name := by
  rw [step?_set,if_neg different]

theorem distinct_set (distinct : Keyed.Distinct state.steps) (id : String) (t : StepState) :
    Keyed.Distinct (state.set id t).steps := by
  change Keyed.Distinct (Keyed.update id (fun _ => t) state.steps)
  exact distinct.update

theorem length_set (state : RunState) (id : String) (t : StepState) :
    (state.set id t).steps.length = state.steps.length := by
  change (Keyed.update id (fun _ => t) state.steps).length = _
  exact Keyed.length_update

theorem step?_skipUnsent (state : RunState) (name : String) :
    state.skipUnsent.step? name = (state.step? name).map StepState.skipped := by
  rw [step?,step?,skipUnsent]
  induction state.steps with
  | nil => rfl
  | cons entry rest ih =>
    obtain ⟨key,s⟩ := entry
    rw [List.map_cons,Keyed.lookup_cons,Keyed.lookup_cons,ih]
    split <;> rfl

theorem mem_of_step? (found : state.step? name = some s) : (name,s) ∈ state.steps :=
  Keyed.mem_of_lookup found

theorem activeSteps_sum (state : RunState) :
    state.activeSteps = (state.steps.map fun entry => entry.2.phase.active.toNat).sum := by
  rw [activeSteps]
  induction state.steps with
  | nil => rfl
  | cons entry rest ih =>
    rw [List.countP_cons,List.map_cons,List.sum_cons,ih]
    cases entry.2.phase.active <;> simp
    omega

/-- One step less is counted and the new one is counted instead. -/
theorem activeSteps_set (distinct : Keyed.Distinct state.steps)
    (found : state.step? name = some s) (t : StepState) :
    (state.set name t).activeSteps + s.phase.active.toNat =
      state.activeSteps + t.phase.active.toNat := by
  rw [activeSteps_sum,activeSteps_sum]
  exact Keyed.sum_update (fun s : StepState => s.phase.active.toNat) distinct found

theorem activeSteps_skipUnsent (state : RunState) :
    state.skipUnsent.activeSteps = state.activeSteps := by
  rw [activeSteps,skipUnsent,List.countP_map]
  apply List.countP_congr
  intro entry _
  simp only [Function.comp,StepState.skipped]
  split
  · next pending => simp [pending,StepPhase.active]
  · rfl

/-- An artifact that was accepted stays. -/
def KeepsArtifacts (state next : RunState) : Prop :=
  ∀ id artifact, (state.step? id).bind (·.verifiedArtifact) = some artifact →
    (next.step? id).bind (·.verifiedArtifact) = some artifact

theorem resolveEach_congr {resolve resolve' : RunInput → Except String Value}
    (kept : ∀ input value, resolve input = .ok value → resolve' input = .ok value)
    {inputs : Entries RunInput} {arguments : Entries Value}
    (resolved : resolveEach resolve inputs = .ok arguments) :
    resolveEach resolve' inputs = .ok arguments := by
  induction inputs generalizing arguments with
  | nil => exact resolved
  | cons entry rest ih =>
    obtain ⟨name,input⟩ := entry
    simp only [resolveEach] at resolved ⊢
    obtain ⟨value,first,resolved⟩ := Except.bind_ok.mp resolved
    obtain ⟨others,second,resolved⟩ := Except.bind_ok.mp resolved
    apply Except.bind_ok.mpr
    refine ⟨value,kept input value first,?_⟩
    apply Except.bind_ok.mpr
    exact ⟨others,ih second,resolved⟩

theorem KeepsArtifacts.resolveInputs (kept : KeepsArtifacts state next)
    (resolved : resolveInputs step state = .ok arguments) :
    GaugeMesh.resolveInputs step next = .ok arguments := by
  refine resolveEach_congr (fun input value found => ?_) resolved
  cases input with
  | literal => exact found
  | predecessor source pointer =>
    simp only [resolveInput,okOr_ok] at found ⊢
    obtain ⟨artifact,there,here⟩ := Option.bind_eq_some_iff.mp found
    rw [kept source artifact there]
    exact here

theorem keepsArtifacts_set (found : state.step? name = some s)
    (kept : ∀ artifact, s.verifiedArtifact = some artifact → t.verifiedArtifact = some artifact) :
    KeepsArtifacts state (state.set name t) := by
  intro id artifact there
  by_cases same : id = name
  · subst same
    rw [found] at there
    rw [step?_set_self found]
    exact kept artifact there
  · rw [step?_set_ne same]
    exact there

section
variable [FloatText] [Sha256]

theorem StepLawful.kept (lawful : StepLawful runId state step s)
    (kept : KeepsArtifacts state next) (plan : next.plan = state.plan) :
    StepLawful runId next step s := by
  refine ⟨fun sent => ?_,fun sent => ?_,lawful.unsent,lawful.task,lawful.verified,lawful.artifact⟩
  · obtain ⟨arguments,now,held,resolved,submitted⟩ := lawful.sent sent
    refine ⟨arguments,now,held,kept.resolveInputs resolved,?_⟩
    rw [plan]
    exact submitted
  · rw [plan]
    exact lawful.sampled sent

/-- A state with another step in the place of one. -/
theorem Lawful.set (lawful : Lawful runId state) (member : step ∈ state.plan.steps)
    (found : state.step? step.id = some s) (sound : StepLawful runId state step t)
    (kept : ∀ artifact, s.verifiedArtifact = some artifact → t.verifiedArtifact = some artifact)
    (written : t.Written)
    (room : t.phase.active → s.phase.active ∨ state.activeSteps < state.plan.maxConcurrency) :
    Lawful runId (state.set step.id t) := by
  have keeps := keepsArtifacts_set found kept
  have counted := activeSteps_set lawful.distinct found t
  refine ⟨lawful.accepted,distinct_set lawful.distinct _ _,?_,?_,?_,?_⟩
  · rw [length_set]
    exact lawful.length
  · intro other there
    by_cases same : other.id = step.id
    · refine ⟨t,?_,?_⟩
      · rw [same]
        exact step?_set_self found t
      · have equal : other = step :=
          List.inj_on_of_nodup_map (RunPlan.validate_ok lawful.accepted).distinct there member same
        rw [equal]
        exact sound.kept keeps rfl
    · obtain ⟨u,here,sound⟩ := lawful.steps other there
      rw [step?_set_ne same]
      exact ⟨u,here,sound.kept keeps rfl⟩
  · intro entry there
    obtain ⟨old,before,rfl⟩ := List.mem_map.mp there
    split
    · exact written
    · exact lawful.written old before
  · have least := lawful.room
    change (state.set step.id t).activeSteps ≤ state.plan.maxConcurrency
    cases active : t.phase.active with
    | false =>
      rw [active] at counted
      simp only [Bool.toNat_false] at counted
      omega
    | true =>
      rw [active] at counted
      rcases room active with before | free
      · rw [before] at counted
        omega
      · simp only [Bool.toNat_true] at counted
        omega

end

structure StepLeads (s t : StepState) : Prop where
  phase : s.phase.Leads t.phase
  submission : s.phase.unsent = false → t.arguments = s.arguments ∧ t.submission = s.submission

theorem StepLeads.refl (s : StepState) : StepLeads s s := ⟨.refl _,fun _ => ⟨rfl,rfl⟩⟩

theorem StepLeads.trans {u : StepState} (first : StepLeads s t) (second : StepLeads t u) :
    StepLeads s u := by
  refine ⟨first.phase.trans second.phase,fun sent => ?_⟩
  obtain ⟨arguments,submission⟩ := first.submission sent
  obtain ⟨arguments',submission'⟩ := second.submission (first.phase.sent sent)
  exact ⟨arguments'.trans arguments,submission'.trans submission⟩

theorem polledFor_eq_some {id : String} : s.polledFor = some id ↔
    (s.phase = .routed ∨ s.phase = .unknown) ∧ s.taskId = some id := by
  rw [StepState.polledFor]
  split <;> simp_all

theorem polled_unsent {id : String} (polled : s.polledFor = some id) : s.phase.unsent = false := by
  rcases (polledFor_eq_some.mp polled).1 with phase | phase <;> rw [phase] <;> rfl

/-- A step that is polled may come to every phase but those of steps that were not yet sent. -/
theorem polled_leads {id : String} (polled : s.polledFor = some id) {phase : StepPhase}
    (sent : phase.unsent = false) (past : phase ≠ .submitting) : s.phase.Leads phase := by
  rcases (polledFor_eq_some.mp polled).1 with before | before <;> rw [before] <;>
    constructor <;> intro h <;> simp_all [StepPhase.unsent]

/-- What a step has become, as far as its state has to allow it. -/
structure Becomes [FloatText] [Sha256] (runId : String) (state : RunState) (step : RunStep)
    (s t : StepState) : Prop where
  lawful : StepLawful runId state step t
  leads : StepLeads s t
  artifact : ∀ artifact, s.verifiedArtifact = some artifact → t.verifiedArtifact = some artifact
  written : t.Written
  room : t.phase.active → s.phase.active ∨ state.activeSteps < state.plan.maxConcurrency

section
variable [FloatText] [Sha256]

/-- A step that was sent keeps what it was sent with. -/
theorem StepLawful.resent (lawful : StepLawful runId state step s) (before : s.phase.unsent = false)
    (after : t.phase.unsent = false) (arguments : t.arguments = s.arguments)
    (submission : t.submission = s.submission)
    (task : t.phase = .routed ∨ t.phase = .verified ∨ t.phase = .cancelled → t.taskId.isSome)
    (verified : t.phase = .verified → t.terminal.isSome ∧ t.verifiedArtifact.isSome ∧
      ∃ report, t.verification = some report ∧ (report.index "status").asStr = some "verified")
    (artifact : ∀ artifact, t.verifiedArtifact = some artifact → step.policy.Accepts artifact ∧
      (t.phase = .verified ∨ t.phase = .failed)) : StepLawful runId state step t where
  sent _ := by
    rw [arguments,submission]
    exact lawful.sent before
  sampled _ := lawful.sampled before
  unsent still := by
    rw [after] at still
    cases still
  task := task
  verified := verified
  artifact := artifact

theorem StepLawful.unaccepted {id : String} (lawful : StepLawful runId state step s)
    (polled : s.polledFor = some id) : s.verifiedArtifact = none := by
  by_contra present
  obtain ⟨artifact,held⟩ := Option.ne_none_iff_exists'.mp present
  have phase := (polledFor_eq_some.mp polled).1
  rcases (lawful.artifact artifact held).2 with other | other <;> rw [other] at phase <;>
    simp at phase

/-- The flags of a cancellation change nothing else. -/
theorem Becomes.flagged (lawful : StepLawful runId state step s) (written : s.Written)
    (intent sent acknowledged : Bool) (diagnostic : Option String) :
    Becomes runId state step s { s with
      cancellationIntent := intent
      cancellationRequestSent := sent
      cancellationAcknowledged := acknowledged
      diagnostic := diagnostic } where
  lawful := ⟨lawful.sent,lawful.sampled,lawful.unsent,lawful.task,lawful.verified,lawful.artifact⟩
  leads := ⟨.refl _,fun _ => ⟨rfl,rfl⟩⟩
  artifact _ held := held
  written := ⟨written.submission,written.terminal,written.verifiedArtifact,written.verification⟩
  room active := .inl active

/-- A poll that accepts nothing. -/
theorem Becomes.unaccepted {taskId : String} (lawful : StepLawful runId state step s)
    (written : s.Written) (polled : s.polledFor = some taskId) {phase : StepPhase}
    (outcome : phase = .unknown ∨ phase = .failed ∨ phase = .cancelled) {terminal : Option Value}
    (present : terminal ≠ some .null) (diagnostic : Option String) :
    Becomes runId state step s
      { s with phase := phase, terminal := terminal, diagnostic := diagnostic } where
  lawful := by
    have held := (polledFor_eq_some.mp polled).2
    refine lawful.resent (polled_unsent polled) ?_ rfl rfl (fun _ => ?_) ?_ ?_
    · rcases outcome with rfl | rfl | rfl <;> rfl
    · change s.taskId.isSome
      rw [held]
      rfl
    · rcases outcome with rfl | rfl | rfl <;> exact nofun
    · intro artifact some
      rw [lawful.unaccepted polled] at some
      cases some
  leads := by
    refine ⟨polled_leads polled ?_ ?_,fun _ => ⟨rfl,rfl⟩⟩
    · rcases outcome with rfl | rfl | rfl <;> rfl
    · rcases outcome with rfl | rfl | rfl <;> exact nofun
  artifact _ held := held
  written := ⟨written.submission,present,written.verifiedArtifact,written.verification⟩
  room := by rcases outcome with rfl | rfl | rfl <;> exact nofun

variable [RmcpTexts] [SerdeJson.Bytes]

omit [SerdeJson.Bytes] in
theorem Becomes.responded (lawful : StepLawful runId state step s) (written : s.Written)
    (answer : Except McpError Unit) : Becomes runId state step s (s.responded answer) :=
  .flagged lawful written s.cancellationIntent true answer.isOk _

theorem Observed.becomes {taskId : String} {reply : Except McpError GetTaskResult}
    (lawful : StepLawful runId state step s) (written : s.Written)
    (polled : s.polledFor = some taskId)
    (observed : Observed answered runId state.plan step s reply t) :
    Becomes runId state step s t := by
  cases observed with
  | unanswered => exact .unaccepted lawful written polled (.inl rfl) written.terminal _
  | unreconciled document present =>
    exact .unaccepted lawful written polled (.inl rfl) (present ∘ Option.some.inj) _
  | rejected document present =>
    exact .unaccepted lawful written polled (.inr (.inl rfl)) (present ∘ Option.some.inj) _
  | failed document present =>
    exact .unaccepted lawful written polled (.inr (.inl rfl)) (present ∘ Option.some.inj) _
  | cancelled document present =>
    exact .unaccepted lawful written polled (.inr (.inr rfl)) (present ∘ Option.some.inj) _
  | @verified _ value terminal submission path bytes artifact document reconciled attested present =>
    have held := (polledFor_eq_some.mp polled).2
    have completed : value ≠ .null := by
      have status := attested.completed.1
      cases attested.ended
      rintro rfl
      cases status
    refine ⟨?_,⟨polled_leads polled rfl nofun,fun _ => ⟨rfl,rfl⟩⟩,?_,
      ⟨written.submission,completed ∘ Option.some.inj,present ∘ Option.some.inj,nofun⟩,nofun⟩
    · refine lawful.resent (polled_unsent polled) rfl rfl rfl (fun _ => ?_) (fun _ => ?_) ?_
      · change s.taskId.isSome
        rw [held]
        rfl
      · exact ⟨rfl,rfl,_,rfl,rfl⟩
      · intro other same
        cases same
        exact ⟨attested.accepts,.inl rfl⟩
    · intro other some
      rw [lawful.unaccepted polled] at some
      cases some

/-- Whatever becomes of a step, its state allows it. -/
theorem StepChange.becomes (lawful : StepLawful runId state step s) (written : s.Written)
    (change : StepChange answered runId state step s t) : Becomes runId state step s t := by
  cases change with
  | refuted phase error =>
    have sent : s.phase.unsent = false := by rw [phase]; rfl
    refine ⟨lawful.resent sent rfl rfl rfl (by simp) nofun ?_,⟨?_,fun _ => ⟨rfl,rfl⟩⟩,
      fun _ held => held,
      ⟨written.submission,written.terminal,written.verifiedArtifact,written.verification⟩,nofun⟩
    · exact fun artifact held => ⟨(lawful.artifact artifact held).1,.inr rfl⟩
    · rw [phase]
      exact ⟨by simp,fun _ => .inr rfl,nofun,nofun,nofun⟩
  | acknowledged phase response =>
    have sent : s.phase.unsent = false := by rw [phase]; rfl
    have unaccepted : ∀ artifact, s.verifiedArtifact ≠ some artifact := by
      intro artifact held
      rcases (lawful.artifact artifact held).2 with other | other <;> rw [phase] at other <;>
        cases other
    have goes (p : StepPhase) (q : p = .routed ∨ p = .unknown) : s.phase.Leads p := by
      rw [phase]
      rcases q with rfl | rfl <;> constructor <;> simp
    have moved : ∀ (p : StepPhase) (task : Option String) (diagnostic : Option String),
        (p = .routed ∧ task.isSome) ∨ p = .unknown → Becomes runId state step s
          { s with phase := p, taskId := task, diagnostic := diagnostic } := by
      intro p task diagnostic outcome
      have either : p = .routed ∨ p = .unknown := outcome.imp_left And.left
      refine ⟨lawful.resent sent ?_ rfl rfl ?_ ?_ ?_,⟨goes p either,fun _ => ⟨rfl,rfl⟩⟩,
        fun _ held => held,
        ⟨written.submission,written.terminal,written.verifiedArtifact,written.verification⟩,?_⟩
      · rcases either with rfl | rfl <;> rfl
      · rcases outcome with ⟨rfl,known⟩ | rfl
        · exact fun _ => known
        · simp
      · rcases either with rfl | rfl <;> simp
      · exact fun artifact held => (unaccepted artifact held).elim
      · intro _
        exact .inl (by rw [phase]; rfl)
    rcases response with error | (created | result | _ | _)
    · exact moved .unknown s.taskId _ (.inr rfl)
    · rw [StepState.acknowledged]
      split
      · exact moved .unknown _ s.diagnostic (.inr rfl)
      · exact moved .routed _ s.diagnostic (.inl ⟨rfl,rfl⟩)
    all_goals exact moved .unknown s.taskId _ (.inr rfl)
  | intended =>
    exact .flagged lawful written true s.cancellationRequestSent s.cancellationAcknowledged _
  | responded _ _ _ _ => exact .responded lawful written _
  | observed polled _ outcome => exact Observed.becomes lawful written polled outcome
  | @dispatched arguments _ phase going room ready resolved sampled tool takes now =>
    have unsent : s.phase.unsent = true := by rw [phase]; rfl
    obtain ⟨-,-,task,terminal,artifact,verification⟩ := lawful.unsent unsent
    refine ⟨⟨fun _ => ⟨arguments,now,rfl,resolved,rfl⟩,fun _ => ⟨_,sampled,tool,takes⟩,nofun,by simp,
      nofun,?_⟩,⟨?_,?_⟩,
      fun _ held => held,
      ⟨nofun,written.terminal,written.verifiedArtifact,written.verification⟩,fun _ => .inr room⟩
    · intro other held
      rw [artifact] at held
      cases held
    · rw [phase]
      exact ⟨by simp,nofun,nofun,fun _ => .inl rfl,nofun⟩
    · intro sent
      rw [unsent] at sent
      cases sent

end

structure Leads (state next : RunState) : Prop where
  plan : next.plan = state.plan
  acceptedAt : next.acceptedAtUnixMs = state.acceptedAtUnixMs
  cancelRequested : state.cancelRequested → next.cancelRequested
  deadlineObserved : state.deadlineObserved → next.deadlineObserved
  steps : ∀ id s, state.step? id = some s → ∃ t, next.step? id = some t ∧ StepLeads s t

theorem Leads.refl (state : RunState) : Leads state state :=
  ⟨rfl,rfl,id,id,fun _ s found => ⟨s,found,.refl s⟩⟩

theorem Leads.trans {last : RunState} (first : Leads state next) (second : Leads next last) :
    Leads state last where
  plan := second.plan.trans first.plan
  acceptedAt := second.acceptedAt.trans first.acceptedAt
  cancelRequested before := second.cancelRequested (first.cancelRequested before)
  deadlineObserved before := second.deadlineObserved (first.deadlineObserved before)
  steps id s found := by
    obtain ⟨t,middle,leads⟩ := first.steps id s found
    obtain ⟨u,last,leads'⟩ := second.steps id t middle
    exact ⟨u,last,leads.trans leads'⟩

theorem Leads.set (found : state.step? name = some s) (leads : StepLeads s t) :
    Leads state (state.set name t) where
  plan := rfl
  acceptedAt := rfl
  cancelRequested := id
  deadlineObserved := id
  steps id u there := by
    by_cases same : id = name
    · subst same
      rw [found] at there
      cases there
      exact ⟨t,step?_set_self found t,leads⟩
    · exact ⟨u,(step?_set_ne same t).trans there,.refl u⟩

theorem StepLeads.skipped (s : StepState) : StepLeads s s.skipped := by
  rw [StepState.skipped]
  split
  · next pending =>
    refine ⟨?_,fun sent => ?_⟩
    · rw [pending]
      exact ⟨by simp,nofun,nofun,nofun,fun _ => .inl rfl⟩
    · rw [pending] at sent
      cases sent
  · exact .refl s

section
variable [FloatText] [Sha256]

theorem StepLawful.skipped (lawful : StepLawful runId state step s) :
    StepLawful runId state step s.skipped := by
  rw [StepState.skipped]
  split
  · next pending =>
    have unsent : s.phase.unsent = true := by rw [pending]; rfl
    have empty := lawful.unsent unsent
    refine ⟨nofun,nofun,fun _ => empty,by simp,nofun,fun artifact held => ?_⟩
    rw [empty.2.2.2.2.1] at held
    cases held
  · exact lawful

theorem Lawful.found (lawful : Lawful runId state) (member : step ∈ state.plan.steps)
    (found : state.step? step.id = some s) : StepLawful runId state step s ∧ s.Written := by
  obtain ⟨t,there,sound⟩ := lawful.steps step member
  rw [found] at there
  cases there
  exact ⟨sound,lawful.written _ (mem_of_step? found)⟩

theorem Lawful.becomes (lawful : Lawful runId state) (member : step ∈ state.plan.steps)
    (found : state.step? step.id = some s) (becomes : Becomes runId state step s t) :
    Lawful runId (state.set step.id t) ∧ Leads state (state.set step.id t) :=
  ⟨lawful.set member found becomes.lawful becomes.artifact becomes.written becomes.room,
    .set found becomes.leads⟩

/-- A state with other flags. -/
theorem Lawful.flagged (lawful : Lawful runId state) (cancelRequested deadlineObserved : Bool) :
    Lawful runId { state with
      cancelRequested := cancelRequested
      deadlineObserved := deadlineObserved } where
  accepted := lawful.accepted
  distinct := lawful.distinct
  length := lawful.length
  steps step member := by
    obtain ⟨s,found,sound⟩ := lawful.steps step member
    refine ⟨s,found,sound.kept ?_ rfl⟩
    exact fun _ _ held => held
  written := lawful.written
  room := lawful.room

theorem Lawful.skipUnsent (lawful : Lawful runId state) : Lawful runId state.skipUnsent where
  accepted := lawful.accepted
  distinct := by
    change Keyed.Distinct (state.steps.map _)
    rw [Keyed.Distinct,List.map_map]
    exact lawful.distinct
  length := (List.length_map _).trans lawful.length
  steps step member := by
    obtain ⟨s,found,sound⟩ := lawful.steps step member
    refine ⟨s.skipped,?_,sound.skipped.kept ?_ rfl⟩
    · rw [step?_skipUnsent,found]
      rfl
    · intro id artifact held
      rw [step?_skipUnsent]
      obtain ⟨u,there,held⟩ := Option.bind_eq_some_iff.mp held
      rw [there,Option.map_some,Option.bind_some,StepState.skipped]
      split <;> exact held
  written entry there := by
    obtain ⟨old,before,rfl⟩ := List.mem_map.mp there
    have written := lawful.written old before
    change old.2.skipped.Written
    rw [StepState.skipped]
    split
    · exact ⟨written.submission,written.terminal,written.verifiedArtifact,written.verification⟩
    · exact written
  room := (activeSteps_skipUnsent state).trans_le lawful.room

variable [RmcpTexts] [SerdeJson.Bytes]

theorem Change.lawful (lawful : Lawful runId state) (change : Change answered runId state next) :
    Lawful runId next ∧ Leads state next := by
  cases change with
  | cancelled =>
    exact ⟨lawful.flagged true state.deadlineObserved,rfl,rfl,fun _ => rfl,id,
      fun _ s found => ⟨s,found,.refl s⟩⟩
  | expired =>
    exact ⟨lawful.flagged state.cancelRequested true,rfl,rfl,id,fun _ => rfl,
      fun _ s found => ⟨s,found,.refl s⟩⟩
  | step member found change =>
    obtain ⟨sound,written⟩ := lawful.found member found
    exact lawful.becomes member found (change.becomes sound written)
  | skipped =>
    refine ⟨lawful.skipUnsent,rfl,rfl,id,id,fun id s found => ?_⟩
    exact ⟨s.skipped,by rw [step?_skipUnsent,found]; rfl,.skipped s⟩

omit [SerdeJson.Bytes] in
theorem Unsaved.lawful (lawful : Lawful runId state) (unsaved : Unsaved answered state next) :
    Lawful runId next ∧ Leads state next := by
  cases unsaved with
  | responded member found =>
    obtain ⟨sound,written⟩ := lawful.found member found
    exact lawful.becomes member found (.responded sound written _)

omit [SerdeJson.Bytes] in
theorem held_lawful (lawful : Lawful runId state)
    (unsaved : Relation.ReflTransGen (Unsaved answered) state next) :
    Lawful runId next ∧ Leads state next := by
  induction unsaved with
  | refl => exact ⟨lawful,.refl state⟩
  | tail _ more ih =>
    obtain ⟨kept,leads⟩ := more.lawful ih.1
    exact ⟨kept,ih.2.trans leads⟩

/-- Every save makes a lawful state of a lawful state. -/
theorem Save.lawful (lawful : Lawful runId state) (save : Save answered runId state next) :
    Lawful runId next ∧ Leads state next := by
  obtain ⟨held,unsaved,change⟩ := save
  obtain ⟨middle,first⟩ := held_lawful lawful unsaved
  obtain ⟨last,second⟩ := change.lawful middle
  exact ⟨last,first.trans second⟩

end

section
variable [FloatText] [Sha256]

/-- The steps of an accepted plan, each as it is before it is sent. -/
theorem accepted_steps {plan : RunPlan} {acceptedAt : Nat}
    (valid : plan.validate acceptedAt = .ok ()) : (RunState.accepted plan acceptedAt).steps.Perm
      (plan.steps.map fun step => (step.id,StepState.new)) := by
  apply Entries.collect_perm
  rw [List.map_map]
  exact (RunPlan.validate_ok valid).distinct

theorem accepted_new {plan : RunPlan} {acceptedAt : Nat} (valid : plan.validate acceptedAt = .ok ())
    {entry : String × StepState} (there : entry ∈ (RunState.accepted plan acceptedAt).steps) :
    entry.2 = StepState.new := by
  obtain ⟨step,-,rfl⟩ := List.mem_map.mp ((accepted_steps valid).mem_iff.mp there)
  rfl

/-- A plan that is valid when it is accepted makes a lawful state, in which nothing was sent. -/
theorem accepted_lawful {plan : RunPlan} {acceptedAt : Nat}
    (valid : plan.validate acceptedAt = .ok ()) (runId : String) :
    Lawful runId (.accepted plan acceptedAt) := by
  have perm := accepted_steps valid
  have distinct : Keyed.Distinct (RunState.accepted plan acceptedAt).steps := by
    rw [Keyed.Distinct,(perm.map Prod.fst).nodup_iff,List.map_map]
    exact (RunPlan.validate_ok valid).distinct
  refine ⟨valid,distinct,perm.length_eq.trans (List.length_map _),fun step member => ?_,?_,?_⟩
  · have there : (step.id,StepState.new) ∈ (RunState.accepted plan acceptedAt).steps :=
      perm.mem_iff.mpr (List.mem_map.mpr ⟨step,member,rfl⟩)
    refine ⟨StepState.new,Keyed.lookup_of_mem distinct there,?_⟩
    constructor <;> simp [StepState.new,StepPhase.unsent]
  · intro entry there
    rw [accepted_new valid there]
    constructor <;> simp [StepState.new]
  · have none : (RunState.accepted plan acceptedAt).activeSteps = 0 := by
      apply List.countP_eq_zero.mpr
      intro entry there
      rw [accepted_new valid there]
      simp [StepState.new,StepPhase.active]
    rw [none]
    exact Nat.zero_le _

theorem StepLawful.checked (lawful : StepLawful runId state step s)
    (found : state.step? step.id = some s) : checkStep state step = .ok () := by
  rw [checkStep,found]
  apply okOr_bind_ok.mpr
  refine ⟨s,rfl,?_⟩
  cases unsent : s.phase.unsent with
  | true =>
    obtain ⟨arguments,submission,task,terminal,artifact,verification⟩ := lawful.unsent unsent
    have phase : s.phase = .pending ∨ s.phase = .skipped := by
      revert unsent
      cases s.phase <;> simp [StepPhase.unsent]
    rcases phase with phase | phase <;>
      simp [phase,arguments,submission,task,terminal,artifact,verification]
  | false =>
    obtain ⟨arguments,now,held,resolved,submitted⟩ := lawful.sent unsent
    have phase : ¬(s.phase = .pending ∨ s.phase = .skipped) := by
      rintro (phase | phase) <;> rw [phase] at unsent <;> cases unsent
    simp only [if_pos phase,if_neg phase,Except.then_ok,ensure_ok,resolved,Except.ok_then]
    refine ⟨⟨arguments,held,Value.same_refl _⟩,?_,?_⟩
    · rw [submitted]
      rfl
    split
    · next routed =>
      refine Except.then_ok.mpr ⟨(ensure_ok _ _).mpr (lawful.task routed),?_⟩
      split
      · next verified =>
        exact Except.then_ok.mpr ⟨(ensure_ok _ _).mpr (lawful.verified verified),rfl⟩
      · rfl
    · split
      · next verified =>
        exact Except.then_ok.mpr ⟨(ensure_ok _ _).mpr (lawful.verified verified),rfl⟩
      · rfl

end

end RunState
end

section
variable [FloatText] [Sha256]

omit [FloatText] [Sha256] in
theorem bailed_ok {result : Except String α} {a : α} : bailed result = .ok a ↔ result = .ok a := by
  cases result <;> simp [bailed,Except.mapError]

/-- A record that was written for a lawful state gives the state back. -/
theorem stateFrom_lawful {runId : String} {state : RunState} {record : RunRecord}
    (lawful : state.Lawful runId) (integrity : record.verifyIntegrity = .ok ())
    (data : record.data = toValue state) : stateFrom record = .ok state := by
  have decoded : (fromValue record.data : Option RunState) = some state := by
    rw [data]
    exact RunState.decode_encode lawful.written
  rw [stateFrom]
  apply Except.then_ok.mpr
  refine ⟨mapError_ok.mpr integrity,?_⟩
  apply okOr_bind_ok.mpr
  refine ⟨state,decoded,?_⟩
  simp only [Except.then_ok,bailed_ok,ensure_ok,checkEach_ok]
  refine ⟨lawful.accepted,⟨lawful.length,fun step member => ?_⟩,fun step member => ?_,rfl⟩
  · obtain ⟨s,found,-⟩ := lawful.steps step member
    rw [found]
    rfl
  · obtain ⟨s,found,sound⟩ := lawful.steps step member
    exact sound.checked found

theorem stateFrom_data {record : RunRecord} {state : RunState}
    (read : stateFrom record = .ok state) :
    (fromValue record.data : Option RunState) = some state := by
  simp only [stateFrom,Except.then_ok,okOr_bind_ok] at read
  obtain ⟨-,other,found,-,-,-,same⟩ := read
  rw [found]
  exact congrArg some (Except.ok.inj same)

end
end GaugeMesh
