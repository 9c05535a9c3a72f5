import GaugeMesh.Run.Guarantees
import GaugeMesh.Run.Reach
import Mathlib.Algebra.Order.BigOperators.Group.List

/-! A run against a task proxy that answers for one task always the same. Every version spends of a
budget that the plan gives by its number of steps, so that all but finitely many sweeps write
nothing. -/
namespace GaugeMesh
open Json Interleaving

namespace TaskAnswers

variable [RmcpTexts]

/-- A cancellation and a poll of one task do not fail with two texts. -/
def Agrees (tasks : TaskAnswers) : Prop :=
  ∀ id error error', tasks.cancel id = .error error → tasks.get id = .error error' →
    RmcpTexts.errorText error = RmcpTexts.errorText error'

end TaskAnswers

namespace StepState

variable [RmcpTexts]

/-- The diagnostic is not that of the cancellation. -/
def undiagnosed (s : StepState) : Except McpError Unit → Bool
  | .ok _ => false
  | .error error => s.diagnostic != some (RmcpTexts.errorText error)

/-- The answer to a poll may say something new. -/
def news (s : StepState) : Except McpError GetTaskResult → Bool
  | .error error => !(s.phase == .unknown && s.diagnostic == some (RmcpTexts.errorText error))
  | .ok result => match RmcpTexts.getTaskResult result with
    | none => false
    | some value => !(s.phase == .unknown && s.terminal.any (·.same value))

/-- The versions that cancelling and polling a step can still write. -/
def unsettled (tasks : TaskAnswers) (s : StepState) (id : String) : Nat :=
  (!s.cancellationIntent).toNat + (!s.cancellationRequestSent).toNat +
    (!s.cancellationAcknowledged).toNat + (s.undiagnosed (tasks.cancel id)).toNat +
    2 * (s.news (tasks.get id)).toNat

/-- The versions that a step can still write. -/
def budget (tasks : TaskAnswers) (s : StepState) : Nat :=
  match s.phase with
  | .pending => 10
  | .submitting => 9
  | .routed | .unknown => 2 + s.taskId.elim 0 (s.unsettled tasks)
  | .verified => 1
  | .failed | .cancelled | .skipped => 0

end StepState

namespace RunState

variable [RmcpTexts] {tasks : TaskAnswers} {answered : RunAnswers}
  {runId : String} {state next saved : RunState} {step : RunStep} {s t : StepState}

/-- The versions that a run can still write. -/
def budget (tasks : TaskAnswers) (state : RunState) : Nat :=
  (!state.cancelRequested).toNat + (!state.deadlineObserved).toNat +
    (state.steps.map fun entry => entry.2.budget tasks).sum

theorem unsettled_le (tasks : TaskAnswers) (s : StepState) (id : String) :
    s.unsettled tasks id ≤ 6 := by
  have each (b : Bool) : b.toNat ≤ 1 := Bool.toNat_le b
  have intent := each (!s.cancellationIntent)
  have sent := each (!s.cancellationRequestSent)
  have acknowledged := each (!s.cancellationAcknowledged)
  have undiagnosed := each (s.undiagnosed (tasks.cancel id))
  have news := each (s.news (tasks.get id))
  rw [StepState.unsettled]
  omega

theorem budget_uncertain (phase : s.phase = .routed ∨ s.phase = .unknown) :
    s.budget tasks = 2 + s.taskId.elim 0 (s.unsettled tasks) := by
  rcases phase with phase | phase <;> rw [StepState.budget,phase]

theorem budget_polled (tasks : TaskAnswers) {id : String} (polled : s.polledFor = some id) :
    s.budget tasks = 2 + s.unsettled tasks id := by
  obtain ⟨phase,task⟩ := polledFor_eq_some.mp polled
  rw [budget_uncertain phase,task]
  rfl

theorem budget_uncertain_le (tasks : TaskAnswers) (phase : s.phase = .routed ∨ s.phase = .unknown) :
    s.budget tasks ≤ 8 := by
  rw [budget_uncertain phase]
  cases s.taskId with
  | none => simp
  | some id =>
    have bound := unsettled_le tasks s id
    simp only [Option.elim_some]
    omega

/-- A poll whose diagnostic is that of the answer is at rest. -/
theorem news_error {error : McpError} (unknown : s.phase = .unknown)
    (diagnostic : s.diagnostic = some (RmcpTexts.errorText error)) : s.news (.error error) = false := by
  simp [StepState.news,unknown,diagnostic]

/-- A cancellation says nothing new to a poll. -/
theorem responded_news (agrees : tasks.Agrees) (s : StepState) (id : String) :
    (s.responded (tasks.cancel id)).news (tasks.get id) → s.news (tasks.get id) := by
  cases answer : tasks.cancel id with
  | ok => exact fun news => news
  | error error =>
    cases reply : tasks.get id with
    | ok result => exact fun news => news
    | error error' =>
      have same := agrees id error error' answer reply
      intro news
      by_cases unknown : s.phase = .unknown
      · have rest : (s.responded (.error error)).news (.error error') = false :=
          news_error unknown (congrArg some same)
        rw [rest] at news
        cases news
      · simp [StepState.news,unknown]

theorem responded_undiagnosed (s : StepState) (answer : Except McpError Unit) :
    (s.responded answer).undiagnosed answer = false := by
  cases answer <;> simp [StepState.undiagnosed,StepState.responded]

theorem responded_polled {id : String} {answer : Except McpError Unit}
    (polled : s.polledFor = some id) : (s.responded answer).polledFor = some id := polled

/-- A response that changes a step is paid for. -/
theorem responded_spends (agrees : tasks.Agrees) (id : String)
    (pending : s.cancellationAcknowledged = false) :
    (s.responded (tasks.cancel id)).unsettled tasks id ≤ s.unsettled tasks id ∧
      (s.responded (tasks.cancel id) ≠ s →
        (s.responded (tasks.cancel id)).unsettled tasks id < s.unsettled tasks id) := by
  have news : ((s.responded (tasks.cancel id)).news (tasks.get id)).toNat ≤
      (s.news (tasks.get id)).toNat := Bool.toNat_le_toNat (responded_news agrees s id)
  have diagnosed := responded_undiagnosed s (tasks.cancel id)
  have sent : (s.responded (tasks.cancel id)).cancellationRequestSent = true := rfl
  have intent : (s.responded (tasks.cancel id)).cancellationIntent = s.cancellationIntent := rfl
  have acknowledged : (s.responded (tasks.cancel id)).cancellationAcknowledged =
      (tasks.cancel id).isOk := rfl
  simp only [StepState.unsettled,diagnosed,sent,intent,acknowledged,pending,Bool.not_true,
    Bool.not_false,Bool.toNat_false,Bool.toNat_true]
  have known := Bool.toNat_le (!(tasks.cancel id).isOk)
  refine ⟨by omega,fun changed => ?_⟩
  cases answer : tasks.cancel id with
  | ok =>
    simp only [Except.isOk,Except.toBool,Bool.not_true,Bool.toNat_false]
    rw [answer] at news
    omega
  | error error =>
    rw [answer] at news changed
    have paid : (!s.cancellationRequestSent) = true ∨ s.undiagnosed (.error error) = true := by
      by_contra neither
      obtain ⟨sent,diagnosed⟩ := not_or.mp neither
      apply changed
      obtain ⟨phase,arguments,submission,taskId,terminal,artifact,verification,intended,requested,
        accepted,diagnostic⟩ := s
      simp_all [StepState.responded,StepState.undiagnosed,Except.isOk,Except.toBool]
    simp only [Except.isOk,Except.toBool,Bool.not_false,Bool.toNat_true]
    rcases paid with paid | paid <;> rw [paid] <;> simp only [Bool.toNat_true] <;> omega

/-- A step whose outcome comes to be unknown, so that a poll says nothing new any more. -/
theorem unknown_spends {id : String} (polled : s.polledFor = some id) {terminal : Option Value}
    {diagnostic : Option String} (before : s.news (tasks.get id) = true)
    (after : ({ s with phase := .unknown, terminal := terminal, diagnostic := diagnostic } :
      StepState).news (tasks.get id) = false) :
    ({ s with phase := .unknown, terminal := terminal, diagnostic := diagnostic } :
      StepState).budget tasks < s.budget tasks := by
  have still : ({ s with phase := .unknown, terminal := terminal, diagnostic := diagnostic } :
      StepState).polledFor = some id :=
    polledFor_eq_some.mpr ⟨.inr rfl,(polledFor_eq_some.mp polled).2⟩
  have known := Bool.toNat_le (({ s with
    phase := .unknown
    terminal := terminal
    diagnostic := diagnostic } : StepState).undiagnosed (tasks.cancel id))
  rw [budget_polled tasks polled,budget_polled tasks still,StepState.unsettled,StepState.unsettled,
    before,after]
  simp only [Bool.toNat_false,Bool.toNat_true]
  omega

theorem budget_set (tasks : TaskAnswers) (distinct : Keyed.Distinct state.steps) {id : String}
    (found : state.step? id = some s) (t : StepState) :
    (state.set id t).budget tasks + s.budget tasks = state.budget tasks + t.budget tasks := by
  have sums : ((state.set id t).steps.map fun entry => entry.2.budget tasks).sum + s.budget tasks =
      (state.steps.map fun entry => entry.2.budget tasks).sum + t.budget tasks :=
    Keyed.sum_update (StepState.budget tasks) distinct found
  change (!state.cancelRequested).toNat + (!state.deadlineObserved).toNat + _ + _ = _
  rw [budget]
  omega

theorem skipped_spends (s : StepState) :
    s.skipped.budget tasks ≤ s.budget tasks ∧
      (s.phase = .pending → s.skipped.budget tasks < s.budget tasks) := by
  rw [StepState.skipped]
  split
  · next pending => simp [StepState.budget,pending]
  · next sent => exact ⟨le_rfl,fun pending => (sent pending).elim⟩

theorem skipUnsent_spends (unsent : state.unsent) :
    state.skipUnsent.budget tasks < state.budget tasks := by
  obtain ⟨entry,member,pending⟩ := List.any_eq_true.mp unsent
  have less : ((state.steps.map fun entry => (entry.1,entry.2.skipped)).map fun entry =>
      entry.2.budget tasks).sum < (state.steps.map fun entry => entry.2.budget tasks).sum := by
    rw [List.map_map]
    refine List.sum_lt_sum _ _ (fun entry _ => (skipped_spends entry.2).1) ⟨entry,member,?_⟩
    exact (skipped_spends entry.2).2 (beq_iff_eq.mp pending)
  change (!state.cancelRequested).toNat + (!state.deadlineObserved).toNat + _ < _
  rw [budget]
  exact Nat.add_lt_add_left less _

variable [FloatText] [Sha256] [SerdeJson.Bytes]

/-- An observation that changes a step is paid for. -/
theorem observed_spends {plan : RunPlan} {id : String} (polled : s.polledFor = some id)
    (observed : Observed answered runId plan step s (tasks.get id) t) : t.budget tasks < s.budget tasks := by
  have here := budget_polled tasks polled
  generalize answer : tasks.get id = reply at observed
  cases observed with
  | unanswered new =>
    apply unknown_spends polled
    · rw [answer]
      by_contra stale
      apply new
      simpa [StepState.news] using stale
    · rw [answer]
      exact news_error rfl rfl
  | unreconciled document _ new =>
    apply unknown_spends polled
    · rw [answer]
      by_contra stale
      apply new
      simpa [StepState.news,document] using stale
    · rw [answer]
      simp [StepState.news,document,Value.same_refl]
  | verified =>
    change 1 < _
    omega
  | rejected =>
    change 0 < _
    omega
  | failed =>
    change 0 < _
    omega
  | cancelled =>
    change 0 < _
    omega

/-- Whatever becomes of a step is paid for. -/
theorem StepChange.spends (agrees : tasks.Agrees) (told : tasks.Told answered)
    (change : StepChange answered runId state step s t) : t.budget tasks < s.budget tasks := by
  cases change with
  | refuted phase error => simp [StepState.budget,phase]
  | acknowledged phase response =>
    have bound := budget_uncertain_le tasks (acknowledged_phase s response)
    have here : s.budget tasks = 9 := by rw [StepState.budget,phase]
    omega
  | @intended id polled ending fresh =>
    have intended : ({ s with cancellationIntent := true } : StepState).polledFor = some id := polled
    rw [budget_polled tasks polled,budget_polled tasks intended]
    have news : ({ s with cancellationIntent := true } : StepState).news = s.news := rfl
    have undiagnosed : ({ s with cancellationIntent := true } : StepState).undiagnosed =
      s.undiagnosed := rfl
    simp only [StepState.unsettled,news,undiagnosed,fresh,Bool.not_true,Bool.not_false,
      Bool.toNat_true,Bool.toNat_false]
    omega
  | @responded id answer identity polled pending answered new =>
    obtain rfl := told.cancel _ _ _ answered
    have less := (responded_spends agrees id pending).2 new
    rw [budget_polled tasks polled,budget_polled tasks (responded_polled polled)]
    omega
  | observed polled answered outcome =>
    obtain rfl := told.get _ _ _ answered
    exact observed_spends polled outcome
  | dispatched phase => simp [StepState.budget,phase]

theorem Change.spends (agrees : tasks.Agrees) (told : tasks.Told answered)
    (lawful : Lawful runId state) (change : Change answered runId state next) :
    next.budget tasks < state.budget tasks := by
  cases change with
  | cancelled fresh =>
    simp only [budget,fresh,Bool.not_true,Bool.not_false,Bool.toNat_true,Bool.toNat_false]
    omega
  | expired fresh =>
    simp only [budget,fresh,Bool.not_true,Bool.not_false,Bool.toNat_true,Bool.toNat_false]
    omega
  | @step _ s t _ found change =>
    have less := change.spends agrees told
    have moved := budget_set tasks lawful.distinct found t
    omega
  | skipped _ unsent => exact skipUnsent_spends unsent

omit [SerdeJson.Bytes] in
theorem Unsaved.spends (agrees : tasks.Agrees) (told : tasks.Told answered)
    (lawful : Lawful runId state) (unsaved : Unsaved answered state next) :
    next.budget tasks ≤ state.budget tasks := by
  cases unsaved with
  | @responded step s id identity answer member found polled pending answered =>
    obtain rfl := told.cancel _ _ _ answered
    have less := (responded_spends agrees id pending).1
    have moved := budget_set tasks lawful.distinct found (s.responded (tasks.cancel id))
    rw [budget_polled tasks polled,budget_polled tasks (responded_polled polled)] at moved
    omega

/-- Every save spends. -/
theorem Save.spends (agrees : tasks.Agrees) (told : tasks.Told answered)
    (lawful : Lawful runId state) (save : Save answered runId state next) :
    next.budget tasks < state.budget tasks := by
  obtain ⟨held,unsaved,change⟩ := save
  have kept : held.budget tasks ≤ state.budget tasks := by
    clear change
    induction unsaved with
    | refl => exact le_rfl
    | tail more last ih =>
      exact (last.spends agrees told (held_lawful lawful more).1).trans ih
  have less := change.spends agrees told (held_lawful lawful unsaved).1
  omega

omit [SerdeJson.Bytes] in
/-- What an accepted plan may write. -/
theorem accepted_budget {plan : RunPlan} {acceptedAt : Nat}
    (valid : plan.validate acceptedAt = .ok ()) :
    (RunState.accepted plan acceptedAt).budget tasks = 10 * plan.steps.length + 2 := by
  have sums : ((RunState.accepted plan acceptedAt).steps.map fun entry => entry.2.budget tasks).sum =
      10 * plan.steps.length := by
    have each : (RunState.accepted plan acceptedAt).steps.map (fun entry => entry.2.budget tasks) =
        (RunState.accepted plan acceptedAt).steps.map fun _ => 10 :=
      List.map_congr_left fun entry member => by rw [accepted_new valid member]; rfl
    rw [each,List.map_const',List.sum_replicate_nat,(accepted_steps valid).length_eq,
      List.length_map,Nat.mul_comm]
  rw [budget,sums]
  change 1 + 1 + _ = _
  omega

end RunState

namespace RunSystem

section
variable [SerdeJson] [SerdeJson.Bytes] [Sha256] [RmcpTexts] {tasks : TaskAnswers}

variable {c : RunConfig} {r : RunRecord} {a : RunState} {past trace : List DriverEvent}

omit [SerdeJson] [SerdeJson.Bytes] [Sha256] [RmcpTexts] in
theorem Steady.told (steady : Steady tasks trace) (earlier : past <:+ trace) (r : RunRecord) :
    tasks.Told (since r past) where
  cancel id identity answer := by
    rintro ⟨thread,before,occurs,-⟩
    exact steady.cancel id identity answer ⟨thread,mem_of_occurrence (occurs.trans earlier)⟩
  get id identity reply := by
    rintro ⟨thread,before,occurs,-⟩
    exact steady.get id identity reply ⟨thread,mem_of_occurrence (occurs.trans earlier)⟩

/-- The event wrote a new version of the run. -/
def writes (runId : String) : DriverEvent → Bool
  | ⟨_,.advanceRun ..,.ok record⟩ => record.runId == runId
  | _ => false

omit [SerdeJson] [SerdeJson.Bytes] [Sha256] [RmcpTexts] in
theorem writes_committed {e : DriverEvent} {id : String} (written : writes id e) :
    ∃ r, committed e = some r ∧ r.runId = id := by
  obtain ⟨i,op,reply⟩ := e
  cases op with
  | advanceRun =>
    rcases reply with error | record
    · cases written
    · exact ⟨record,rfl,beq_iff_eq.mp written⟩
  | _ => cases written

/-- A commit begins its run, or writes a version of it. -/
theorem committed_writes {e : DriverEvent} (commits : committed e = some r) (reason : Reason e past) :
    writes r.runId e = false ∧ Begun r past ∨
      writes r.runId e = true ∧ ∃ old data kind, Continued old data kind r past := by
  obtain ⟨i,op,reply⟩ := e
  cases op with
  | beginRun =>
    rcases reply with error | record
    · cases commits
    · cases commits
      exact .inl ⟨rfl,reason.1⟩
  | advanceRun old data kind =>
    rcases reply with error | record
    · cases commits
    · cases commits
      exact .inr ⟨beq_self_eq_true _,old,data,kind,reason⟩
  | _ => cases commits

/-- The versions that were written of a run are paid for. -/
structure Paid (tasks : TaskAnswers) (id : String) (trace : List DriverEvent) : Prop where
  free : runsOf trace id = none → trace.countP (writes id) = 0
  paid : ∀ r, runsOf trace id = some r → ∃ a, Holds r a ∧
    trace.countP (writes id) = r.version ∧
    r.version + a.budget tasks ≤ 10 * a.plan.steps.length + 2

omit [SerdeJson.Bytes] in
/-- Other runs do not matter. -/
theorem Paid.quiet {e : DriverEvent} {id : String} (paid : Paid tasks id past)
    (other : ∀ r, committed e = some r → r.runId ≠ id) : Paid tasks id (e :: past) := by
  have runs : runsOf (e :: past) id = runsOf past id := by
    cases commits : committed e with
    | none => rw [runsOf_quiet commits]
    | some r => rw [runsOf_commits commits,Function.update_of_ne (other r commits).symm]
  have count : (e :: past).countP (writes id) = past.countP (writes id) := by
    apply List.countP_cons_of_neg
    intro written
    obtain ⟨r,commits,same⟩ := writes_committed written
    exact other r commits same
  constructor
  · rw [runs,count]
    exact paid.free
  · rw [runs,count]
    exact paid.paid

theorem Paid.commit {e : DriverEvent} (paid : Paid tasks r.runId past) (agrees : tasks.Agrees)
    (told : ∀ old, tasks.Told (since old past)) (commits : committed e = some r)
    (reason : Reason e past) : Paid tasks r.runId (e :: past) := by
  have current : runsOf (e :: past) r.runId = some r := by
    rw [runsOf_commits commits,Function.update_self]
  constructor
  · rw [current]
    nofun
  · rw [current]
    rintro _ ⟨⟩
    rcases committed_writes commits reason with ⟨unwritten,begun⟩ | ⟨written,old,data,kind,continued⟩
    · rw [List.countP_cons_of_neg (by rw [unwritten]; nofun)]
      cases begun with
      | existing stored => exact paid.paid r stored
      | accepted free version _ plan acceptedAt holds =>
        have valid : plan.validate acceptedAt = .ok () := holds.lawful.accepted
        refine ⟨_,holds,?_,?_⟩
        · rw [paid.free free,version]
        · rw [version,RunState.accepted_budget valid]
          exact (Nat.zero_add _).le
    · obtain ⟨before,after,first,second,saved⟩ := continued.saved
      have stored := continued.stored
      rw [← continued.advanced.continues.runId] at stored
      obtain ⟨state,holds,count,within⟩ := paid.paid old stored
      cases holds.unique first
      have less := saved.spends agrees (told old) first.lawful
      have plan := (saved.lawful first.lawful).2.plan
      have version := continued.advanced.version
      refine ⟨after,second,?_,?_⟩
      · rw [List.countP_cons_of_pos written,count,version]
      · rw [plan,version]
        omega

theorem runsOf_paid (justified : Justified Reason trace) (steady : Steady tasks trace)
    (agrees : tasks.Agrees) (id : String) : Paid tasks id trace := by
  induction trace with
  | nil => exact ⟨fun _ => rfl,nofun⟩
  | cons e past ih =>
    have before : Steady tasks past :=
      ⟨fun id identity answer ⟨thread,member⟩ =>
        steady.cancel id identity answer ⟨thread,List.mem_cons_of_mem _ member⟩,
      fun id identity reply ⟨thread,member⟩ =>
        steady.get id identity reply ⟨thread,List.mem_cons_of_mem _ member⟩⟩
    have paid := ih justified.2 before
    by_cases here : ∃ r, committed e = some r ∧ r.runId = id
    · obtain ⟨r,commits,rfl⟩ := here
      exact paid.commit agrees (before.told List.suffix_rfl) commits justified.1
    · exact paid.quiet fun r commits same => here ⟨r,commits,same⟩

/-- The current version of a run says how many were written, and its plan how many can be. -/
theorem Known.paid (justified : Justified Reason trace) (steady : Steady tasks trace)
    (agrees : tasks.Agrees) (known : Known r trace) (holds : Holds r a) :
    ∃ s, runsOf trace r.runId = some s ∧ Before r s ∧
      trace.countP (writes r.runId) = s.version ∧ s.version ≤ 10 * a.plan.steps.length + 2 ∧
      10 * a.plan.steps.length + 2 < maxRunVersion := by
  obtain ⟨s,current,before⟩ := known.later justified
  obtain ⟨b,last,count,within⟩ := (runsOf_paid justified steady agrees r.runId).paid s current
  obtain ⟨b',last',leads⟩ := before.leads a holds
  cases last.unique last'
  have bounded := (RunPlan.validate_ok holds.lawful.accepted).bounded
  rw [leads.plan] at within
  refine ⟨s,current,before,count,by omega,?_⟩
  rw [maxRunVersion]
  omega

/-- Against a task proxy that answers for one task always the same, and with one text where neither
its cancellation nor its poll succeeds, a run writes so many versions as its plan allows and no
more, however often it is resumed. -/
theorem writes_bounded (reachable : Reachable runSystem c) (steady : Steady tasks c.world.trace)
    (agrees : tasks.Agrees) (known : Known r c.world.trace) (loads : stateFrom r = .ok a) :
    c.world.trace.countP (writes r.runId) ≤ 10 * a.plan.steps.length + 2 ∧
      r.version ≤ 10 * a.plan.steps.length + 2 ∧ 10 * a.plan.steps.length + 2 < maxRunVersion := by
  have history := (run_certified.invariant reachable).history
  obtain ⟨s,-,before,count,within,room⟩ := known.paid history steady agrees (known.read history loads)
  have version := before.continues.version
  exact ⟨by omega,by omega,room⟩

end

section Example
open Reference ExampleRun

theorem obliging_agrees : obliging.Agrees := by
  intro id error error' cancel get
  cases cancel
  rw [obliging] at get
  dsimp only at get
  split at get <;> cases get
  rfl

/-- The run whose step was called for and polled until its task had completed. -/
theorem writes_bounded_example : ∃ c r i identity, Reachable runSystem c ∧ Known r c.world.trace ∧
    stateFrom r = .ok (state verified) ∧ Steady obliging c.world.trace ∧
      (⟨i,.getTask "task-1" identity,.ok completed⟩ : DriverEvent) ∈ c.world.trace ∧
      r.version = 3 ∧ c.world.trace.countP (writes r.runId) ≤ 12 := by
  obtain ⟨c,r,i,reachable,found,identity,asked⟩ := completes
  have known : Known r c.world.trace := .current found.current
  have loads := found.loads reachable (written_step verified_written)
  have bounded := (writes_bounded reachable found.steady obliging_agrees known loads).1
  exact ⟨c,r,i,identity,reachable,known,loads,found.steady,asked,found.number,bounded⟩

end Example

section
variable [SerdeJson] [SerdeJson.Bytes] [Sha256] [RmcpTexts] {tasks : TaskAnswers} {r : RunRecord}

/-- In whatever order drivers go on against such a task proxy: from some point on the run keeps its
version for ever, and that is not the last one. -/
theorem resumes_settle {runs : Nat → RunConfig} (reachable : ∀ n, Reachable runSystem (runs n))
    (goes : ∀ n, (runs n).world.trace <:+ (runs (n + 1)).world.trace)
    (steady : ∀ n, Steady tasks (runs n).world.trace) (agrees : tasks.Agrees)
    (known : Known r (runs 0).world.trace) :
    ∃ N s, s.version < maxRunVersion ∧ ∀ n, N ≤ n →
      runsOf (runs n).world.trace r.runId = some s ∧
        (runs n).world.trace.countP (writes r.runId) = s.version := by
  have history n := (run_certified.invariant (reachable n)).history
  have later {m n : Nat} (order : m ≤ n) : (runs m).world.trace <:+ (runs n).world.trace :=
    Nat.le_induction List.suffix_rfl (fun k _ before => before.trans (goes k)) n order
  obtain ⟨a,-,holds⟩ := known.loads (history 0)
  have paid n := (known.suffix (later n.zero_le)).paid (history n) (steady n) agrees holds
  let left n := 10 * a.plan.steps.length + 2 - (runs n).world.trace.countP (writes r.runId)
  obtain ⟨N,least⟩ : ∃ N, ∀ n, left N ≤ left n :=
    ⟨Function.argmin left,fun n => Function.argmin_le left n⟩
  obtain ⟨s,found,-,count,within,room⟩ := paid N
  refine ⟨N,s,by omega,fun n order => ?_⟩
  obtain ⟨t,found',-,count',within',-⟩ := paid n
  obtain ⟨u,there,before⟩ := runsOf_later (before_carried _) (history n) (later order) found
  rw [found'] at there
  cases there
  have more := before.continues.version
  have same : t.version = s.version := by
    have := least n
    simp only [left,count,count'] at this
    omega
  rw [before.unique same] at found' count'
  exact ⟨found',count'⟩

omit [SerdeJson.Bytes] in
/-- A step that is told why its cancellation failed, and was not told so before, is another one. -/
theorem responded_differs (hash : Function.Injective Sha256.digest) {s : StepState} {error : McpError}
    (other : s.diagnostic ≠ some (RmcpTexts.errorText error)) :
    Sha256Digest.ofJson (toValue (s.responded (.error error))) ≠ Sha256Digest.ofJson (toValue s) := by
  intro same
  have told := canonical_fields (Sha256Digest.ofJson_injective hash _ _ same) (by simp) (by simp)
    "diagnostic"
  simp only [Value.find_cons,String.reduceEq,↓reduceIte,Option.map_some,Option.some.injEq,
    StepState.responded] at told
  cases known : s.diagnostic with
  | none => simp [known,toValue,canonicalJson] at told
  | some text =>
    simp only [known,toValue,canonicalJson_string,Value.string.injEq] at told
    exact other (known.trans (congrArg some told.symm))

end

section Example
open Reference ExampleRun

/-- The run whose task has completed, resumed for ever. -/
theorem resumes_settle_example : ∃ (runs : Nat → RunConfig) (r : RunRecord),
    (∀ n, (runs (n + 1)).world.requests =
      (runs n).world.requests ++ [⟨runArgs "resume",context⟩]) ∧
    Known r (runs 0).world.trace ∧ r.version = 3 ∧
    ∃ N s, s.version < maxRunVersion ∧ ∀ n, N ≤ n →
      runsOf (runs n).world.trace r.runId = some s ∧
        (runs n).world.trace.countP (writes r.runId) = s.version := by
  obtain ⟨runs,r,reached,goes⟩ := checks_on
  have known : Known r (runs 0).world.trace := .current (reached 0).2.current
  exact ⟨runs,r,fun n => (goes n).2,known,(reached 0).2.number,
    resumes_settle (fun n => (reached n).1) (fun n => (goes n).1) (fun n => (reached n).2.steady)
      obliging_agrees known⟩

end Example
end RunSystem

namespace ExampleRun
open Reference RunSystem

variable {i n m : Nat} {w : DriverWorld} {r : RunRecord} {s : StepState} {c : RunConfig}

def refusal : McpError := .internalError "GM_TASK_SOURCE_SNAPSHOT_CHANGED"

def failure : McpError := .internalError "GM_TASK_STALE_TRANSITION"

/-- A task proxy that can neither cancel nor read the task, and says why. -/
def disagreeing : TaskAnswers := ⟨fun _ => .error refusal,fun _ => .error failure⟩

/-- The step with its task, in what becomes of it when the run was cancelled. -/
noncomputable def accounted (phase : StepPhase) (intent sent : Bool) (diagnostic : Option String) :
    StepState :=
  { routed with
    phase := phase
    cancellationIntent := intent
    cancellationRequestSent := sent
    diagnostic := diagnostic }

noncomputable def stuck : StepState := accounted .unknown true true (some (errorText failure))

noncomputable def halted (s : StepState) : RunState := { state s with cancelRequested := true }

variable {phase : StepPhase} {intent requested : Bool} {diagnostic : Option String}

theorem accounted_written : (accounted phase intent requested diagnostic).Written :=
  ⟨nofun,nofun,nofun,nofun⟩

theorem halted_written (written : s.Written) : ∀ entry ∈ (halted s).steps, entry.2.Written :=
  written_step written

theorem halted_shallow (shallow : (toValue s).depth ≤ 20) :
    (toValue (halted s)).depth ≤ SerdeJson.recursionLimit := by
  have planned : (toValue plan).depth ≤ 20 := by decide
  change (Value.object [("acceptedAtUnixMs",.number (.posInt 1000)),("cancelRequested",.bool true),
    ("deadlineObserved",.bool false),("plan",toValue plan),("steps",.object [("only",toValue s)])]).depth ≤ 127
  simp only [Value.depth,Value.depthEntries]
  omega

theorem halted_small (small : size (toValue s).text ≤ 1000000) :
    (toValue (halted s)).byteLength ≤ maxRunDocumentBytes :=
  (cancelled_small (a := state s) rfl).trans (state_small small)

theorem accounted_shallow : (toValue (accounted phase intent requested diagnostic)).depth ≤ 20 := by
  have given : (Value.object arguments).depth ≤ 5 := by decide
  have told : (toValue diagnostic).depth ≤ 0 := by cases diagnostic <;> exact le_rfl
  have named : (toValue phase).depth ≤ 0 := by cases phase <;> exact le_rfl
  have submits : submission.depth ≤ 10 := by decide
  change (Value.object [("arguments",.object arguments),("cancellationAcknowledged",.bool false),
    ("cancellationIntent",.bool intent),("cancellationRequestSent",.bool requested),
    ("diagnostic",toValue diagnostic),("phase",toValue phase),("submission",submission),
    ("taskId",.string "task-1"),("terminal",.null),("verification",.null),
    ("verifiedArtifact",.null)]).depth ≤ 20
  simp only [Value.depth,Value.depthEntries] at given ⊢
  omega

theorem accounted_small (short : size (toValue diagnostic).text ≤ 300) :
    size (toValue (accounted phase intent requested diagnostic)).text ≤ 1000000 := by
  have given : size (Value.object arguments).text ≤ 30 := by decide
  have flag (b : Bool) : size (toValue b).text ≤ 5 := by cases b <;> decide
  refine step_small (accounted phase intent requested diagnostic)
    [30,5,5,5,300,62,11000,62,5,5,5] (by decide) ?_
  exact .cons given (.cons size_false (.cons (flag intent)
    (.cons (flag requested) (.cons short (.cons (size_phase _)
      (.cons size_submission (.cons (size_literal 10 rfl (by decide))
        (.cons size_null (.cons size_null (.cons size_null .nil))))))))))

theorem halted_step (s : StepState) : (halted s).step? step.id = some s := rfl

/-- The intent to cancel is there, or it is saved. -/
def Intends (i : Nat) (s t : StepState) (n m : Nat) (r : RunRecord) : Prop :=
  ∀ w, Live runSystem w → Found disagreeing w (halted s) n r →
    Can runSystem i (if s.cancellationIntent then pure ⟨r,halted s⟩
      else RunDriver.saveStep ⟨r,halted s⟩ step { s with cancellationIntent := true }
        "task_cancellation_intent") w fun next w' =>
          next.state = halted t ∧ Found disagreeing w' (halted t) m next.record

theorem cancelStep_refused
    (here : Found disagreeing w (halted (accounted phase intent requested diagnostic)) n r)
    (intends : Intends i (accounted phase intent requested diagnostic)
      (accounted phase true requested diagnostic) n m r)
    (other : diagnostic ≠ some (errorText refusal)) (room : m < maxRunVersion) :
    Can runSystem i (RunDriver.cancelStep context
        ⟨r,halted (accounted phase intent requested diagnostic)⟩ step "task-1") w fun next w' =>
      next.state = halted (accounted phase true true (some (errorText refusal))) ∧
        Found disagreeing w' (halted (accounted phase true true (some (errorText refusal)))) (m + 1)
          next.record := by
  rw [RunDriver.cancelStep]
  refine Can.bind (stepOf_can (halted_step _)) fun s w1 first => Can.live fun live1 => ?_
  obtain ⟨rfl,first⟩ := first
  refine Can.thenBranch ⟨rfl,Bool.false_ne_true⟩ ?_
  refine Can.join (intends w1 live1 (here.unchanged first)) fun intended w2 second => ?_
  obtain ⟨record,state⟩ := intended
  obtain ⟨rfl,second⟩ := second
  refine Can.bind second.cancels fun answer w3 third => ?_
  obtain ⟨rfl,third⟩ := third
  refine Can.bind (stepOf_can (halted_step _)) fun s w4 fourth => Can.live fun live4 => ?_
  obtain ⟨rfl,fourth⟩ := fourth
  have differs : Sha256Digest.ofJson (toValue ((accounted phase true requested diagnostic).responded
      (.error refusal))) ≠ Sha256Digest.ofJson (toValue (accounted phase true requested diagnostic)) :=
    responded_differs Function.injective_id other
  have told : size (toValue (some (errorText refusal))).text ≤ 300 := by decide
  refine Can.thenBranch differs ?_
  exact (third.unchanged fourth).saves live4 (halted_written accounted_written) rfl room
    (halted_shallow accounted_shallow) (by decide) (halted_small (accounted_small told))

theorem pollStep_stuck
    (here : Found disagreeing w (halted (accounted phase intent requested diagnostic)) n r)
    (intends : Intends i (accounted phase intent requested diagnostic)
      (accounted phase true requested diagnostic) n m r)
    (going : phase = .routed ∨ phase = .unknown) (other : diagnostic ≠ some (errorText refusal))
    (room : m + 1 < maxRunVersion) :
    Can runSystem i (RunDriver.pollStep context
        ⟨r,halted (accounted phase intent requested diagnostic)⟩ step) w fun polled w' =>
      polled.2 = true ∧ polled.1.state = halted stuck ∧
        Found disagreeing w' (halted stuck) (m + 2) polled.1.record := by
  have polled : (accounted phase intent requested diagnostic).polledFor = some "task-1" := if_pos going
  rw [RunDriver.pollStep]
  refine Can.bind (stepOf_can (halted_step _)) fun s w1 first => ?_
  obtain ⟨rfl,first⟩ := first
  rw [polled]
  refine Can.bind (cancelStep_refused (here.unchanged first) intends other (by omega))
    fun cancelled w2 second => ?_
  obtain ⟨record,state⟩ := cancelled
  obtain ⟨rfl,second⟩ := second
  refine Can.bind second.gets fun reply w3 third => ?_
  obtain ⟨rfl,third⟩ := third
  refine Can.bind (stepOf_can (halted_step _)) fun s w4 fourth => Can.live fun live4 => ?_
  obtain ⟨rfl,fourth⟩ := fourth
  have told : ¬(phase = .unknown ∧ some (errorText refusal) = some (errorText failure)) :=
    fun both => by simp [errorText,refusal,failure] at both
  have observed : Can runSystem i (RunDriver.observe
      ⟨record,halted (accounted phase true true (some (errorText refusal)))⟩ step
      (accounted phase true true (some (errorText refusal))) (disagreeing.get "task-1")) w4
      fun v w' => v = some stuck ∧ Unchanged w4 w' :=
    Can.elseBranch told (Can.value ⟨rfl,.refl w4⟩)
  refine Can.bind observed fun v w5 fifth => Can.live fun live5 => ?_
  obtain ⟨rfl,fifth⟩ := fifth
  have short : size (toValue (some (errorText failure))).text ≤ 300 := by decide
  have saves : Can runSystem i (RunDriver.saveStep
      ⟨record,halted (accounted phase true true (some (errorText refusal)))⟩ step stuck
      "task_outcome_observed") w5 fun next w' =>
        next.state = halted stuck ∧ Found disagreeing w' (halted stuck) (m + 2) next.record :=
    ((third.unchanged fourth).unchanged fifth).saves live5 (halted_written accounted_written) rfl room
      (halted_shallow accounted_shallow) (by decide) (halted_small (accounted_small short))
  refine Can.bind saves fun next w6 saved => ?_
  exact Can.value ⟨rfl,saved⟩

/-- A sweep over the cancelled run saves why its step cannot be cancelled, and then why it cannot be
read. -/
theorem drive_stuck (live : Live runSystem w)
    (here : Found disagreeing w (halted (accounted phase intent requested diagnostic)) n r)
    (intends : Intends i (accounted phase intent requested diagnostic)
      (accounted phase true requested diagnostic) n m r)
    (going : phase = .routed ∨ phase = .unknown) (other : diagnostic ≠ some (errorText refusal))
    (room : m + 1 < maxRunVersion) :
    Can runSystem i (RunDriver.drive r (runArgs "resume") context) w fun _ w' =>
      ∃ next, Found disagreeing w' (halted stuck) (m + 2) next := by
  have loads := (here.holds live (halted_written accounted_written)).loads (live_inv live).history
    (.current here.current)
  have read : Can runSystem i (Fallible.ofExcept (stateFrom r) : Driver RunState) w
      fun b w' => b = halted (accounted phase intent requested diagnostic) ∧ w' = w :=
    Can.ofExcept loads ⟨rfl,rfl⟩
  have free {kind : StepState → Prop}
      (other : ¬kind (accounted phase intent requested diagnostic)) :
      Free (halted (accounted phase intent requested diagnostic)) [step] kind := by
    intro only member
    rw [List.mem_singleton.mp member]
    exact ⟨_,rfl,other⟩
  have unverified : phase ≠ .verified := by
    rintro rfl
    rcases going with other | other <;> cases other
  have unsubmitted : phase ≠ .submitting := by
    rintro rfl
    rcases going with other | other <;> cases other
  rw [RunDriver.drive]
  refine Can.bind read fun b w' read => ?_
  obtain ⟨rfl,rfl⟩ := read
  refine Can.elseBranch (fun fresh => fresh rfl) ?_
  have early : 2000 < plan.deadlineUnixMs := by decide
  refine Can.bind (observeDeadline_can early) fun dated w2 second => ?_
  obtain ⟨rfl,second⟩ := second
  refine Can.bind (reverify_can (free unverified)) fun verified w3 third => ?_
  obtain ⟨rfl,third⟩ := third
  refine Can.bind (recover_can (free unsubmitted)) fun recovered w4 fourth => ?_
  obtain ⟨rfl,fourth⟩ := fourth
  have till4 := second.trans (third.trans fourth)
  have polls : Can runSystem i (RunDriver.poll context [step]
      ⟨r,halted (accounted phase intent requested diagnostic)⟩) w4 fun polled w' =>
        polled.1.state = halted stuck ∧
          Found disagreeing w' (halted stuck) (m + 2) polled.1.record := by
    rw [RunDriver.poll]
    refine Can.bind (pollStep_stuck (here.unchanged till4) intends going other room)
      fun polled w5 done => ?_
    exact Can.value done.2
  refine Can.bind polls fun polled w5 done => Can.live fun live5 => ?_
  obtain ⟨⟨record,saved⟩,observed⟩ := polled
  obtain ⟨rfl,done⟩ := done
  have stops : (halted stuck).stopped = true := rfl
  have sent : ¬(halted stuck).unsent := by decide
  refine Can.thenBranch stops (Can.elseBranch sent ?_)
  obtain ⟨value,described⟩ := summary_can live5 (.current done.current)
    (done.holds live5 (halted_written accounted_written))
  exact Can.ofExcept described ⟨_,done⟩

/-- A resume of the cancelled run. -/
theorem resumes_stuck (reachable : Reachable runSystem c)
    (here : Found disagreeing c.world (halted (accounted phase intent requested diagnostic)) n r)
    (intends : ∀ i, Intends i (accounted phase intent requested diagnostic)
      (accounted phase true requested diagnostic) n m r)
    (going : phase = .routed ∨ phase = .unknown) (other : diagnostic ≠ some (errorText refusal))
    (room : m + 1 < maxRunVersion) :
    ∃ d next, Reachable runSystem d ∧ Found disagreeing d.world (halted stuck) (m + 2) next ∧
      d.world.requests = c.world.requests ++ [⟨runArgs "resume",context⟩] := by
  obtain ⟨d,-,there,-,requests,next,found⟩ := resumes reachable here (halted_shallow accounted_shallow)
    fun w live here => drive_stuck live here (intends _) going other room
  exact ⟨d,next,there,found,requests⟩

/-- The run after it was cancelled with its task under way. -/
theorem halts : ∃ c r, Reachable runSystem c ∧ Found disagreeing c.world (halted routed) 3 r ∧
    c.world.requests = [⟨submitArgs plan,context⟩,⟨runArgs "resume",context⟩,⟨runArgs "cancel",context⟩] := by
  obtain ⟨c,r,_,reachable,sends,requests⟩ := sent disagreeing
  have found := sends.found
  have body : runSystem.body ⟨runArgs "cancel",context⟩ =
      (RunDriver.call (runArgs "cancel") context).run := rfl
  have readable : r.data.depth ≤ SerdeJson.recursionLimit := by
    rw [found.data]
    exact state_shallow routed_shallow
  have room : r.version < maxRunVersion := by
    rw [found.number]
    decide
  have cancels : Can runSystem c.threads.length (RunDriver.call (runArgs "cancel") context)
      (c.world.started ⟨runArgs "cancel",context⟩) fun _ w' =>
        ∃ next, Found disagreeing w' (halted routed) 3 next := by
    refine cancelCall_reaches found.current found.caller readable local_context rfl rfl (by decide)
      fun w1 live unchanged => ?_
    have first : Found disagreeing w1 (state routed) 2 r :=
      found.unchanged ⟨unchanged.state,unchanged.runs,unchanged.past,unchanged.untasked⟩
    have current : runsOf w1.trace r.runId = some r := by
      rw [first.runId]
      exact first.current
    refine (cancelRun_saves live current (first.holds live (written_step routed_written)) room readable
      rfl).mono fun _ w2 _ saved => ?_
    obtain ⟨next,advances,-⟩ := saved
    exact ⟨next.record,first.next first.steady advances⟩
  obtain ⟨value,w',there,requests',-,next,halted⟩ := Can.served body cancels reachable
  refine ⟨_,next,there,halted,?_⟩
  rw [requests',requests]
  rfl

/-- However often the cancelled run is resumed, it has changed again. -/
theorem alternates (k : Nat) (room : 2 * k + 6 ≤ maxRunVersion) :
    ∃ c r, Reachable runSystem c ∧ Found disagreeing c.world (halted stuck) (2 * k + 6) r ∧
      c.world.requests = [⟨submitArgs plan,context⟩,⟨runArgs "resume",context⟩,⟨runArgs "cancel",context⟩] ++
        List.replicate (k + 1) ⟨runArgs "resume",context⟩ := by
  induction k with
  | zero =>
    obtain ⟨c,r,reachable,found,requests⟩ := halts
    have intends (i : Nat) : Intends i (accounted .routed false false none)
        (accounted .routed true false none) 3 4 r := fun w live here =>
      Can.elseBranch Bool.false_ne_true (here.saves live (halted_written accounted_written) rfl
        (by decide) (halted_shallow accounted_shallow) (by decide)
        (halted_small (accounted_small (by decide))))
    obtain ⟨d,next,there,found',requests'⟩ :=
      resumes_stuck reachable found intends (.inl rfl) nofun (by decide)
    refine ⟨d,next,there,found',?_⟩
    rw [requests',requests]
    rfl
  | succ k ih =>
    obtain ⟨c,r,reachable,found,requests⟩ := ih (by omega)
    have intends (i : Nat) : Intends i stuck stuck (2 * k + 6) (2 * k + 6) r := fun w live here =>
      Can.thenBranch rfl (Can.value ⟨rfl,here⟩)
    have other : some (errorText failure) ≠ some (errorText refusal) := by
      simp [errorText,refusal,failure]
    obtain ⟨d,next,there,found',requests'⟩ :=
      resumes_stuck reachable found intends (.inr rfl) other (by omega)
    refine ⟨d,next,there,found',?_⟩
    rw [requests',requests,List.append_assoc,← List.replicate_succ']

/-- The cancelled run uses up its journal. -/
theorem journal_exhausted : ∃ c r, Reachable runSystem c ∧ Steady disagreeing c.world.trace ∧
    Known r c.world.trace ∧ stateFrom r = .ok (halted stuck) ∧ r.version = maxRunVersion ∧
      c.world.requests = [⟨submitArgs plan,context⟩,⟨runArgs "resume",context⟩,⟨runArgs "cancel",context⟩] ++
        List.replicate 254 ⟨runArgs "resume",context⟩ := by
  obtain ⟨c,r,reachable,found,requests⟩ := alternates 253 (by decide)
  exact ⟨c,r,reachable,found.steady,.current found.current,
    found.loads reachable (halted_written accounted_written),found.number,requests⟩

end ExampleRun
end GaugeMesh
