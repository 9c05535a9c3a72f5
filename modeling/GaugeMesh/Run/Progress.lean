import GaugeMesh.Interleaving.Possible
import GaugeMesh.Json.Room
import GaugeMesh.Run.Certificate
import GaugeMesh.Run.Exact

/-! What a driver can do from every state that is reached, where the others leave it alone. -/
namespace GaugeMesh
open Json Interleaving

/-- What the task proxy answers for a task. -/
structure TaskAnswers where
  cancel : String → Except McpError Unit
  get : String → Except McpError GetTaskResult

/-- Whatever was answered for a task, is its answer. -/
structure TaskAnswers.Told (tasks : TaskAnswers) (answered : RunAnswers) : Prop where
  cancel : ∀ id identity answer, answered (.cancelTask id identity) answer → answer = tasks.cancel id
  get : ∀ id identity reply, answered (.getTask id identity) reply → reply = tasks.get id

namespace RunSystem

/-- For one task the task proxy has always answered the same. -/
def Steady (tasks : TaskAnswers) (trace : List DriverEvent) : Prop :=
  tasks.Told fun op reply => ∃ thread, (⟨thread,op,reply⟩ : DriverEvent) ∈ trace

/-- The operation is about a task that is there. -/
def asksTask : RunOp → Bool
  | .cancelTask .. | .getTask .. => true
  | _ => false

/-- No task was asked about in between. -/
def Untasked (past trace : List DriverEvent) : Prop :=
  ∀ e ∈ trace, e ∈ past ∨ asksTask e.op = false

theorem Untasked.trans {first second third : List DriverEvent} (before : Untasked first second)
    (after : Untasked second third) : Untasked first third :=
  fun e member => (after e member).elim (before e) .inr

theorem Untasked.cons {e : DriverEvent} (other : asksTask e.op = false) (past : List DriverEvent) :
    Untasked past (e :: past) := by
  intro f member
  rcases List.mem_cons.mp member with rfl | old
  · exact .inr other
  · exact .inl old

theorem Steady.untasked {tasks : TaskAnswers} {past trace : List DriverEvent}
    (steady : Steady tasks past) (untasked : Untasked past trace) : Steady tasks trace where
  cancel id identity answer := by
    rintro ⟨thread,happened⟩
    rcases untasked _ happened with old | other
    · exact steady.cancel id identity answer ⟨thread,old⟩
    · cases other
  get id identity reply := by
    rintro ⟨thread,happened⟩
    rcases untasked _ happened with old | other
    · exact steady.get id identity reply ⟨thread,old⟩
    · cases other

theorem Steady.cons {tasks : TaskAnswers} {past : List DriverEvent} {e : DriverEvent}
    (steady : Steady tasks past) (told : tasks.Told fun op reply => ∃ thread, e = ⟨thread,op,reply⟩) :
    Steady tasks (e :: past) where
  cancel id identity answer := by
    rintro ⟨thread,happened⟩
    rcases List.mem_cons.mp happened with rfl | old
    · exact told.cancel id identity answer ⟨thread,rfl⟩
    · exact steady.cancel id identity answer ⟨thread,old⟩
  get id identity reply := by
    rintro ⟨thread,happened⟩
    rcases List.mem_cons.mp happened with rfl | old
    · exact told.get id identity reply ⟨thread,rfl⟩
    · exact steady.get id identity reply ⟨thread,old⟩

variable [SerdeJson] [SerdeJson.Bytes] [Sha256] [RmcpTexts]

abbrev RunConfig := Config RunTable RunOp RunOp.Ret RunRequest (Except RunFailure Value)

variable {i : Nat} {w w' : DriverWorld} {c : RunConfig} {r : RunRecord} {a b : RunState}
  {plan : RunPlan} {lease : CapabilityLease} {context : RunContext} {args : JsonObject} {now : Nat}
  {step : RunStep} {driving : Driving} {kind : String}

theorem live_inv (live : Live runSystem w) : Inv w := by
  obtain ⟨threads,reachable⟩ := live
  exact run_certified.invariant reachable

theorem Known.loads {trace : List DriverEvent} (inv : Justified Reason trace) (known : Known r trace) :
    ∃ a, stateFrom r = .ok a ∧ Holds r a := by
  obtain ⟨integrity,a,holds⟩ := known.holds inv
  exact ⟨a,stateFrom_lawful holds.lawful integrity holds.data,holds⟩

theorem Holds.loads {trace : List DriverEvent} (holds : Holds r a) (justified : Justified Reason trace)
    (known : Known r trace) : stateFrom r = .ok a :=
  stateFrom_lawful holds.lawful (known.holds justified).1 holds.data

/-- A record that was written for a state holds it. -/
theorem Known.written {trace : List DriverEvent} (justified : Justified Reason trace)
    (known : Known r trace) (data : r.data = toValue a)
    (written : ∀ entry ∈ a.steps, entry.2.Written) : Holds r a := by
  obtain ⟨b,-,holds⟩ := known.loads justified
  have there := RunState.decode_encode holds.lawful.written
  rw [show b.encode = a.encode from holds.data.symm.trans data,RunState.decode_encode written] at there
  cases there
  exact holds

/-- Nothing is committed in between, and no task is asked about. -/
structure Unchanged (w w' : DriverWorld) : Prop where
  state : w'.state = w.state
  runs : runsOf w'.trace = runsOf w.trace
  past : w.trace <:+ w'.trace
  untasked : Untasked w.trace w'.trace

omit [SerdeJson] [SerdeJson.Bytes] [Sha256] [RmcpTexts] in
theorem Unchanged.refl (w : DriverWorld) : Unchanged w w :=
  ⟨rfl,rfl,List.suffix_rfl,fun _ member => .inl member⟩

omit [SerdeJson] [SerdeJson.Bytes] [Sha256] [RmcpTexts] in
theorem Unchanged.trans {w'' : DriverWorld} (first : Unchanged w w') (second : Unchanged w' w'') :
    Unchanged w w'' :=
  ⟨second.state.trans first.state,second.runs.trans first.runs,first.past.trans second.past,
    first.untasked.trans second.untasked⟩

omit [SerdeJson] [SerdeJson.Bytes] [Sha256] [RmcpTexts] in
theorem Unchanged.after {op : RunOp} {reply : op.Ret} (quiet : committed ⟨i,op,reply⟩ = none)
    (other : asksTask op = false) : Unchanged w (w.after i op reply w.state) :=
  ⟨rfl,runsOf_quiet quiet _,List.suffix_cons _ _,.cons other _⟩

theorem ask_can (op : RunOp) (reply : op.Ret) (acted : act op w.state reply w.state)
    (quiet : committed ⟨i,op,reply⟩ = none) (other : asksTask op = false) :
    Can runSystem i (RunDriver.ask op : Fallible RunOp RunOp.Ret ε op.Ret) w
      fun v w' => v = reply ∧ Unchanged w w' :=
  Can.perform reply w.state acted ⟨rfl,.after quiet other⟩

theorem required_can {value : Option α} {v : α} {error : ε} (known : value = some v) :
    Can runSystem i (RunDriver.required value error : Fallible RunOp RunOp.Ret ε α) w
      fun u w' => u = v ∧ Unchanged w w' :=
  Can.ofExcept ((okOr_ok _ _ _).mpr known) ⟨rfl,.refl w⟩

theorem demand_can {condition : Prop} [Decidable condition] {error : ε} (holds : condition) :
    Can runSystem i (RunDriver.demand condition error : Fallible RunOp RunOp.Ret ε Unit) w
      fun _ => Unchanged w :=
  Can.ofExcept ((ensure_ok _ _).mpr holds) (.refl w)

theorem checked_can {result : Except String α} {v : α} (known : result = .ok v) :
    Can runSystem i (RunDriver.checked result) w fun u w' => u = v ∧ Unchanged w w' :=
  Can.ofExcept (mapError_ok.mpr known) ⟨rfl,.refl w⟩

theorem stored_can {result : Except RunError α} {v : α} (known : result = .ok v) :
    Can runSystem i (RunDriver.stored result) w fun u w' => u = v ∧ Unchanged w w' :=
  Can.ofExcept (mapError_ok.mpr known) ⟨rfl,.refl w⟩

theorem nowUnixMs_can (now : Nat) :
    Can runSystem i RunDriver.nowUnixMs w fun v w' => v = now ∧ Unchanged w w' := by
  rw [RunDriver.nowUnixMs]
  refine Can.bind (ask_can .now (some now) rfl rfl rfl) fun v w' asked => ?_
  refine (required_can asked.1).mono fun u w'' _ answered => ?_
  exact ⟨answered.1,asked.2.trans answered.2⟩

/-- The lease lets the step go to the tool that it is bound to. -/
structure Grants (plan : RunPlan) (lease : CapabilityLease) (context : RunContext) (now : Nat)
    (step : RunStep) (tool : FederatedTool) (sample : Entries Value) : Prop where
  found : context.federation.tool step.aliasName = some tool
  bound : tool.identity.digest = step.capabilityId ∧
    tool.identity.schemaDigest.toString = step.providerInterfaceVersion ∧
    context.sourceSupported tool.identity.source
  sampled : sampleArguments plan step = .ok sample
  small : (Value.object sample).byteLength ≤ 8192
  input : Inputs.validateInput tool.inputSchema (.object sample) 0 = .ok ()
  authority : authorizeCurrentInvocation lease context.identity tool.identity step.permittedEffect
    now = .ok ()

theorem authorizeStep_can {tool : FederatedTool} {sample : Entries Value}
    (grants : Grants plan lease context now step tool sample) :
    Can runSystem i (RunDriver.authorizeStep plan lease context step) w fun _ => Unchanged w := by
  rw [RunDriver.authorizeStep]
  refine Can.bind (required_can grants.found) fun _ w1 first => ?_
  obtain ⟨rfl,first⟩ := first
  refine Can.bind (demand_can grants.bound) fun _ w2 second => ?_
  refine Can.bind (checked_can grants.sampled) fun _ w3 third => ?_
  obtain ⟨rfl,third⟩ := third
  refine Can.bind (demand_can grants.small) fun _ w4 fourth => ?_
  refine Can.bind (checked_can grants.input) fun _ w5 fifth => ?_
  refine Can.bind (nowUnixMs_can now) fun _ w6 sixth => ?_
  obtain ⟨rfl,sixth⟩ := sixth
  refine (checked_can grants.authority).mono fun _ w7 _ last => ?_
  exact first.trans (second.trans (third.trans (fourth.trans (fifth.2.trans (sixth.trans last.2)))))

theorem authorizeSteps_can {steps : List RunStep}
    (grants : ∀ step ∈ steps, ∃ tool sample, Grants plan lease context now step tool sample) :
    Can runSystem i (RunDriver.authorizeSteps plan lease context steps) w fun _ => Unchanged w := by
  induction steps generalizing w with
  | nil => exact Can.value (.refl w)
  | cons step rest ih =>
    obtain ⟨⟨tool,sample,head⟩,tail⟩ := List.forall_mem_cons.mp grants
    rw [RunDriver.authorizeSteps]
    refine Can.bind (authorizeStep_can head) fun _ w' first => ?_
    exact (ih tail).mono fun _ _ _ second => first.trans second

/-- The lease that the call names lets every step of the plan go to its tool. -/
structure Authorizes (plan : RunPlan) (args : JsonObject) (context : RunContext) (now : Nat)
    (leaseId : String) (lease : CapabilityLease) : Prop where
  named : (Value.find "leaseId" args).bind Value.asStr = some leaseId
  grants : ∀ step ∈ plan.steps, ∃ tool sample, Grants plan lease context now step tool sample

theorem authorizePlan_can {leaseId : String} (authorizes : Authorizes plan args context now leaseId lease) :
    Can runSystem i (RunDriver.authorizePlan plan args context) w fun _ => Unchanged w := by
  rw [RunDriver.authorizePlan]
  refine Can.bind (required_can authorizes.named) fun named w1 first => ?_
  obtain ⟨rfl,first⟩ := first
  refine Can.bind (ask_can (.getLease named) (some (some lease)) rfl rfl rfl)
    fun _ w2 second => ?_
  obtain ⟨rfl,second⟩ := second
  refine Can.bind (required_can rfl) fun _ w3 third => ?_
  obtain ⟨rfl,third⟩ := third
  refine Can.bind (required_can rfl) fun _ w4 fourth => ?_
  obtain ⟨rfl,fourth⟩ := fourth
  refine (authorizeSteps_can authorizes.grants).mono fun _ w5 _ last => ?_
  exact first.trans (second.trans (third.trans (fourth.trans last)))

theorem readRun_can {caller : TaskRouteCaller} {id : String} (live : Live runSystem w)
    (current : runsOf w.trace id = some r) (owner : r.caller = caller)
    (shallow : r.data.depth ≤ SerdeJson.recursionLimit) :
    Can runSystem i (RunDriver.readRun caller id) w fun v w' => v = r ∧ Unchanged w w' := by
  have read : w.state.getRun caller id = .ok (some r) :=
    (live_inv live).represents.load_iff.mpr ⟨current,owner,shallow⟩
  rw [RunDriver.readRun]
  refine Can.bind (ask_can (.getRun caller id) (.ok (some r)) ?_ rfl rfl)
    fun _ w1 first => ?_
  · exact .inl ⟨read.symm,rfl⟩
  obtain ⟨rfl,first⟩ := first
  refine Can.bind (stored_can rfl) fun _ w2 second => ?_
  obtain ⟨rfl,second⟩ := second
  refine (required_can rfl).mono fun _ w3 _ third => ?_
  exact ⟨third.1,first.trans (second.trans third.2)⟩

/-- The state is the next version of the run. -/
structure Advances (driving : Driving) (state : RunState) (next : Driving) (w w' : DriverWorld) : Prop where
  same : next.state = state
  data : next.record.data = toValue state
  continues : next.record.runId = driving.record.runId ∧ next.record.caller = driving.record.caller ∧
    next.record.version = driving.record.version + 1
  runs : runsOf w'.trace = Function.update (runsOf w.trace) next.record.runId (some next.record)
  saved : ∃ e past, e :: past <:+ w'.trace ∧ committed e = some next.record ∧
    runsOf past = runsOf w.trace
  past : w.trace <:+ w'.trace
  untasked : Untasked w.trace w'.trace

omit [SerdeJson] [SerdeJson.Bytes] [Sha256] [RmcpTexts] in
theorem Unchanged.advances {state : RunState} {next : Driving} {w'' : DriverWorld}
    (unchanged : Unchanged w w') (advances : Advances driving state next w' w'') :
    Advances driving state next w w'' where
  same := advances.same
  data := advances.data
  continues := advances.continues
  runs := by rw [advances.runs,unchanged.runs]
  saved := by
    obtain ⟨e,past,occurs,commits,runs⟩ := advances.saved
    exact ⟨e,past,occurs,commits,runs.trans unchanged.runs⟩
  past := unchanged.past.trans advances.past
  untasked := unchanged.untasked.trans advances.untasked

/-- A state that keeps the plan can be saved over the current version of the run. -/
theorem save_can {before state : RunState} (live : Live runSystem w)
    (current : runsOf w.trace driving.record.runId = some driving.record)
    (holds : Holds driving.record before) (plan : state.plan = before.plan)
    (room : driving.record.version < maxRunVersion)
    (shallow : driving.record.data.depth ≤ SerdeJson.recursionLimit)
    (named : kind.utf8ByteSize ≤ maxRunEventKindBytes)
    (small : (toValue state).byteLength ≤ maxRunDocumentBytes) :
    Can runSystem i (RunDriver.save driving state kind) w fun next => Advances driving state next w := by
  have represents := (live_inv live).represents
  have integrity := represents.verified _ _ current
  have verified := RunRecord.verifyIntegrity_ok integrity
  have get : (toValue state).get "plan" = driving.record.data.get "plan" := by
    rw [holds.data]
    change some (toValue state.plan) = some (toValue before.plan)
    rw [plan]
  have index : (toValue state).index "plan" = driving.record.data.index "plan" := by
    rw [holds.data]
    change toValue state.plan = toValue before.plan
    rw [plan]
  obtain ⟨next,made⟩ := RunRecord.append_next integrity room
    (get ▸ verified.plan) (index ▸ verified.key) named small
  have same : RunTable.samePlan ((toValue state).get "plan") (driving.record.data.get "plan") = true := by
    rw [get,holds.data]
    exact Value.same_refl _
  obtain ⟨after,ran⟩ := represents.advance_accepts current rfl rfl shallow same made
  obtain ⟨shape,-⟩ := RunRecord.append_ok.mp made
  let op := RunOp.advanceRun driving.record (toValue state) kind
  have saved : Can runSystem i (RunDriver.ask op : Driver op.Ret) w fun v w' =>
      v = .ok next ∧ w'.trace = (⟨i,op,.ok next⟩ : DriverEvent) :: w.trace := by
    refine Can.perform (.ok next) after (.inl ?_) ⟨rfl,rfl⟩
    rw [ran]
    exact ⟨rfl,rfl⟩
  rw [RunDriver.save]
  refine Can.bind saved fun _ w1 first => ?_
  obtain ⟨rfl,first⟩ := first
  refine Can.bind (stored_can rfl) fun _ w2 second => ?_
  obtain ⟨rfl,second⟩ := second
  have happened := second.past
  rw [first] at happened
  refine Can.value ⟨rfl,?_,?_,?_,⟨_,_,happened,rfl,rfl⟩,(List.suffix_cons _ _).trans happened,?_⟩
  · rw [shape]
  · rw [shape]
    exact ⟨rfl,rfl,rfl⟩
  · rw [second.runs,first]
    exact runsOf_commits rfl _
  · refine Untasked.trans ?_ second.untasked
    rw [first]
    exact .cons rfl _

omit [SerdeJson] [SerdeJson.Bytes] [Sha256] [RmcpTexts] in
/-- The new version is the current one. -/
theorem Advances.current {state : RunState} {next : Driving} (advances : Advances driving state next w w') :
    runsOf w'.trace next.record.runId = some next.record := by
  rw [advances.runs,Function.update_self]

theorem Advances.holds {state : RunState} {next : Driving} (advances : Advances driving state next w w')
    (live : Live runSystem w') (written : ∀ entry ∈ state.steps, entry.2.Written) :
    Holds next.record state :=
  (Known.current advances.current).written (live_inv live).history advances.data written

/-- The answer that describes a run. -/
theorem summary_can (live : Live runSystem w) (known : Known r w.trace) (holds : Holds r a) :
    ∃ value, summary r = .ok value := by
  rw [summary,holds.loads (live_inv live).history known]
  exact ⟨_,rfl⟩

omit [SerdeJson.Bytes] [Sha256] [RmcpTexts] in
/-- A flag that is set takes no more room than one that is not. -/
theorem cancelled_small (requested : a.cancelRequested = false) :
    (toValue { a with cancelRequested := true }).byteLength ≤ (toValue a).byteLength := by
  have shorter : size (Value.bool true).text ≤ size (Value.bool false).text := by
    simp only [Value.text]
    decide
  obtain ⟨plan,acceptedAt,flag,observed,steps⟩ := a
  cases requested
  change (RunState.encode _).byteLength ≤ (RunState.encode _).byteLength
  rw [byteLength_eq,byteLength_eq,RunState.encode,RunState.encode,size_object,size_object]
  have same (b : Bool) : toValue b = Value.bool b := rfl
  simp only [room_cons,same]
  omega

/-- A run that was not cancelled before is saved as a cancelled one. -/
theorem cancelRun_saves (live : Live runSystem w) (current : runsOf w.trace r.runId = some r)
    (holds : Holds r a) (room : r.version < maxRunVersion)
    (shallow : r.data.depth ≤ SerdeJson.recursionLimit) (fresh : a.cancelRequested = false) :
    Can runSystem i (RunDriver.cancelRun r) w fun value w' => ∃ next,
      Advances ⟨r,a⟩ { a with cancelRequested := true } next w w' ∧
        summary next.record = .ok value := by
  have loads := holds.loads (live_inv live).history (.current current)
  have read : Can runSystem i (Fallible.ofExcept (stateFrom r) : Driver RunState) w
      fun b w' => b = a ∧ w' = w := Can.ofExcept loads ⟨rfl,rfl⟩
  have small : (toValue { a with cancelRequested := true }).byteLength ≤ maxRunDocumentBytes := by
    refine (cancelled_small fresh).trans ?_
    rw [← holds.data]
    exact (live_inv live).represents.bounded _ _ current
  rw [RunDriver.cancelRun]
  refine Can.bind read fun b w' read => ?_
  obtain ⟨rfl,rfl⟩ := read
  refine Can.elseBranch (by simp [fresh]) ?_
  refine Can.bind (save_can live current holds rfl room shallow (by decide) small)
    fun next w1 advances => Can.live fun live' => ?_
  have later := advances.holds live' holds.lawful.written
  obtain ⟨value,described⟩ := summary_can live' (.current advances.current) later
  exact Can.ofExcept described ⟨next,advances,described⟩

theorem cancelRun_can (live : Live runSystem w) (current : runsOf w.trace r.runId = some r)
    (holds : Holds r a) (room : r.version < maxRunVersion)
    (shallow : r.data.depth ≤ SerdeJson.recursionLimit) :
    Can runSystem i (RunDriver.cancelRun r) w fun value w' => ∃ s,
      runsOf w'.trace r.runId = some s ∧
        stateFrom s = .ok { a with cancelRequested := true } ∧ summary s = .ok value := by
  cases requested : a.cancelRequested with
  | true =>
    have loads := holds.loads (live_inv live).history (.current current)
    obtain ⟨value,described⟩ := summary_can live (.current current) holds
    have same : { a with cancelRequested := true } = a := by rw [← requested]
    have read : Can runSystem i (Fallible.ofExcept (stateFrom r) : Driver RunState) w
        fun b w' => b = a ∧ w' = w := Can.ofExcept loads ⟨rfl,rfl⟩
    rw [RunDriver.cancelRun]
    refine Can.bind read fun b w' read => ?_
    obtain ⟨rfl,rfl⟩ := read
    refine Can.thenBranch requested (Can.ofExcept described ⟨r,current,?_,described⟩)
    rw [same]
    exact loads
  | false =>
    refine (cancelRun_saves live current holds room shallow requested).mono fun value w' live' saved => ?_
    obtain ⟨next,advances,described⟩ := saved
    have later := advances.holds live' holds.lawful.written
    refine ⟨next.record,?_,later.loads (live_inv live').history (.current advances.current),described⟩
    rw [← advances.continues.1]
    exact advances.current

def localCaller : TaskRouteCaller := ⟨localPrincipal,localTenant⟩

/-- The identity of a process that serves its own user. -/
def Local (context : RunContext) : Prop :=
  context.identity.principal = localPrincipal ∧ context.identity.tenant = localTenant

theorem caller_can (isLocal : Local context) :
    Can runSystem i (Fallible.ofExcept ((TaskRouteCaller.new context.identity.principal
      context.identity.tenant).mapError fun error => RunFailure.bail error.text) :
        Driver TaskRouteCaller) w fun v w' => v = localCaller ∧ Unchanged w w' := by
  refine Can.ofExcept ?_ ⟨rfl,.refl w⟩
  rw [isLocal.1,isLocal.2]
  decide

/-- A call of the local user on one of the runs gets to its action. -/
theorem call_can {action id : String} {post : Value → DriverWorld → Prop} (isLocal : Local context)
    (acts : (Value.find "action" args).bind Value.asStr = some action) (other : action ≠ "submit")
    (named : (Value.find "runId" args).bind Value.asStr = some id) (short : id.utf8ByteSize ≤ 128)
    (can : ∀ w', Unchanged w w' →
      Can runSystem i (RunDriver.act localCaller action id args context) w' post) :
    Can runSystem i (RunDriver.call args context) w post := by
  rw [RunDriver.call]
  refine Can.bind (demand_can isLocal) fun _ w1 first => ?_
  refine Can.bind (caller_can isLocal) fun _ w2 second => ?_
  obtain ⟨rfl,second⟩ := second
  refine Can.bind (required_can acts) fun _ w3 third => ?_
  obtain ⟨rfl,third⟩ := third
  refine Can.elseBranch other ?_
  refine Can.bind (required_can named) fun _ w4 fourth => ?_
  obtain ⟨rfl,fourth⟩ := fourth
  refine Can.bind (demand_can short) fun _ w5 fifth => ?_
  exact can w5 (first.trans (second.trans (third.trans (fourth.trans fifth))))

/-- A call of the local user that submits gets to the plan. -/
theorem submitCall_can {post : Value → DriverWorld → Prop} (isLocal : Local context)
    (acts : (Value.find "action" args).bind Value.asStr = some "submit")
    (can : ∀ w', Unchanged w w' →
      Can runSystem i (RunDriver.submitRun localCaller args context) w' post) :
    Can runSystem i (RunDriver.call args context) w post := by
  rw [RunDriver.call]
  refine Can.bind (demand_can isLocal) fun _ w1 first => ?_
  refine Can.bind (caller_can isLocal) fun _ w2 second => ?_
  obtain ⟨rfl,second⟩ := second
  refine Can.bind (required_can acts) fun _ w3 third => ?_
  obtain ⟨rfl,third⟩ := third
  exact Can.thenBranch rfl (can w3 (first.trans (second.trans third)))

/-- A call of the local user that cancels gets to the run. -/
theorem cancelCall_reaches {id : String} {post : Value → DriverWorld → Prop}
    (current : runsOf w.trace id = some r) (owner : r.caller = localCaller)
    (shallow : r.data.depth ≤ SerdeJson.recursionLimit) (isLocal : Local context)
    (acts : (Value.find "action" args).bind Value.asStr = some "cancel")
    (named : (Value.find "runId" args).bind Value.asStr = some id) (short : id.utf8ByteSize ≤ 128)
    (can : ∀ w', Live runSystem w' → Unchanged w w' →
      Can runSystem i (RunDriver.cancelRun r) w' post) :
    Can runSystem i (RunDriver.call args context) w post := by
  obtain rfl := runsOf_id current
  refine call_can isLocal acts (by decide) named short fun w1 first => Can.live fun live1 => ?_
  have current1 : runsOf w1.trace r.runId = some r := by
    rw [first.runs]
    exact current
  rw [RunDriver.act]
  refine Can.bind (readRun_can live1 current1 owner shallow) fun found w2 second =>
    Can.live fun live2 => ?_
  obtain ⟨rfl,second⟩ := second
  exact can w2 live2 (first.trans second)

theorem cancelCall_can {id : String}
    (current : runsOf w.trace id = some r) (holds : Holds r a) (owner : r.caller = localCaller)
    (room : r.version < maxRunVersion) (shallow : r.data.depth ≤ SerdeJson.recursionLimit)
    (isLocal : Local context) (acts : (Value.find "action" args).bind Value.asStr = some "cancel")
    (named : (Value.find "runId" args).bind Value.asStr = some id) (short : id.utf8ByteSize ≤ 128) :
    Can runSystem i (RunDriver.call args context) w fun value w' => ∃ s,
      runsOf w'.trace id = some s ∧ stateFrom s = .ok { a with cancelRequested := true } ∧
        summary s = .ok value := by
  obtain rfl := runsOf_id current
  refine cancelCall_reaches current owner shallow isLocal acts named short fun w' live' unchanged => ?_
  have current' : runsOf w'.trace r.runId = some r := by
    rw [unchanged.runs]
    exact current
  exact cancelRun_can live' current' holds room shallow

/-- A run can be cancelled from every state that is reached, whatever else is under way: all that
stands in the way is a run of the last version, or one that can no longer be read. -/
theorem cancel_succeeds (reachable : Reachable runSystem c) {id : String}
    (current : runsOf c.world.trace id = some r) (loads : stateFrom r = .ok a)
    (owner : r.caller = localCaller) (room : r.version < maxRunVersion)
    (shallow : r.data.depth ≤ SerdeJson.recursionLimit) (isLocal : Local context)
    (acts : (Value.find "action" args).bind Value.asStr = some "cancel")
    (named : (Value.find "runId" args).bind Value.asStr = some id) (short : id.utf8ByteSize ≤ 128) :
    ∃ value w', Reachable runSystem ⟨w',c.threads ++ [some (.pure (.ok value))]⟩ ∧
      ∃ s, runsOf w'.trace id = some s ∧ stateFrom s = .ok { a with cancelRequested := true } ∧
        summary s = .ok value := by
  have body : runSystem.body ⟨args,context⟩ = (RunDriver.call args context).run := rfl
  have holds := Known.read (run_certified.invariant reachable).history (.current current) loads
  have cancels : Can runSystem c.threads.length (RunDriver.call args context)
      (c.world.started ⟨args,context⟩) fun value w' => ∃ s, runsOf w'.trace id = some s ∧
        stateFrom s = .ok { a with cancelRequested := true } ∧ summary s = .ok value :=
    cancelCall_can current holds owner room shallow isLocal acts named short
  obtain ⟨value,w',there,-,-,done⟩ := Can.served body cancels reachable
  exact ⟨value,w',there,done⟩

/-- The store has begun the run, or has found it. -/
structure Submitted (i : Nat) (caller : TaskRouteCaller) (plan : RunPlan) (now : Nat) (r : RunRecord)
    (value : Value) (w w' : DriverWorld) : Prop where
  runs : runsOf w'.trace = Function.update (runsOf w.trace) r.runId (some r)
  begun : (⟨i,.beginRun caller plan.runKey (toValue (RunState.accepted plan now)),.ok r⟩ :
    DriverEvent) ∈ w'.trace
  described : summary r = .ok value
  past : w.trace <:+ w'.trace
  untasked : Untasked w.trace w'.trace

theorem submitRun_can {caller : TaskRouteCaller} {fresh leaseId : String} {existing : Option RunRecord}
    {after : RunTable} (given : Value.find "plan" args = some (toValue plan))
    (fits : (toValue plan).byteLength ≤ 256 * 1024)
    (found : w.state.findRun caller plan.runKey = .ok existing)
    (valid : plan.validate ((existing.bind fun record =>
      (record.data.index "acceptedAtUnixMs").asU64).getD now) = .ok ())
    (authorizes : Authorizes plan args context now leaseId lease)
    (begins : RunTable.beginRun fresh caller plan.runKey (toValue (RunState.accepted plan now))
      w.state = (.ok r,after)) :
    Can runSystem i (RunDriver.submitRun caller args context) w
      fun value => Submitted i caller plan now r value w := by
  have decoded : RunPlan.decode (toValue plan) = some plan := RunPlan.decode_encode plan
  rw [RunDriver.submitRun]
  refine Can.bind (required_can given) fun _ w1 first => ?_
  obtain ⟨rfl,first⟩ := first
  refine Can.bind (demand_can fits) fun _ w2 second => ?_
  refine Can.bind (required_can decoded) fun plan w3 third => ?_
  obtain ⟨rfl,third⟩ := third
  refine Can.bind (nowUnixMs_can now) fun acceptedAt w4 fourth => ?_
  obtain ⟨rfl,fourth⟩ := fourth
  have till4 := first.trans (second.trans (third.trans fourth))
  refine Can.bind (ask_can (.findRun caller _) (.ok existing) ?_ rfl rfl) fun _ w5 fifth => ?_
  · refine .inl ⟨?_,rfl⟩
    rw [till4.state]
    exact found.symm
  obtain ⟨rfl,fifth⟩ := fifth
  refine Can.bind (stored_can rfl) fun _ w6 sixth => ?_
  obtain ⟨rfl,sixth⟩ := sixth
  refine Can.bind (checked_can valid) fun _ w7 seventh => ?_
  refine Can.bind (ask_can (.openRoot _) (.ok ()) rfl rfl rfl) fun _ w8 eighth => ?_
  obtain ⟨rfl,eighth⟩ := eighth
  refine Can.bind (checked_can rfl) fun _ w9 ninth => ?_
  refine Can.bind (authorizePlan_can authorizes) fun _ w10 tenth => ?_
  have till10 := till4.trans (fifth.trans (sixth.trans (seventh.2.trans (eighth.trans
    (ninth.2.trans tenth)))))
  let op := RunOp.beginRun caller plan.runKey (toValue (RunState.accepted plan acceptedAt))
  have begun : Can runSystem i (RunDriver.ask op : Driver op.Ret) w10 fun v w' =>
      v = .ok r ∧ w'.trace = (⟨i,op,.ok r⟩ : DriverEvent) :: w10.trace := by
    refine Can.perform (.ok r) after ⟨fresh,.inl ?_⟩ ⟨rfl,rfl⟩
    rw [till10.state,begins]
    exact ⟨rfl,rfl⟩
  refine Can.bind begun fun _ w11 begun => ?_
  obtain ⟨rfl,begun⟩ := begun
  refine Can.bind (stored_can rfl) fun r w12 last => Can.live fun live => ?_
  obtain ⟨rfl,last⟩ := last
  have runs : runsOf w12.trace = Function.update (runsOf w.trace) r.runId (some r) := by
    rw [last.runs,begun,← till10.runs]
    exact runsOf_commits rfl _
  have current : runsOf w12.trace r.runId = some r := by
    rw [runs,Function.update_self]
  obtain ⟨a,-,holds⟩ := (Known.current current).loads (live_inv live).history
  obtain ⟨value,described⟩ := summary_can live (.current current) holds
  have past : (⟨i,op,.ok r⟩ : DriverEvent) :: w10.trace <:+ w12.trace := by
    rw [← begun]
    exact last.past
  have untasked : Untasked w10.trace w12.trace := by
    refine Untasked.trans ?_ last.untasked
    rw [begun]
    exact .cons rfl _
  exact Can.ofExcept described ⟨runs,past.subset List.mem_cons_self,described,
    till10.past.trans ((List.suffix_cons _ _).trans past),till10.untasked.trans untasked⟩

omit [SerdeJson.Bytes] [RmcpTexts] in
/-- The first record of a run. -/
theorem accepted_made (caller : TaskRouteCaller) (fresh : String)
    (small : (toValue (RunState.accepted plan now)).byteLength ≤ maxRunDocumentBytes) :
    ∃ r, RunRecord.append ⟨runSchemaVersion,fresh,caller,plan.runKey,
        .ofJson ((toValue (RunState.accepted plan now)).index "plan"),0,
        toValue (RunState.accepted plan now),[]⟩ "accepted" = .ok r ∧
      r.runId = fresh ∧ r.caller = caller ∧ r.version = 0 ∧
      r.data = toValue (RunState.accepted plan now) := by
  have get : (toValue (RunState.accepted plan now)).get "plan" = some (toValue plan) := rfl
  have index : (toValue (RunState.accepted plan now)).index "plan" = toValue plan := rfl
  have key : (toValue plan).index "runKey" = .string plan.runKey := rfl
  have headed : RunRecord.Headed ⟨runSchemaVersion,fresh,caller,plan.runKey,
      .ofJson ((toValue (RunState.accepted plan now)).index "plan"),0,
      toValue (RunState.accepted plan now),[]⟩ := by
    refine ⟨rfl,Nat.zero_le _,?_,?_⟩
    · rw [get,index,Option.map_some]
    · rw [index,key]
  have named : "accepted".utf8ByteSize ≤ maxRunEventKindBytes := by decide
  exact ⟨_,RunRecord.append_makes headed rfl rfl named small,rfl,rfl,rfl,rfl⟩

end RunSystem
end GaugeMesh
