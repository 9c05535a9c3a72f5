import GaugeMesh.Proxy.Certificate
import GaugeMesh.Proxy.Solo

/-! At most one call for a submission. A route is claimed once and its claimant calls once;
two routes of one submission cannot both be called, as each call is made before the common
deadline and of two such routes one has expired by then. -/
namespace GaugeMesh
open Json Interleaving ProxySystem

section
variable [FloatText] [Sha256]
variable {requests : List ProxyRequest} {trace past : List ProxyEvent} {r s : TaskRouteRecord}
variable (history : Justified (Reason requests) trace)
include history

/-- A claim is the first change of a route. -/
theorem dispatching_version (known : Written r trace) (phase : r.phase = .dispatching) :
    r.transitionVersion = 1 := by
  obtain ⟨e,member,wrote⟩ := known
  obtain ⟨past,occurrence⟩ := occurs member
  rcases written_reason wrote (history.reason_of occurrence) with
    ⟨-,reason⟩ | ⟨id,version,update,reason⟩
  · have prepared := (TaskRouteRecord.verifyPreparedForBegin_ok.mp reason.prepared).2.1
    rw [prepared] at phase
    cases phase
  · obtain ⟨current,stored,-,-,step,-⟩ := reason.moved
    have source := canTransition_dispatching (phase ▸ step.joins)
    have zero := (written_prepared (history.suffix (past_suffix occurrence)) stored).2.mp source
    have moved := step.version
    omega

/-- A record that is not the first of its route is written once. -/
theorem written_once {e f : ProxyEvent} {rest : List ProxyEvent} (left : e :: past <:+ trace)
    (right : f :: rest <:+ trace) (first : written e = some r) (second : written f = some r)
    (moved : r.transitionVersion ≠ 0) : e :: past = f :: rest := by
  -- The record moved from one that the record itself had led to.
  have unwritten : ∀ {g : ProxyEvent} {earlier : List ProxyEvent}, g :: earlier <:+ trace →
      written g = some r → ¬Written r earlier := by
    intro g earlier occurrence wrote before
    rcases written_reason wrote (history.reason_of occurrence) with
      ⟨-,reason⟩ | ⟨id,version,update,reason⟩
    · exact moved (TaskRouteRecord.verifyPreparedForBegin_ok.mp reason.prepared).2.2.1
    · obtain ⟨current,-,named,-,step,led⟩ := reason.moved
      have later := (led r before (step.sameRoute.publicTaskId.trans named)).version
      have next := step.version
      omega
  rcases occurrences left right with same | inside | inside
  · exact same
  · exact absurd ⟨e,mem_of_occurrence inside,first⟩ (unwritten right second)
  · exact absurd ⟨f,mem_of_occurrence inside,second⟩ (unwritten left first)

/-- A route is claimed by one thread. -/
theorem claim_once {i j : Nat} (first : Claimed i r trace) (second : Claimed j s trace)
    (left : r.phase = .dispatching) (right : s.phase = .dispatching)
    (route : r.publicTaskId = s.publicTaskId) : i = j := by
  have one := dispatching_version history first.written left
  have other := dispatching_version history second.written right
  have same : s = r := by
    rcases written_leads history first.written second.written route with leads | leads
    · exact leads.unmoved (by omega)
    · exact (leads.unmoved (by omega)).symm
  obtain ⟨e,member,mine,wrote⟩ := first
  obtain ⟨f,member',yours,wrote'⟩ := second
  obtain ⟨past,here⟩ := occurs member
  obtain ⟨rest,there⟩ := occurs member'
  rw [same] at wrote'
  have equal := written_once history here there wrote wrote' (by omega)
  cases equal
  exact mine.symm.trans yours

/-- A time at which a route may still be called is before the deadline of every other route
of the submission, so both cannot be known. -/
theorem licence_alone {i now : Nat} {earlier : List ProxyEvent}
    {key : TaskRouteIdempotencyKey} (read : (⟨i,.now,some now⟩ : ProxyEvent) :: earlier <:+ trace)
    (first : Written r earlier) (second : Written s earlier) (owner : r.caller = s.caller)
    (left : r.idempotencyKey = some key) (right : s.idempotencyKey = some key)
    (deadline : r.deadline = s.deadline) (timely : now < r.executionCutoff) :
    r.publicTaskId = s.publicTaskId := by
  by_contra different
  have justified := history.suffix (past_suffix read)
  have separate : Separate earlier now := history.reason_of read
  have inTime := timely.trans_le r.executionCutoff_le
  have here := (written_form justified first).deadline
  have there := (written_form justified second).deadline
  rcases separate r s key first second different owner left right with gone | gone <;> omega

end

/-- The call was sent by a request of the caller with the submission. -/
def SentFor (requests : List ProxyRequest) (caller : TaskRouteCaller) (submission : Value)
    (e : ProxyEvent) : Prop :=
  called e ≠ none ∧ ∃ proxy tool arguments identity,
    TaskProxy.callerOf identity = .ok caller ∧
    (requests[e.thread]? = some (.submit proxy tool arguments submission identity) ∨
      requests[e.thread]? = some (.recoverSubmission proxy tool arguments submission identity))

section
variable [FloatText] [Sha256]
variable {requests : List ProxyRequest} {trace past : List ProxyEvent}

theorem called_reason {e : ProxyEvent} (sent : called e ≠ none) (reason : Reason requests e past) :
    ∃ request, called e = some request ∧ Called requests e.thread request past := by
  obtain ⟨i,op,reply⟩ := e
  cases op with
  | callTool source request session timeout => exact ⟨request,rfl,reason⟩
  | _ => exact absurd rfl sent

omit [FloatText] [Sha256] in
/-- The route of a call for a submission has the key and the deadline of the submission. -/
theorem Serves.submission {caller : TaskRouteCaller} {submission : Value} {e : ProxyEvent}
    {r : TaskRouteRecord} (serves : Serves requests e.thread r)
    (sent : SentFor requests caller submission e) :
    r.caller = caller ∧ ∃ task, TaskSubmission.decode submission = some task ∧
      r.idempotencyKey = some ⟨task.idempotencyKey⟩ ∧ r.deadline = task.deadlineUnixMs := by
  obtain ⟨proxy,tool,arguments,other,identity,task,served,owner,decoded,key,deadline⟩ := serves
  obtain ⟨-,proxy',tool',arguments',identity',owner',request | request⟩ := sent
  · rw [served] at request
    cases request
    rw [owner] at owner'
    cases owner'
    exact ⟨rfl,task,decoded,key,deadline⟩
  · rw [served] at request
    cases request

/-- No call of a submission has another in its past. -/
theorem sent_alone (history : Justified (Reason requests) trace) {caller : TaskRouteCaller}
    {submission : Value} {e f : ProxyEvent} (occurrence : e :: past <:+ trace) (member : f ∈ past)
    (first : SentFor requests caller submission e) : ¬SentFor requests caller submission f := by
  intro second
  obtain ⟨rest,inside⟩ := occurs member
  have justified := history.suffix (past_suffix occurrence)
  obtain ⟨request,-,late⟩ := called_reason first.1 (history.reason_of occurrence)
  obtain ⟨other,-,early⟩ := called_reason second.1 (justified.reason_of inside)
  obtain ⟨r,⟨now,earlier,read,timely,phase,claim⟩,serves,-⟩ := late.licence
  obtain ⟨s,⟨time,before,looked,punctual,phase',claim'⟩,serves',-⟩ := early.licence
  obtain ⟨owner,task,decoded,key,deadline⟩ := serves.submission first
  obtain ⟨owner',task',decoded',key',deadline'⟩ := serves'.submission second
  rw [decoded] at decoded'
  cases decoded'
  replace looked := looked.trans (past_suffix inside)
  have mine : Claimed e.thread r past := by
    obtain ⟨g,among,own,wrote⟩ := claim
    exact ⟨g,(past_suffix read).mem among,own,wrote⟩
  have yours : Claimed f.thread s past := by
    obtain ⟨g,among,own,wrote⟩ := claim'
    exact ⟨g,(past_suffix looked).mem among,own,wrote⟩
  -- One thread calls once, and one route has one claimant.
  have apart : e.thread ≠ f.thread := fun same =>
    second.1 (late.once f member same.symm)
  have different : r.publicTaskId ≠ s.publicTaskId := fun same =>
    apart (claim_once justified mine yours phase phase' same)
  have written : Written r earlier := Claimed.written claim
  have written' : Written s before := Claimed.written claim'
  rcases occurrences read looked with same | nested | nested
  · exact apart (congrArg (fun trace => (trace.head?.map Event.thread).getD 0) same)
  · exact different (licence_alone justified looked written' (written.suffix (past_suffix nested))
      (owner'.trans owner.symm) key' key (deadline'.trans deadline.symm) punctual).symm
  · exact different (licence_alone justified read written (written'.suffix (past_suffix nested))
      (owner.trans owner'.symm) key key' (deadline.trans deadline'.symm) timely)

variable [Rmcp] [Chrono]
variable {σ : Type} [TaskRouteStorage σ] [ExactTaskRouteStorage σ]

/-- However the proxies interleave, crash and purge: no two calls are ever sent for one
submission of one caller. -/
theorem at_most_one_call (hash : Function.Injective Sha256.digest)
    {c : Config (Shared σ) ProxyOp ProxyOp.Ret ProxyRequest ProxyResponse}
    (reachable : Reachable (proxySystem σ) c) (caller : TaskRouteCaller) (submission : Value) :
    c.world.trace.Pairwise fun e f =>
      ¬(SentFor c.world.requests caller submission e ∧ SentFor c.world.requests caller submission f) := by
  have inv := (proxy_certified hash).invariant reachable
  refine pairwise_past fun e past occurrence f member both => ?_
  exact sent_alone inv.history occurrence member both.1 both.2

end
section Example
open Reference

/-- The example is called once, whatever it is answered. -/
theorem at_most_one_call_example :
    ∃ c : Config (Shared MemoryTaskRoutes) ProxyOp ProxyOp.Ret ProxyRequest ProxyResponse,
      Reachable (proxySystem MemoryTaskRoutes) c ∧
      (∃ e ∈ c.world.trace, called e ≠ none) ∧
      c.world.trace.Pairwise fun e f =>
        ¬(SentFor c.world.requests ⟨⟨"alice"⟩,⟨"tenant-a"⟩⟩ (toValue exampleTask) e ∧
          SentFor c.world.requests ⟨⟨"alice"⟩,⟨"tenant-a"⟩⟩ (toValue exampleTask) f) := by
  obtain ⟨digest,prepares,timely⟩ := example_prepares (w := World.started ⟨exampleStart,[],[]⟩
    (.submit exampleProxy plainTool exampleArguments (toValue exampleTask) exampleIdentity)) rfl rfl
  have owner : validateIdentifier exampleProxy.instanceId maxIdentifierBytes "dispatch owner ID" =
      .ok () := rfl
  obtain ⟨w,submitted,first⟩ := first_called (i := 0) (fun _ => rfl) prepares
    ExactTaskRouteStorage.empty owner timely .failed
  have initial : Reachable (proxySystem MemoryTaskRoutes) ⟨⟨exampleStart,[],[]⟩,[]⟩ :=
    .initial ⟨rfl,rfl⟩
  have reachable := served_submit submitted initial
  obtain ⟨past,timeout,trace⟩ := first.called
  have sent : ∃ e ∈ w.trace, called e ≠ none := by
    rw [trace]
    exact ⟨_,List.mem_cons_self,by simp [called]⟩
  exact ⟨_,reachable,sent,at_most_one_call Function.injective_id reachable _ _⟩

end Example
end GaugeMesh
