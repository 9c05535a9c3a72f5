import GaugeMesh.Proxy.System

/-! What the history of the proxies says about the store. A stored record was written, and
every record written for its route led to it; a route that is no longer stored has expired.
Each event has its reason in what happened before. -/
namespace GaugeMesh
open Json Interleaving

section Events

/-- The record an operation made durable. -/
def written : ProxyEvent → Option TaskRouteRecord
  | ⟨_,.beginOrExisting record,.ok (.inserted _)⟩ => some record
  | ⟨_,.compareAndSetTaskRoute ..,.ok (some r)⟩ => some r
  | _ => none

/-- The record an operation tried to insert. -/
def begun : ProxyEvent → Option TaskRouteRecord
  | ⟨_,.beginOrExisting record,_⟩ => some record
  | _ => none

/-- The call an operation sent to its upstream. -/
def called : ProxyEvent → Option CallToolRequestParams
  | ⟨_,.callTool _ request _ _,_⟩ => some request
  | _ => none

/-- The time an operation read. -/
def readTime : ProxyEvent → Option Nat
  | ⟨_,.now,reply⟩ => reply
  | _ => none

def drawn : ProxyEvent → Option PublicTaskId
  | ⟨_,.randomTaskId,id⟩ => some id
  | _ => none

def Written (r : TaskRouteRecord) (trace : List ProxyEvent) : Prop := ∃ e ∈ trace, written e = some r

theorem written_cons {r : TaskRouteRecord} {e : ProxyEvent} {past : List ProxyEvent} :
    Written r (e :: past) ↔ written e = some r ∨ Written r past := by
  simp [Written]

theorem Written.suffix {r : TaskRouteRecord} {past trace : List ProxyEvent}
    (known : Written r past) (earlier : past <:+ trace) : Written r trace := by
  obtain ⟨e,member,same⟩ := known
  exact ⟨e,earlier.mem member,same⟩

/-- What the error of a failed task says about its execution. -/
def payloadState (payload : TaskPayload) : Option String :=
  payload.error.bind fun error =>
    ((Value.object error).pointer "/data/executionState").bind Value.asStr

/-- An upstream that was called reports that it was not. -/
def forges : ProxyEvent → Prop
  | ⟨_,.getTask ..,.ok response⟩ => payloadState response.task.payload = some "not_dispatched"
  | _ => False

/-- The thread was told so. -/
def Misled (i : Nat) (past : List ProxyEvent) : Prop := ∃ e ∈ past, e.thread = i ∧ forges e

/-- An update to a terminal state that says the call was never sent. -/
def Verdict (update : TaskRouteUpdate) : Prop :=
  update.cachedTerminalState.bind executionState = some "not_dispatched"

/-- An attempt to write a verdict. -/
def judges : ProxyEvent → Prop
  | ⟨_,.compareAndSetTaskRoute _ _ _ update,_⟩ => Verdict update
  | _ => False

/-- The terminal state of a route says that its call was never sent. -/
def Reports (r : TaskRouteRecord) : Prop :=
  r.phase = .terminal ∧ routeExecutionState r = "not_dispatched"

end Events

/-- Of two routes of one caller with one key, one has expired. -/
def Separate (trace : List ProxyEvent) (now : Nat) : Prop :=
  ∀ r s key, Written r trace → Written s trace → r.publicTaskId ≠ s.publicTaskId →
    r.caller = s.caller → r.idempotencyKey = some key → s.idempotencyKey = some key →
      r.expiresAtUnixMs ≤ now ∨ s.expiresAtUnixMs ≤ now

section
variable [FloatText] [Sha256]

/-- What a submission puts into its route. -/
structure Form (r : TaskRouteRecord) : Prop where
  binding : ∃ tool task snapshot, r.submissionBinding = submissionBinding tool task snapshot ∧
    r.capabilitySource = tool.identity.source
  deadline : r.deadline ≤ r.expiresAtUnixMs
  keyed : r.idempotencyKey.isSome

/-- The record belongs to the submission its thread serves. -/
def Serves (requests : List ProxyRequest) (i : Nat) (r : TaskRouteRecord) : Prop :=
  ∃ proxy tool arguments submission identity task,
    requests[i]? = some (.submit proxy tool arguments submission identity) ∧
    TaskProxy.callerOf identity = .ok r.caller ∧ TaskSubmission.decode submission = some task ∧
    r.idempotencyKey = some ⟨task.idempotencyKey⟩ ∧ r.deadline = task.deadlineUnixMs

/-- The thread claimed the record and after that read a time before its cutoff. -/
def Licence (i : Nat) (claimed : TaskRouteRecord) (past : List ProxyEvent) : Prop :=
  ∃ now earlier, ⟨i,.now,some now⟩ :: earlier <:+ past ∧ now < claimed.executionCutoff ∧
    claimed.phase = .dispatching ∧ ∃ e ∈ earlier, e.thread = i ∧ written e = some claimed

/-- The thread has sent no call so far. -/
def Unsent (i : Nat) (past : List ProxyEvent) : Prop :=
  ∀ e ∈ past, e.thread = i → called e = none

structure Begun (i : Nat) (record : TaskRouteRecord) (past : List ProxyEvent) : Prop where
  drawn : ∃ e ∈ past, e.thread = i ∧ drawn e = some record.publicTaskId
  once : ∀ e ∈ past, e.thread = i → begun e = none
  prepared : record.verifyPreparedForBegin = .ok ()
  form : Form record

structure Committed (i : Nat) (id : PublicTaskId) (version : Nat) (update : TaskRouteUpdate)
    (r : TaskRouteRecord) (past : List ProxyEvent) : Prop where
  moved : ∃ current, Written current past ∧ current.publicTaskId = id ∧
    current.transitionVersion = version ∧ TaskRouteRecord.Transitioned current update r ∧
    ∀ earlier, Written earlier past → earlier.publicTaskId = id → earlier.Leads current
  verdict : Reports r → Misled i past ∨ version = 0 ∨
    Unsent i past ∧ ∃ e ∈ past, e.thread = i ∧ ∃ claimed, written e = some claimed ∧
      claimed.phase = .dispatching ∧ claimed.publicTaskId = id

structure Called (requests : List ProxyRequest) (i : Nat) (request : CallToolRequestParams)
    (past : List ProxyEvent) : Prop where
  once : Unsent i past
  unjudged : ∀ e ∈ past, e.thread = i → ¬judges e
  licence : ∃ claimed, Licence i claimed past ∧ Serves requests i claimed ∧
    request.publicTaskId = some claimed.publicTaskId.text

/-- Why an event could happen after its past. -/
def Reason (requests : List ProxyRequest) : ProxyEvent → List ProxyEvent → Prop
  | ⟨_,.now,some now⟩,past => Separate past now
  | ⟨_,.randomTaskId,id⟩,past => ∀ e ∈ past, drawn e ≠ some id
  | ⟨i,.beginOrExisting record,_⟩,past => Begun i record past
  | ⟨i,.compareAndSetTaskRoute _ id version update,.ok (some r)⟩,past =>
      Committed i id version update r past
  | ⟨i,.callTool _ request _ _,_⟩,past => Called requests i request past
  | _,_ => True

variable {σ : Type} [TaskRouteStorage σ] [ExactTaskRouteStorage σ]

/-- The routes of the store, the clock and the drawn ids agree with the history. -/
structure Consistent (w : ProxyWorld σ) (routes : Routes) : Prop where
  represents : ExactTaskRouteStorage.Represents w.state.store routes
  origin : routes i = some r → Written r w.trace
  latest : Written r w.trace → routes r.publicTaskId = some s → r.Leads s
  removed : Written r w.trace → routes r.publicTaskId = none → r.expiresAtUnixMs ≤ w.state.clock
  separate : Separate w.trace w.state.clock
  clock : ∀ e ∈ w.trace, ∀ now, readTime e = some now → now ≤ w.state.clock
  ids : ∀ e ∈ w.trace, ∀ id, drawn e = some id → id ∈ w.state.drawn

structure Inv (w : ProxyWorld σ) : Prop where
  history : Justified (Reason w.requests) w.trace
  store : ∃ routes, Consistent w routes

variable {requests : List ProxyRequest} {trace past : List ProxyEvent} {r s : TaskRouteRecord}

omit [TaskRouteStorage σ] [ExactTaskRouteStorage σ] in
/-- What a writing event wrote, and why. -/
theorem written_reason {e : ProxyEvent} (wrote : written e = some r)
    (reason : Reason requests e past) :
    (begun e = some r ∧ Begun e.thread r past) ∨
      ∃ id version update, Committed e.thread id version update r past := by
  obtain ⟨i,op,reply⟩ := e
  cases op with
  | beginOrExisting record =>
    rcases reply with error | result
    · cases wrote
    · cases result with
      | inserted stored =>
        cases wrote
        exact .inl ⟨rfl,reason⟩
      | existing stored => cases wrote
  | compareAndSetTaskRoute caller id version update =>
    rcases reply with error | result
    · cases wrote
    · cases result with
      | none => cases wrote
      | some next =>
        cases wrote
        exact .inr ⟨id,version,update,reason⟩
  | _ => cases wrote

omit [TaskRouteStorage σ] [ExactTaskRouteStorage σ] in
theorem begun_reason {e : ProxyEvent} (started : begun e = some r)
    (reason : Reason requests e past) : Begun e.thread r past := by
  obtain ⟨i,op,reply⟩ := e
  cases op with
  | beginOrExisting record =>
    cases started
    exact reason
  | _ => cases started

omit [TaskRouteStorage σ] [ExactTaskRouteStorage σ] in
theorem drawn_reason {e : ProxyEvent} {id : PublicTaskId} (drew : drawn e = some id)
    (reason : Reason requests e past) : ∀ f ∈ past, drawn f ≠ some id := by
  obtain ⟨i,op,reply⟩ := e
  cases op with
  | randomTaskId =>
    cases drew
    exact reason
  | _ => cases drew

omit [FloatText] [Sha256] [TaskRouteStorage σ] [ExactTaskRouteStorage σ] in
theorem TaskRouteRecord.SameRoute.deadline (route : r.SameRoute s) : s.deadline = r.deadline := by
  rw [TaskRouteRecord.deadline,route.submissionBinding,route.expiresAtUnixMs]
  rfl

omit [TaskRouteStorage σ] [ExactTaskRouteStorage σ] in
theorem Form.same (form : Form r) (route : r.SameRoute s) : Form s where
  binding := by
    rw [route.submissionBinding,route.capabilitySource]
    exact form.binding
  deadline := by
    rw [route.deadline,route.expiresAtUnixMs]
    exact form.deadline
  keyed := by
    rw [route.idempotencyKey]
    exact form.keyed

variable (history : Justified (Reason requests) trace)
include history

omit [TaskRouteStorage σ] [ExactTaskRouteStorage σ]

/-- An id is drawn once. -/
theorem drawn_once {e f : ProxyEvent} {id : PublicTaskId} (first : e ∈ trace) (second : f ∈ trace)
    (left : drawn e = some id) (right : drawn f = some id) : e = f := by
  obtain ⟨past,here⟩ := occurs first
  obtain ⟨rest,there⟩ := occurs second
  rcases occurrences here there with same | inside | inside
  · cases same
    rfl
  · exact absurd left (drawn_reason right (history.reason_of there) e (mem_of_occurrence inside))
  · exact absurd right (drawn_reason left (history.reason_of here) f (mem_of_occurrence inside))

/-- A route is begun once. -/
theorem begun_once {e f : ProxyEvent} {rest : List ProxyEvent} (left : e :: past <:+ trace)
    (right : f :: rest <:+ trace) (first : begun e = some r) (second : begun f = some s)
    (same : r.publicTaskId = s.publicTaskId) : e :: past = f :: rest := by
  have leftReason := begun_reason first (history.reason_of left)
  have rightReason := begun_reason second (history.reason_of right)
  have thread : e.thread = f.thread := by
    obtain ⟨d,member,own,drew⟩ := leftReason.drawn
    obtain ⟨d',member',own',drew'⟩ := rightReason.drawn
    rw [← same] at drew'
    rw [← own,← own',drawn_once history ((past_suffix left).mem member)
      ((past_suffix right).mem member') drew drew']
  rcases occurrences left right with equal | inside | inside
  · exact equal
  · have none := rightReason.once e (mem_of_occurrence inside) thread
    rw [first] at none
    cases none
  · have none := leftReason.once f (mem_of_occurrence inside) thread.symm
    rw [second] at none
    cases none

/-- Behind every written record there is the insertion of its route. -/
theorem written_begun (known : Written r trace) : ∃ e past record, e :: past <:+ trace ∧
    begun e = some record ∧ written e = some record ∧ Begun e.thread record past ∧
    record.SameRoute r := by
  induction trace generalizing r with
  | nil => simp [Written] at known
  | cons e past ih =>
    have earlier : ∀ s, Written s past → ∃ f rest record, f :: rest <:+ e :: past ∧
        begun f = some record ∧ written f = some record ∧ Begun f.thread record rest ∧
        record.SameRoute s := by
      intro s before
      obtain ⟨f,rest,record,occurrence,found⟩ := ih history.2 before
      exact ⟨f,rest,record,occurrence.trans (List.suffix_cons e past),found⟩
    rcases written_cons.mp known with wrote | before
    · rcases written_reason wrote history.1 with ⟨started,reason⟩ | ⟨id,version,update,reason⟩
      · exact ⟨e,past,r,List.suffix_rfl,started,wrote,reason,.refl r⟩
      · obtain ⟨current,stored,-,-,step,-⟩ := reason.moved
        obtain ⟨f,rest,record,occurrence,started,first,reason,same⟩ := earlier current stored
        exact ⟨f,rest,record,occurrence,started,first,reason,same.trans step.sameRoute⟩
    · exact earlier r before

theorem written_form (known : Written r trace) : Form r := by
  obtain ⟨e,past,record,-,-,-,reason,same⟩ := written_begun history known
  exact reason.form.same same

/-- Two records written under one id are of one route. -/
theorem written_route (first : Written r trace) (second : Written s trace)
    (id : r.publicTaskId = s.publicTaskId) : r.SameRoute s := by
  obtain ⟨e,past,record,left,started,-,-,same⟩ := written_begun history first
  obtain ⟨f,rest,other,right,begins,-,-,alike⟩ := written_begun history second
  have ids : record.publicTaskId = other.publicTaskId := by
    rw [← same.publicTaskId,← alike.publicTaskId,id]
  have equal := begun_once history left right started begins ids
  cases equal
  rw [started] at begins
  cases begins
  exact same.symm.trans alike

/-- Nothing was written for a route before it is begun. -/
theorem begun_fresh {i : Nat} {record : TaskRouteRecord} (begins : Begun i record trace)
    (known : Written r trace) : r.publicTaskId ≠ record.publicTaskId := by
  intro id
  obtain ⟨e,past,other,occurrence,started,-,reason,same⟩ := written_begun history known
  have thread : e.thread = i := by
    obtain ⟨d,member,own,drew⟩ := reason.drawn
    obtain ⟨d',member',own',drew'⟩ := begins.drawn
    rw [← id,same.publicTaskId] at drew'
    rw [← own,← own',drawn_once history ((past_suffix occurrence).mem member) member' drew drew']
  have none := begins.once e (mem_of_occurrence occurrence) thread
  rw [started] at none
  cases none

/-- Only the inserted record of a route is prepared, and it has the first version. -/
theorem written_prepared (known : Written r trace) :
    r.Valid ∧ (r.phase = .prepared ↔ r.transitionVersion = 0) := by
  obtain ⟨e,member,wrote⟩ := known
  obtain ⟨past,occurrence⟩ := occurs member
  rcases written_reason wrote (history.reason_of occurrence) with
    ⟨-,reason⟩ | ⟨id,version,update,reason⟩
  · obtain ⟨valid,phase,zero,-⟩ := TaskRouteRecord.verifyPreparedForBegin_ok.mp reason.prepared
    exact ⟨valid,by simp [phase,zero]⟩
  · obtain ⟨current,-,-,-,step,-⟩ := reason.moved
    refine ⟨step.after,?_⟩
    have moved := step.version
    constructor
    · exact fun phase => absurd phase (canTransition_target step.joins)
    · intro zero
      omega

/-- Of two records of one route one led to the other. -/
theorem written_leads (first : Written r trace) (second : Written s trace)
    (id : r.publicTaskId = s.publicTaskId) : r.Leads s ∨ s.Leads r := by
  -- The later one was made of a record all earlier ones led to.
  have later : ∀ {r s : TaskRouteRecord} {e f : ProxyEvent} {past rest : List ProxyEvent},
      written e = some r → f :: rest <:+ trace → written f = some s → e :: past <:+ rest →
      r.publicTaskId = s.publicTaskId → r.Leads s := by
    intro r s e f past rest wrote occurrence wrote' inside id
    have before : Written r rest := ⟨e,mem_of_occurrence inside,wrote⟩
    have justified := history.suffix (past_suffix occurrence)
    rcases written_reason wrote' (history.reason_of occurrence) with
      ⟨-,reason⟩ | ⟨other,version,update,reason⟩
    · exact absurd id (begun_fresh justified reason before)
    · obtain ⟨current,-,named,-,step,led⟩ := reason.moved
      refine (led r before ?_).next step
      rw [id,step.sameRoute.publicTaskId,named]
  obtain ⟨e,member,wrote⟩ := first
  obtain ⟨f,member',wrote'⟩ := second
  obtain ⟨past,left⟩ := occurs member
  obtain ⟨rest,right⟩ := occurs member'
  rcases occurrences left right with same | inside | inside
  · cases same
    rw [wrote] at wrote'
    cases wrote'
    exact .inl (.refl r)
  · exact .inl (later wrote right wrote' inside id)
  · exact .inr (later wrote' left wrote inside id.symm)

end
end GaugeMesh
