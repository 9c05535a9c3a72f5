import GaugeMesh.Interleaving.Justified
import GaugeMesh.Interleaving.Outcome
import GaugeMesh.Run.Evolution
import GaugeMesh.Run.History

/-! Any number of drivers, in one process or in many, over one run store. A store operation has
its whole effect or fails without one; the task proxy, the artifact files, the leases and the
clock answer whatever they like. Each event has its reason in what happened before. -/
namespace GaugeMesh
open Json Interleaving

structure RunRequest where
  args : JsonObject
  context : RunContext

abbrev DriverEvent := Event RunOp RunOp.Ret
abbrev DriverWorld := World RunTable RunOp RunOp.Ret RunRequest

namespace RunSystem

def Stores (table : RunTable) (performed : Except RunError α × RunTable)
    (reply : Except RunError α) (after : RunTable) : Prop :=
  (reply = performed.1 ∧ after = performed.2) ∨ ∃ error, reply = .error error ∧ after = table

variable [SerdeJson] [Sha256]

/-- `fresh` is the identifier drawn for a new run. -/
def act : (op : RunOp) → RunTable → op.Ret → RunTable → Prop
  | .now, s, _, t => t = s
  | .findRun caller key, s, reply, t => Stores s (s.findRun caller key,s) reply t
  | .beginRun caller key data, s, reply, t =>
      ∃ fresh, Stores s (RunTable.beginRun fresh caller key data s) reply t
  | .getRun caller runId, s, reply, t => Stores s (s.getRun caller runId,s) reply t
  | .advanceRun old data event, s, reply, t =>
      Stores s (RunTable.advanceRun old data event s) reply t
  | .getLease _, s, _, t => t = s
  | .openRoot _, s, _, t => t = s
  | .readArtifact .., s, _, t => t = s
  | .submit _, s, _, t => t = s
  | .recoverSubmission _, s, _, t => t = s
  | .cancelTask .., s, _, t => t = s
  | .getTask .., s, _, t => t = s

end RunSystem

/-- Drivers over a store that was empty at first. -/
def runSystem [SerdeJson] [SerdeJson.Bytes] [Sha256] [RmcpTexts] :
    System RunTable RunOp RunOp.Ret RunRequest (Except RunFailure Value) where
  initial table := table = .empty
  act _ := RunSystem.act
  drift _ _ := False
  body request := (RunDriver.call request.args request.context).run

namespace RunSystem

/-- The record that an operation committed, or found as it is committed. -/
def committed : DriverEvent → Option RunRecord
  | ⟨_,.beginRun ..,.ok record⟩ => some record
  | ⟨_,.advanceRun ..,.ok record⟩ => some record
  | _ => none

/-- The current record of every run. -/
def runsOf : List DriverEvent → Runs
  | [] => fun _ => none
  | e :: past => match committed e with
    | some r => Function.update (runsOf past) r.runId (some r)
    | none => runsOf past

/-- The record was the current one of its run once. -/
def Known (r : RunRecord) (trace : List DriverEvent) : Prop :=
  ∃ past, past <:+ trace ∧ runsOf past r.runId = some r

/-- The answers given to a thread since the record was known. -/
def heard (thread : Nat) (r : RunRecord) (trace : List DriverEvent) : RunAnswers :=
  fun op reply => ∃ past, (⟨thread,op,reply⟩ : DriverEvent) :: past <:+ trace ∧ Known r past

/-- The answers given since the record was known. -/
def since (r : RunRecord) (trace : List DriverEvent) : RunAnswers :=
  fun op reply => ∃ thread, heard thread r trace op reply

section Histories

variable {r s : RunRecord} {e : DriverEvent} {past trace : List DriverEvent}

theorem runsOf_commits (commits : committed e = some r) (past : List DriverEvent) :
    runsOf (e :: past) = Function.update (runsOf past) r.runId (some r) := by
  rw [runsOf,commits]

theorem runsOf_quiet (quiet : committed e = none) (past : List DriverEvent) :
    runsOf (e :: past) = runsOf past := by
  rw [runsOf,quiet]

theorem runsOf_id {id : String} (found : runsOf trace id = some r) : r.runId = id := by
  induction trace with
  | nil => cases found
  | cons e past ih =>
    cases commits : committed e with
    | none =>
      rw [runsOf_quiet commits] at found
      exact ih found
    | some s =>
      rw [runsOf_commits commits] at found
      by_cases same : id = s.runId
      · subst same
        rw [Function.update_self] at found
        cases found
        rfl
      · rw [Function.update_of_ne same] at found
        exact ih found

theorem Known.suffix (known : Known r past) (earlier : past <:+ trace) : Known r trace := by
  obtain ⟨first,before,found⟩ := known
  exact ⟨first,before.trans earlier,found⟩

theorem Known.current {id : String} (found : runsOf trace id = some r) : Known r trace := by
  refine ⟨trace,List.suffix_rfl,?_⟩
  rw [runsOf_id found]
  exact found

/-- What an operation commits is current. -/
theorem Known.commit (commits : committed e = some r) (past : List DriverEvent) :
    Known r (e :: past) := by
  refine ⟨e :: past,List.suffix_rfl,?_⟩
  rw [runsOf_commits commits,Function.update_self]

theorem heard_suffix {thread : Nat} {op : RunOp} {reply : op.Ret} (told : heard thread r past op reply)
    (earlier : past <:+ trace) : heard thread r trace op reply := by
  obtain ⟨first,event,known⟩ := told
  exact ⟨first,event.trans earlier,known⟩

theorem since_suffix {op : RunOp} {reply : op.Ret} (told : since r past op reply)
    (earlier : past <:+ trace) : since r trace op reply := by
  obtain ⟨thread,told⟩ := told
  exact ⟨thread,heard_suffix told earlier⟩

end Histories

section
variable [SerdeJson] [SerdeJson.Bytes] [Sha256] [RmcpTexts]

/-- The record is written for a state, and every such state is one that may be. -/
structure Holds (r : RunRecord) (state : RunState) : Prop where
  data : r.data = toValue state
  lawful : state.Lawful r.runId

inductive Begun (record : RunRecord) (past : List DriverEvent) : Prop
  | existing (stored : runsOf past record.runId = some record)
  | accepted (free : runsOf past record.runId = none) (version : record.version = 0)
      (integrity : record.verifyIntegrity = .ok ()) (plan : RunPlan) (acceptedAt : Nat)
      (holds : Holds record (.accepted plan acceptedAt))

/-- The record continues the one it was made from, by one save. -/
structure Continued (old : RunRecord) (data : Value) (kind : String) (next : RunRecord)
    (past : List DriverEvent) : Prop where
  stored : runsOf past old.runId = some old
  advanced : old.Advanced data kind next
  integrity : next.verifyIntegrity = .ok ()
  saved : ∃ before after, Holds old before ∧ Holds next after ∧
    RunState.Save (since old past) old.runId before after

/-- The call carries what its step was committed with. -/
structure Sent (call : StepCall) (record : RunRecord) (state : RunState) (step : RunStep)
    (s : StepState) : Prop where
  runId : record.runId = call.runId
  stepId : step.id = call.stepId
  holds : Holds record state
  member : step ∈ state.plan.steps
  found : state.step? step.id = some s
  phase : s.phase = .submitting
  arguments : s.arguments = some call.arguments
  submission : s.submission = some call.submission

/-- The record is that of the run the caller asked for. -/
structure Answers (record : RunRecord) (caller : TaskRouteCaller) (key : String) (data : Value) :
    Prop where
  caller : record.caller = caller
  runKey : record.runKey = key
  planSha256 : record.planSha256 = .ofJson (data.index "plan")

/-- Why an event could happen after its past. -/
def Reason : DriverEvent → List DriverEvent → Prop
  | ⟨_,.beginRun caller key data,.ok record⟩,past => Begun record past ∧ Answers record caller key data
  | ⟨_,.advanceRun old data kind,.ok next⟩,past => Continued old data kind next past
  | ⟨_,.submit call,_⟩,past => ∃ record state step s, Known record past ∧ Sent call record state step s
  | ⟨_,.recoverSubmission call,_⟩,past =>
      ∃ record state step s, Known record past ∧ Sent call record state step s
  | _,_ => True

structure Inv (w : DriverWorld) : Prop where
  history : Justified Reason w.trace
  represents : w.state.Represents (runsOf w.trace)

/-- The second record is the first, or a later version of the same run. -/
structure Before (r s : RunRecord) : Prop where
  continues : r.Continues s
  unique : s.version = r.version → s = r
  leads : ∀ a, Holds r a → ∃ b, Holds s b ∧ RunState.Leads a b

variable {r s t : RunRecord} {a b : RunState} {e : DriverEvent} {past trace : List DriverEvent}

omit [RmcpTexts] [SerdeJson.Bytes] in
theorem Holds.unique (first : Holds r a) (second : Holds r b) : a = b := by
  have there := RunState.decode_encode first.lawful.written
  have here := RunState.decode_encode second.lawful.written
  have same : toValue a = toValue b := first.data.symm.trans second.data
  rw [show a.encode = b.encode from same,here] at there
  exact (Option.some.inj there).symm

omit [RmcpTexts] [SerdeJson.Bytes] in
theorem Before.refl (r : RunRecord) : Before r r :=
  ⟨.refl r,fun _ => rfl,fun a holds => ⟨a,holds,.refl a⟩⟩

omit [RmcpTexts] [SerdeJson.Bytes] in
theorem Before.trans (first : Before r s) (second : Before s t) : Before r t where
  continues := first.continues.trans second.continues
  unique same := by
    have low := first.continues.version
    have high := second.continues.version
    have middle := second.unique (by omega)
    rw [middle] at same
    exact middle.trans (first.unique same)
  leads a holds := by
    obtain ⟨b,middle,leads⟩ := first.leads a holds
    obtain ⟨c,last,leads'⟩ := second.leads b middle
    exact ⟨c,last,leads.trans leads'⟩

theorem Continued.before {data : Value} {kind : String} (continued : Continued r data kind s past) :
    Before r s where
  continues := continued.advanced.continues
  unique same := by
    have later := continued.advanced.version
    omega
  leads a holds := by
    obtain ⟨before,after,first,second,saved⟩ := continued.saved
    cases holds.unique first
    exact ⟨after,second,(saved.lawful holds.lawful).2⟩

/-- Every commit has its reason. -/
theorem committed_reason (commits : committed e = some r) (reason : Reason e past) :
    Begun r past ∨ ∃ old data kind, Continued old data kind r past := by
  obtain ⟨i,op,reply⟩ := e
  cases op with
  | beginRun =>
    rcases reply with error | record
    · cases commits
    · cases commits
      exact .inl reason.1
  | advanceRun old data kind =>
    rcases reply with error | record
    · cases commits
    · cases commits
      exact .inr ⟨old,data,kind,reason⟩
  | _ => cases commits

/-- What every commit of a history hands on from a record to the one it continues. -/
structure Carried (related : RunRecord → RunRecord → Prop) (trace : List DriverEvent) : Prop where
  refl : ∀ r, related r r
  trans : ∀ r s t, related r s → related s t → related r t
  step : ∀ e past old data kind next, e :: past <:+ trace → committed e = some next →
    Continued old data kind next past → related old next

theorem Carried.suffix {related : RunRecord → RunRecord → Prop} (carried : Carried related trace)
    (earlier : past <:+ trace) : Carried related past :=
  ⟨carried.refl,carried.trans,fun e rest old data kind next occurs =>
    carried.step e rest old data kind next (occurs.trans earlier)⟩

theorem before_carried (trace : List DriverEvent) : Carried Before trace :=
  ⟨.refl,fun _ _ _ => .trans,fun _ _ _ _ _ _ _ _ continued => continued.before⟩

/-- One event: a run that is there is there after it, as it was or continued. -/
theorem runsOf_step {related : RunRecord → RunRecord → Prop} {id : String}
    (carried : Carried related (e :: past)) (reason : Reason e past)
    (found : runsOf past id = some r) : ∃ s, runsOf (e :: past) id = some s ∧ related r s := by
  cases commits : committed e with
  | none =>
    rw [runsOf_quiet commits]
    exact ⟨r,found,carried.refl r⟩
  | some s =>
    rw [runsOf_commits commits]
    by_cases same : id = s.runId
    · rw [same,Function.update_self]
      refine ⟨s,rfl,?_⟩
      rw [same] at found
      rcases committed_reason commits reason with begun | ⟨old,data,kind,continued⟩
      · cases begun with
        | existing stored =>
          rw [stored] at found
          cases found
          exact carried.refl _
        | accepted free =>
          rw [free] at found
          cases found
      · have stored := continued.stored
        rw [continued.advanced.continues.runId,stored] at found
        cases found
        exact carried.step _ _ _ _ _ _ List.suffix_rfl commits continued
    · rw [Function.update_of_ne same]
      exact ⟨r,found,carried.refl r⟩

theorem runsOf_later {related : RunRecord → RunRecord → Prop} {id : String}
    (carried : Carried related trace) (justified : Justified Reason trace)
    (earlier : past <:+ trace) (found : runsOf past id = some r) :
    ∃ s, runsOf trace id = some s ∧ related r s := by
  induction trace with
  | nil =>
    rw [List.suffix_nil.mp earlier] at found
    cases found
  | cons e rest ih =>
    rcases List.suffix_cons_iff.mp earlier with rfl | inside
    · exact ⟨r,found,carried.refl r⟩
    · obtain ⟨s,middle,first⟩ := ih (carried.suffix (List.suffix_cons _ _)) justified.2 inside
      obtain ⟨t,last,second⟩ := runsOf_step carried justified.1 middle
      exact ⟨t,last,carried.trans _ _ _ first second⟩

theorem Known.later (justified : Justified Reason trace) (known : Known r trace) :
    ∃ s, runsOf trace r.runId = some s ∧ Before r s := by
  obtain ⟨past,earlier,found⟩ := known
  exact runsOf_later (before_carried trace) justified earlier found

/-- Two records of one run are related in the order of their versions. -/
theorem Known.carried {related : RunRecord → RunRecord → Prop} (carried : Carried related trace)
    (justified : Justified Reason trace) (first : Known r trace) (second : Known s trace)
    (same : r.runId = s.runId) (order : r.version ≤ s.version) : related r s := by
  obtain ⟨past,earlier,found⟩ := first
  obtain ⟨rest,earlier',found'⟩ := second
  rcases List.suffix_or_suffix_of_suffix earlier earlier' with inside | inside
  · obtain ⟨t,there,before⟩ :=
      runsOf_later (carried.suffix earlier') (justified.suffix earlier') inside found
    rw [same,found'] at there
    cases there
    exact before
  · obtain ⟨t,there,before⟩ :=
      runsOf_later (before_carried past) (justified.suffix earlier) inside found'
    rw [← same,found] at there
    cases there
    have version := before.continues.version
    rw [before.unique (by omega)]
    exact carried.refl s

/-- Of two records of one run one comes before the other. -/
theorem Known.ordered (justified : Justified Reason trace) (first : Known r trace)
    (second : Known s trace) (same : r.runId = s.runId) : Before r s ∨ Before s r := by
  rcases Nat.le_total r.version s.version with order | order
  · exact .inl (first.carried (before_carried trace) justified second same order)
  · exact .inr (second.carried (before_carried trace) justified first same.symm order)

/-- What holds of every run that is accepted, and is handed on by every commit, holds of every
record. -/
theorem runsOf_established (fact : RunRecord → List DriverEvent → Prop) {id : String}
    (grows : ∀ r e past, fact r past → fact r (e :: past))
    (accepted : ∀ r e past plan acceptedAt, e :: past <:+ trace → committed e = some r →
      r.verifyIntegrity = .ok () → Holds r (.accepted plan acceptedAt) → fact r (e :: past))
    (continued : ∀ old data kind r e past, e :: past <:+ trace → committed e = some r →
      Continued old data kind r past → fact old past → fact r (e :: past))
    (justified : Justified Reason trace) (found : runsOf trace id = some r) : fact r trace := by
  induction trace generalizing id r with
  | nil => cases found
  | cons e past ih =>
    have later : past <:+ e :: past := List.suffix_cons _ _
    have before {id : String} {r : RunRecord} (found : runsOf past id = some r) : fact r past :=
      ih (fun r e rest plan acceptedAt occurs => accepted r e rest plan acceptedAt (occurs.trans later))
        (fun old data kind r e rest occurs => continued old data kind r e rest (occurs.trans later))
        justified.2 found
    cases commits : committed e with
    | none =>
      rw [runsOf_quiet commits] at found
      exact grows r e past (before found)
    | some s =>
      rw [runsOf_commits commits] at found
      by_cases same : id = s.runId
      · rw [same,Function.update_self] at found
        cases found
        rcases committed_reason commits justified.1 with begun | ⟨old,data,kind,next⟩
        · cases begun with
          | existing stored => exact grows r e past (before stored)
          | accepted _ _ integrity plan acceptedAt holds =>
            exact accepted r e past plan acceptedAt List.suffix_rfl commits integrity holds
        · exact continued old data kind r e past List.suffix_rfl commits next (before next.stored)
      · rw [Function.update_of_ne same] at found
        exact grows r e past (before found)

/-- Every record is intact and holds a state. -/
theorem runsOf_holds {id : String} (justified : Justified Reason trace)
    (found : runsOf trace id = some r) : r.verifyIntegrity = .ok () ∧ ∃ a, Holds r a := by
  apply runsOf_established (fun r _ => r.verifyIntegrity = .ok () ∧ ∃ a, Holds r a) ?_ ?_ ?_
    justified found
  · exact fun _ _ _ kept => kept
  · exact fun _ _ _ plan acceptedAt _ _ integrity holds => ⟨integrity,_,holds⟩
  · intro old data kind r e past _ _ continued _
    obtain ⟨_,after,_,holds,_⟩ := continued.saved
    exact ⟨continued.integrity,after,holds⟩

theorem Known.holds (justified : Justified Reason trace) (known : Known r trace) :
    r.verifyIntegrity = .ok () ∧ ∃ a, Holds r a := by
  obtain ⟨past,earlier,found⟩ := known
  exact runsOf_holds (justified.suffix earlier) found

end
end RunSystem
end GaugeMesh
