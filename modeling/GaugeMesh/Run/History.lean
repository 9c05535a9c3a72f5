import GaugeMesh.Run.Exact

/-! Every history of `begin_run` and `advance_run`. Whatever is passed, forged or stale,
a call either changes nothing or adds one run or continues one run by its next version. -/
namespace GaugeMesh
open Json

/-- A later version of the same run: its journal only grows. -/
structure RunRecord.Continues (r s : RunRecord) : Prop where
  runId : s.runId = r.runId
  caller : s.caller = r.caller
  runKey : s.runKey = r.runKey
  planSha256 : s.planSha256 = r.planSha256
  plan : RunTable.samePlan (s.data.get "plan") (r.data.get "plan") = true
  version : r.version ≤ s.version
  journal : r.journal <+: s.journal

namespace RunTable

theorem samePlan_refl (plan : Option Value) : samePlan plan plan = true := by
  cases plan with
  | none => rfl
  | some v => exact v.same_refl

theorem samePlan_trans {a b c : Option Value} (first : samePlan a b = true)
    (second : samePlan b c = true) : samePlan a c = true := by
  cases a <;> cases b <;> cases c <;> simp only [samePlan,Bool.false_eq_true] at first second ⊢
  exact Value.same_trans first second

end RunTable

theorem RunRecord.Continues.refl (r : RunRecord) : r.Continues r :=
  ⟨rfl,rfl,rfl,rfl,RunTable.samePlan_refl _,le_rfl,List.prefix_rfl⟩

theorem RunRecord.Continues.trans {r s t : RunRecord} (first : r.Continues s)
    (second : s.Continues t) : r.Continues t where
  runId := second.runId.trans first.runId
  caller := second.caller.trans first.caller
  runKey := second.runKey.trans first.runKey
  planSha256 := second.planSha256.trans first.planSha256
  plan := RunTable.samePlan_trans second.plan first.plan
  version := first.version.trans second.version
  journal := first.journal.trans second.journal

/-- Every run is still there, as it was or continued. -/
def Runs.Later (before after : Runs) : Prop :=
  ∀ id r, before id = some r → ∃ s, after id = some s ∧ r.Continues s

theorem Runs.Later.refl (runs : Runs) : Later runs runs :=
  fun _ r found => ⟨r,found,.refl r⟩

theorem Runs.Later.trans {before middle after : Runs} (first : Later before middle)
    (second : Later middle after) : Later before after := by
  intro id r found
  obtain ⟨s,here,next⟩ := first id r found
  obtain ⟨t,there,last⟩ := second id s here
  exact ⟨t,there,next.trans last⟩

section Steps
variable [FloatText] [Sha256] {runs runs' : Runs}

/-- What an accepted advance makes of the run it continues. -/
structure RunRecord.Advanced (current : RunRecord) (data : Value) (kind : String)
    (next : RunRecord) : Prop where
  continues : current.Continues next
  version : next.version = current.version + 1
  data : next.data = data
  journal : ∃ event : RunEvent, next.journal = current.journal ++ [event] ∧ event.kind = kind ∧
    event.version = next.version

theorem RunRecord.advanced {current next : RunRecord} {data : Value} {kind : String}
    (plan : RunTable.samePlan (data.get "plan") (current.data.get "plan") = true)
    (made : append { current with version := current.version + 1, data } kind = .ok next) :
    current.Advanced data kind next := by
  obtain ⟨rfl,-⟩ := append_ok.mp made
  refine ⟨⟨rfl,rfl,rfl,rfl,plan,Nat.le_succ _,List.prefix_append _ _⟩,rfl,rfl,_,rfl,rfl,rfl⟩

theorem Runs.Begin.later (step : Begin fresh caller key data runs answer runs') :
    Later runs runs' := by
  cases step with
  | existing => exact .refl runs
  | refused => exact .refl runs
  | accepted _ free =>
    intro id r found
    have other : id ≠ fresh := by
      rintro rfl
      rw [free] at found; cases found
    exact ⟨r,by rwa [Function.update_of_ne other],.refl r⟩

theorem Runs.Advance.later (step : Advance old data kind runs answer runs') :
    Later runs runs' := by
  cases step with
  | refused => exact .refl runs
  | advanced stored _ _ plan made =>
    intro id r found
    by_cases same : id = old.runId
    · subst same
      rw [stored] at found; cases found
      exact ⟨_,Function.update_self ..,(RunRecord.advanced plan made).continues⟩
    · exact ⟨r,by rwa [Function.update_of_ne same],.refl r⟩

end Steps

inductive RunOperation where
  | beginRun (fresh : String) (caller : TaskRouteCaller) (runKey : String) (data : Value)
  | advanceRun (old : RunRecord) (data : Value) (kind : String)

def RunOperation.data : RunOperation → Value
  | beginRun _ _ _ data => data
  | advanceRun _ data _ => data

section
variable [SerdeJson] [Sha256]

namespace RunOperation

/-- The text of the run's data reads back as the same data. -/
def RoundTrips (operation : RunOperation) : Prop :=
  SerdeJson.fromStr (String.ofList operation.data.text) = some operation.data

omit [Sha256] in
theorem RoundTrips.shallow {operation : RunOperation} (exact' : operation.RoundTrips) :
    operation.data.depth ≤ SerdeJson.recursionLimit := by
  unfold RoundTrips at exact'
  rw [SerdeJson.fromStr_text] at exact'
  by_contra deep
  rw [if_neg deep] at exact'; cases exact'

def perform : RunOperation → RunTable → Except RunError RunRecord × RunTable
  | beginRun fresh caller runKey data => RunTable.beginRun fresh caller runKey data
  | advanceRun old data kind => RunTable.advanceRun old data kind

/-- The table after a history of calls. -/
def performAll : List RunOperation → RunTable → RunTable
  | [],table => table
  | operation :: rest,table => performAll rest (operation.perform table).2

end RunOperation

namespace RunTable

/-- What a table is known to hold: the runs it represents, none of them nested
deeper than the reader allows, and not too many. -/
structure Holds (table : RunTable) (runs : Runs) : Prop where
  rep : table.Represents runs
  shallow : ∀ id r, runs id = some r → r.data.depth ≤ SerdeJson.recursionLimit
  capacity : table.runs.length ≤ maxStoredRuns

theorem Holds.empty : Holds empty fun _ => none :=
  ⟨.empty,nofun,Nat.zero_le _⟩

omit [Sha256] in
theorem insertEvent_runs {r : RunRecord} {table after : RunTable}
    (inserted : insertEvent r table = .ok after) : after.runs = table.runs := by
  obtain ⟨last,-,rest⟩ := okOr_bind_ok.mp inserted
  unfold insertJournal at rest
  split at rest
  · cases rest; rfl
  · cases rest

/-- A new row only goes into a table that is not full. -/
theorem beginRun_capacity {table : RunTable} (fresh : String) (caller : TaskRouteCaller)
    (key : String) (data : Value) (capacity : table.runs.length ≤ maxStoredRuns) :
    (beginRun fresh caller key data table).2.runs.length ≤ maxStoredRuns := by
  unfold beginRun atomically
  split
  · next record after ran =>
    rw [Except.then_ok] at ran
    obtain ⟨-,ran⟩ := ran
    split at ran
    · obtain ⟨found,-,rest⟩ := Except.bind_ok.mp ran
      obtain ⟨x,-,checks⟩ := okOr_bind_ok.mp rest
      rw [Except.then_ok] at checks
      cases checks.2
      exact capacity
    · rw [Except.then_ok,reject_ok,not_le] at ran
      obtain ⟨x,-,inserts⟩ := Except.bind_ok.mp ran.2
      obtain ⟨inserted,first,rest⟩ := Except.bind_ok.mp inserts
      obtain ⟨last,second,done⟩ := Except.bind_ok.mp rest
      cases done
      unfold insertRun at first
      split at first
      · cases first
        rw [insertEvent_runs second,List.length_cons]
        exact ran.1
      · cases first
  · exact capacity

theorem advanceRun_capacity {table : RunTable} (old : RunRecord) (data : Value) (kind : String) :
    (advanceRun old data kind table).2.runs.length = table.runs.length := by
  unfold advanceRun atomically
  split
  · next record after ran =>
    obtain ⟨found,-,rest⟩ := Except.bind_ok.mp ran
    obtain ⟨current,-,checks⟩ := okOr_bind_ok.mp rest
    simp only [Except.then_ok] at checks
    obtain ⟨next,-,writes⟩ := Except.bind_ok.mp checks.2.2
    rw [Except.then_ok] at writes
    obtain ⟨last,second,done⟩ := Except.bind_ok.mp writes.2
    cases done
    rw [insertEvent_runs second]
    exact List.length_map ..
  · rfl

/-- One call: the table still holds runs, and the runs it held are continued. -/
theorem Holds.perform {table : RunTable} {runs : Runs} (holds : Holds table runs)
    (operation : RunOperation) (value : operation.RoundTrips) :
    ∃ runs', Holds (operation.perform table).2 runs' ∧ Runs.Later runs runs' := by
  have shallow := value.shallow
  cases operation with
  | beginRun fresh caller key data =>
    obtain ⟨runs',rep,step⟩ := holds.rep.begin fresh caller key data
    refine ⟨runs',⟨rep,?_,beginRun_capacity fresh caller key data holds.capacity⟩,step.later⟩
    generalize (beginRun fresh caller key data table).1 = answer at step
    cases step with
    | existing => exact holds.shallow
    | refused => exact holds.shallow
    | accepted _ _ made =>
      obtain ⟨rfl,-⟩ := RunRecord.append_ok.mp made
      intro id r found
      by_cases same : id = fresh
      · subst same
        rw [Function.update_self] at found; cases found
        exact shallow
      · rw [Function.update_of_ne same] at found
        exact holds.shallow id r found
  | advanceRun old data kind =>
    obtain ⟨runs',rep,step⟩ := holds.rep.advance old data kind
    have capacity := (advanceRun_capacity old data kind).trans_le holds.capacity
    refine ⟨runs',⟨rep,?_,capacity⟩,step.later⟩
    generalize (advanceRun old data kind table).1 = answer at step
    cases step with
    | refused => exact holds.shallow
    | advanced _ _ _ _ made =>
      obtain ⟨rfl,-⟩ := RunRecord.append_ok.mp made
      intro id r found
      by_cases same : id = old.runId
      · subst same
        rw [Function.update_self] at found; cases found
        exact shallow
      · rw [Function.update_of_ne same] at found
        exact holds.shallow id r found

theorem Holds.performAll {table : RunTable} {runs : Runs} (operations : List RunOperation)
    (holds : Holds table runs) (values : ∀ operation ∈ operations, operation.RoundTrips) :
    ∃ runs', Holds (RunOperation.performAll operations table) runs' ∧ Runs.Later runs runs' := by
  induction operations generalizing table runs with
  | nil => exact ⟨runs,holds,.refl runs⟩
  | cons operation rest ih =>
    obtain ⟨middle,next,first⟩ := holds.perform operation (values operation List.mem_cons_self)
    obtain ⟨last,final,second⟩ := ih next fun other member =>
      values other (List.mem_cons_of_mem _ member)
    exact ⟨last,final,first.trans second⟩

/-- What every table has to be: each run loads and verifies, its journal has one entry
for each version, at most one run holds a caller's key, and there is a bound on the runs. -/
structure Consistent (table : RunTable) : Prop where
  loads : ∀ row ∈ table.runs, ∃ r, table.load ⟨⟨row.principal⟩,⟨row.tenant⟩⟩ row.runId =
    .ok (some r) ∧ r.verifyIntegrity = .ok () ∧ r.version = row.version ∧ r.runKey = row.runKey
  journal : ∀ row ∈ table.runs, ((table.journal.filter fun event => event.runId = row.runId).map
    (·.version)) = List.range (row.version + 1) ∧ row.version + 1 ≤ 513
  keys : table.runs.Pairwise fun a b =>
    (a.principal,a.tenant,a.runKey) ≠ (b.principal,b.tenant,b.runKey)
  capacity : table.runs.length ≤ 128

/-- A stored run is read back. -/
theorem Holds.load {table : RunTable} {runs : Runs} {id : String} {r : RunRecord}
    (holds : Holds table runs) (found : runs id = some r) :
    table.load r.caller id = .ok (some r) := by
  rw [holds.rep.load found,if_pos (holds.shallow id r found)]

/-- The entries of a verified journal are numbered from zero. -/
theorem journal_versions {r : RunRecord} (verified : RunRecord.Verified r) (id : String) :
    (r.journal.map (storedEvent id)).map (·.version) = List.range (r.version + 1) := by
  refine List.ext_getElem? fun i => ?_
  rw [List.map_map,List.getElem?_map]
  by_cases bound : i < r.journal.length
  · have version := verified.versions i _ (List.getElem?_eq_getElem bound)
    rw [List.getElem?_eq_getElem bound,List.getElem?_range (verified.length ▸ bound)]
    exact congrArg some version
  · rw [List.getElem?_eq_none (Nat.le_of_not_lt bound),List.getElem?_eq_none]
    · rfl
    · rw [List.length_range,← verified.length]
      exact Nat.le_of_not_lt bound

theorem Holds.consistent {table : RunTable} {runs : Runs} (holds : Holds table runs) :
    Consistent table := by
  refine ⟨?_,?_,table.uniqueRuns.imp fun distinct => distinct.2,holds.capacity⟩
  · intro row member
    obtain ⟨r,found,rfl⟩ := (holds.rep.rows row).mp member
    exact ⟨r,holds.load found,holds.rep.verified _ r found,rfl,rfl⟩
  · intro row member
    obtain ⟨r,found,rfl⟩ := (holds.rep.rows row).mp member
    have verified := RunRecord.verifyIntegrity_ok (holds.rep.verified _ r found)
    refine ⟨?_,Nat.succ_le_succ verified.version⟩
    rw [holds.rep.events,show (stored r).runId = r.runId from rfl,found,Option.map_some,
      Option.getD_some]
    exact journal_versions verified r.runId

/-- Two calls that start from one version: the second is refused and changes nothing. -/
theorem stale_advance_refused {data : Value} (plan : (data.get "plan").isSome)
    (key : (data.index "plan").index "runKey" = .string "key")
    (same : samePlan (data.get "plan") (data.get "plan") = true)
    (small : data.byteLength ≤ maxRunDocumentBytes)
    (shallow : data.depth ≤ SerdeJson.recursionLimit) (kind : String) :
    let first := createdRun data
    let begins := RunOperation.beginRun first.runId first.caller first.runKey data
    let advances := RunOperation.advanceRun first data "cancellation_intent"
    let stale := RunOperation.advanceRun first data kind
    let table := RunOperation.performAll [begins,advances] .empty
    table.load first.caller first.runId = .ok (some (advancedRun data data)) ∧
      ∃ error, (stale.perform table).1 = .error error := by
  intro first begins advances stale table
  have object : (data.index "plan").isObject := by
    cases written : data.index "plan" with
    | object => rfl
    | _ => rw [written] at key; cases key
  have named : ¬("key".isEmpty ∨ "key".utf8ByteSize > 128 ∨ ¬(data.index "plan").isObject) := by
    rw [object]
    decide
  obtain ⟨after,begun⟩ : ∃ after, beginRun first.runId first.caller first.runKey data
      .empty = (.ok first,after) :=
    Represents.empty.begin_accepts named nofun rfl (by decide)
      (created_run_appended plan key small)
  obtain ⟨runs,rep,stored⟩ := Represents.empty.begun (fun _ => rfl) begun
  obtain ⟨last,advanced⟩ := rep.advance_accepts stored rfl rfl shallow same
    (advanced_run_appended plan key rfl small)
  obtain ⟨runs',rep',latest⟩ := rep.advanced advanced
  have ends : table = last := by
    simp only [table,begins,advances,RunOperation.performAll,RunOperation.perform]
    rw [begun,advanced]
  rw [ends]
  exact ⟨rep'.load_iff.mpr ⟨latest,rfl,shallow⟩,rep'.stale latest one_ne_zero⟩

/-- After any history of calls the table is consistent; a call that fails changes nothing,
one that advances a run starts from its latest version, and every run that can be loaded
is continued by what is loaded for it later. -/
theorem run_store_invariant (operations : List RunOperation)
    (values : ∀ operation ∈ operations, operation.RoundTrips) :
    let table := RunOperation.performAll operations empty
    Consistent table ∧
    (∀ (operation : RunOperation) error, (operation.perform table).1 = .error error →
      (operation.perform table).2 = table) ∧
    (∀ old data kind next, (RunOperation.advanceRun old data kind).RoundTrips →
      (advanceRun old data kind table).1 = .ok next →
        ∃ current, table.load old.caller old.runId = .ok (some current) ∧
          current.version = old.version ∧ current.Advanced data kind next ∧
          (advanceRun old data kind table).2.load old.caller old.runId = .ok (some next)) ∧
    (∀ later : List RunOperation, (∀ operation ∈ later, operation.RoundTrips) →
      ∀ caller id r, table.load caller id = .ok (some r) →
        ∃ s, (RunOperation.performAll later table).load caller id = .ok (some s) ∧
          r.Continues s) := by
  intro table
  obtain ⟨runs,holds,-⟩ := Holds.empty.performAll operations values
  refine ⟨holds.consistent,?_,?_,?_⟩
  · intro operation error failed
    cases operation with
    | beginRun => exact atomically_error failed
    | advanceRun => exact atomically_error failed
  · intro old data kind next value advanced
    obtain ⟨after,rep,step⟩ := holds.rep.advance old data kind
    rw [advanced] at step
    cases step with
    | @advanced current _ stored owner fresh plan made =>
      have moved := RunRecord.advanced plan made
      refine ⟨current,owner ▸ holds.load stored,fresh,moved,?_⟩
      rw [← owner,← moved.continues.caller,rep.load (Function.update_self ..),if_pos]
      exact moved.data ▸ value.shallow
  · intro later exact' caller id r read
    obtain ⟨last,final,continued⟩ := holds.performAll later exact'
    obtain ⟨found,rfl⟩ := holds.rep.load_ok read
    obtain ⟨s,there,next⟩ := continued id r found
    exact ⟨s,next.caller ▸ final.load there,next⟩

end RunTable

end

section Example
open Reference

/-- Two calls that start from one version: the second is refused and changes nothing. -/
theorem run_store_invariant_example :
    let data := Value.object [("plan",.object [("runKey",.string "key")])]
    let first := createdRun data
    let begins := RunOperation.beginRun first.runId first.caller first.runKey data
    let advances := RunOperation.advanceRun first data "cancellation_intent"
    let stale := RunOperation.advanceRun first data "step_submitting"
    let table := RunOperation.performAll [begins,advances] .empty
    RunTable.Consistent table ∧
      table.load first.caller first.runId = .ok (some (advancedRun data data)) ∧
      (∃ error, (stale.perform table).1 = .error error) ∧ (stale.perform table).2 = table := by
  intro data first begins advances stale table
  have small : data.byteLength ≤ maxRunDocumentBytes := by decide
  have shallow : data.depth ≤ SerdeJson.recursionLimit := by decide
  have exact' : ∀ operation ∈ [begins,advances], operation.RoundTrips := by
    intro operation member
    have same : operation.data = data := by
      rcases List.mem_pair.mp member with rfl | rfl <;> rfl
    unfold RunOperation.RoundTrips
    rw [same]
    exact (SerdeJson.fromStr_text _).trans (if_pos shallow)
  obtain ⟨loaded,error,failed⟩ :=
    RunTable.stale_advance_refused rfl rfl (by decide) small shallow "step_submitting"
  obtain ⟨consistent,unchanged,-,-⟩ := RunTable.run_store_invariant _ exact'
  exact ⟨consistent,loaded,⟨error,failed⟩,unchanged stale error failed⟩

end Example
end GaugeMesh
