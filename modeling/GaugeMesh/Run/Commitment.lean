import GaugeMesh.Canonical
import GaugeMesh.Json.Reference
import GaugeMesh.Run.Record
import Mathlib.Data.List.Induction

/-! The digest of the last journal entry commits to the whole record: each event's digest to
the event and the one before it, the last event's state digest to every other field. -/
namespace GaugeMesh
open Json

section

variable [FloatText] [Sha256]

namespace RunEvent

/-- Events of one digest differ in their own digest field at most. -/
theorem digest_injective (hash : Function.Injective Sha256.digest) {e f : RunEvent}
    (same : e.digest = f.digest) : e.version = f.version ∧ e.kind = f.kind ∧
      e.stateSha256 = f.stateSha256 ∧ e.previousSha256 = f.previousSha256 := by
  have fields := canonical_fields (Sha256Digest.ofJson_injective hash _ _ same)
    (by simp) (by simp)
  have version := fields "version"
  have kind := fields "kind"
  have state := fields "stateSha256"
  have previous := fields "previousSha256"
  simp [toValue] at version kind state previous
  exact ⟨version,kind,Sha256Digest.toString_injective _ _ state,
    Sha256Digest.toString_injective _ _ previous⟩

end RunEvent

namespace RunRecord

theorem verifyJournal_concat (previous : Sha256Digest) (start : Nat) (journal : List RunEvent)
    (e : RunEvent) : verifyJournal previous start (journal ++ [e]) = .ok () ↔
      verifyJournal previous start journal = .ok () ∧ e.version = start + journal.length ∧
        e.previousSha256 = (journal.getLast?.map (·.eventSha256)).getD previous ∧
          e.digest = e.eventSha256 := by
  induction journal generalizing previous start with
  | nil => simp [verifyJournal,Except.then_ok,reject_ok,not_or]
  | cons head rest ih =>
    rw [List.cons_append,verifyJournal,verifyJournal,Except.then_ok,Except.then_ok,ih]
    have last : (((head :: rest).getLast?.map (·.eventSha256)).getD previous) =
        ((rest.getLast?.map (·.eventSha256)).getD head.eventSha256) := by
      rw [List.getLast?_cons]
      cases rest.getLast? <;> rfl
    rw [last,List.length_cons]
    constructor
    · rintro ⟨here,before,version,rest⟩
      exact ⟨⟨here,before⟩,by omega,rest⟩
    · rintro ⟨⟨here,before⟩,version,rest⟩
      exact ⟨here,before,by omega,rest⟩

/-- Two chains that end in one digest are one chain: the last events agree, and the digest
they name as previous is where the chains before them end. -/
theorem journal_injective (hash : Function.Injective Sha256.digest) {left right : List RunEvent}
    (verified : verifyJournal .default 0 left = .ok ())
    (verified' : verifyJournal .default 0 right = .ok ()) (nonempty : left ≠ [] ↔ right ≠ [])
    (last : left.getLast?.map (·.eventSha256) = right.getLast?.map (·.eventSha256)) :
    left = right := by
  induction left using List.reverseRecOn generalizing right with
  | nil => exact (not_not.mp (mt nonempty.mpr (by simp))).symm
  | append_singleton left e ih =>
    obtain ⟨right,f,rfl⟩ : ∃ before f, right = before ++ [f] :=
      List.eq_nil_or_concat' right |>.resolve_left (nonempty.mp (by simp))
    obtain ⟨before,version,previous,digest⟩ := (verifyJournal_concat ..).mp verified
    obtain ⟨before',version',previous',digest'⟩ := (verifyJournal_concat ..).mp verified'
    have events : e.eventSha256 = f.eventSha256 := by simpa using last
    obtain ⟨versions,kinds,states,previouses⟩ :=
      RunEvent.digest_injective hash (digest.trans (events.trans digest'.symm))
    have lengths : left.length = right.length := by omega
    have same : e = f := by
      cases e; cases f
      simp only at versions kinds states previouses events
      rw [versions,kinds,states,previouses,events]
    subst same
    rw [previous] at previous'
    have ends : left.getLast?.map (·.eventSha256) = right.getLast?.map (·.eventSha256) := by
      have empty : left = [] ↔ right = [] := by
        rw [← List.length_eq_zero_iff,← List.length_eq_zero_iff,lengths]
      rcases left.eq_nil_or_concat' with rfl | ⟨l,x,rfl⟩
      · rw [empty.mp rfl]
      · rcases right.eq_nil_or_concat' with rfl | ⟨r,y,rfl⟩
        · simp at lengths
        · simpa using previous'
    rw [ih before before' (by simp [← List.length_pos_iff,lengths]) ends]

/-- What the state digest commits to. -/
theorem stateDigest_injective (hash : Function.Injective Sha256.digest) {r s : RunRecord}
    (same : r.stateDigest = s.stateDigest) : r.schemaVersion = s.schemaVersion ∧
      r.runId = s.runId ∧ r.caller = s.caller ∧ r.runKey = s.runKey ∧
        r.planSha256 = s.planSha256 ∧ r.version = s.version ∧
          canonicalJson r.data = canonicalJson s.data := by
  have fields := canonical_fields (Sha256Digest.ofJson_injective hash _ _ same)
    (by simp) (by simp)
  have schema := fields "schemaVersion"
  have id := fields "runId"
  have caller := fields "caller"
  have key := fields "runKey"
  have plan := fields "planSha256"
  have version := fields "version"
  have data := fields "data"
  simp [toValue] at schema id caller key plan version data
  have owner := canonical_fields caller (by simp) (by simp)
  have principal := owner "principal"
  have tenant := owner "tenant"
  simp [toValue] at principal tenant
  exact ⟨schema,id,TaskRouteCaller.ext (PrincipalId.ext principal) (TenantId.ext tenant),key,
    Sha256Digest.toString_injective _ _ plan,version,data⟩

/-- Verified records whose last events have one digest are one record up to the order of the
keys in their data. -/
theorem last_event_commits (hash : Function.Injective Sha256.digest) {r s : RunRecord}
    (verified : r.verifyIntegrity = .ok ()) (verified' : s.verifyIntegrity = .ok ())
    (last : r.journal.getLast?.map (·.eventSha256) = s.journal.getLast?.map (·.eventSha256)) :
    r.journal = s.journal ∧ r.version = s.version ∧ r.runId = s.runId ∧ r.caller = s.caller ∧
      r.runKey = s.runKey ∧ r.planSha256 = s.planSha256 ∧
        canonicalJson r.data = canonicalJson s.data ∧
          (r.data.Distinct → s.data.Distinct → r.data.Reordered s.data) := by
  have nonempty : ∀ {t : RunRecord}, t.verifyIntegrity = .ok () → t.journal ≠ [] := by
    intro t checked empty
    have length := (verifyIntegrity_ok checked).length
    rw [empty] at length
    cases length
  have both := iff_of_true (nonempty verified) (nonempty verified')
  simp only [verifyIntegrity,Except.then_ok,reject_ok,not_not] at verified verified'
  obtain ⟨header,chain,state⟩ := verified
  obtain ⟨header',chain',state'⟩ := verified'
  have journals := journal_injective hash chain chain' both last
  rw [journals] at state
  have states := Option.some.inj (state.symm.trans state')
  obtain ⟨-,id,caller,key,plan,version,data⟩ := stateDigest_injective hash states
  exact ⟨journals,version,id,caller,key,plan,data,
    fun distinct distinct' => reordered_of_canonical _ _ distinct distinct' data⟩

end RunRecord

/-- A run with its first event. -/
def createdRun (data : Value) : RunRecord :=
  let r : RunRecord := {
    schemaVersion := runSchemaVersion
    runId := "gmr_1"
    caller := ⟨⟨"alice"⟩,⟨"tenant-a"⟩⟩
    runKey := "key"
    planSha256 := .ofJson (data.index "plan")
    version := 0
    data
    journal := [] }
  { r with journal := [r.event "accepted"] }

theorem created_run_verified (data : Value) (plan : (data.get "plan").isSome)
    (key : (data.index "plan").index "runKey" = .string "key") :
    (createdRun data).verifyIntegrity = .ok () := by
  obtain ⟨written,found⟩ := Option.isSome_iff_exists.mp plan
  have index : data.index "plan" = written := by simp [Value.index,found]
  rw [index] at key
  simp only [RunRecord.verifyIntegrity,Except.then_ok,reject_ok,not_or,not_not]
  refine ⟨⟨rfl,by simp [createdRun],by simp [createdRun],?_,?_⟩,?_,?_⟩
  · simp [createdRun,found,index]
  · simp [createdRun,index,key]
  · simp only [createdRun,RunRecord.verifyJournal,Except.then_ok,reject_ok,not_or,not_not]
    exact ⟨⟨rfl,rfl,RunEvent.sealed_digest _⟩,trivial⟩
  · simp [createdRun,RunRecord.event,RunEvent.sealed,RunRecord.stateDigest]

/-- The run at its second version. -/
def advancedRun (data next : Value) : RunRecord :=
  let r := { createdRun data with version := 1, data := next }
  { r with journal := r.journal ++ [r.event "cancellation_intent"] }

theorem advanced_run_verified (data next : Value) (plan : (data.get "plan").isSome)
    (key : (data.index "plan").index "runKey" = .string "key")
    (kept : next.get "plan" = data.get "plan") :
    (advancedRun data next).verifyIntegrity = .ok () := by
  have first := created_run_verified data plan key
  have index : next.index "plan" = data.index "plan" := by rw [Value.index,Value.index,kept]
  simp only [RunRecord.verifyIntegrity,Except.then_ok,reject_ok,not_or,not_not] at first ⊢
  obtain ⟨⟨schema,-,-,written,named⟩,chained,-⟩ := first
  refine ⟨⟨schema,show ¬1 > maxRunVersion by decide,rfl,?_,?_⟩,?_,?_⟩
  · rw [show (advancedRun data next).data = next from rfl,kept]
    exact written
  · rw [show (advancedRun data next).data = next from rfl,index]
    exact named
  · exact (RunRecord.verifyJournal_concat ..).mpr ⟨chained,rfl,rfl,RunEvent.sealed_digest _⟩
  · simp [advancedRun,RunRecord.event,RunEvent.sealed,RunRecord.stateDigest]

/-- The order of keys does not show in the digests. -/
theorem created_run_events {data data' : Value} (same : canonicalJson data = canonicalJson data')
    (plans : canonicalJson (data.index "plan") = canonicalJson (data'.index "plan")) :
    (createdRun data).journal = (createdRun data').journal := by
  simp [createdRun,RunRecord.event,RunRecord.stateDigest,Sha256Digest.ofJson,canonicalJson,
    canonicalEntries,same,plans]

theorem advanced_run_events {data data' next next' : Value}
    (same : canonicalJson data = canonicalJson data')
    (plans : canonicalJson (data.index "plan") = canonicalJson (data'.index "plan"))
    (later : canonicalJson next = canonicalJson next') :
    (advancedRun data next).journal = (advancedRun data' next').journal := by
  have first := created_run_events same plans
  have plan : (createdRun data).planSha256 = (createdRun data').planSha256 := by
    simp [createdRun,Sha256Digest.ofJson,plans]
  simp only [advancedRun,RunRecord.event,RunRecord.stateDigest,Sha256Digest.ofJson,canonicalJson,
    canonicalEntries,first,plan,later]
  rfl

end

section Example
open Reference

theorem last_event_commits_example :
    let plan := Value.object [("runKey",.string "key")]
    let accepted := Value.object [("plan",plan)]
    let left := advancedRun accepted (.object [("plan",plan),("steps",.array [])])
    let right := advancedRun accepted (.object [("steps",.array []),("plan",plan)])
    left.journal.length = 2 ∧ left ≠ right ∧ left.journal = right.journal ∧
      left.data.Reordered right.data := by
  intro plan accepted left right
  have verified : left.verifyIntegrity = .ok () := advanced_run_verified _ _ rfl rfl rfl
  have verified' : right.verifyIntegrity = .ok () := advanced_run_verified _ _ rfl rfl rfl
  have data : canonicalJson left.data = canonicalJson right.data := by
    have first : "plan" < "steps" := by decide
    have second : ¬"steps" < "plan" := by decide
    simp only [left,right,advancedRun,canonicalJson,canonicalEntries,Entries.collect,List.foldl,
      Entries.insert,if_pos first,if_neg second,String.reduceEq,if_false]
  have last : left.journal.getLast?.map (·.eventSha256) =
      right.journal.getLast?.map (·.eventSha256) :=
    congrArg (·.getLast?.map (·.eventSha256)) (advanced_run_events rfl rfl data)
  obtain ⟨journals,-,-,-,-,-,-,reordered⟩ :=
    RunRecord.last_event_commits Function.injective_id verified verified' last
  refine ⟨rfl,fun same => ?_,journals,reordered ?_ ?_⟩
  · simpa [left,right,advancedRun] using congrArg RunRecord.data same
  · simp [left,advancedRun,Value.Distinct,Value.DistinctEntries,Value.DistinctItems,plan]
  · simp [right,advancedRun,Value.Distinct,Value.DistinctEntries,Value.DistinctItems,plan]

end Example
end GaugeMesh
