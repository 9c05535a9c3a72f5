import GaugeMesh.Run.Commitment
import GaugeMesh.Run.Runs

/-! When the run store accepts: a table that represents runs answers exactly what the runs say, but
for a document that is nested too deep to be read again. -/
namespace GaugeMesh
open Json

theorem atomically_ok {run : σ → Except ε (α × σ)} {s after : σ} {a : α} :
    atomically run s = (.ok a,after) ↔ run s = .ok (a,after) := by
  rw [atomically]
  split <;> simp_all

theorem atomically_answer {run : σ → Except ε (α × σ)} {s : σ} {a : α} :
    (atomically run s).1 = .ok a ↔ ∃ after, run s = .ok (a,after) := by
  rw [atomically]
  split <;> simp_all

namespace RunRecord

variable [FloatText] [Sha256] {r : RunRecord} {data : Value} {kind : String}

/-- What a record says beside its journal. -/
structure Headed (r : RunRecord) : Prop where
  schema : r.schemaVersion = runSchemaVersion
  version : r.version ≤ maxRunVersion
  plan : (r.data.get "plan").map Sha256Digest.ofJson = some r.planSha256
  key : (r.data.index "plan").index "runKey" = .string r.runKey

/-- One more event completes a chain of the right length. -/
theorem append_makes (headed : r.Headed) (length : r.journal.length = r.version)
    (chained : verifyJournal .default 0 r.journal = .ok ())
    (named : kind.utf8ByteSize ≤ maxRunEventKindBytes)
    (small : r.data.byteLength ≤ maxRunDocumentBytes) :
    r.append kind = .ok { r with journal := r.journal ++ [r.event kind] } := by
  refine append_ok.mpr ⟨rfl,?_,named,small⟩
  simp only [verifyIntegrity,Except.then_ok,reject_ok,not_or,not_not,not_lt]
  refine ⟨⟨headed.schema,headed.version,?_,headed.plan,headed.key⟩,?_,?_⟩
  · rw [List.length_append,length]
    rfl
  · refine (verifyJournal_concat ..).mpr ⟨chained,?_,rfl,RunEvent.sealed_digest _⟩
    change r.version = 0 + r.journal.length
    rw [length,Nat.zero_add]
  · have digest : (r.event kind).stateSha256 = r.stateDigest := rfl
    rw [List.getLast?_append_cons,List.getLast?_singleton,Option.map_some,digest]
    rfl

/-- The next version of a verified record, with the same plan. -/
theorem append_next (verified : r.verifyIntegrity = .ok ()) (room : r.version < maxRunVersion)
    (plan : (data.get "plan").map Sha256Digest.ofJson = some r.planSha256)
    (key : (data.index "plan").index "runKey" = .string r.runKey)
    (named : kind.utf8ByteSize ≤ maxRunEventKindBytes)
    (small : data.byteLength ≤ maxRunDocumentBytes) :
    ∃ next, append { r with version := r.version + 1, data } kind = .ok next := by
  have sound := verifyIntegrity_ok verified
  simp only [verifyIntegrity,Except.then_ok] at verified
  exact ⟨_,append_makes (r := { r with version := r.version + 1, data })
    ⟨sound.schema,room,plan,key⟩ sound.length verified.2.1 named small⟩

end RunRecord

namespace RunTable

variable [SerdeJson] [Sha256] {table : RunTable} {runs : Runs} {caller : TaskRouteCaller}
  {r : RunRecord} {key kind fresh i : String} {data : Value}

omit [Sha256] in
theorem insertEvent_makes (table : RunTable) (front : List RunEvent) (e : RunEvent)
    (journal : r.journal = front ++ [e])
    (fits : ∀ other ∈ table.journal, other.Distinct ⟨r.runId,r.version,String.ofList e.encode.text⟩) :
    ∃ after, insertEvent r table = .ok after := by
  have last : r.journal.getLast? = some e := by rw [journal,List.getLast?_concat]
  rw [insertEvent,last]
  exact ⟨_,dif_pos fits⟩

namespace Represents

/-- A read gives back the run where the caller owns it. -/
theorem load_iff (rep : Represents table runs) : table.load caller i = .ok (some r) ↔
    runs i = some r ∧ r.caller = caller ∧ r.data.depth ≤ SerdeJson.recursionLimit := by
  constructor
  · intro read
    obtain ⟨found,rfl⟩ := rep.load_ok read
    rw [rep.load found] at read
    split at read
    · next shallow => exact ⟨found,rfl,shallow⟩
    · cases read
  · rintro ⟨found,rfl,shallow⟩
    rw [rep.load found,if_pos shallow]

/-- The events of a run are those of its journal, each once. -/
theorem event_fits (rep : Represents table runs) {version : Nat} {event : String}
    (new : ∀ r, runs i = some r → r.journal.length ≤ version) :
    ∀ other ∈ table.journal, other.Distinct ⟨i,version,event⟩ := by
  intro other member same
  obtain ⟨runId,number⟩ := Prod.mk.inj same
  have listed : other ∈ table.journal.filter fun row => row.runId = i :=
    List.mem_filter.mpr ⟨member,decide_eq_true runId⟩
  rw [rep.events i] at listed
  cases found : runs i with
  | none =>
    rw [found] at listed
    cases listed
  | some r =>
    rw [found] at listed
    obtain ⟨e,there,rfl⟩ := List.mem_map.mp listed
    obtain ⟨n,bound,rfl⟩ := List.getElem_of_mem there
    have verified := RunRecord.verifyIntegrity_ok (rep.verified i r found)
    have numbered := verified.versions n _ (List.getElem?_eq_getElem bound)
    have room := new r found
    change r.journal[n].version = version at number
    omega

/-- An advance of the latest version is accepted. -/
theorem advance_accepts (rep : Represents table runs) {old current next : RunRecord}
    (stored : runs old.runId = some current) (owner : current.caller = old.caller)
    (latest : current.version = old.version)
    (shallow : current.data.depth ≤ SerdeJson.recursionLimit)
    (plan : samePlan (data.get "plan") (current.data.get "plan") = true)
    (made : RunRecord.append { current with version := current.version + 1, data } kind = .ok next) :
    ∃ after, advanceRun old data kind table = (.ok next,after) := by
  have read : table.load old.caller old.runId = .ok (some current) :=
    rep.load_iff.mpr ⟨stored,owner,shallow⟩
  obtain ⟨shape,-⟩ := RunRecord.append_ok.mp made
  have runId : next.runId = old.runId := by
    rw [shape]
    exact rep.id _ current stored
  have version : next.version = current.version + 1 := by rw [shape]
  let condition := fun (row : StoredRun) => row.runId == next.runId && row.version == old.version
  have chosen : ∀ row ∈ table.runs, condition row = true ↔ row = RunTable.stored current := by
    intro row member
    obtain ⟨s,here,rfl⟩ := (rep.rows row).mp member
    rw [Bool.and_eq_true,beq_iff_eq,beq_iff_eq,runId]
    constructor
    · rintro ⟨same,-⟩
      change s.runId = old.runId at same
      rw [same,stored] at here
      cases here
      rfl
    · intro same
      rw [same]
      exact ⟨rep.id _ current stored,latest⟩
  have one : (table.runs.filter condition).length = 1 := by
    have member := rep.member stored
    have nodup : table.runs.Nodup := table.uniqueRuns.imp fun distinct same =>
      distinct.1 (congrArg StoredRun.runId same)
    have only : table.runs.filter condition =
        table.runs.filter fun row => decide (row = RunTable.stored current) :=
      List.filter_congr fun row there => by
        rw [Bool.eq_iff_iff,chosen row there,decide_eq_true_iff]
    rw [only,← List.countP_eq_length_filter]
    exact List.count_eq_one_of_mem nodup member
  obtain ⟨after,inserted⟩ := insertEvent_makes
    (table.update condition (String.ofList next.data.text) next.version) current.journal
    (RunRecord.event _ kind) (show next.journal = _ by rw [shape]) (by
      rw [runId]
      refine rep.event_fits fun r found => ?_
      rw [stored] at found
      cases found
      rw [version,(RunRecord.verifyIntegrity_ok (rep.verified _ current stored)).length])
  refine ⟨after,atomically_ok.mpr ?_⟩
  refine Except.bind_ok.mpr ⟨_,read,?_⟩
  refine okOr_bind_ok.mpr ⟨current,rfl,?_⟩
  simp only [Except.then_ok,reject_ok,not_not]
  refine ⟨latest,plan,Except.bind_ok.mpr ⟨next,made,?_⟩⟩
  simp only [Except.then_ok,reject_ok,not_not]
  exact ⟨one,Except.bind_ok.mpr ⟨after,inserted,rfl⟩⟩

/-- An advance is accepted if and only if it starts from the latest version, keeps the plan and
makes a record that verifies. -/
theorem advance_iff (rep : Represents table runs) {old next : RunRecord} :
    (advanceRun old data kind table).1 = .ok next ↔
      ∃ current, runs old.runId = some current ∧ current.caller = old.caller ∧
        current.version = old.version ∧ current.data.depth ≤ SerdeJson.recursionLimit ∧
        samePlan (data.get "plan") (current.data.get "plan") = true ∧
        RunRecord.append { current with version := current.version + 1, data } kind = .ok next := by
  constructor
  · intro answered
    obtain ⟨after,ran⟩ := atomically_answer.mp answered
    obtain ⟨found,read,rest⟩ := Except.bind_ok.mp ran
    obtain ⟨current,rfl,checks⟩ := okOr_bind_ok.mp rest
    simp only [Except.then_ok,reject_ok,not_not] at checks
    obtain ⟨latest,plan,appends⟩ := checks
    obtain ⟨made,appended,writes⟩ := Except.bind_ok.mp appends
    simp only [Except.then_ok] at writes
    obtain ⟨last,-,done⟩ := Except.bind_ok.mp writes.2
    cases done
    obtain ⟨stored,owner,shallow⟩ := rep.load_iff.mp read
    exact ⟨current,stored,owner,latest,shallow,plan,appended⟩
  · rintro ⟨current,stored,owner,latest,shallow,plan,made⟩
    obtain ⟨after,ran⟩ := rep.advance_accepts stored owner latest shallow plan made
    rw [ran]

theorem find_none (rep : Represents table runs)
    (new : ∀ id r, runs id = some r → ¬(r.caller = caller ∧ r.runKey = key)) :
    table.runs.find? (heldBy caller key) = none := by
  rcases selected : table.runs.find? (heldBy caller key) with _ | row
  · rfl
  · obtain ⟨r,here,-,held⟩ := rep.find_held selected
    exact absurd held (new _ r here)

theorem insertRun_makes (rep : Represents table runs) (free : runs r.runId = none)
    (new : ∀ id s, runs id = some s → ¬(s.caller = r.caller ∧ s.runKey = r.runKey)) :
    ∃ after, table.insertRun (stored r) = .ok after ∧ after.journal = table.journal := by
  have fits : ∀ other ∈ table.runs, (stored r).Distinct other := by
    intro other member
    obtain ⟨s,here,rfl⟩ := (rep.rows other).mp member
    refine ⟨fun same => ?_,fun same => new _ s here ?_⟩
    · rw [show s.runId = r.runId from same.symm,free] at here
      cases here
    · obtain ⟨principal,rest⟩ := Prod.mk.inj same
      obtain ⟨tenant,key⟩ := Prod.mk.inj rest
      exact ⟨TaskRouteCaller.ext (PrincipalId.ext principal.symm) (TenantId.ext tenant.symm),key.symm⟩
  rw [insertRun,dif_pos fits]
  exact ⟨_,rfl,rfl⟩

/-- A run under a new key is accepted while there is room. -/
theorem begin_accepts (rep : Represents table runs) {record : RunRecord}
    (named : ¬(key.isEmpty ∨ key.utf8ByteSize > 128 ∨ ¬(data.index "plan").isObject))
    (new : ∀ id r, runs id = some r → ¬(r.caller = caller ∧ r.runKey = key))
    (free : runs fresh = none) (room : table.runs.length < maxStoredRuns)
    (made : RunRecord.append
      ⟨runSchemaVersion,fresh,caller,key,.ofJson (data.index "plan"),0,data,[]⟩ "accepted" =
        .ok record) :
    ∃ after, beginRun fresh caller key data table = (.ok record,after) := by
  obtain ⟨shape,-⟩ := RunRecord.append_ok.mp made
  obtain ⟨inserted,first,journal⟩ := rep.insertRun_makes (r := record) (by rw [shape]; exact free)
    (by rw [shape]; exact new)
  obtain ⟨after,second⟩ := insertEvent_makes inserted [] (RunRecord.event _ "accepted")
    (show record.journal = _ by rw [shape]) (by
      rw [journal]
      have runId : record.runId = fresh := by rw [shape]
      rw [runId]
      exact rep.event_fits fun r found => by rw [free] at found; cases found)
  refine ⟨after,atomically_ok.mpr ?_⟩
  refine Except.then_ok.mpr ⟨(reject_ok _ _).mpr named,?_⟩
  dsimp only
  rw [rep.find_none new]
  refine Except.then_ok.mpr ⟨(reject_ok _ _).mpr (Nat.not_le.mpr room),?_⟩
  refine Except.bind_ok.mpr ⟨record,made,?_⟩
  exact Except.bind_ok.mpr ⟨inserted,first,Except.bind_ok.mpr ⟨after,second,rfl⟩⟩

/-- The row of a key is that of its run. -/
theorem held_found (rep : Represents table runs) (stored : runs i = some r)
    (owner : r.caller = caller) (held : r.runKey = key) :
    table.runs.find? (heldBy caller key) = some (RunTable.stored r) := by
  have taken : heldBy caller key (RunTable.stored r) = true := heldBy_stored.mpr ⟨owner,held⟩
  obtain ⟨row,selected⟩ : ∃ row, table.runs.find? (heldBy caller key) = some row := by
    rw [← Option.isSome_iff_exists,List.find?_isSome]
    exact ⟨_,rep.member stored,taken⟩
  have here : row = RunTable.stored r := by
    by_contra different
    have distinct := table.uniqueRuns.forall (List.mem_of_find?_eq_some selected)
      (rep.member stored) different
    obtain ⟨s,-,rfl,owner',held'⟩ := rep.find_held selected
    apply distinct.2
    change (s.caller.principal.text,s.caller.tenant.text,s.runKey) =
      (r.caller.principal.text,r.caller.tenant.text,r.runKey)
    rw [owner,owner',held,held']
  rw [selected,here]

/-- A run is found by its key where it can be read. -/
theorem find_iff (rep : Represents table runs) : table.findRun caller key = .ok (some r) ↔
    runs r.runId = some r ∧ r.caller = caller ∧ r.runKey = key ∧
      r.data.depth ≤ SerdeJson.recursionLimit := by
  have reads (stored : runs r.runId = some r) (owner : r.caller = caller) (held : r.runKey = key) :
      table.findRun caller key = table.load caller r.runId := by
    rw [findRun,rep.held_found stored owner held]
    rfl
  constructor
  · intro found
    obtain ⟨stored,owner,held⟩ := rep.findRun_ok found
    rw [reads stored owner held] at found
    exact ⟨stored,owner,held,(rep.load_iff.mp found).2.2⟩
  · rintro ⟨stored,owner,held,shallow⟩
    rw [reads stored owner held]
    exact rep.load_iff.mpr ⟨stored,owner,shallow⟩

/-- A run under a key that is taken is given back where its plan is the same. -/
theorem begin_existing (rep : Represents table runs)
    (named : ¬(key.isEmpty ∨ key.utf8ByteSize > 128 ∨ ¬(data.index "plan").isObject))
    (stored : runs i = some r) (owner : r.caller = caller) (held : r.runKey = key)
    (shallow : r.data.depth ≤ SerdeJson.recursionLimit)
    (plan : r.planSha256 = .ofJson (data.index "plan")) :
    beginRun fresh caller key data table = (.ok r,table) := by
  have same := rep.id i r stored
  have read : table.load caller r.runId = .ok (some r) :=
    rep.load_iff.mpr ⟨same ▸ stored,owner,shallow⟩
  apply atomically_ok.mpr
  refine Except.then_ok.mpr ⟨(reject_ok _ _).mpr named,?_⟩
  dsimp only
  rw [rep.held_found stored owner held]
  refine Except.bind_ok.mpr ⟨some r,read,okOr_bind_ok.mpr ⟨r,rfl,?_⟩⟩
  exact Except.then_ok.mpr ⟨(reject_ok _ _).mpr (not_not.mpr plan),rfl⟩

/-- A submission is accepted if and only if it is well-formed, and its key is new and there is room
for its run, or the run of its key has its plan. -/
theorem begin_iff (rep : Represents table runs) {record : RunRecord} :
    (beginRun fresh caller key data table).1 = .ok record ↔
      ¬(key.isEmpty ∨ key.utf8ByteSize > 128 ∨ ¬(data.index "plan").isObject) ∧
      ((∃ i, runs i = some record ∧ record.caller = caller ∧ record.runKey = key ∧
          record.data.depth ≤ SerdeJson.recursionLimit ∧
          record.planSha256 = .ofJson (data.index "plan")) ∨
        (∀ id r, runs id = some r → ¬(r.caller = caller ∧ r.runKey = key)) ∧ runs fresh = none ∧
          table.runs.length < maxStoredRuns ∧
          RunRecord.append
            ⟨runSchemaVersion,fresh,caller,key,.ofJson (data.index "plan"),0,data,[]⟩ "accepted" =
              .ok record) := by
  constructor
  · intro answered
    obtain ⟨after,ran⟩ := atomically_answer.mp answered
    dsimp only at ran
    rw [Except.then_ok,reject_ok] at ran
    obtain ⟨named,ran⟩ := ran
    refine ⟨named,?_⟩
    split at ran
    · next row selected =>
      obtain ⟨s,here,rfl,owner,held⟩ := rep.find_held selected
      obtain ⟨found,read,rest⟩ := Except.bind_ok.mp ran
      obtain ⟨x,rfl,checks⟩ := okOr_bind_ok.mp rest
      rw [Except.then_ok,reject_ok,not_not] at checks
      cases checks.2
      obtain ⟨there,-,shallow⟩ := rep.load_iff.mp read
      rw [show (RunTable.stored s).runId = s.runId from rfl,here] at there
      cases there
      exact .inl ⟨_,here,owner,held,shallow,checks.1⟩
    · next selected =>
      rw [Except.then_ok,reject_ok] at ran
      obtain ⟨made,appended,inserts⟩ := Except.bind_ok.mp ran.2
      obtain ⟨inserted,first,rest⟩ := Except.bind_ok.mp inserts
      obtain ⟨last,-,done⟩ := Except.bind_ok.mp rest
      cases done
      obtain ⟨shape,-⟩ := RunRecord.append_ok.mp appended
      have free := (rep.insertRun_ok first).1
      rw [show record.runId = fresh by rw [shape]] at free
      exact .inr ⟨rep.find_unheld selected,free,Nat.lt_of_not_le ran.1,appended⟩
  · rintro ⟨named,⟨i,stored,owner,held,shallow,plan⟩ | ⟨new,free,room,made⟩⟩
    · rw [rep.begin_existing named stored owner held shallow plan]
    · obtain ⟨after,ran⟩ := rep.begin_accepts named new free room made
      rw [ran]

/-- An accepted first call. -/
theorem begun (rep : Represents table runs) {after : RunTable} (free : ∀ id, runs id = none)
    (begins : beginRun fresh caller key data table = (.ok r,after)) :
    ∃ runs', after.Represents runs' ∧ runs' fresh = some r := by
  obtain ⟨runs',rep',step⟩ := rep.begin fresh caller key data
  rw [begins] at rep' step
  refine ⟨runs',rep',?_⟩
  cases step with
  | accepted => exact Function.update_self ..
  | existing stored => rw [free] at stored; cases stored

/-- An accepted advance. -/
theorem advanced (rep : Represents table runs) {after : RunTable}
    (advances : advanceRun old data kind table = (.ok next,after)) :
    ∃ runs', after.Represents runs' ∧ runs' old.runId = some next := by
  obtain ⟨runs',rep',step⟩ := rep.advance old data kind
  rw [advances] at rep' step
  refine ⟨runs',rep',?_⟩
  cases step with
  | advanced => exact Function.update_self ..

/-- A caller that holds another version than the store is refused. -/
theorem stale (rep : Represents table runs) (stored : runs old.runId = some r)
    (other : r.version ≠ old.version) :
    ∃ error, (advanceRun old data kind table).1 = .error error := by
  rcases answered : (advanceRun old data kind table).1 with error | late
  · exact ⟨error,rfl⟩
  · obtain ⟨current,found,-,version,-⟩ := rep.advance_iff.mp answered
    rw [stored] at found
    cases found
    exact absurd version other

end Represents
end RunTable

section

variable [FloatText] [Sha256]

/-- What the store makes of the first call for a run. -/
theorem created_run_appended {data : Value} (plan : (data.get "plan").isSome)
    (key : (data.index "plan").index "runKey" = .string "key")
    (small : data.byteLength ≤ maxRunDocumentBytes) :
    RunRecord.append ⟨runSchemaVersion,"gmr_1",⟨⟨"alice"⟩,⟨"tenant-a"⟩⟩,"key",
      .ofJson (data.index "plan"),0,data,[]⟩ "accepted" = .ok (createdRun data) := by
  obtain ⟨written,found⟩ := Option.isSome_iff_exists.mp plan
  have named : "accepted".utf8ByteSize ≤ maxRunEventKindBytes := by decide
  refine RunRecord.append_makes ⟨rfl,Nat.zero_le _,?_,key⟩ rfl rfl named small
  simp [Value.index,found]

theorem advanced_run_appended {data next : Value} (plan : (data.get "plan").isSome)
    (key : (data.index "plan").index "runKey" = .string "key")
    (kept : next.get "plan" = data.get "plan") (small : next.byteLength ≤ maxRunDocumentBytes) :
    RunRecord.append { createdRun data with version := (createdRun data).version + 1, data := next }
      "cancellation_intent" = .ok (advancedRun data next) := by
  have verified := created_run_verified data plan key
  have index : next.index "plan" = data.index "plan" := by rw [Value.index,Value.index,kept]
  simp only [RunRecord.verifyIntegrity,Except.then_ok,reject_ok,not_or,not_not] at verified
  obtain ⟨⟨schema,-,length,written,-⟩,chained,-⟩ := verified
  have room : 1 ≤ maxRunVersion := by decide
  have named : "cancellation_intent".utf8ByteSize ≤ maxRunEventKindBytes := by decide
  refine RunRecord.append_makes ⟨schema,room,?_,?_⟩ rfl chained named small
  · exact (congrArg _ kept).trans written
  · exact (congrArg (·.index "runKey") index).trans key

end
end GaugeMesh
