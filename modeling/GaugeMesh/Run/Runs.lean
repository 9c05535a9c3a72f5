import GaugeMesh.Run.Store

/-! What the run tables are for: a map from run ids to verified records. An accepted
begin adds a record at version 0, an accepted advance replaces one record by its next
version, and a read gives back the record of the map or an error. -/
namespace GaugeMesh
open Json

/-- The records of a store by their run ids. -/
abbrev Runs := String → Option RunRecord

namespace Runs

variable [FloatText] [Sha256]

inductive Begin (fresh : String) (caller : TaskRouteCaller) (key : String) (data : Value)
    (before : Runs) : Except RunError RunRecord → Runs → Prop
  | accepted (new : ∀ id r, before id = some r → ¬(r.caller = caller ∧ r.runKey = key))
      (free : before fresh = none)
      (made : RunRecord.append
        ⟨runSchemaVersion,fresh,caller,key,.ofJson (data.index "plan"),0,data,[]⟩ "accepted" =
          .ok record) :
      Begin fresh caller key data before (.ok record) (Function.update before fresh (some record))
  | existing (stored : before record.runId = some record) (owner : record.caller = caller)
      (held : record.runKey = key) (plan : record.planSha256 = .ofJson (data.index "plan")) :
      Begin fresh caller key data before (.ok record) before
  | refused : Begin fresh caller key data before (.error error) before

inductive Advance (old : RunRecord) (data : Value) (kind : String) (before : Runs) :
    Except RunError RunRecord → Runs → Prop
  | advanced (stored : before old.runId = some current) (owner : current.caller = old.caller)
      (fresh : current.version = old.version)
      (plan : RunTable.samePlan (data.get "plan") (current.data.get "plan") = true)
      (made : RunRecord.append { current with version := current.version + 1, data } kind =
        .ok next) :
      Advance old data kind before (.ok next) (Function.update before old.runId (some next))
  | refused : Advance old data kind before (.error error) before

end Runs

namespace RunTable

variable [SerdeJson] [Sha256]

structure Represents (table : RunTable) (runs : Runs) : Prop where
  id : ∀ id r, runs id = some r → r.runId = id
  verified : ∀ id r, runs id = some r → r.verifyIntegrity = .ok ()
  bounded : ∀ id r, runs id = some r → r.data.byteLength ≤ maxRunDocumentBytes
  rows : ∀ row, row ∈ table.runs ↔ ∃ r, runs r.runId = some r ∧ row = stored r
  events : ∀ id, (table.journal.filter fun row => row.runId = id) =
    ((runs id).map fun r => r.journal.map (storedEvent id)).getD []

omit [Sha256] in
theorem ownedBy_stored {r : RunRecord} : ownedBy caller i (stored r) = true ↔
    r.runId = i ∧ r.caller = caller := by
  simp only [ownedBy,stored,Bool.and_eq_true,beq_iff_eq,and_assoc,TaskRouteCaller.ext_iff,
    PrincipalId.ext_iff,TenantId.ext_iff]

omit [Sha256] in
theorem heldBy_stored {r : RunRecord} : heldBy caller key (stored r) = true ↔
    r.caller = caller ∧ r.runKey = key := by
  simp only [heldBy,stored,Bool.and_eq_true,beq_iff_eq,TaskRouteCaller.ext_iff,
    PrincipalId.ext_iff,TenantId.ext_iff]

omit [Sha256] in
theorem readEvents_stored (journal : List RunEvent) (id : String)
    (depth : 1 ≤ SerdeJson.recursionLimit) :
    readEvents (journal.map (storedEvent id)) = .ok journal := by
  induction journal with
  | nil => rfl
  | cons e rest ih =>
    have read : (SerdeJson.fromStr (String.ofList e.encode.text)).bind RunEvent.decode =
        some e := by
      rw [SerdeJson.fromStr_text,if_pos (by rw [e.encode_depth]; exact depth),
        Option.bind_some,RunEvent.decode_encode]
    simp only [List.map_cons,readEvents,storedEvent,read,okOr,Except.ok_then]
    change (readEvents (rest.map (storedEvent id)) >>= _) = _
    rw [ih]
    rfl

namespace Represents

variable {table : RunTable} {runs : Runs} {caller : TaskRouteCaller} {r : RunRecord}
  {i key : String}

theorem empty : Represents empty fun _ => none := by
  constructor <;> simp [RunTable.empty]

theorem member (rep : Represents table runs) (found : runs i = some r) : stored r ∈ table.runs :=
  (rep.rows _).mpr ⟨r,(rep.id i r found).symm ▸ found,rfl⟩

theorem find_owned (rep : Represents table runs) (found : runs i = some r) :
    table.runs.find? (ownedBy r.caller i) = some (stored r) := by
  have same := rep.id i r found
  rcases selected : table.runs.find? (ownedBy r.caller i) with _ | row
  · have missed := List.find?_eq_none.mp selected _ (rep.member found)
    exact absurd (ownedBy_stored.mpr ⟨same,rfl⟩) missed
  · obtain ⟨s,here,rfl⟩ := (rep.rows row).mp (List.mem_of_find?_eq_some selected)
    have owned := ownedBy_stored.mp (List.find?_some selected)
    rw [owned.1,found] at here
    cases here; rfl

/-- The rows of the journal come back in the order of the journal. -/
theorem journalled (rep : Represents table runs) (found : runs i = some r) :
    table.events i = r.journal.map (storedEvent i) := by
  have verified := RunRecord.verifyIntegrity_ok (rep.verified i r found)
  have rows := rep.events i
  rw [found,Option.map_some,Option.getD_some] at rows
  have ordered : (r.journal.map (storedEvent i)).Pairwise
      fun a b => decide (a.version ≤ b.version) = true := by
    refine List.pairwise_map.mpr (List.pairwise_iff_getElem.mpr fun m n first second less => ?_)
    have earlier := verified.versions m _ (List.getElem?_eq_getElem first)
    have later := verified.versions n _ (List.getElem?_eq_getElem second)
    exact decide_eq_true (show r.journal[m].version ≤ r.journal[n].version by omega)
  rw [RunTable.events,rows,List.mergeSort_of_pairwise ordered,List.take_of_length_le]
  rw [List.length_map,verified.length]
  have := verified.version
  simp only [maxRunVersion] at this
  omega

/-- A stored record is read back, or its document is nested too deep. -/
theorem load (rep : Represents table runs) (found : runs i = some r) :
    table.load r.caller i =
      if r.data.depth ≤ SerdeJson.recursionLimit then .ok (some r) else .error .json := by
  have integrity := rep.verified i r found
  have verified := RunRecord.verifyIntegrity_ok integrity
  have bounds : ¬((stored r).document.utf8ByteSize > maxRunDocumentBytes ∨
      (stored r).version > maxRunVersion) := by
    rw [not_or,not_lt,not_lt]
    exact ⟨rep.bounded i r found,verified.version⟩
  have digest : Sha256Digest.readBack (stored r).planDigest = some r.planSha256 := by
    simp [stored]
  have document : SerdeJson.fromStr (stored r).document =
      if r.data.depth ≤ SerdeJson.recursionLimit then some r.data else none :=
    SerdeJson.fromStr_text r.data
  simp only [RunTable.load,rep.find_owned found,reject,if_neg bounds,digest,okOr,document,
    Except.ok_then]
  by_cases shallow : r.data.depth ≤ SerdeJson.recursionLimit
  · have deep := verified.depth
    simp only [if_pos shallow,Except.ok_then,rep.journalled found]
    rw [readEvents_stored r.journal i (by omega),Except.ok_then]
    have same : (⟨runSchemaVersion,i,r.caller,(stored r).runKey,r.planSha256,(stored r).version,
        r.data,r.journal⟩ : RunRecord) = r := by
      rw [← verified.schema,← rep.id i r found]
      rfl
    rw [same,integrity,Except.ok_then,Except.pure_ok]
  · simp only [if_neg shallow,Except.error_then]

/-- Whatever a read gives back is stored. -/
theorem load_ok (rep : Represents table runs) (read : table.load caller i = .ok (some r)) :
    runs i = some r ∧ r.caller = caller := by
  rcases selected : table.runs.find? (ownedBy caller i) with _ | row
  · simp [RunTable.load,selected] at read
  · obtain ⟨s,here,rfl⟩ := (rep.rows row).mp (List.mem_of_find?_eq_some selected)
    obtain ⟨rfl,rfl⟩ := ownedBy_stored.mp (List.find?_some selected)
    rw [rep.load here] at read
    split at read
    · cases read
      exact ⟨here,rfl⟩
    · cases read

/-- The row found for a key is that of the run holding the key. -/
theorem find_held (rep : Represents table runs)
    (selected : table.runs.find? (heldBy caller key) = some row) :
    ∃ r, runs r.runId = some r ∧ row = stored r ∧ r.caller = caller ∧ r.runKey = key := by
  obtain ⟨r,here,rfl⟩ := (rep.rows row).mp (List.mem_of_find?_eq_some selected)
  exact ⟨r,here,rfl,heldBy_stored.mp (List.find?_some selected)⟩

theorem find_unheld (rep : Represents table runs)
    (selected : table.runs.find? (heldBy caller key) = none) :
    ∀ id r, runs id = some r → ¬(r.caller = caller ∧ r.runKey = key) := by
  intro id r found held
  exact List.find?_eq_none.mp selected _ (rep.member found) (heldBy_stored.mpr held)

/-- The id of a new row was free. -/
theorem insertRun_ok {after : RunTable} (rep : Represents table runs)
    (inserted : table.insertRun (stored r) = .ok after) :
    runs r.runId = none ∧ after.runs = stored r :: table.runs ∧ after.journal = table.journal := by
  unfold insertRun at inserted
  split at inserted
  · next fits =>
    cases inserted
    refine ⟨?_,rfl,rfl⟩
    by_contra taken
    obtain ⟨s,found⟩ := Option.ne_none_iff_exists'.mp taken
    exact (fits _ (rep.member found)).1 (rep.id _ s found).symm
  · cases inserted

omit [Sha256] in
theorem insertEvent_ok {after : RunTable} (front : List RunEvent) (e : RunEvent)
    (journal : r.journal = front ++ [e]) (version : e.version = r.version)
    (inserted : insertEvent r table = .ok after) :
    after.runs = table.runs ∧ after.journal = table.journal ++ [storedEvent r.runId e] := by
  obtain ⟨last,found,rest⟩ := okOr_bind_ok.mp inserted
  have same : last = e := by simpa [journal] using found.symm
  subst same
  unfold insertJournal at rest
  split at rest
  · cases rest
    exact ⟨rfl,by rw [storedEvent,version]⟩
  · cases rest

/-- A record with one more event takes the place of the one with its id, if any. -/
theorem put {after : RunTable} {next : RunRecord} {front : List RunEvent} {e : RunEvent}
    (rep : Represents table runs) (same : next.runId = i)
    (integrity : next.verifyIntegrity = .ok ())
    (bounded : next.data.byteLength ≤ maxRunDocumentBytes) (journal : next.journal = front ++ [e])
    (old : front = ((runs i).map (·.journal)).getD [])
    (rows : ∀ row, row ∈ after.runs ↔ row = stored next ∨ row ∈ table.runs ∧ row.runId ≠ i)
    (events : after.journal = table.journal ++ [storedEvent i e]) :
    Represents after (Function.update runs i (some next)) := by
  have stays : ∀ j r, Function.update runs i (some next) j = some r →
      j = i ∧ r = next ∨ j ≠ i ∧ runs j = some r := by
    intro j r found
    by_cases here : j = i
    · subst here
      rw [Function.update_self] at found
      exact .inl ⟨rfl,(Option.some.inj found).symm⟩
    · rw [Function.update_of_ne here] at found
      exact .inr ⟨here,found⟩
  refine ⟨?_,?_,?_,?_,?_⟩
  · intro j r found
    rcases stays j r found with ⟨rfl,rfl⟩ | ⟨-,kept⟩
    · exact same
    · exact rep.id j r kept
  · intro j r found
    rcases stays j r found with ⟨rfl,rfl⟩ | ⟨-,kept⟩
    · exact integrity
    · exact rep.verified j r kept
  · intro j r found
    rcases stays j r found with ⟨rfl,rfl⟩ | ⟨-,kept⟩
    · exact bounded
    · exact rep.bounded j r kept
  · intro row
    rw [rows]
    constructor
    · rintro (rfl | ⟨member,other⟩)
      · exact ⟨next,by rw [same,Function.update_self],rfl⟩
      · obtain ⟨r,found,rfl⟩ := (rep.rows row).mp member
        refine ⟨r,?_,rfl⟩
        rw [Function.update_of_ne (show r.runId ≠ i from other)]
        exact found
    · rintro ⟨r,found,rfl⟩
      rcases stays _ r found with ⟨-,rfl⟩ | ⟨other,kept⟩
      · exact .inl rfl
      · exact .inr ⟨rep.member kept,other⟩
  · intro j
    rw [events,List.filter_append,rep.events j]
    by_cases here : j = i
    · subst here
      rw [Function.update_self,Option.map_some,Option.getD_some,journal,old,List.map_append]
      rcases runs j with _ | r <;> simp [storedEvent]
    · rw [Function.update_of_ne here]
      simp [storedEvent,Ne.symm here]

theorem begin (rep : Represents table runs) (fresh : String) (caller : TaskRouteCaller)
    (key : String) (data : Value) : ∃ runs', Represents (beginRun fresh caller key data table).2 runs' ∧
      Runs.Begin fresh caller key data runs (beginRun fresh caller key data table).1 runs' := by
  unfold beginRun atomically
  split
  · next record after ran =>
    rw [Except.then_ok] at ran
    obtain ⟨-,ran⟩ := ran
    split at ran
    · next row selected =>
      obtain ⟨s,here,rfl,owner,held⟩ := rep.find_held selected
      obtain ⟨found,read,rest⟩ := Except.bind_ok.mp ran
      obtain ⟨x,rfl,checks⟩ := okOr_bind_ok.mp rest
      rw [Except.then_ok,reject_ok,not_not] at checks
      obtain ⟨plan,done⟩ := checks
      cases done
      obtain ⟨there,-⟩ := rep.load_ok read
      rw [show (stored s).runId = s.runId from rfl,here] at there
      cases there
      exact ⟨runs,rep,.existing here owner held plan⟩
    · next selected =>
      rw [Except.then_ok] at ran
      obtain ⟨x,made,inserts⟩ := Except.bind_ok.mp ran.2
      obtain ⟨inserted,first,rest⟩ := Except.bind_ok.mp inserts
      obtain ⟨last,second,done⟩ := Except.bind_ok.mp rest
      cases done
      obtain ⟨shape,integrity,-,bytes⟩ := RunRecord.append_ok.mp made
      have id : record.runId = fresh := by rw [shape]
      obtain ⟨free,runsAfter,journalAfter⟩ := rep.insertRun_ok first
      obtain ⟨runsLast,journalLast⟩ := insertEvent_ok [] (RunRecord.event _ "accepted")
        (by rw [shape]) (by rw [shape]; rfl) second
      rw [id] at free journalLast
      refine ⟨_,?_,.accepted (rep.find_unheld selected) free made⟩
      refine rep.put id integrity (by rw [shape]; exact bytes) (by rw [shape]) (by rw [free]; rfl)
        ?_ (by rw [journalLast,journalAfter])
      intro row
      rw [runsLast,runsAfter,List.mem_cons]
      refine or_congr_right ⟨fun member => ⟨member,?_⟩,And.left⟩
      obtain ⟨s,found,rfl⟩ := (rep.rows row).mp member
      intro same
      rw [show (stored s).runId = s.runId from rfl] at same
      rw [same,free] at found; cases found
  · exact ⟨runs,rep,.refused⟩

theorem advance (rep : Represents table runs) (old : RunRecord) (data : Value) (kind : String) :
    ∃ runs', Represents (advanceRun old data kind table).2 runs' ∧
      Runs.Advance old data kind runs (advanceRun old data kind table).1 runs' := by
  unfold advanceRun atomically
  split
  · next record after ran =>
    obtain ⟨found,read,rest⟩ := Except.bind_ok.mp ran
    obtain ⟨current,rfl,checks⟩ := okOr_bind_ok.mp rest
    simp only [Except.then_ok,reject_ok,not_not] at checks
    obtain ⟨fresh,plan,appends⟩ := checks
    obtain ⟨next,made,writes⟩ := Except.bind_ok.mp appends
    simp only [Except.then_ok,reject_ok,not_not] at writes
    obtain ⟨last,second,done⟩ := Except.bind_ok.mp writes.2
    cases done
    obtain ⟨stored,owner⟩ := rep.load_ok read
    obtain ⟨shape,integrity,-,bytes⟩ := RunRecord.append_ok.mp made
    have id : record.runId = old.runId := by
      rw [shape]
      exact rep.id _ current stored
    obtain ⟨runsLast,journalLast⟩ := insertEvent_ok current.journal (RunRecord.event _ kind)
      (by rw [shape]) (by rw [shape]; rfl) second
    rw [id] at journalLast
    refine ⟨_,?_,.advanced stored owner fresh plan made⟩
    refine rep.put id integrity (by rw [shape]; exact bytes) (by rw [shape]) (by rw [stored]; rfl)
      ?_ journalLast
    have written : { RunTable.stored current with
        document := String.ofList record.data.text, version := record.version } =
          RunTable.stored record := by
      rw [shape]; rfl
    have meets : (record.runId == (RunTable.stored current).runId &&
        (RunTable.stored current).version == old.version) = true := by
      rw [id,← rep.id _ current stored,← fresh]
      simp [RunTable.stored]
    intro row
    rw [runsLast]
    simp only [update,List.mem_map]
    constructor
    · rintro ⟨source,member,rfl⟩
      obtain ⟨s,here,rfl⟩ := (rep.rows source).mp member
      split
      · next chosen =>
        rw [Bool.and_eq_true,beq_iff_eq] at chosen
        have same : s.runId = old.runId := chosen.1.trans id
        rw [same,stored] at here
        cases here
        exact .inl written
      · next skipped =>
        refine .inr ⟨member,fun same => skipped ?_⟩
        change s.runId = old.runId at same
        rw [same,stored] at here
        cases here
        simp [RunTable.stored,id,same,fresh]
    · rintro (rfl | ⟨member,other⟩)
      · refine ⟨_,rep.member stored,?_⟩
        rw [if_pos (by simpa [BEq.comm] using meets),written]
      · refine ⟨row,member,if_neg ?_⟩
        rw [Bool.and_eq_true,beq_iff_eq,id]
        exact fun chosen => other chosen.1
  · exact ⟨runs,rep,.refused⟩

/-- A run found by its key is stored and holds the key. -/
theorem findRun_ok (rep : Represents table runs) (read : table.findRun caller key = .ok (some r)) :
    runs r.runId = some r ∧ r.caller = caller ∧ r.runKey = key := by
  unfold findRun at read
  split at read
  · cases read
  · next row selected =>
    obtain ⟨s,here,rfl,owner,held⟩ := rep.find_held selected
    obtain ⟨there,-⟩ := rep.load_ok read
    rw [show (stored s).runId = s.runId from rfl,here] at there
    cases there
    exact ⟨here,owner,held⟩

end Represents
end RunTable
end GaugeMesh
