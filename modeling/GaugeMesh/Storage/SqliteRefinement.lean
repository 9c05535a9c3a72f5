import GaugeMesh.Storage.Sqlite

/-! A table whose rows were written by the store represents the routes they hold. A
read fails when the row cannot be read back, and then nothing changes; otherwise each
operation does what it does on the routes. -/
namespace GaugeMesh
open Json

namespace TaskRouteRecord

/-- The values of a record that survive writing and reading its JSON text. -/
def Readable [SerdeJson] (r : TaskRouteRecord) : Prop :=
  r.encode.depth ≤ SerdeJson.recursionLimit ∧ r.cachedTerminalState ≠ some .null

end TaskRouteRecord

namespace TaskRouteTable

/-- The row written for a record whose numbers are in range. -/
def stored [FloatText] (record : TaskRouteRecord) : StoredTaskRoute where
  publicTaskId := record.publicTaskId.text
  principalId := record.caller.principal.text
  tenantId := record.caller.tenant.text
  idempotencyKey := record.idempotencyKey.map (·.text)
  requestDigest := record.requestDigest.toString
  capabilitySource := record.capabilitySource.text
  upstreamTaskId := record.upstreamTaskId.map (·.text)
  phase := phaseName record.phase
  createdAtUnixMs := record.createdAtUnixMs
  updatedAtUnixMs := record.updatedAtUnixMs
  ttlMs := record.ttlMs
  expiresAtUnixMs := record.expiresAtUnixMs
  transitionVersion := record.transitionVersion
  recordSchemaVersion := record.schemaVersion.toNat
  integrityDigest := record.integrityDigest.toString
  documentJson := documentJson record

/-- The columns of a row repeat the record. -/
def Matches (row : StoredTaskRoute) (r : TaskRouteRecord) : Prop :=
  ∃ request integrity, Sha256Digest.readBack row.requestDigest = some request ∧
    Sha256Digest.readBack row.integrityDigest = some integrity ∧
    indexedFieldsMatch row r request integrity = true

theorem toSqliteInteger_ok {value : Nat} (fits : value ≤ maxSqliteInteger) :
    toSqliteInteger value = .ok value := if_pos fits

theorem fromSqliteInteger_cast (value : Nat) : fromSqliteInteger value = .ok value := by
  simp [fromSqliteInteger]

theorem stored_matches [FloatText] (r : TaskRouteRecord) : Matches (stored r) r := by
  refine ⟨r.requestDigest,r.integrityDigest,by simp [stored],by simp [stored],?_⟩
  simp [indexedFieldsMatch,stored,fromSqliteInteger_cast]

theorem ownedBy_stored [FloatText] {r : TaskRouteRecord} : ownedBy caller i (stored r) = true ↔
    r.publicTaskId = i ∧ r.caller = caller := by
  simp only [ownedBy,stored,Bool.and_eq_true,beq_iff_eq,and_assoc,PublicTaskId.ext_iff,
    TaskRouteCaller.ext_iff,PrincipalId.ext_iff,TenantId.ext_iff]

theorem heldBy_stored [FloatText] {r : TaskRouteRecord} : heldBy caller key (stored r) = true ↔
    r.caller = caller ∧ r.idempotencyKey = some key := by
  have keys : r.idempotencyKey.map (·.text) = some key.text ↔ r.idempotencyKey = some key := by
    rcases r.idempotencyKey with _ | held
    · simp
    · rw [Option.map_some,Option.some_inj,Option.some_inj,TaskRouteIdempotencyKey.ext_iff]
  simp only [heldBy,stored,Bool.and_eq_true,beq_iff_eq,keys,TaskRouteCaller.ext_iff,
    PrincipalId.ext_iff,TenantId.ext_iff]

theorem stored_scope [FloatText] {r s : TaskRouteRecord} (same : (stored r).scope = (stored s).scope)
    (held : (stored r).scope ≠ none) : r.caller = s.caller ∧
      ∃ key, r.idempotencyKey = some key ∧ s.idempotencyKey = some key := by
  rcases first : r.idempotencyKey with _ | key
  · simp [StoredTaskRoute.scope,stored,first] at held
  · rcases second : s.idempotencyKey with _ | other
    · simp [StoredTaskRoute.scope,stored,first,second] at same
    · simp only [StoredTaskRoute.scope,stored,first,second,Option.map_some,Option.some.injEq,
        Prod.mk.injEq] at same
      obtain ⟨principal,tenant,text⟩ := same
      exact ⟨TaskRouteCaller.ext (PrincipalId.ext principal) (TenantId.ext tenant),key,rfl,
        congrArg some (TaskRouteIdempotencyKey.ext text.symm)⟩

variable [SerdeJson] [Sha256] {r x : TaskRouteRecord} {row : StoredTaskRoute}

theorem rowOf_valid (valid : r.Valid) : rowOf r = .ok (stored r) := by
  obtain ⟨created,updated,ttl,expires,version⟩ := valid.shaped.numbers
  simp only [rowOf,toSqliteInteger_ok created,toSqliteInteger_ok updated,toSqliteInteger_ok ttl,
    toSqliteInteger_ok expires,toSqliteInteger_ok version,Except.ok_then,Except.pure_ok]
  rfl

theorem stored_admissible (valid : r.Valid) : (stored r).admissible = true := by
  have version := valid.shaped.version
  have ttl := valid.shaped.ttl
  have phase : ["prepared","dispatching","routed","terminal","reconciliation_required",
      "cancel_requested"].contains (phaseName r.phase) = true := by
    cases r.phase <;> decide
  simp only [StoredTaskRoute.admissible,stored,phase,version,Bool.true_and,decide_eq_true_eq]
  have schema : taskRouteSchemaVersion.toNat = 1 := rfl
  omega

theorem decodeTaskRoute_ok : decodeTaskRoute row = .ok r ↔
    (SerdeJson.fromStr row.documentJson).bind TaskRouteRecord.decode = some r ∧ r.Valid ∧
      Matches row r := by
  unfold decodeTaskRoute
  simp only [okOr_bind_ok,Except.then_ok,taskRouteResult_ok,reject_ok,Except.pure_ok,
    Except.ok.injEq]
  constructor
  · rintro ⟨read,document,valid,request,first,integrity,second,fields,rfl⟩
    exact ⟨document,valid,request,integrity,first,second,of_not_not fields⟩
  · rintro ⟨document,valid,request,integrity,first,second,fields⟩
    exact ⟨r,document,valid,request,first,integrity,second,not_not.mpr fields,rfl⟩

omit [Sha256] in
theorem read_document (r : TaskRouteRecord) :
    (SerdeJson.fromStr (documentJson r)).bind TaskRouteRecord.decode =
      if r.encode.depth ≤ SerdeJson.recursionLimit then some r.reread else none := by
  rw [documentJson,SerdeJson.fromStr_text]
  split
  · exact TaskRouteRecord.decode_encode r
  · rfl

/-- A row written for a valid record reads back as that record exactly when its values do. -/
theorem decode_written (document : row.documentJson = documentJson r) (valid : r.Valid)
    (fields : Matches row r) : decodeTaskRoute row = .ok r ↔ r.Readable := by
  rw [decodeTaskRoute_ok,document,read_document]
  constructor
  · rintro ⟨read,-,-⟩
    split at read
    · next shallow =>
      exact ⟨shallow,(TaskRouteRecord.reread_eq r).mp (Option.some.inj read)⟩
    · cases read
  · rintro ⟨shallow,cached⟩
    rw [if_pos shallow,(TaskRouteRecord.reread_eq r).mpr cached]
    exact ⟨rfl,valid,fields⟩

/-- Whatever such a row reads back as is the record it was written for. -/
theorem decode_written_ok (document : row.documentJson = documentJson r) (valid : r.Valid)
    (decoded : decodeTaskRoute row = .ok x) : x = r := by
  rw [decodeTaskRoute_ok,document,read_document] at decoded
  obtain ⟨read,shaped,-⟩ := decoded
  split at read
  · cases read
    rw [TaskRouteRecord.reread_eq]
    intro cached
    -- the cached null is gone, but the phase still asks for a cached state
    have terminal := valid.shaped.cached.mpr (by rw [cached]; rfl)
    have present := shaped.shaped.cached.mp terminal
    simp [TaskRouteRecord.reread,cached,Option.filter] at present
  · cases read

/-- The rows are those written for the routes. -/
structure Represents (table : TaskRouteTable) (routes : Routes) : Prop where
  ok : routes.WellFormed
  rows : ∀ row, row ∈ table.rows ↔ ∃ r, routes r.publicTaskId = some r ∧ row = stored r

namespace Represents

variable {table : TaskRouteTable} {routes : Routes} {record old : TaskRouteRecord}
  {caller : TaskRouteCaller} {key : TaskRouteIdempotencyKey} {i : PublicTaskId}
  {change : TaskRouteUpdate}

theorem empty : Represents empty fun _ => none := by
  refine ⟨Routes.wellFormed_empty,?_⟩
  intro row
  simp [TaskRouteTable.empty]

theorem member (rep : Represents table routes) (found : routes i = some r) :
    stored r ∈ table.rows :=
  (rep.rows _).mpr ⟨r,(rep.ok.id i r found).symm ▸ found,rfl⟩

theorem select_id (rep : Represents table routes) : table.select (ownedBy caller i) =
    ((routes i).filter fun r => r.caller = caller).map stored := by
  rcases found : routes i with _ | r
  · refine select_none.mpr fun row member => ?_
    obtain ⟨r,here,rfl⟩ := (rep.rows row).mp member
    rw [← Bool.not_eq_true,ownedBy_stored]
    rintro ⟨rfl,-⟩
    rw [found] at here; cases here
  · by_cases owner : r.caller = caller
    · have same := rep.ok.id i r found
      rw [Option.filter_some_pos (by simpa using owner)]
      refine select_of (rep.member found) (ownedBy_stored.mpr ⟨same,owner⟩) ?_
      intro other member meets
      obtain ⟨s,here,rfl⟩ := (rep.rows other).mp member
      rw [(ownedBy_stored.mp meets).1,found] at here
      cases here; rfl
    · rw [Option.filter_some_neg (by simpa using owner)]
      refine select_none.mpr fun row member => ?_
      obtain ⟨s,here,rfl⟩ := (rep.rows row).mp member
      rw [← Bool.not_eq_true,ownedBy_stored]
      rintro ⟨id,callers⟩
      rw [id,found] at here; cases here
      exact owner callers

theorem select_key (rep : Represents table routes) : table.select (heldBy caller key) =
    (routes.holder caller key).map stored := by
  rcases holds : routes.holder caller key with _ | r
  · refine select_none.mpr fun row member => ?_
    obtain ⟨r,here,rfl⟩ := (rep.rows row).mp member
    rw [← Bool.not_eq_true,heldBy_stored]
    intro held
    have taken := rep.ok.holder.mpr ⟨here,held⟩
    rw [holds] at taken; cases taken
  · obtain ⟨here,held⟩ := rep.ok.holder.mp holds
    refine select_of (rep.member here) (heldBy_stored.mpr held) ?_
    intro other member meets
    obtain ⟨s,there,rfl⟩ := (rep.rows other).mp member
    have taken := rep.ok.holder.mpr ⟨there,heldBy_stored.mp meets⟩
    rw [holds] at taken; cases taken; rfl

theorem count (rep : Represents table routes) (condition : StoredTaskRoute → Bool) :
    table.count condition = routes.count fun r => condition (stored r) = true := by
  let ids := (table.rows.filter condition).map fun row => PublicTaskId.mk row.publicTaskId
  have nodup : ids.Nodup := by
    refine List.pairwise_map.mpr ((table.unique.filter condition).imp ?_)
    intro a b distinct same
    exact distinct.1 (congrArg (·.text) same)
  have image : {id | ∃ r, routes id = some r ∧ condition (stored r) = true} = ↑ids.toFinset := by
    ext id
    simp only [ids,Set.mem_ofPred_eq,Finset.mem_coe,List.mem_toFinset,List.mem_map,List.mem_filter]
    constructor
    · rintro ⟨r,found,meets⟩
      exact ⟨stored r,⟨rep.member found,meets⟩,rep.ok.id id r found⟩
    · rintro ⟨row,⟨member,meets⟩,rfl⟩
      obtain ⟨r,found,rfl⟩ := (rep.rows row).mp member
      exact ⟨r,found,meets⟩
  rw [TaskRouteTable.count,Routes.count,image,Set.ncard_coe_finset,
    List.toFinset_card_of_nodup nodup,List.length_map]

/-- Deleting the rows of some routes leaves the rows of the others. -/
theorem delete (rep : Represents table routes) (condition : StoredTaskRoute → Bool) {less : Routes}
    (ok : less.WellFormed)
    (kept : ∀ r, less r.publicTaskId = some r ↔
      routes r.publicTaskId = some r ∧ condition (stored r) = false) :
    Represents (table.delete condition) less := by
  refine ⟨ok,fun row => ?_⟩
  rw [TaskRouteTable.delete,List.mem_filter,rep.rows]
  constructor
  · rintro ⟨⟨r,found,rfl⟩,stays⟩
    exact ⟨r,(kept r).mpr ⟨found,by simpa using stays⟩,rfl⟩
  · rintro ⟨r,found,rfl⟩
    obtain ⟨here,stays⟩ := (kept r).mp found
    exact ⟨⟨r,here,rfl⟩,by simpa using stays⟩

/-- A valid record under a free id breaks no constraint. -/
theorem insert (rep : Represents table routes)
    (ok : Routes.WellFormed (Function.update routes record.publicTaskId (some record)))
    (free : routes record.publicTaskId = none) :
    ∃ after, table.insert (stored record) = .ok after ∧
      Represents after (Function.update routes record.publicTaskId (some record)) := by
  have self : Function.update routes record.publicTaskId (some record) record.publicTaskId =
      some record := Function.update_self ..
  have valid := ok.valid _ _ self
  have fits : (stored record).admissible = true ∧
      ∀ other ∈ table.rows, (stored record).Distinct other := by
    constructor
    · exact stored_admissible valid
    · intro other member
      obtain ⟨r,found,rfl⟩ := (rep.rows other).mp member
      have different : r.publicTaskId ≠ record.publicTaskId := by
        intro same
        rw [same,free] at found; cases found
      refine ⟨fun same => different (PublicTaskId.ext same).symm,fun same => ?_⟩
      by_contra held
      obtain ⟨callers,key,first,second⟩ := stored_scope same held
      have there : Function.update routes record.publicTaskId (some record) r.publicTaskId =
          some r := by rw [Function.update_of_ne different]; exact found
      exact different (ok.key _ r _ record key there self callers.symm second first)
  refine ⟨_,dif_pos fits,ok,fun row => ?_⟩
  rw [List.mem_cons,rep.rows]
  constructor
  · rintro (rfl | ⟨r,found,rfl⟩)
    · exact ⟨record,self,rfl⟩
    · refine ⟨r,?_,rfl⟩
      rw [Function.update_of_ne]
      · exact found
      · intro same
        rw [same,free] at found; cases found
  · rintro ⟨r,found,rfl⟩
    by_cases same : r.publicTaskId = record.publicTaskId
    · rw [same,self] at found; cases found
      exact .inl rfl
    · rw [Function.update_of_ne same] at found
      exact .inr ⟨r,found,rfl⟩

/-- Reading one row: the record, or an error when it cannot be read back. -/
theorem decodeSelected_stored {found : Option TaskRouteRecord}
    (valid : ∀ r, found = some r → r.Valid) :
    decodeSelected (found.map stored) = .ok found ∨
      ∃ error, decodeSelected (found.map stored) = .error error := by
  rcases found with _ | r
  · exact .inl rfl
  · rcases decoded : decodeTaskRoute (stored r) with error | x
    · refine .inr ⟨error,?_⟩
      simp only [Option.map_some,decodeSelected,decoded,Except.error_then]
    · rw [decode_written_ok rfl (valid r rfl) decoded] at decoded
      refine .inl ?_
      simp only [Option.map_some,decodeSelected,decoded,Except.ok_then,Except.pure_ok]

theorem decodeSelected_readable {found : Option TaskRouteRecord}
    (valid : ∀ r, found = some r → r.Valid) (readable : ∀ r, found = some r → r.Readable) :
    decodeSelected (found.map stored) = .ok found := by
  rcases found with _ | r
  · rfl
  · have decoded := (decode_written rfl (valid r rfl) (stored_matches r)).mpr (readable r rfl)
    simp only [Option.map_some,decodeSelected,decoded,Except.ok_then,Except.pure_ok]

/-- A statement sequence does what the specification does; a failure changes nothing. -/
def Simulates (routes : Routes) (run : Except TaskRouteStorageError (α × TaskRouteTable))
    (spec : Except TaskRouteStorageError α × Routes) : Prop :=
  match run with
  | .ok (a,after) => spec.1 = .ok a ∧ Represents after spec.2
  | .error error => spec = (.error error,routes)

theorem Simulates.atomically {run : TaskRouteTable → Except TaskRouteStorageError (α × TaskRouteTable)}
    {spec : Except TaskRouteStorageError α × Routes} (rep : Represents table routes)
    (simulates : Simulates routes (run table) spec) :
    (GaugeMesh.atomically run table).1 = spec.1 ∧
      Represents (GaugeMesh.atomically run table).2 spec.2 := by
  unfold Simulates at simulates
  unfold GaugeMesh.atomically
  split at simulates
  · next a after ran =>
    rw [ran]
    exact ⟨simulates.1.symm,simulates.2⟩
  · next error ran =>
    rw [ran,simulates]
    exact ⟨rfl,rep⟩

theorem active (rep : Represents table routes) : (table.count fun row =>
    row.principalId == record.caller.principal.text &&
      row.tenantId == record.caller.tenant.text &&
      decide ((record.createdAtUnixMs : Int) < row.expiresAtUnixMs)) =
    routes.count fun r =>
      r.caller = record.caller ∧ r.isExpired record.createdAtUnixMs = false := by
  rw [rep.count]
  congr 1
  funext r
  simp only [stored,Bool.and_eq_true,beq_iff_eq,decide_eq_true_eq,TaskRouteCaller.ext_iff,
    PrincipalId.ext_iff,TenantId.ext_iff,TaskRouteRecord.isExpired,decide_eq_false_iff_not,
    Int.ofNat_lt,not_le]

theorem insertChecked {kept : Routes} (rep : Represents table kept) (valid : record.Valid)
    (ok : kept record.publicTaskId = none →
      Routes.WellFormed (Function.update kept record.publicTaskId (some record))) :
    Simulates routes (TaskRouteTable.insertChecked record table)
      (Routes.insertNew record kept routes) := by
  have created := toSqliteInteger_ok valid.shaped.numbers.1
  have all : table.count (fun _ => true) = kept.count fun _ => True := by
    rw [rep.count]
    simp only
  have collision : (table.select fun row => row.publicTaskId == record.publicTaskId.text).isSome =
      (kept record.publicTaskId).isSome := by
    rw [Bool.eq_iff_iff,select,List.find?_isSome,Option.isSome_iff_exists]
    constructor
    · rintro ⟨row,member,same⟩
      obtain ⟨r,found,rfl⟩ := (rep.rows row).mp member
      rw [← PublicTaskId.ext (beq_iff_eq.mp same)]
      exact ⟨r,found⟩
    · rintro ⟨r,found⟩
      exact ⟨stored r,rep.member found,by rw [← rep.ok.id _ r found]; exact beq_self_eq_true _⟩
  unfold TaskRouteTable.insertChecked Routes.insertNew
  simp only [collision,all,created,Except.ok_then,rep.active,rowOf_valid valid]
  by_cases collides : (kept record.publicTaskId).isSome = true
  · rw [if_pos collides,reject,if_pos collides]
    rfl
  · rw [if_neg collides,reject,if_neg collides]
    by_cases full : maxStoredTaskRoutes ≤ kept.count (fun _ => True) ∨
        maxActiveTaskRoutesPerCaller ≤ kept.count (fun r =>
          r.caller = record.caller ∧ r.isExpired record.createdAtUnixMs = false)
    · rw [if_pos full,reject,if_pos full]
      rfl
    · rw [if_neg full,reject,if_neg full]
      have free : kept record.publicTaskId = none := by simpa using collides
      obtain ⟨after,inserted,represents⟩ := rep.insert (ok free) free
      simp only [Except.ok_then,inserted]
      exact ⟨rfl,represents⟩

/-- A condition met by the row of one route only. -/
theorem count_one (rep : Represents table routes) (condition : StoredTaskRoute → Bool)
    (found : routes r.publicTaskId = some r) (only : ∀ s, routes s.publicTaskId = some s →
      (condition (stored s) = true ↔ s = r)) : table.count condition = 1 := by
  rw [rep.count,Routes.count,Set.ncard_eq_one]
  refine ⟨r.publicTaskId,Set.ext fun id => ?_⟩
  constructor
  · rintro ⟨s,here,meets⟩
    have same := rep.ok.id id s here
    rw [← same,(only s (same.symm ▸ here)).mp meets]
    rfl
  · rintro rfl
    exact ⟨r,found,(only r found).mpr rfl⟩

theorem replaceExpired (rep : Represents table routes) (valid : record.Valid)
    (holds : routes.holder caller key = some old)
    (ok : Function.update routes old.publicTaskId none record.publicTaskId = none →
      Routes.WellFormed (Function.update (Function.update routes old.publicTaskId none)
        record.publicTaskId (some record))) :
    Simulates routes (TaskRouteTable.replaceExpired record old key table)
      (Routes.insertNew record (Function.update routes old.publicTaskId none) routes) := by
  obtain ⟨found,-,held⟩ := rep.ok.holder.mp holds
  have only : ∀ s, routes s.publicTaskId = some s →
      ((ownedBy old.caller old.publicTaskId (stored s) &&
        (stored s).idempotencyKey == some key.text) = true ↔ s = old) := by
    intro s here
    rw [Bool.and_eq_true,ownedBy_stored]
    constructor
    · rintro ⟨⟨same,-⟩,-⟩
      rw [same,found] at here
      exact (Option.some.inj here).symm
    · rintro rfl
      exact ⟨⟨rfl,rfl⟩,by simp [stored,held]⟩
  have less : Represents (table.delete fun row =>
      ownedBy old.caller old.publicTaskId row && row.idempotencyKey == some key.text)
      (Function.update routes old.publicTaskId none) := by
    refine rep.delete _ (rep.ok.erase _) fun s => ?_
    by_cases same : s.publicTaskId = old.publicTaskId
    · rw [same,Function.update_self,found]
      constructor
      · intro absurd; cases absurd
      · rintro ⟨equal,out⟩
        cases equal
        rw [(only _ found).mpr rfl] at out
        cases out
    · rw [Function.update_of_ne same]
      refine ⟨fun here => ⟨here,?_⟩,fun here => here.1⟩
      rw [← Bool.not_eq_true,only s here]
      rintro rfl
      exact same rfl
  rw [TaskRouteTable.replaceExpired,rep.count_one _ found only,reject,if_neg (not_not.mpr rfl)]
  exact less.insertChecked valid ok

theorem begin_of (rep : Represents table routes)
    (found : ∀ key, record.idempotencyKey = some key →
      selectTaskRouteByIdempotency table record.caller key =
        .ok (routes.holder record.caller key)) :
    (beginOrExisting record table).1 = (routes.begin record).1 ∧
      Represents (beginOrExisting record table).2 (routes.begin record).2 := by
  unfold beginOrExisting
  refine Simulates.atomically rep ?_
  unfold Routes.begin
  rcases prepared : record.verifyPreparedForBegin with error | ⟨⟩
  · rfl
  · have valid := (TaskRouteRecord.verifyPreparedForBegin_ok.mp prepared).1
    rcases held : record.idempotencyKey with _ | key
    · refine rep.insertChecked valid fun free => rep.ok.insert prepared free ?_
      exact rep.ok.unheld (by rw [held]; rfl)
    · simp only [taskRouteResult,Except.ok_then,found key held,Option.bind_some]
      rcases holds : routes.holder record.caller key with _ | old
      · refine rep.insertChecked valid fun free => rep.ok.insert prepared free ?_
        exact rep.ok.unheld (by rw [held]; exact holds)
      · by_cases expired : old.isExpired record.createdAtUnixMs = true
        · simp only [expired,if_true]
          refine rep.replaceExpired valid holds fun free =>
            (rep.ok.erase _).insert prepared free (rep.ok.released held holds)
        · by_cases request : old.requestDigest = record.requestDigest
          · simpa [expired,request,reject,Simulates] using rep
          · simp [expired,request,reject,Simulates]

/-- The columns written for a transitioned record turn its row into the new one. -/
theorem stored_moved {current next : TaskRouteRecord} (moved : current.transition change = .ok next) :
    (stored current).set {
      upstreamTaskId := next.upstreamTaskId.map (·.text)
      phase := phaseName next.phase
      updatedAtUnixMs := next.updatedAtUnixMs
      transitionVersion := next.transitionVersion
      integrityDigest := next.integrityDigest.toString
      documentJson := documentJson next } = stored next := by
  obtain ⟨upstream,digest,rfl⟩ := (TaskRouteRecord.transition_ok moved).moved
  rfl

/-- An update of one row whose result is admissible. -/
theorem update {current next : TaskRouteRecord} (rep : Represents table routes)
    (condition : StoredTaskRoute → Bool) (here : routes i = some current)
    (moved : current.transition change = .ok next) (only : ∀ s, routes s.publicTaskId = some s →
      (condition (stored s) = true ↔ s = current)) {columns : StoredTaskRoute.Columns}
    (set : (stored current).set columns = stored next) :
    ∃ after, table.update condition columns = .ok after ∧
      Represents after (Function.update routes i (some next)) := by
  have step := TaskRouteRecord.transition_ok moved
  have ok : Routes.WellFormed (Function.update routes i (some next)) :=
    (Routes.CompareAndSet.set here rfl rfl moved).wellFormed rep.ok
  have same := rep.ok.id i current here
  have nextSame : next.publicTaskId = i := ok.id i next (Function.update_self ..)
  have admissible : (table.rows.filter condition).all
      (fun row => (row.set columns).admissible) = true := by
    rw [List.all_eq_true]
    intro row member
    obtain ⟨inside,meets⟩ := List.mem_filter.mp member
    obtain ⟨s,found,rfl⟩ := (rep.rows row).mp inside
    rw [(only s found).mp meets,set]
    exact stored_admissible step.after
  refine ⟨_,if_pos admissible,ok,fun row => ?_⟩
  rw [List.mem_map]
  constructor
  · rintro ⟨old,member,rfl⟩
    obtain ⟨s,found,rfl⟩ := (rep.rows old).mp member
    by_cases meets : condition (stored s) = true
    · rw [if_pos meets,(only s found).mp meets,set]
      exact ⟨next,by rw [nextSame]; exact Function.update_self ..,rfl⟩
    · rw [if_neg meets]
      refine ⟨s,?_,rfl⟩
      rw [Function.update_of_ne]
      · exact found
      · intro there
        rw [there,here] at found; cases found
        exact meets ((only current (same.symm ▸ here)).mpr rfl)
  · rintro ⟨s,found,rfl⟩
    by_cases there : s.publicTaskId = i
    · rw [there,Function.update_self] at found; cases found
      have met := (only current (same.symm ▸ here)).mpr rfl
      exact ⟨stored current,rep.member here,by rw [if_pos met,set]⟩
    · rw [Function.update_of_ne there] at found
      refine ⟨stored s,rep.member found,if_neg ?_⟩
      intro meets
      rw [(only s found).mp meets] at there
      exact there same

theorem compareAndSet_of (rep : Represents table routes) (version : Nat) (change : TaskRouteUpdate)
    (found : selectTaskRouteByPublicId table caller i =
      .ok ((routes i).filter fun r => r.caller = caller)) :
    (compareAndSetTaskRoute caller i version change table).1 =
        (routes.compareAndSet caller i version change).1 ∧
      Represents (compareAndSetTaskRoute caller i version change table).2
        (routes.compareAndSet caller i version change).2 := by
  unfold compareAndSetTaskRoute
  refine Simulates.atomically rep ?_
  unfold Routes.compareAndSet
  rw [found]
  rcases here : routes i with _ | current
  · exact ⟨rfl,rep⟩
  · by_cases owner : current.caller = caller
    · rw [Option.filter_some_pos (by simpa using owner)]
      dsimp only [Except.ok_then]
      by_cases fresh : current.transitionVersion = version
      · rcases moved : current.transition change with error | next
        · simp [owner,fresh,reject,taskRouteResult,Simulates]
        · have step := TaskRouteRecord.transition_ok moved
          obtain ⟨-,updated,-,-,nextVersion⟩ := step.after.shaped.numbers
          have range : version ≤ maxSqliteInteger := fresh ▸ step.before.shaped.numbers.2.2.2.2
          have same := rep.ok.id i current here
          have nextSame : next.publicTaskId = i ∧ next.caller = caller := by
            obtain ⟨upstream,digest,rfl⟩ := step.moved
            exact ⟨same,owner⟩
          have only : ∀ s, routes s.publicTaskId = some s →
              ((ownedBy next.caller next.publicTaskId (stored s) &&
                (stored s).transitionVersion == (version : Int)) = true ↔ s = current) := by
            intro s stores
            rw [Bool.and_eq_true,ownedBy_stored]
            constructor
            · rintro ⟨⟨id,-⟩,-⟩
              rw [id,nextSame.1,here] at stores
              exact (Option.some.inj stores).symm
            · rintro rfl
              exact ⟨⟨same.trans nextSame.1.symm,owner.trans nextSame.2.symm⟩,by simp [stored,fresh]⟩
          obtain ⟨after,written,represents⟩ := rep.update (fun row =>
            ownedBy next.caller next.publicTaskId row && row.transitionVersion == (version : Int))
            here moved only (stored_moved moved)
          have one := rep.count_one (fun row =>
            ownedBy next.caller next.publicTaskId row && row.transitionVersion == (version : Int))
            (same.symm ▸ here) only
          simp only [owner,fresh,ne_eq,not_true,if_false,reject,taskRouteResult,Except.ok_then,
            toSqliteInteger_ok updated,toSqliteInteger_ok nextVersion,toSqliteInteger_ok range,
            written,one]
          exact ⟨rfl,represents⟩
      · simp [owner,fresh,reject,Simulates]
    · simpa [owner,Option.filter,Simulates] using rep

omit [Sha256] in
/-- The order of the statement and the order of the expiry entries agree. -/
theorem older_stored {r s : TaskRouteRecord} : older (stored r) (stored s) = true ↔
    Routes.expiryEntry r ≤ Routes.expiryEntry s := by
  simp only [older,decide_eq_true_eq,Routes.expiryEntry,Prod.Lex.toLex_le_toLex,stored,Int.ofNat_lt,
    Int.ofNat_inj]

theorem expired (rep : Represents table routes) (found : routes i = some r) (now : Nat) :
    decide ((stored r).expiresAtUnixMs ≤ min (now : Int) maxSqliteInteger) = r.isExpired now := by
  have range := (rep.ok.valid _ r found).shaped.numbers.2.2.2.1
  rw [Bool.eq_iff_iff,decide_eq_true_iff,TaskRouteRecord.isExpired,decide_eq_true_iff]
  change (r.expiresAtUnixMs : Int) ≤ _ ↔ _
  omega

/-- The rows an expiry scan returns are the routes due. -/
theorem due (rep : Represents table routes) (now : Nat) :
    Routes.Due routes now (((table.rows.filter fun row =>
      decide (row.expiresAtUnixMs ≤ min (now : Int) maxSqliteInteger)).mergeSort older).map
        fun row => toLex (row.expiresAtUnixMs.toNat,row.publicTaskId)) := by
  have entry : ∀ r, toLex ((stored r).expiresAtUnixMs.toNat,(stored r).publicTaskId) =
      Routes.expiryEntry r := fun r => rfl
  constructor
  · refine List.pairwise_map.mpr ((table.sorted_rows _).imp_of_mem ?_)
    rintro a b first second ⟨le,different⟩
    rw [List.mem_mergeSort,List.mem_filter,rep.rows] at first second
    obtain ⟨⟨r,-,rfl⟩,-⟩ := first
    obtain ⟨⟨s,-,rfl⟩,-⟩ := second
    refine lt_of_le_of_ne (older_stored.mp le) ?_
    intro same
    exact different.1 (congrArg (fun e => (ofLex e).2) same)
  · intro e
    rw [List.mem_map]
    constructor
    · rintro ⟨row,member,rfl⟩
      rw [List.mem_mergeSort,List.mem_filter,rep.rows] at member
      obtain ⟨⟨r,found,rfl⟩,past⟩ := member
      exact ⟨r,found,(rep.expired found now).symm.trans past,entry r⟩
    · rintro ⟨r,found,past,rfl⟩
      refine ⟨stored r,?_,entry r⟩
      rw [List.mem_mergeSort,List.mem_filter]
      exact ⟨rep.member found,(rep.expired found now).trans past⟩

/-- Deleting by a list of ids of stored routes deletes one row for each. -/
theorem deleteAll (rep : Represents table routes) {gone : List (Nat ×ₗ String)}
    (sorted : gone.Pairwise (· < ·)) (routed : ∀ entry ∈ gone,
      ∃ r, routes r.publicTaskId = some r ∧ entry = Routes.expiryEntry r)
    (ok : (routes.without gone).WellFormed) :
    table.count (fun row => (gone.map fun e => (ofLex e).2).contains row.publicTaskId) = gone.length ∧
      Represents (table.delete fun row =>
        (gone.map fun e => (ofLex e).2).contains row.publicTaskId) (routes.without gone) := by
  let ids := gone.map fun e => PublicTaskId.mk (ofLex e).2
  have nodup : ids.Nodup := by
    refine List.pairwise_map.mpr (sorted.imp_of_mem ?_)
    intro a b first second below same
    obtain ⟨r,here,rfl⟩ := routed a first
    obtain ⟨s,there,rfl⟩ := routed b second
    have ids : r.publicTaskId = s.publicTaskId := same
    rw [ids,there] at here; cases here
    exact lt_irrefl _ below
  have contains : ∀ r : TaskRouteRecord,
      (gone.map fun e => (ofLex e).2).contains (stored r).publicTaskId = true ↔
        r.publicTaskId ∈ ids := by
    intro r
    simp [ids,stored,PublicTaskId.ext_iff]
  constructor
  · have image : {id | ∃ r, routes id = some r ∧
        (gone.map fun e => (ofLex e).2).contains (stored r).publicTaskId = true} =
          ↑ids.toFinset := by
      ext id
      simp only [contains,Set.mem_ofPred_eq,Finset.mem_coe,List.mem_toFinset]
      constructor
      · rintro ⟨r,found,member⟩
        rwa [← rep.ok.id id r found]
      · intro member
        obtain ⟨e,inside,rfl⟩ := List.mem_map.mp member
        obtain ⟨r,found,rfl⟩ := routed e inside
        exact ⟨r,found,member⟩
    rw [rep.count,Routes.count,image,Set.ncard_coe_finset,List.toFinset_card_of_nodup nodup,
      List.length_map]
  · refine rep.delete _ ok fun r => ?_
    rw [← Bool.not_eq_true,contains]
    have text : r.publicTaskId.text ∈ gone.map (fun e => (ofLex e).2) ↔ r.publicTaskId ∈ ids := by
      simp [ids,PublicTaskId.ext_iff]
    unfold Routes.without
    by_cases out : r.publicTaskId ∈ ids
    · rw [if_pos (text.mpr out)]
      simp [out]
    · rw [if_neg (fun inside => out (text.mp inside))]
      simp [out]

theorem purge (rep : Represents table routes) (now limit : Nat) :
    (purgeExpiredTaskRoutes now limit table).1 = (routes.purge now limit).1 ∧
      Represents (purgeExpiredTaskRoutes now limit table).2 (routes.purge now limit).2 := by
  have ok : Routes.WellFormed (routes.purge now limit).2 := Routes.purge_step.wellFormed rep.ok
  unfold purgeExpiredTaskRoutes
  unfold Routes.purge at ok ⊢
  have due := rep.due now
  rw [due.due] at ok ⊢
  by_cases none : boundedTaskRoutePurgeLimit limit = 0
  · rw [if_pos none,none]
    refine ⟨rfl,?_⟩
    change Represents table (routes.without [])
    rw [Routes.without_nil]
    exact rep
  · rw [if_neg none]
    obtain ⟨count,represents⟩ := rep.deleteAll (due.sorted.sublist (List.take_sublist _ _))
      (fun entry member => by
        obtain ⟨r,found,-,equal⟩ := (due.member entry).mp (List.mem_of_mem_take member)
        exact ⟨r,found,equal⟩) ok
    have ids : table.oldest (fun row =>
        decide (row.expiresAtUnixMs ≤ min (now : Int) maxSqliteInteger))
          (boundedTaskRoutePurgeLimit limit) = (((((table.rows.filter fun row =>
            decide (row.expiresAtUnixMs ≤ min (now : Int) maxSqliteInteger)).mergeSort older).map
              fun row => toLex (row.expiresAtUnixMs.toNat,row.publicTaskId)).take
                (boundedTaskRoutePurgeLimit limit)).map fun e => (ofLex e).2) := by
      rw [oldest,List.map_take,List.map_take,List.map_map]
      rfl
    rw [← ids] at count represents
    exact ⟨congrArg Except.ok count,represents⟩

theorem holder_valid (rep : Represents table routes) (r : TaskRouteRecord)
    (holds : routes.holder caller key = some r) : r.Valid :=
  rep.ok.valid _ r (rep.ok.holder.mp holds).1

theorem owned_valid (rep : Represents table routes) (r : TaskRouteRecord)
    (found : ((routes i).filter fun r => r.caller = caller) = some r) : r.Valid :=
  rep.ok.valid i r (Option.filter_eq_some_iff.mp found).1

theorem find (rep : Represents table routes) (caller : TaskRouteCaller)
    (key : TaskRouteIdempotencyKey) :
    selectTaskRouteByIdempotency table caller key = routes.find caller key ∨
      ∃ error, selectTaskRouteByIdempotency table caller key = .error error := by
  unfold selectTaskRouteByIdempotency
  rw [rep.select_key]
  exact decodeSelected_stored rep.holder_valid

theorem get (rep : Represents table routes) (caller : TaskRouteCaller) (i : PublicTaskId) :
    selectTaskRouteByPublicId table caller i = routes.get caller i ∨
      ∃ error, selectTaskRouteByPublicId table caller i = .error error := by
  unfold selectTaskRouteByPublicId
  rw [rep.select_id]
  exact decodeSelected_stored rep.owned_valid

/-- A begin that cannot read the holder of its key fails and changes nothing. -/
theorem begin_unread (held : record.idempotencyKey = some key)
    (unread : selectTaskRouteByIdempotency table record.caller key = .error error) :
    ∃ e, beginOrExisting record table = (.error e,table) := by
  rcases prepared : record.verifyPreparedForBegin with e | ⟨⟩
  · exact ⟨_,by rw [beginOrExisting,atomically,prepared]; rfl⟩
  · exact ⟨error,by simp [beginOrExisting,atomically,prepared,taskRouteResult,held,unread]⟩

theorem begin (rep : Represents table routes) (record : TaskRouteRecord) :
    ((beginOrExisting record table).1 = (routes.begin record).1 ∧
      Represents (beginOrExisting record table).2 (routes.begin record).2) ∨
    ∃ error, beginOrExisting record table = (.error error,table) := by
  rcases held : record.idempotencyKey with _ | key
  · exact .inl (rep.begin_of fun key some => by rw [held] at some; cases some)
  · rcases rep.find record.caller key with found | ⟨error,unread⟩
    · refine .inl (rep.begin_of fun other some => ?_)
      rw [held] at some; cases some
      exact found
    · exact .inr (begin_unread held unread)

theorem compareAndSet (rep : Represents table routes) (caller : TaskRouteCaller)
    (i : PublicTaskId) (version : Nat) (change : TaskRouteUpdate) :
    ((compareAndSetTaskRoute caller i version change table).1 =
        (routes.compareAndSet caller i version change).1 ∧
      Represents (compareAndSetTaskRoute caller i version change table).2
        (routes.compareAndSet caller i version change).2) ∨
    ∃ error, compareAndSetTaskRoute caller i version change table = (.error error,table) := by
  rcases rep.get caller i with found | ⟨error,unread⟩
  · exact .inl (rep.compareAndSet_of version change found)
  · exact .inr ⟨error,by simp [compareAndSetTaskRoute,atomically,unread]⟩

theorem begin_step (rep : Represents table routes) (record : TaskRouteRecord) :
    ∃ routes', Represents (beginOrExisting record table).2 routes' ∧
      Routes.Begin record routes (beginOrExisting record table).1 routes' := by
  rcases rep.begin record with ⟨result,after⟩ | ⟨error,failed⟩
  · exact ⟨_,after,result ▸ Routes.begin_step rep.ok⟩
  · rw [failed]
    exact ⟨routes,rep,.refused⟩

theorem compareAndSet_step (rep : Represents table routes) (caller : TaskRouteCaller)
    (i : PublicTaskId) (version : Nat) (change : TaskRouteUpdate) :
    ∃ routes', Represents (compareAndSetTaskRoute caller i version change table).2 routes' ∧
      Routes.CompareAndSet caller i version change routes
        (compareAndSetTaskRoute caller i version change table).1 routes' := by
  rcases rep.compareAndSet caller i version change with ⟨result,after⟩ | ⟨error,failed⟩
  · exact ⟨_,after,result ▸ Routes.compareAndSet_step⟩
  · rw [failed]
    exact ⟨routes,rep,.refused⟩

end Represents

end TaskRouteTable
end GaugeMesh
