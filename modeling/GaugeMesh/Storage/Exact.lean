import GaugeMesh.Storage.Equivalence

/-! Both stores are exactly the map of their routes, except that a store may be unable to
read a record back. Properties of answers, rather than of what is stored, are proved of
every such store at once. -/
namespace GaugeMesh
open Json

namespace Routes

variable (unreadable : TaskRouteRecord → Option TaskRouteStorageError)

/-- What was found, unless it cannot be read back. -/
def read (found : Option TaskRouteRecord) :
    Except TaskRouteStorageError (Option TaskRouteRecord) :=
  match found.bind unreadable with
  | some error => .error error
  | none => .ok found

/-- What an operation does when it first reads `found`. -/
def reading (found : Option TaskRouteRecord) (routes : Routes)
    (operation : Except TaskRouteStorageError α × Routes) :
    Except TaskRouteStorageError α × Routes :=
  match found.bind unreadable with
  | some error => (.error error,routes)
  | none => operation

variable [FloatText] [Sha256]

noncomputable def beginReading (record : TaskRouteRecord) (routes : Routes) :
    Except TaskRouteStorageError BeginTaskRouteResult × Routes :=
  match record.verifyPreparedForBegin with
  | .error error => (.error (.taskRoute error),routes)
  | .ok () => reading unreadable (record.idempotencyKey.bind (routes.holder record.caller)) routes
      (routes.begin record)

def compareAndSetReading (caller : TaskRouteCaller) (id : PublicTaskId) (version : Nat)
    (update : TaskRouteUpdate) (routes : Routes) :
    Except TaskRouteStorageError (Option TaskRouteRecord) × Routes :=
  reading unreadable ((routes id).filter fun r => r.caller = caller) routes
    (routes.compareAndSet caller id version update)

end Routes

/-- A store whose answers are those of the map of its routes. -/
class ExactTaskRouteStorage (σ : Type) [FloatText] [Sha256] [TaskRouteStorage σ] where
  Represents : σ → Routes → Prop
  holds : σ → TaskRouteRecord → Prop
  unreadable : TaskRouteRecord → Option TaskRouteStorageError
  wellFormed : Represents s routes → routes.WellFormed
  finite : Represents s routes → {id | ∃ r, routes id = some r}.Finite
  empty : Represents TaskRouteStorage.empty fun _ => none
  holds_iff : Represents s routes → (holds s r ↔ routes r.publicTaskId = some r)
  find : Represents s routes → TaskRouteStorage.findTaskRoute s caller key =
    Routes.read unreadable (routes.holder caller key)
  get {i : PublicTaskId} : Represents s routes → TaskRouteStorage.getTaskRoute s caller i =
    Routes.read unreadable ((routes i).filter fun r => r.caller = caller)
  begin (record : TaskRouteRecord) : Represents s routes →
    (TaskRouteStorage.beginOrExisting record s).1 =
        (Routes.beginReading unreadable record routes).1 ∧
      Represents (TaskRouteStorage.beginOrExisting record s).2
        (Routes.beginReading unreadable record routes).2
  compareAndSet (caller : TaskRouteCaller) (i : PublicTaskId) (version : Nat)
    (update : TaskRouteUpdate) : Represents s routes →
    (TaskRouteStorage.compareAndSetTaskRoute caller i version update s).1 =
        (Routes.compareAndSetReading unreadable caller i version update routes).1 ∧
      Represents (TaskRouteStorage.compareAndSetTaskRoute caller i version update s).2
        (Routes.compareAndSetReading unreadable caller i version update routes).2
  purge (now limit : Nat) : Represents s routes →
    (TaskRouteStorage.purgeExpiredTaskRoutes now limit s).1 = (routes.purge now limit).1 ∧
      Represents (TaskRouteStorage.purgeExpiredTaskRoutes now limit s).2
        (routes.purge now limit).2

namespace Routes

variable {unreadable : TaskRouteRecord → Option TaskRouteStorageError} {routes : Routes}

theorem reading_none {found : Option TaskRouteRecord}
    {operation : Except TaskRouteStorageError α × Routes}
    (readable : found.bind unreadable = none) :
    reading unreadable found routes operation = operation := by
  rw [reading,readable]

theorem reading_some {found : Option TaskRouteRecord}
    {operation : Except TaskRouteStorageError α × Routes}
    (failed : found.bind unreadable = some error) :
    reading unreadable found routes operation = (.error error,routes) := by
  rw [reading,failed]

section
variable [FloatText] [Sha256]

/-- Nothing is read for a key that nobody holds. -/
theorem beginReading_free (free : record.idempotencyKey.bind (routes.holder record.caller) = none) :
    beginReading unreadable record routes = routes.begin record := by
  rw [beginReading,Routes.begin,free]
  rcases record.verifyPreparedForBegin with error | ⟨⟩
  · rfl
  · exact reading_none rfl

theorem beginReading_empty (prepared : record.verifyPreparedForBegin = .ok ()) :
    beginReading unreadable record (fun _ => none) =
      (.ok (.inserted record),Function.update (fun _ => none) record.publicTaskId (some record)) := by
  refine (beginReading_free ?_).trans (begin_empty prepared)
  rcases record.idempotencyKey with _ | key
  · rfl
  · simp [holder]

/-- A stored and readable record is moved by an update it accepts. -/
theorem compareAndSetReading_moved (stored : routes i = some r) (readable : unreadable r = none)
    (moved : r.transition update = .ok next) :
    compareAndSetReading unreadable r.caller i r.transitionVersion update routes =
      (.ok (some next),Function.update routes i (some next)) := by
  rw [compareAndSetReading,stored,Option.filter_some_pos (by simp),reading_none (by simpa using readable),
    compareAndSet_moved stored moved]

end
end Routes

section
variable [FloatText] [Sha256]

theorem MemoryTaskRoutes.Represents.finite {memory : MemoryTaskRoutes} {routes : Routes}
    (rep : memory.Represents routes) : {id | ∃ r, routes id = some r}.Finite := by
  refine (memory.byId.keys.finite_toSet.image PublicTaskId.mk).subset ?_
  rintro id ⟨r,stored⟩
  exact ⟨id.text,Finmap.mem_keys.mpr ((rep.mem_byId id).mpr (by rw [stored]; rfl)),rfl⟩

omit [FloatText] [Sha256] in
theorem Routes.read_readable (found : Option TaskRouteRecord) :
    read (fun _ => none) found = .ok found := by
  rw [read,Option.bind_fun_none]

/-- A begin that reads every record is the begin of the map. -/
theorem Routes.beginReading_readable (record : TaskRouteRecord) (routes : Routes) :
    beginReading (fun _ => none) record routes = routes.begin record := by
  rcases prepared : record.verifyPreparedForBegin with error | ⟨⟩
  · simp [beginReading,Routes.begin,prepared]
  · simp [beginReading,prepared,reading]

instance : ExactTaskRouteStorage MemoryTaskRoutes where
  Represents := MemoryTaskRoutes.Represents
  holds memory r := memory.byId.lookup r.publicTaskId.text = some r
  unreadable _ := none
  wellFormed rep := rep.ok
  finite rep := rep.finite
  empty := .empty
  holds_iff {_ _ r} rep := by rw [rep.byId]
  find rep := rep.find.trans (Routes.read_readable _).symm
  get rep := rep.get.trans (Routes.read_readable _).symm
  begin record rep := by
    rw [Routes.beginReading_readable]
    exact rep.begin record
  compareAndSet caller i version update rep := by
    rw [Routes.compareAndSetReading,Routes.reading_none (Option.bind_fun_none _)]
    exact rep.compareAndSet caller i version update
  purge now limit rep := rep.purge now limit

end

namespace TaskRouteTable

variable [SerdeJson] [Sha256]

/-- Why the row of a record cannot be decoded, if it cannot. -/
def undecodable (r : TaskRouteRecord) : Option TaskRouteStorageError :=
  match decodeTaskRoute (stored r) with
  | .ok _ => none
  | .error error => some error

theorem decodeSelected_read {found : Option TaskRouteRecord}
    (valid : ∀ r, found = some r → r.Valid) :
    decodeSelected (found.map stored) = Routes.read undecodable found := by
  rcases found with _ | r
  · rfl
  · rw [Option.map_some,decodeSelected,Routes.read,Option.bind_some,undecodable]
    rcases decoded : decodeTaskRoute (stored r) with error | x
    · rfl
    · rw [decode_written_ok rfl (valid r rfl) decoded]
      rfl

/-- A record that survives the text is decoded. -/
theorem undecodable_readable {r : TaskRouteRecord} (valid : r.Valid) :
    undecodable r = none ↔ r.Readable := by
  rw [← decode_written rfl valid (stored_matches r),undecodable]
  rcases decoded : decodeTaskRoute (stored r) with error | x
  · simp
  · rw [decode_written_ok rfl valid decoded]
    simp

/-- Two valid records with the same row are the same: only a null state is written like an
absent one, and the phase tells these apart. -/
theorem stored_injective {r s : TaskRouteRecord} (first : r.Valid) (second : s.Valid)
    (same : stored r = stored s) : r = s := by
  have texts := String.ofList_injective (congrArg StoredTaskRoute.documentJson same)
  have documents : r.encode = s.encode := Value.text_injective texts
  have reread : r.reread = s.reread := by
    have decoded := congrArg TaskRouteRecord.decode documents
    rw [TaskRouteRecord.decode_encode,TaskRouteRecord.decode_encode] at decoded
    exact Option.some.inj decoded
  have phases : r.reread.phase = s.reread.phase := congrArg TaskRouteRecord.phase reread
  change r.phase = s.phase at phases
  have filtered : r.cachedTerminalState.filter (· ≠ .null) =
      s.cachedTerminalState.filter (· ≠ .null) :=
    congrArg TaskRouteRecord.cachedTerminalState reread
  have present : r.cachedTerminalState.isSome = s.cachedTerminalState.isSome := by
    rw [Bool.eq_iff_iff,← first.shaped.cached,← second.shaped.cached,phases]
  have cached : r.cachedTerminalState = s.cachedTerminalState := by
    rcases left : r.cachedTerminalState with _ | v <;>
      rcases right : s.cachedTerminalState with _ | w <;>
        simp only [left,right,Option.isSome_none,Option.isSome_some,reduceCtorEq] at present
    · rfl
    · rw [left,right] at filtered
      by_cases absent : v = .null <;> by_cases other : w = .null <;>
        simp_all [Option.filter]
  have whole : { r.reread with cachedTerminalState := r.cachedTerminalState } =
      { s.reread with cachedTerminalState := s.cachedTerminalState } := by rw [reread,cached]
  exact whole

namespace Represents

variable {table : TaskRouteTable} {routes : Routes}

theorem finite (rep : Represents table routes) :
    {id | ∃ r, routes id = some r}.Finite := by
  refine (List.finite_toSet (table.rows.map fun row => PublicTaskId.mk row.publicTaskId)).subset ?_
  rintro id ⟨r,found⟩
  have same := rep.ok.id id r found
  exact List.mem_map.mpr ⟨stored r,rep.member found,same⟩

theorem read_holder (rep : Represents table routes) (caller : TaskRouteCaller)
    (key : TaskRouteIdempotencyKey) : selectTaskRouteByIdempotency table caller key =
      Routes.read undecodable (routes.holder caller key) := by
  rw [selectTaskRouteByIdempotency,rep.select_key]
  exact decodeSelected_read rep.holder_valid

theorem read_owned (rep : Represents table routes) (caller : TaskRouteCaller) (i : PublicTaskId) :
    selectTaskRouteByPublicId table caller i =
      Routes.read undecodable ((routes i).filter fun r => r.caller = caller) := by
  rw [selectTaskRouteByPublicId,rep.select_id]
  exact decodeSelected_read rep.owned_valid

theorem begin_reading (rep : Represents table routes) (record : TaskRouteRecord) :
    (beginOrExisting record table).1 = (Routes.beginReading undecodable record routes).1 ∧
      Represents (beginOrExisting record table).2
        (Routes.beginReading undecodable record routes).2 := by
  rcases prepared : record.verifyPreparedForBegin with error | ⟨⟩
  · simp only [beginOrExisting,atomically,Routes.beginReading,prepared,taskRouteResult,
      Except.error_then]
    exact ⟨trivial,rep⟩
  · simp only [Routes.beginReading,prepared]
    rcases unread : (record.idempotencyKey.bind (routes.holder record.caller)).bind undecodable
      with _ | error
    · rw [Routes.reading_none unread]
      refine rep.begin_of fun key held => ?_
      rw [held,Option.bind_some] at unread
      rw [rep.read_holder,Routes.read,unread]
    · rw [Routes.reading_some unread]
      rcases held : record.idempotencyKey with _ | key
      · rw [held] at unread; cases unread
      · rw [held,Option.bind_some] at unread
        have failed : selectTaskRouteByIdempotency table record.caller key = .error error := by
          rw [rep.read_holder,Routes.read,unread]
        have whole : beginOrExisting record table = (.error error,table) := by
          simp [beginOrExisting,atomically,prepared,taskRouteResult,held,failed]
        rw [whole]
        exact ⟨rfl,rep⟩

theorem compareAndSet_reading (rep : Represents table routes) (caller : TaskRouteCaller)
    (i : PublicTaskId) (version : Nat) (update : TaskRouteUpdate) :
    (compareAndSetTaskRoute caller i version update table).1 =
        (Routes.compareAndSetReading undecodable caller i version update routes).1 ∧
      Represents (compareAndSetTaskRoute caller i version update table).2
        (Routes.compareAndSetReading undecodable caller i version update routes).2 := by
  have read := rep.read_owned caller i
  rw [Routes.compareAndSetReading]
  rcases unread : ((routes i).filter fun r => r.caller = caller).bind undecodable with _ | error
  · rw [Routes.reading_none unread]
    refine rep.compareAndSet_of version update ?_
    rw [read,Routes.read,unread]
  · rw [Routes.reading_some unread]
    have failed : selectTaskRouteByPublicId table caller i = .error error := by
      rw [read,Routes.read,unread]
    have whole : compareAndSetTaskRoute caller i version update table = (.error error,table) := by
      simp [compareAndSetTaskRoute,atomically,failed]
    rw [whole]
    exact ⟨rfl,rep⟩

end Represents

instance : ExactTaskRouteStorage TaskRouteTable where
  Represents := Represents
  holds table r := r.Valid ∧ stored r ∈ table.rows
  unreadable := undecodable
  wellFormed rep := rep.ok
  finite rep := rep.finite
  empty := .empty
  holds_iff {_ routes r} rep := by
    constructor
    · rintro ⟨valid,member⟩
      obtain ⟨s,found,same⟩ := (rep.rows _).mp member
      rw [stored_injective valid (rep.ok.valid _ s found) same]
      exact found
    · exact fun found => ⟨rep.ok.valid _ r found,rep.member found⟩
  find {_ _ caller key} rep := rep.read_holder caller key
  get {_ _ caller i} rep := rep.read_owned caller i
  begin record rep := rep.begin_reading record
  compareAndSet caller i version update rep := rep.compareAndSet_reading caller i version update
  purge now limit rep := rep.purge now limit

end TaskRouteTable
end GaugeMesh
