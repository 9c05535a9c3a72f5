import GaugeMesh.Task.Transition
import Mathlib.Logic.Function.Basic

/-! `trait TaskRouteStorage`, and what a store of task routes is for: a map from
public ids to valid records with at most one record for each caller and key. Each
operation of a lawful store is one step of that map, whatever it is built from. -/
namespace GaugeMesh
open Json

def maxTaskRoutePurgeRecordsPerCall : Nat := 10000
def maxStoredTaskRoutes : Nat := 4096
def maxActiveTaskRoutesPerCaller : Nat := 256

inductive TaskRouteStorageError where
  | sqlite
  | json
  | taskRoute (error : TaskRouteError)
  | poisoned
  | taskRouteIntegrity
  | idempotencyConflict
  | publicTaskIdCollision
  | taskRouteCapacity
  | staleTransition
  deriving DecidableEq

inductive BeginTaskRouteResult where
  | inserted (record : TaskRouteRecord)
  | existing (record : TaskRouteRecord)
  deriving DecidableEq

/-- `result.map_err(TaskRouteStorageError::TaskRoute)`. -/
def taskRouteResult : Except TaskRouteError α → Except TaskRouteStorageError α
  | .ok a => .ok a
  | .error error => .error (.taskRoute error)

@[simp] theorem taskRouteResult_ok {result : Except TaskRouteError α} {a : α} :
    taskRouteResult result = .ok a ↔ result = .ok a := by
  cases result <;> simp [taskRouteResult]

def boundedTaskRoutePurgeLimit (maxRecords : Nat) : Nat :=
  min maxRecords maxTaskRoutePurgeRecordsPerCall

/-- An operation that leaves the store alone when it fails. -/
def atomically (run : σ → Except ε (α × σ)) (s : σ) : Except ε α × σ :=
  match run s with
  | .ok (a,after) => (.ok a,after)
  | .error error => (.error error,s)

theorem atomically_error {run : σ → Except ε (α × σ)} {s : σ} {error : ε}
    (failed : (atomically run s).1 = .error error) : (atomically run s).2 = s := by
  unfold atomically at failed ⊢
  split at failed
  · cases failed
  · rfl

class TaskRouteStorage (σ : Type) where
  empty : σ
  findTaskRoute : σ → TaskRouteCaller → TaskRouteIdempotencyKey →
    Except TaskRouteStorageError (Option TaskRouteRecord)
  beginOrExisting : TaskRouteRecord → σ → Except TaskRouteStorageError BeginTaskRouteResult × σ
  getTaskRoute : σ → TaskRouteCaller → PublicTaskId →
    Except TaskRouteStorageError (Option TaskRouteRecord)
  compareAndSetTaskRoute : TaskRouteCaller → PublicTaskId → Nat → TaskRouteUpdate → σ →
    Except TaskRouteStorageError (Option TaskRouteRecord) × σ
  purgeExpiredTaskRoutes : Nat → Nat → σ → Except TaskRouteStorageError Nat × σ

/-- The records of a store by their public ids. -/
abbrev Routes := PublicTaskId → Option TaskRouteRecord

namespace Routes

variable [FloatText] [Sha256]

structure WellFormed (routes : Routes) : Prop where
  id : ∀ id r, routes id = some r → r.publicTaskId = id
  valid : ∀ id r, routes id = some r → r.Valid
  key : ∀ i r j s key, routes i = some r → routes j = some s → r.caller = s.caller →
    r.idempotencyKey = some key → s.idempotencyKey = some key → i = j

/-- The records that `begin` may drop: the expired holder of the key. -/
def Replaced (record old : TaskRouteRecord) : Prop :=
  old.caller = record.caller ∧ old.idempotencyKey = record.idempotencyKey ∧
    old.isExpired record.createdAtUnixMs = true

inductive Begin (record : TaskRouteRecord) (before : Routes) :
    Except TaskRouteStorageError BeginTaskRouteResult → Routes → Prop
  | inserted (prepared : record.verifyPreparedForBegin = .ok ())
      (stored : after record.publicTaskId = some record)
      (fresh : ∀ old, before record.publicTaskId = some old → Replaced record old)
      (others : ∀ id, id ≠ record.publicTaskId → after id = before id ∨
        after id = none ∧ ∃ old, before id = some old ∧ Replaced record old)
      (alone : ∀ id r, id ≠ record.publicTaskId → after id = some r → r.caller = record.caller →
        r.idempotencyKey = record.idempotencyKey → r.idempotencyKey = none) :
      Begin record before (.ok (.inserted record)) after
  | existing (stored : before r.publicTaskId = some r) (caller : r.caller = record.caller)
      (key : r.idempotencyKey = record.idempotencyKey)
      (request : r.requestDigest = record.requestDigest) :
      Begin record before (.ok (.existing r)) before
  | refused : Begin record before (.error error) before

inductive CompareAndSet (caller : TaskRouteCaller) (id : PublicTaskId) (version : Nat)
    (update : TaskRouteUpdate) (before : Routes) :
    Except TaskRouteStorageError (Option TaskRouteRecord) → Routes → Prop
  | set (stored : before id = some current) (owner : current.caller = caller)
      (fresh : current.transitionVersion = version) (moved : current.transition update = .ok next) :
      CompareAndSet caller id version update before (.ok (some next))
        (Function.update before id (some next))
  | unknown : CompareAndSet caller id version update before (.ok none) before
  | refused : CompareAndSet caller id version update before (.error error) before

/-- A purge only drops records, and only expired ones. -/
def Purge (now : Nat) (before after : Routes) : Prop :=
  ∀ id, after id = before id ∨
    after id = none ∧ ∃ old, before id = some old ∧ old.isExpired now = true

end Routes

namespace Routes

variable [FloatText] [Sha256] {before after : Routes}

theorem wellFormed_empty : WellFormed fun _ => none := by
  constructor <;> simp

theorem WellFormed.erase (ok : before.WellFormed) (i : PublicTaskId) :
    WellFormed (Function.update before i none) := by
  have old : ∀ j r, Function.update before i none j = some r → before j = some r := by
    intro j r found
    by_cases same : j = i
    · subst same
      rw [Function.update_self] at found; cases found
    · rwa [Function.update_of_ne same] at found
  exact ⟨fun j r found => ok.id j r (old j r found),fun j r found => ok.valid j r (old j r found),
    fun j r k s key first second => ok.key j r k s key (old j r first) (old k s second)⟩

/-- Where a record stored after a step comes from. -/
theorem Begin.stored {i : PublicTaskId} (begun : Begin record before result after)
    (found : after i = some r) : before i = some r ∨
      i = record.publicTaskId ∧ r = record ∧ result = .ok (.inserted record) := by
  cases begun with
  | existing => exact .inl found
  | refused => exact .inl found
  | inserted _ stored _ others _ =>
    by_cases new : i = record.publicTaskId
    · subst new
      rw [stored] at found
      exact .inr ⟨rfl,(Option.some.inj found).symm,rfl⟩
    · rcases others i new with same | ⟨gone,-⟩
      · rw [← same]; exact .inl found
      · rw [gone] at found; cases found

theorem CompareAndSet.stored {i j : PublicTaskId}
    (set : CompareAndSet caller i version update before result after) (found : after j = some r) :
    before j = some r ∨ j = i ∧ result = .ok (some r) ∧ ∃ current, before i = some current ∧
      current.caller = caller ∧ current.transitionVersion = version ∧
        current.transition update = .ok r := by
  cases set with
  | unknown => exact .inl found
  | refused => exact .inl found
  | set stored owner fresh moved =>
    by_cases same : j = i
    · subst same
      rw [Function.update_self] at found; cases found
      exact .inr ⟨rfl,rfl,_,stored,owner,fresh,moved⟩
    · rw [Function.update_of_ne same] at found
      exact .inl found

omit [FloatText] [Sha256] in
theorem Purge.stored {i : PublicTaskId} (purged : Purge now before after) (found : after i = some r) :
    before i = some r := by
  rcases purged i with same | ⟨gone,-⟩
  · rw [← same]; exact found
  · rw [gone] at found; cases found

theorem Begin.wellFormed (begun : Begin record before result after) (ok : before.WellFormed) :
    after.WellFormed := by
  have kind := begun
  cases kind with
  | existing => exact ok
  | refused => exact ok
  | inserted prepared stored _ _ alone =>
    have old : ∀ i r, i ≠ record.publicTaskId → after i = some r → before i = some r := by
      intro i r other found
      rcases begun.stored found with kept | ⟨new,-⟩
      · exact kept
      · exact absurd new other
    constructor
    · intro i r found
      by_cases new : i = record.publicTaskId
      · subst new
        rw [stored] at found; cases found; rfl
      · exact ok.id i r (old i r new found)
    · intro i r found
      by_cases new : i = record.publicTaskId
      · subst new
        rw [stored] at found; cases found
        exact (TaskRouteRecord.verifyPreparedForBegin_ok.mp prepared).1
      · exact ok.valid i r (old i r new found)
    · intro i r j s key first second caller left right
      by_cases newI : i = record.publicTaskId <;> by_cases newJ : j = record.publicTaskId
      · rw [newI,newJ]
      · subst newI
        rw [stored] at first; cases first
        have none := alone j s newJ second caller.symm (right.trans left.symm)
        rw [right] at none; cases none
      · subst newJ
        rw [stored] at second; cases second
        have none := alone i r newI first caller (left.trans right.symm)
        rw [left] at none; cases none
      · exact ok.key i r j s key (old i r newI first) (old j s newJ second) caller left right

theorem WellFormed.insert (ok : before.WellFormed) (prepared : record.verifyPreparedForBegin = .ok ())
    (free : before record.publicTaskId = none)
    (alone : ∀ i r, before i = some r → r.caller = record.caller →
      r.idempotencyKey = record.idempotencyKey → r.idempotencyKey = none) :
    WellFormed (Function.update before record.publicTaskId (some record)) := by
  have step : Begin record before (.ok (.inserted record))
      (Function.update before record.publicTaskId (some record)) := by
    refine .inserted prepared (Function.update_self ..) ?_ ?_ ?_
    · intro old stored
      rw [free] at stored; cases stored
    · exact fun i other => .inl (Function.update_of_ne other ..)
    · intro i r other found
      rw [Function.update_of_ne other] at found
      exact alone i r found
  exact step.wellFormed ok

theorem CompareAndSet.wellFormed {i : PublicTaskId}
    (set : CompareAndSet caller i version update before result after) (ok : before.WellFormed) :
    after.WellFormed := by
  cases set with
  | unknown => exact ok
  | refused => exact ok
  | @set current next stored _ _ moved =>
    have step := TaskRouteRecord.transition_ok moved
    obtain ⟨upstream,digest,rfl⟩ := step.moved
    have old : ∀ j r, Function.update before i (some (current.moved update upstream digest)) j =
        some r → ∃ r', before j = some r' ∧ r'.publicTaskId = r.publicTaskId ∧
          r'.caller = r.caller ∧ r'.idempotencyKey = r.idempotencyKey := by
      intro j r found
      by_cases same : j = i
      · subst same
        rw [Function.update_self] at found; cases found
        exact ⟨current,stored,rfl,rfl,rfl⟩
      · rw [Function.update_of_ne same] at found
        exact ⟨r,found,rfl,rfl,rfl⟩
    constructor
    · intro j r found
      obtain ⟨r',found',same,-⟩ := old j r found
      rw [← same]
      exact ok.id j r' found'
    · intro j r found
      by_cases same : j = i
      · subst same
        rw [Function.update_self] at found; cases found
        exact step.after
      · rw [Function.update_of_ne same] at found
        exact ok.valid j r found
    · intro j r k s key first second caller left right
      obtain ⟨r',first',-,sameCaller,sameKey⟩ := old j r first
      obtain ⟨s',second',-,otherCaller,otherKey⟩ := old k s second
      exact ok.key j r' k s' key first' second' (by rw [sameCaller,otherCaller,caller])
        (by rw [sameKey,left]) (by rw [otherKey,right])

theorem Purge.wellFormed (purged : Purge now before after) (ok : before.WellFormed) :
    after.WellFormed :=
  ⟨fun i r found => ok.id i r (purged.stored found),
    fun i r found => ok.valid i r (purged.stored found),
    fun i r j s key first second =>
      ok.key i r j s key (purged.stored first) (purged.stored second)⟩

end Routes
end GaugeMesh
