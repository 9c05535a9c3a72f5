import GaugeMesh.Interleaving.Disturbed
import GaugeMesh.Proxy.Library
import GaugeMesh.Proxy.TaskProxy
import GaugeMesh.Storage.Idempotency
import GaugeMesh.Task.Chain

/-! The loops of compare-and-set attempts against everything other instances may do to the
route in between. Each attempt either moves the very record it was made for, or it is lost
and the record that was read instead is looked at afresh. -/
namespace GaugeMesh
open Json Interleaving

namespace TaskRouteRecord

variable [FloatText] [Sha256] {r : TaskRouteRecord} {change : TaskRouteUpdate}

/-- What the loops ask for: a later phase of any route still open, under the upstream task
it has. -/
structure Closing (change : TaskRouteUpdate) : Prop where
  phase : change.phase = .cancelRequested ∨ change.phase = .reconciliationRequired ∨
    change.phase = .terminal
  upstream : change.upstreamTaskId = none
  owner : change.dispatchOwnerId = none
  cached : change.cachedTerminalState.isSome ↔ change.phase = .terminal
  small : ∀ v, change.cachedTerminalState = some v →
    (canonicalJson v).byteLength ≤ maxCachedTerminalStateBytes

omit [FloatText] [Sha256] in
/-- A check that is passed leaves what comes after it. -/
theorem past {x : Except ε α} {f : α → Except ε β} {y : Except ε β} (passed : x = .ok a)
    (rest : f a = y) : (x >>= f) = y := by
  rw [passed]
  exact rest

omit [FloatText] [Sha256] in
theorem stopped {x : Except ε α} {f : α → Except ε β} (failed : x = .error error) :
    (x >>= f) = .error error := by
  rw [failed]
  rfl

/-- Only the numbers of a closed record can be out of shape. -/
theorem closing_shape (valid : r.Valid) (closing : Closing change)
    (times : r.updatedAtUnixMs ≤ change.updatedAtUnixMs) :
    (r.moved change r.upstreamTaskId .default).validateShape =
      if maxSqliteInteger < change.updatedAtUnixMs ∨ maxSqliteInteger < r.transitionVersion + 1
      then .error .numericRange else .ok () := by
  have shape := (verifyIntegrity_ok.mp valid).1
  have shaped := validateShape_ok shape
  obtain ⟨created,-,ttl,expires,-⟩ := shaped.numbers
  simp only [validateShape,Except.then_ok,okOr_bind_ok] at shape
  obtain ⟨version,id,principal,tenant,key,source,owner,session,task,binding,request,positive,
    expiry,sum,total,-⟩ := shape
  refine past version <| past id <| past principal <| past tenant <| past key <| past source <|
    past owner <| past session <| past task <| past binding <| past request <| past positive <|
    past ((okOr_ok _ _ _).mpr sum) <| past total ?_
  by_cases beyond : maxSqliteInteger < change.updatedAtUnixMs ∨
      maxSqliteInteger < r.transitionVersion + 1
  · rw [if_pos beyond,reject,if_pos]
    · rfl
    · rcases beyond with late | many <;> simp [moved, *]
  · rw [if_neg beyond]
    have open' : change.phase ≠ .prepared ∧ change.phase ≠ .dispatching ∧ change.phase ≠ .routed := by
      rcases closing.phase with phase | phase | phase <;> simp [phase]
    have updated := shaped.times
    refine past (a := ()) ((reject_ok _ _).mpr ?_) <| past (a := ()) ((reject_ok _ _).mpr ?_) <|
      past (a := ()) ((reject_ok _ _).mpr ?_) <| past (a := ()) ((reject_ok _ _).mpr ?_) <|
      past (a := ()) ((reject_ok _ _).mpr ?_) <| past (a := ()) ?_ <|
      past (a := ()) ((reject_ok _ _).mpr ?_) <| past (a := ()) ((reject_ok _ _).mpr ?_) ?_
    · simp only [moved,List.any_cons,List.any_nil,Bool.or_false,Bool.or_eq_true,decide_eq_true_eq]
      omega
    · simp only [moved]
      omega
    · simp [moved,open']
    · simp [moved,open']
    · simp [moved,open',closing.owner]
    · simp [moved,closing.owner,ifSome]
    · rintro ⟨phase,present⟩
      exact phase (closing.cached.mp present)
    · rintro ⟨phase,absent⟩
      have present := closing.cached.mpr phase
      simp only [moved] at absent
      simp_all
    · change ifSome change.cachedTerminalState _ = _
      rcases state : change.cachedTerminalState with _ | v
      · rfl
      · exact (reject_ok _ _).mpr (Nat.not_lt.mpr (closing.small v state))

theorem transition_closing (valid : r.Valid) (closing : Closing change)
    (allowed : canTransition r.phase change.phase = true)
    (times : r.updatedAtUnixMs ≤ change.updatedAtUnixMs) :
    (∃ next, r.transition change = .ok next) ∨ r.transition change = .error .numericRange ∧
      (maxSqliteInteger < change.updatedAtUnixMs ∨ maxSqliteInteger < r.transitionVersion + 1) := by
  have shape := closing_shape valid closing times
  by_cases beyond : maxSqliteInteger < change.updatedAtUnixMs ∨
      maxSqliteInteger < r.transitionVersion + 1
  · refine .inr ⟨?_,beyond⟩
    rw [if_pos beyond] at shape
    have upstream : nextUpstreamTaskId r.upstreamTaskId change.upstreamTaskId =
        .ok r.upstreamTaskId := by
      rw [closing.upstream]
      cases r.upstreamTaskId <;> rfl
    refine past valid <| past (a := ()) ((reject_ok _ _).mpr (by simpa using allowed)) <|
      past (a := ()) ((reject_ok _ _).mpr (by omega)) <|
      past (a := ()) ((reject_ok _ _).mpr (by simp [closing.upstream])) <| past upstream ?_
    have bounded := valid.shaped.numbers.2.2.2.2
    have counted : checkedAdd r.transitionVersion 1 = some (r.transitionVersion + 1) :=
      checkedAdd_some.mpr ⟨rfl,by unfold maxSqliteInteger at bounded; unfold maxU64; omega⟩
    rw [counted]
    by_cases many : maxSqliteInteger < r.transitionVersion + 1
    · rw [Option.filter_some_neg (by simpa using many)]
      rfl
    · rw [Option.filter_some_pos (by simpa using many)]
      exact past (a := r.transitionVersion + 1) rfl (stopped shape)
  · rw [if_neg beyond] at shape
    exact .inl ⟨_,transition_made change valid allowed times closing.upstream shape⟩

end TaskRouteRecord

section Store
variable {σ : Type} [FloatText] [Sha256] [TaskRouteStorage σ]

/-- Whatever other instances do with the store; ids are drawn anew, so no other route is
begun under the one looked at. -/
inductive Others (id : PublicTaskId) : σ → σ → Prop
  | beginOrExisting (other : record.publicTaskId ≠ id) :
      Others id s (TaskRouteStorage.beginOrExisting record s).2
  | compareAndSet : Others id s
      (TaskRouteStorage.compareAndSetTaskRoute caller i version update s).2
  | purge : Others id s (TaskRouteStorage.purgeExpiredTaskRoutes now limit s).2

variable [ExactTaskRouteStorage σ]

/-- The store failed by itself: an error that is no answer to the update, or a stored
record that it cannot read back. -/
def StorageFails (s : σ) (error : TaskRouteStorageError) : Prop :=
  (error ≠ .staleTransition ∧ ∀ refusal, error ≠ .taskRoute refusal) ∨
    ∃ r, ExactTaskRouteStorage.holds s r ∧ ExactTaskRouteStorage.unreadable σ r = some error

/-- An operation has its whole effect, or the store fails and nothing changes. -/
def Replies (performed : Except TaskRouteStorageError α × σ) (s : σ)
    (reply : Except TaskRouteStorageError α) (t : σ) : Prop :=
  (reply = performed.1 ∧ t = performed.2) ∨
    ∃ error, reply = .error error ∧ StorageFails s error ∧ t = s

def storeAct : (op : ProxyOp) → σ → op.Ret → σ → Prop
  | .findTaskRoute caller key, s, reply, t =>
      Replies (TaskRouteStorage.findTaskRoute s caller key,s) s reply t
  | .beginOrExisting record, s, reply, t =>
      Replies (TaskRouteStorage.beginOrExisting record s) s reply t
  | .getTaskRoute caller id, s, reply, t =>
      Replies (TaskRouteStorage.getTaskRoute s caller id,s) s reply t
  | .compareAndSetTaskRoute caller id version update, s, reply, t =>
      Replies (TaskRouteStorage.compareAndSetTaskRoute caller id version update s) s reply t
  | .purgeExpiredTaskRoutes now limit, s, reply, t =>
      Replies (TaskRouteStorage.purgeExpiredTaskRoutes now limit s) s reply t
  | .now, s, _, t | .randomTaskId, s, _, t | .sourceSnapshotDigest _, s, _, t
  | .sourceSessionId _, s, _, t | .sourceConfigurationDigest _, s, _, t
  | .callTool .., s, _, t | .getTask .., s, _, t | .cancelTask .., s, _, t => t = s

/-- The record is of the route the store holds, as it is or as it once was. -/
def Earlier (s : σ) (record : TaskRouteRecord) : Prop :=
  ∃ routes, ExactTaskRouteStorage.Represents s routes ∧
    ∀ stored, routes record.publicTaskId = some stored → record.Leads stored

/-- The store has no such route. -/
def Missing (s : σ) (id : PublicTaskId) : Prop :=
  ∀ r, ExactTaskRouteStorage.holds s r → r.publicTaskId ≠ id

theorem Earlier.others {s t : σ} {record : TaskRouteRecord} (earlier : Earlier s record)
    (moved : Others record.publicTaskId s t) : Earlier t record := by
  obtain ⟨routes,represents,leads⟩ := earlier
  have ok := ExactTaskRouteStorage.wellFormed represents
  cases moved with
  | @beginOrExisting fresh other =>
    refine ⟨_,(ExactTaskRouteStorage.begin fresh represents).2,fun stored found => ?_⟩
    rcases (Routes.beginReading_step ok fresh).stored found with before | ⟨same,-⟩
    · exact leads stored before
    · exact absurd same.symm other
  | @compareAndSet caller i version update =>
    refine ⟨_,(ExactTaskRouteStorage.compareAndSet caller i version update represents).2,
      fun stored found => ?_⟩
    rcases Routes.compareAndSetReading_step.stored found with before | ⟨rfl,-,current,here,-,-,made⟩
    · exact leads stored before
    · exact (leads current here).next (TaskRouteRecord.transition_ok made)
  | @purge now limit =>
    exact ⟨_,(ExactTaskRouteStorage.purge now limit represents).2,fun stored found =>
      leads stored (Routes.purge_step.stored found)⟩

theorem Earlier.disturbed {s t : σ} {record : TaskRouteRecord} (earlier : Earlier s record)
    (moved : Relation.ReflTransGen (Others record.publicTaskId) s t) : Earlier t record := by
  induction moved with
  | refl => exact earlier
  | tail _ step ih => exact ih.others step

/-- An attempt moves the record it was made for, or says why not. -/
inductive Attempted (s : σ) (current : TaskRouteRecord) (change : TaskRouteUpdate) :
    Except TaskRouteStorageError (Option TaskRouteRecord) → σ → Prop
  | set (step : TaskRouteRecord.Transitioned current change next)
      (held : ExactTaskRouteStorage.holds t next) (earlier : Earlier t next) :
      Attempted s current change (.ok (some next)) t
  | missing (gone : Missing s current.publicTaskId) : Attempted s current change (.ok none) t
  | stale (earlier : Earlier t current) : Attempted s current change (.error .staleTransition) t
  | fails (other : error ≠ .staleTransition) (fails : StorageFails s error) :
      Attempted s current change (.error error) t
  | range (beyond : maxSqliteInteger < change.updatedAtUnixMs ∨
      maxSqliteInteger < current.transitionVersion + 1) :
      Attempted s current change (.error (.taskRoute .numericRange)) t

theorem missing_of {s : σ} {record : TaskRouteRecord} {routes : Routes}
    (represents : ExactTaskRouteStorage.Represents s routes)
    (gone : routes record.publicTaskId = none) : Missing s record.publicTaskId := by
  intro r held same
  have stored := (ExactTaskRouteStorage.holds_iff represents).mp held
  rw [same,gone] at stored
  cases stored

theorem Earlier.attempted {s t : σ} {current : TaskRouteRecord} {change : TaskRouteUpdate}
    {reply : Except TaskRouteStorageError (Option TaskRouteRecord)}
    (earlier : Earlier s current) (closing : TaskRouteRecord.Closing change)
    (allowed : canTransition current.phase change.phase = true)
    (times : current.updatedAtUnixMs ≤ change.updatedAtUnixMs)
    (acted : storeAct (.compareAndSetTaskRoute current.caller current.publicTaskId
      current.transitionVersion change) s reply t) : Attempted s current change reply t := by
  obtain ⟨routes,represents,leads⟩ := earlier
  have kept : Earlier s current := ⟨routes,represents,leads⟩
  rcases acted with ⟨rfl,rfl⟩ | ⟨error,rfl,fails,rfl⟩
  swap
  · by_cases stale : error = .staleTransition
    · subst stale
      exact .stale kept
    · exact .fails stale fails
  obtain ⟨replied,after⟩ := ExactTaskRouteStorage.compareAndSet current.caller
    current.publicTaskId current.transitionVersion change represents
  have ok := ExactTaskRouteStorage.wellFormed represents
  rw [replied]
  rcases stored : routes current.publicTaskId with _ | found
  · simp only [Routes.compareAndSetReading,Routes.reading,Routes.compareAndSet,stored,
      Option.filter_none,Option.bind_none]
    exact .missing (missing_of represents stored)
  have led := leads found stored
  have owner : found.caller = current.caller := led.sameRoute.caller
  have named : found.publicTaskId = current.publicTaskId := led.sameRoute.publicTaskId
  have filtered : (some found).filter (fun r => r.caller = current.caller) = some found :=
    Option.filter_some_pos (by simpa using owner)
  rcases readable : ExactTaskRouteStorage.unreadable σ found with _ | error
  swap
  · -- the stored record cannot be read back: the routes are as they were
    have unread : (some found).bind (ExactTaskRouteStorage.unreadable σ) = some error := readable
    rw [Routes.compareAndSetReading,stored,filtered,Routes.reading_some unread] at after ⊢
    by_cases stale : error = .staleTransition
    · subst stale
      exact .stale ⟨routes,after,leads⟩
    · refine .fails stale (.inr ⟨found,?_,readable⟩)
      exact (ExactTaskRouteStorage.holds_iff represents).mpr (named ▸ stored)
  have read : (some found).bind (ExactTaskRouteStorage.unreadable σ) = none := readable
  rw [Routes.compareAndSetReading,stored,filtered,Routes.reading_none read,Routes.compareAndSet,
    stored] at after ⊢
  simp only [owner,ne_eq,not_true_eq_false,↓reduceIte] at after ⊢
  by_cases fresh : found.transitionVersion = current.transitionVersion
  · -- the version is the one looked at, so the record is
    have same : found = current := led.unmoved fresh.le
    subst same
    rw [if_neg (not_not.mpr rfl)] at after ⊢
    rcases TaskRouteRecord.transition_closing (ok.valid _ _ stored) closing allowed times with
      ⟨next,made⟩ | ⟨refused,beyond⟩
    · rw [made] at after ⊢
      have step := TaskRouteRecord.transition_ok made
      have nextNamed : next.publicTaskId = found.publicTaskId := step.sameRoute.publicTaskId
      have present : Function.update routes found.publicTaskId (some next) next.publicTaskId =
          some next := by rw [nextNamed,Function.update_self]
      refine .set step ((ExactTaskRouteStorage.holds_iff after).mpr present) ⟨_,after,?_⟩
      intro later here
      cases present.symm.trans here
      exact .refl _
    · rw [refused]
      exact .range beyond
  · rw [if_pos fresh] at after ⊢
    exact .stale ⟨routes,after,leads⟩

/-- A stale record is looked up again: the store gives the record it holds now. -/
theorem Earlier.reread {s t : σ} {current : TaskRouteRecord}
    {reply : Except TaskRouteStorageError (Option TaskRouteRecord)} (earlier : Earlier s current)
    (acted : storeAct (.getTaskRoute current.caller current.publicTaskId) s reply t) :
    (∃ stored, reply = .ok (some stored) ∧ current.Leads stored ∧
        ExactTaskRouteStorage.holds t stored ∧ Earlier t stored) ∨
      (reply = .ok none ∧ Missing s current.publicTaskId) ∨
      ∃ error, reply = .error error ∧ StorageFails s error := by
  obtain ⟨routes,represents,leads⟩ := earlier
  rcases acted with ⟨rfl,rfl⟩ | ⟨error,rfl,fails,rfl⟩
  swap
  · exact .inr (.inr ⟨error,rfl,fails⟩)
  rw [ExactTaskRouteStorage.get represents]
  rcases stored : routes current.publicTaskId with _ | found
  · exact .inr (.inl ⟨rfl,missing_of represents stored⟩)
  have led := leads found stored
  have owner : found.caller = current.caller := led.sameRoute.caller
  have named : found.publicTaskId = current.publicTaskId := led.sameRoute.publicTaskId
  have held : ExactTaskRouteStorage.holds t found :=
    (ExactTaskRouteStorage.holds_iff represents).mpr (named ▸ stored)
  rw [Option.filter_some_pos (by simpa using owner),Routes.read,Option.bind_some]
  rcases readable : ExactTaskRouteStorage.unreadable σ found with _ | error
  · refine .inl ⟨found,rfl,led,held,routes,represents,?_⟩
    intro later here
    rw [named,stored] at here
    cases here
    exact .refl _
  · exact .inr (.inr ⟨error,rfl,.inr ⟨found,held,readable⟩⟩)

end Store

/-- One of the loops; the terminal one with the task it is to cache. -/
inductive AttemptLoop where
  | persistCancellationIntent
  | markReconciliationRequired
  | finishTerminal (detailed : DetailedTask)

namespace AttemptLoop
open TaskProxy

/-- The phases in which a loop is done. -/
def Reached : AttemptLoop → TaskRoutePhase → Prop
  | persistCancellationIntent, phase => phase = .cancelRequested ∨ phase = .terminal
  | markReconciliationRequired, phase =>
      phase = .reconciliationRequired ∨ phase = .cancelRequested ∨ phase = .terminal
  | finishTerminal _, phase => phase = .terminal

instance (loop : AttemptLoop) (phase : TaskRoutePhase) : Decidable (loop.Reached phase) := by
  cases loop <;> unfold Reached <;> infer_instance

/-- The error of a loop that has made all its attempts. -/
def lost : AttemptLoop → McpError
  | finishTerminal _ => .internalError "GM_TASK_RECONCILIATION_REQUIRED"
  | _ => .internalError "GM_TASK_STALE_TRANSITION"

section
variable [Rmcp] [Chrono]

def run : AttemptLoop → TaskRouteRecord → Proxy TaskRouteRecord
  | persistCancellationIntent, record => TaskProxy.persistCancellationIntent record
  | markReconciliationRequired, record => TaskProxy.markReconciliationRequired record
  | finishTerminal detailed, record => TaskProxy.finishTerminal record detailed

def stamped (detailed : DetailedTask) (time : Nat) : DetailedTask :=
  { detailed with task := { detailed.task with lastUpdatedAt := rfc3339 time } }

/-- The update of an attempt made at a time. -/
def change : AttemptLoop → Nat → Except McpError TaskRouteUpdate
  | persistCancellationIntent, time => .ok (.cancelRequested time)
  | markReconciliationRequired, time => .ok (.reconciliationRequired time)
  | finishTerminal detailed, time => do
    let cached ← okOr (Rmcp.detailedTask (stamped detailed time))
      (McpError.internalError "GM_TASK_RESULT_SERIALIZATION")
    .ok (.terminal time cached)

def attempt (loop : AttemptLoop) (current : TaskRouteRecord) : Proxy TaskRouteRecord := do
  let time ← transitionTime current
  let change ← Fallible.ofExcept (loop.change time)
  update current change

def attempts (loop : AttemptLoop) : Nat → TaskRouteRecord → Proxy TaskRouteRecord
  | 0, _ => throw loop.lost
  | attempts + 1, current =>
    if loop.Reached current.phase then return current
    else do
      let next ← loop.attempt current
      loop.attempts attempts next

/-- The time of a stamped task is overwritten by the next stamp. -/
theorem attempts_stamped (detailed : DetailedTask) (time n : Nat) (current : TaskRouteRecord) :
    (finishTerminal (stamped detailed time)).attempts n current =
      (finishTerminal detailed).attempts n current := by
  induction n generalizing current with
  | zero => rfl
  | succ n ih =>
    simp only [attempts,ih]
    rfl

theorem run_eq (loop : AttemptLoop) (record : TaskRouteRecord) :
    loop.run record = loop.attempts maxRouteCasAttempts record := by
  cases loop with
  | persistCancellationIntent =>
    change persistCancellation _ _ = _
    induction maxRouteCasAttempts generalizing record with
    | zero => rfl
    | succ n ih => simp [persistCancellation,attempts,attempt,change,Reached,ih]
  | markReconciliationRequired =>
    change markReconciliation _ _ = _
    induction maxRouteCasAttempts generalizing record with
    | zero => rfl
    | succ n ih => simp [markReconciliation,attempts,attempt,change,Reached,ih]
  | finishTerminal detailed =>
    change finishTerminalWithin _ _ _ = _
    induction maxRouteCasAttempts generalizing record detailed with
    | zero => rfl
    | succ n ih =>
      simp only [finishTerminalWithin,attempts,attempt,Reached,bind_assoc,ih]
      refine if_congr Iff.rfl rfl (congrArg _ (funext fun time => ?_))
      change (required (Rmcp.detailedTask (stamped detailed time)) _ >>= fun cached =>
        update record (.terminal time cached) >>= fun next =>
          (finishTerminal (stamped detailed time)).attempts n next) = _
      simp only [attempts_stamped,required,change]
      rcases Rmcp.detailedTask (stamped detailed time) with _ | cached <;> rfl

/-- Every operation of one attempt, with what follows each reply. -/
theorem attempt_run (loop : AttemptLoop) (current : TaskRouteRecord) :
    (loop.attempt current).run = .call .now fun
      | none => .pure (.error (.internalError "GM_CLOCK_INVALID"))
      | some now => match loop.change (max now current.updatedAtUnixMs) with
        | .error error => .pure (.error error)
        | .ok change => .call (.compareAndSetTaskRoute current.caller current.publicTaskId
            current.transitionVersion change) fun
          | .ok (some updated) => .pure (.ok updated)
          | .ok none => .pure (.error unknownTask)
          | .error .staleTransition => .call (.getTaskRoute current.caller current.publicTaskId) fun
            | .ok (some stored) => .pure (.ok stored)
            | .ok none => .pure (.error unknownTask)
            | .error error => .pure (.error (storageError error))
          | .error error => .pure (.error (storageError error)) := by
  refine congrArg (Prog.call ProxyOp.now) (funext fun reply => ?_)
  rcases reply with _ | now
  · rfl
  · change (Fallible.ofExcept (loop.change (max now current.updatedAtUnixMs)) >>= fun change =>
      update current change).run = _
    dsimp only
    rcases loop.change (max now current.updatedAtUnixMs) with error | change
    · rfl
    · refine congrArg (Prog.call _) (funext fun reply => ?_)
      rcases reply with error | _ | updated
      · cases error with
        | staleTransition =>
          refine congrArg (Prog.call _) (funext fun reply => ?_)
          rcases reply with error | _ | stored <;> rfl
        | _ => rfl
      · rfl
      · rfl

end

section
variable [FloatText] [Sha256] [Rmcp] [Chrono] {σ : Type} [TaskRouteStorage σ]
  [ExactTaskRouteStorage σ]

/-- What the terminal loop caches is within the bound, whatever the time of its stamp. -/
def Fits : AttemptLoop → Prop
  | finishTerminal detailed => ∀ time cached, Rmcp.detailedTask (stamped detailed time) = some cached →
      (canonicalJson cached).byteLength ≤ maxCachedTerminalStateBytes
  | _ => True

abbrev AttemptStep (σ : Type) := Performed σ ProxyOp ProxyOp.Ret

/-- The reply of an attempt. -/
def casReply : AttemptStep σ → Option (Except TaskRouteStorageError (Option TaskRouteRecord))
  | ⟨_,.compareAndSetTaskRoute ..,reply,_⟩ => some reply
  | _ => none

/-- Why a loop stops with an error before it has made all its attempts. -/
inductive Fails (loop : AttemptLoop) (id : PublicTaskId) (steps : List (AttemptStep σ)) :
    McpError → Prop
  | clock (asked : ⟨u,.now,none,t⟩ ∈ steps) : Fails loop id steps (.internalError "GM_CLOCK_INVALID")
  | serialization (failed : loop.change time = .error error) : Fails loop id steps error
  | reading (asked : ⟨u,.getTaskRoute caller id,.error error,t⟩ ∈ steps)
      (fails : StorageFails u error) : Fails loop id steps (storageError error)
  | writing (asked : ⟨u,.compareAndSetTaskRoute caller id version wanted,.error error,t⟩ ∈ steps)
      (fails : StorageFails u error) : Fails loop id steps (storageError error)
  | range (asked : ⟨u,.compareAndSetTaskRoute caller id version wanted,
        .error (.taskRoute .numericRange),t⟩ ∈ steps)
      (beyond : maxSqliteInteger < wanted.updatedAtUnixMs ∨ maxSqliteInteger < version + 1) :
      Fails loop id steps (storageError (.taskRoute .numericRange))
  | missing (asked : step ∈ steps) (gone : Missing step.before id) : Fails loop id steps unknownTask

theorem Fails.mono {loop : AttemptLoop} {id : PublicTaskId} {steps more : List (AttemptStep σ)}
    {error : McpError} (fails : Fails loop id steps error) (within : steps ⊆ more) :
    Fails loop id more error := by
  cases fails with
  | clock asked => exact .clock (within asked)
  | serialization failed => exact .serialization failed
  | reading asked fails => exact .reading (within asked) fails
  | writing asked fails => exact .writing (within asked) fails
  | range asked beyond => exact .range (within asked) beyond
  | missing asked gone => exact .missing (within asked) gone

/-- No attempt is refused for what it asks: only its numbers may be out of range. -/
def Unrefused (steps : List (AttemptStep σ)) : Prop :=
  ∀ u caller id version wanted refusal t,
    ⟨u,.compareAndSetTaskRoute caller id version wanted,.error (.taskRoute refusal),t⟩ ∈ steps →
      StorageFails u (.taskRoute refusal) ∨ refusal = .numericRange ∧
        (maxSqliteInteger < wanted.updatedAtUnixMs ∨ maxSqliteInteger < version + 1)

/-- How one attempt ends: the route is moved, another record is looked at, or it fails. -/
inductive Ended (loop : AttemptLoop) (current : TaskRouteRecord) (steps : List (AttemptStep σ))
    (last : σ) : Except McpError TaskRouteRecord → Prop
  | moved (leads : current.Leads next) (earlier : Earlier last next)
      (held : ∃ step ∈ steps, ExactTaskRouteStorage.holds step.after next)
      (replies : steps.filterMap casReply = [.ok (some next)]) (reached : loop.Reached next.phase) :
      Ended loop current steps last (.ok next)
  | stale (leads : current.Leads next) (earlier : Earlier last next)
      (held : ∃ step ∈ steps, ExactTaskRouteStorage.holds step.after next)
      (replies : steps.filterMap casReply = [.error .staleTransition]) :
      Ended loop current steps last (.ok next)
  | fails (fails : Fails loop current.publicTaskId steps error) :
      Ended loop current steps last (.error error)

omit [TaskRouteStorage σ] [ExactTaskRouteStorage σ] [Sha256] in
theorem change_closing {loop : AttemptLoop} {current : TaskRouteRecord}
    {change : TaskRouteUpdate} (fits : loop.Fits) (made : loop.change time = .ok change)
    (pending : ¬loop.Reached current.phase) :
    TaskRouteRecord.Closing change ∧ canTransition current.phase change.phase = true ∧
      change.updatedAtUnixMs = time ∧ loop.Reached change.phase := by
  cases loop with
  | persistCancellationIntent =>
    cases made
    refine ⟨⟨.inl rfl,rfl,rfl,by simp [TaskRouteUpdate.cancelRequested],
      fun _ same => by cases same⟩,?_,rfl,.inl rfl⟩
    cases phase : current.phase <;> simp_all [Reached,TaskRouteUpdate.cancelRequested,canTransition]
  | markReconciliationRequired =>
    cases made
    refine ⟨⟨.inr (.inl rfl),rfl,rfl,by simp [TaskRouteUpdate.reconciliationRequired],
      fun _ same => by cases same⟩,?_,rfl,.inl rfl⟩
    cases phase : current.phase <;>
      simp_all [Reached,TaskRouteUpdate.reconciliationRequired,canTransition]
  | finishTerminal detailed =>
    obtain ⟨cached,written,made⟩ := okOr_bind_ok.mp made
    cases made
    refine ⟨⟨.inr (.inr rfl),rfl,rfl,by simp [TaskRouteUpdate.terminal],?_⟩,?_,rfl,rfl⟩
    · intro v same
      cases same
      exact fits time _ written
    · cases phase : current.phase <;> simp_all [Reached,TaskRouteUpdate.terminal,canTransition]

theorem attempt_ended {loop : AttemptLoop} {current : TaskRouteRecord} {s last : σ}
    {steps : List (AttemptStep σ)} {result : Except McpError TaskRouteRecord} (fits : loop.Fits)
    (earlier : Earlier s current) (pending : ¬loop.Reached current.phase)
    (run : Disturbed storeAct (Others current.publicTaskId) (loop.attempt current).run s steps
      last result) : Unrefused steps ∧ Ended loop current steps last result := by
  rw [attempt_run] at run
  obtain ⟨u,reply,t,rest,between,acted,rfl,first⟩ := run.of_call
  have there := earlier.disturbed between
  cases acted
  rcases reply with _ | now
  · obtain ⟨rfl,rfl,rfl⟩ := Disturbed.pure_iff.mp first
    refine ⟨?_,.fails (.clock List.mem_cons_self)⟩
    simp [Unrefused]
  dsimp only at first
  rcases made : loop.change (max now current.updatedAtUnixMs) with error | change
  · rw [made] at first
    obtain ⟨rfl,rfl,rfl⟩ := Disturbed.pure_iff.mp first
    refine ⟨?_,.fails (.serialization made)⟩
    simp [Unrefused]
  rw [made] at first
  obtain ⟨closing,allowed,stamp,reached⟩ := change_closing fits made pending
  obtain ⟨v,reply,w,rest,between,acted,rfl,second⟩ := first.of_call
  have attempted := (there.disturbed between).attempted closing allowed (by omega) acted
  cases attempted with
  | @set next _ step held earlier =>
    obtain ⟨rfl,rfl,rfl⟩ := Disturbed.pure_iff.mp second
    refine ⟨by simp [Unrefused],.moved (.next (.refl _) step) earlier
      ⟨_,List.mem_cons_of_mem _ List.mem_cons_self,held⟩ rfl ?_⟩
    exact step.phase ▸ reached
  | missing gone =>
    obtain ⟨rfl,rfl,rfl⟩ := Disturbed.pure_iff.mp second
    exact ⟨by simp [Unrefused],.fails (.missing (List.mem_cons_of_mem _ List.mem_cons_self) gone)⟩
  | stale earlier =>
    obtain ⟨x,reply,y,rest,between,acted,rfl,third⟩ := second.of_call
    rcases (earlier.disturbed between).reread acted with
      ⟨stored,rfl,leads,held,there⟩ | ⟨rfl,gone⟩ | ⟨error,rfl,fails⟩
    · obtain ⟨rfl,rfl,rfl⟩ := Disturbed.pure_iff.mp third
      exact ⟨by simp [Unrefused],.stale leads there
        ⟨_,List.mem_cons_of_mem _ (List.mem_cons_of_mem _ List.mem_cons_self),held⟩ rfl⟩
    · obtain ⟨rfl,rfl,rfl⟩ := Disturbed.pure_iff.mp third
      exact ⟨by simp [Unrefused],.fails (.missing
        (List.mem_cons_of_mem _ (List.mem_cons_of_mem _ List.mem_cons_self)) gone)⟩
    · obtain ⟨rfl,rfl,rfl⟩ := Disturbed.pure_iff.mp third
      exact ⟨by simp [Unrefused],.fails (.reading
        (List.mem_cons_of_mem _ (List.mem_cons_of_mem _ List.mem_cons_self)) fails)⟩
  | @fails error _ other fails =>
    have stopped : rest = [] ∧ last = w ∧ result = .error (storageError error) := by
      cases error <;> first | exact absurd rfl other | exact Disturbed.pure_iff.mp second
    obtain ⟨rfl,rfl,rfl⟩ := stopped
    refine ⟨?_,.fails (.writing (List.mem_cons_of_mem _ List.mem_cons_self) fails)⟩
    intro u' caller id version wanted refusal t' member
    rcases List.mem_cons.mp member with same | member
    · cases same
    · cases List.mem_singleton.mp member
      exact .inl fails
  | range beyond =>
    obtain ⟨rfl,rfl,rfl⟩ := Disturbed.pure_iff.mp second
    refine ⟨?_,.fails (.range (List.mem_cons_of_mem _ List.mem_cons_self) ?_)⟩
    · intro u' caller id version wanted refusal t' member
      rcases List.mem_cons.mp member with same | member
      · cases same
      · cases List.mem_singleton.mp member
        exact .inr ⟨rfl,beyond⟩
    · exact beyond

omit [Rmcp] [Chrono] in
theorem Unrefused.append {first rest : List (AttemptStep σ)} (left : Unrefused first)
    (right : Unrefused rest) : Unrefused (first ++ rest) := by
  intro u caller id version wanted refusal t member
  rcases List.mem_append.mp member with before | after
  · exact left _ _ _ _ _ _ _ before
  · exact right _ _ _ _ _ _ _ after

/-- The replies of a loop that made all its attempts: only the last may be another one. -/
def Exhausted : Nat → List (Except TaskRouteStorageError (Option TaskRouteRecord)) → Prop
  | 0, replies => replies = []
  | n + 1, replies => ∃ last, replies = List.replicate n (.error .staleTransition) ++ [last]

/-- Where a loop can end. -/
inductive Finished (loop : AttemptLoop) (n : Nat) (current : TaskRouteRecord)
    (steps : List (AttemptStep σ)) : Except McpError TaskRouteRecord → Prop
  | done (leads : current.Leads r) (reached : loop.Reached r.phase)
      (held : r = current ∨ ∃ step ∈ steps, ExactTaskRouteStorage.holds step.after r) :
      Finished loop n current steps (.ok r)
  | fails (fails : Fails loop current.publicTaskId steps error) :
      Finished loop n current steps (.error error)
  | lost (exhausted : Exhausted n (steps.filterMap casReply)) :
      Finished loop n current steps (.error loop.lost)

theorem attempts_finished {loop : AttemptLoop} {n : Nat} {current : TaskRouteRecord}
    {s last : σ} {steps : List (AttemptStep σ)} {result : Except McpError TaskRouteRecord}
    (fits : loop.Fits) (earlier : Earlier s current)
    (run : Disturbed storeAct (Others current.publicTaskId) (loop.attempts n current).run s steps
      last result) : Unrefused steps ∧ Finished loop n current steps result := by
  induction n generalizing current s steps with
  | zero =>
    obtain ⟨rfl,rfl,rfl⟩ := Disturbed.pure_iff.mp run
    exact ⟨by simp [Unrefused],.lost rfl⟩
  | succ n ih =>
    rw [attempts] at run
    by_cases pending : loop.Reached current.phase
    · rw [if_pos pending] at run
      obtain ⟨rfl,rfl,rfl⟩ := Disturbed.pure_iff.mp run
      exact ⟨by simp [Unrefused],.done (.refl _) pending (.inl rfl)⟩
    rw [if_neg pending] at run
    rcases run.then_run with ⟨error,rfl,stopped⟩ | ⟨first,middle,next,rest,rfl,head,tail⟩
    · obtain ⟨allowed,ended⟩ := attempt_ended fits earlier pending stopped
      cases ended with
      | fails fails => exact ⟨allowed,.fails fails⟩
    obtain ⟨allowed,ended⟩ := attempt_ended fits earlier pending head
    have goes : current.Leads next ∧ Earlier middle next ∧
        (∃ step ∈ first, ExactTaskRouteStorage.holds step.after next) := by
      cases ended with
      | moved leads there held => exact ⟨leads,there,held⟩
      | stale leads there held => exact ⟨leads,there,held⟩
    obtain ⟨leads,there,held⟩ := goes
    have named : next.publicTaskId = current.publicTaskId := leads.sameRoute.publicTaskId
    obtain ⟨later,finished⟩ := ih there (named ▸ tail)
    refine ⟨allowed.append later,?_⟩
    cases finished with
    | @done r onward reached kept =>
      refine .done (leads.trans onward) reached (.inr ?_)
      rcases kept with rfl | ⟨step,member,holds⟩
      · obtain ⟨step,member,holds⟩ := held
        exact ⟨step,List.mem_append_left _ member,holds⟩
      · exact ⟨step,List.mem_append_right _ member,holds⟩
    | fails fails => exact .fails (named ▸ fails.mono (List.subset_append_right _ _))
    | lost exhausted =>
      refine .lost ?_
      rw [List.filterMap_append]
      cases ended with
      | stale _ _ _ replies =>
        rw [replies]
        cases n with
        | zero => exact ⟨_,by rw [show rest.filterMap casReply = [] from exhausted]; rfl⟩
        | succ n =>
          obtain ⟨last,replied⟩ := exhausted
          exact ⟨last,by rw [replied]; rfl⟩
      | moved _ _ _ replies reached =>
        rw [replies]
        cases n with
        | zero => exact ⟨_,by rw [show rest.filterMap casReply = [] from exhausted]; rfl⟩
        | succ n =>
          -- a route that was moved is returned by the next round
          rw [attempts,if_pos reached] at tail
          cases (Disturbed.pure_iff.mp tail).2.2

/-- The loops against any other instances: a loop asks for no illegal update, what it returns
is stored, and it stops with an error only for a reason of its surroundings. -/
theorem attempts_lawful (loop : AttemptLoop) (fits : loop.Fits) {record : TaskRouteRecord}
    {s last : σ} {steps : List (AttemptStep σ)} {result : Except McpError TaskRouteRecord}
    (earlier : Earlier s record)
    (run : Disturbed storeAct (Others record.publicTaskId) (loop.run record).run s steps
      last result) :
    Unrefused steps ∧ match result with
      | .ok r => record.Leads r ∧ loop.Reached r.phase ∧
          (r = record ∨ ∃ step ∈ steps, ExactTaskRouteStorage.holds step.after r)
      | .error error => Fails loop record.publicTaskId steps error ∨
          error = loop.lost ∧ ∃ last, steps.filterMap casReply =
            List.replicate (maxRouteCasAttempts - 1) (.error .staleTransition) ++ [last] := by
  rw [run_eq] at run
  obtain ⟨allowed,finished⟩ := attempts_finished fits earlier run
  refine ⟨allowed,?_⟩
  cases finished with
  | done leads reached held => exact ⟨leads,reached,held⟩
  | fails fails => exact .inl fails
  | lost exhausted => exact .inr ⟨rfl,exhausted⟩

end

/-- A store after its first begin. -/
def firstBegun (σ : Type) [TaskRouteStorage σ] (record : TaskRouteRecord) : σ :=
  (TaskRouteStorage.beginOrExisting record TaskRouteStorage.empty).2

theorem firstBegun_represents {σ : Type} [FloatText] [Sha256] [TaskRouteStorage σ]
    [ExactTaskRouteStorage σ] {record : TaskRouteRecord}
    (prepared : record.verifyPreparedForBegin = .ok ()) : ExactTaskRouteStorage.Represents
      (firstBegun σ record) (Function.update (fun _ => none) record.publicTaskId (some record)) := by
  have after := (ExactTaskRouteStorage.begin (σ := σ) record ExactTaskRouteStorage.empty).2
  rw [Routes.beginReading_empty prepared] at after
  exact after

section Example
open Reference

/-- A store that holds one prepared route. -/
noncomputable def oneRoute : MemoryTaskRoutes := firstBegun MemoryTaskRoutes sealedRoute

theorem oneRoute_represents : ExactTaskRouteStorage.Represents oneRoute
    (Function.update (fun _ => none) sealedRoute.publicTaskId (some sealedRoute)) := by
  rw [oneRoute]
  exact firstBegun_represents sealedRoute_prepared

theorem oneRoute_earlier : Earlier oneRoute sealedRoute := by
  refine ⟨_,oneRoute_represents,fun stored found => ?_⟩
  rw [Function.update_self] at found
  cases found
  exact .refl _

/-- The route is not yet cancelled, so an attempt is made. -/
theorem sealedRoute_pending : persistCancellationIntent.run sealedRoute =
    persistCancellationIntent.attempt sealedRoute >>= persistCancellationIntent.attempts 3 := by
  have pending : ¬persistCancellationIntent.Reached sealedRoute.phase := by
    rintro (phase | phase) <;> cases phase
  rw [run_eq]
  change attempts _ (3 + 1) _ = _
  rw [attempts,if_neg pending]

/-- A cancellation that is persisted at once. -/
theorem attempts_lawful_example : ∃ (last : MemoryTaskRoutes) (r : TaskRouteRecord),
    ∃ steps : List (AttemptStep MemoryTaskRoutes),
      Disturbed storeAct (Others sealedRoute.publicTaskId)
        (persistCancellationIntent.run sealedRoute).run oneRoute steps last (.ok r) ∧
      Unrefused steps ∧ sealedRoute.Leads r ∧ persistCancellationIntent.Reached r.phase ∧
      (r = sealedRoute ∨ ∃ step ∈ steps, ExactTaskRouteStorage.holds step.after r) := by
  obtain ⟨next,made⟩ : ∃ next, sealedRoute.transition (.cancelRequested 2000) = .ok next := by
    have pending : ¬persistCancellationIntent.Reached sealedRoute.phase := by
      rintro (phase | phase) <;> cases phase
    have change : persistCancellationIntent.change 2000 = .ok (.cancelRequested 2000) := rfl
    have fits : persistCancellationIntent.Fits := trivial
    obtain ⟨closing,allowed,-⟩ := change_closing fits change pending
    have first : sealedRoute.updatedAtUnixMs = 1000 ∧ sealedRoute.transitionVersion = 0 := ⟨rfl,rfl⟩
    rcases TaskRouteRecord.transition_closing sealedRoute_valid closing allowed
      (by rw [first.1]; decide) with made | ⟨-,beyond⟩
    · exact made
    · rw [first.2] at beyond
      exact absurd beyond (by decide)
  have replied := (ExactTaskRouteStorage.compareAndSet sealedRoute.caller sealedRoute.publicTaskId
    sealedRoute.transitionVersion (.cancelRequested 2000) oneRoute_represents).1
  rw [Routes.compareAndSetReading_moved (Function.update_self ..) rfl made] at replied
  have reached : persistCancellationIntent.Reached next.phase :=
    .inl (TaskRouteRecord.transition_ok made).phase
  let after := (TaskRouteStorage.compareAndSetTaskRoute sealedRoute.caller
    sealedRoute.publicTaskId sealedRoute.transitionVersion (.cancelRequested 2000) oneRoute).2
  have head : Disturbed storeAct (Others sealedRoute.publicTaskId)
      (persistCancellationIntent.attempt sealedRoute).run oneRoute
      [⟨oneRoute,.now,some 2000,oneRoute⟩,⟨oneRoute,.compareAndSetTaskRoute sealedRoute.caller
        sealedRoute.publicTaskId sealedRoute.transitionVersion (.cancelRequested 2000),
        .ok (some next),after⟩] after (.ok next) := by
    rw [attempt_run]
    refine .call .refl rfl ?_
    exact .call .refl (.inl ⟨replied.symm,rfl⟩) .pure
  have tail : Disturbed storeAct (Others sealedRoute.publicTaskId)
      (persistCancellationIntent.attempts 3 next).run after [] after (.ok next) := by
    rw [attempts,if_pos reached]
    exact .pure
  obtain ⟨steps,run⟩ : ∃ steps, Disturbed storeAct (Others sealedRoute.publicTaskId)
      (persistCancellationIntent.run sealedRoute).run oneRoute steps after (.ok next) := by
    rw [sealedRoute_pending,Fallible.run_bind]
    exact ⟨_,head.append tail⟩
  exact ⟨after,next,steps,run,attempts_lawful persistCancellationIntent trivial oneRoute_earlier run⟩

/-- A clock that cannot be read stops a loop on a route that is stored. -/
theorem unread_clock_stops :
    Earlier oneRoute sealedRoute ∧ ¬Missing oneRoute sealedRoute.publicTaskId ∧
    Disturbed storeAct (Others sealedRoute.publicTaskId)
      (persistCancellationIntent.run sealedRoute).run oneRoute [⟨oneRoute,.now,none,oneRoute⟩]
      oneRoute (.error (.internalError "GM_CLOCK_INVALID")) := by
  refine ⟨oneRoute_earlier,?_,?_⟩
  · intro gone
    refine gone sealedRoute ?_ rfl
    exact (ExactTaskRouteStorage.holds_iff oneRoute_represents).mpr (Function.update_self ..)
  · rw [sealedRoute_pending,Fallible.run_bind,attempt_run]
    exact .call .refl rfl .pure

end Example

end AttemptLoop
end GaugeMesh
