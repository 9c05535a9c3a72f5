import GaugeMesh.Storage.Invariant
import GaugeMesh.Task.Chain

/-! Two runs next to each other. What a caller is answered depends on the caller's own
routes only, but for the two bounds all callers share: the ids and the number of routes. -/
namespace GaugeMesh
open Json

namespace Routes

/-- The same routes of one caller, whatever else is stored. -/
def Alike (caller : TaskRouteCaller) (first second : Routes) : Prop :=
  ∀ id r, r.caller = caller → (first id = some r ↔ second id = some r)

variable {caller : TaskRouteCaller} {first second : Routes}

theorem Alike.owned (alike : Alike caller first second) (id : PublicTaskId) :
    ((first id).filter fun r => r.caller = caller) =
      (second id).filter fun r => r.caller = caller := by
  refine Option.ext fun r => ?_
  simp only [Option.filter_eq_some_iff,decide_eq_true_eq]
  exact and_congr_left fun owner => alike id r owner

theorem Alike.update {id : PublicTaskId} (alike : Alike caller first second)
    (found : Option TaskRouteRecord) :
    Alike caller (Function.update first id found) (Function.update second id found) := by
  intro i r owner
  by_cases same : i = id
  · subst same
    rw [Function.update_self,Function.update_self]
  · rw [Function.update_of_ne same,Function.update_of_ne same]
    exact alike i r owner

theorem Alike.active (alike : Alike caller first second) (now : Nat) :
    count first (fun r => r.caller = caller ∧ r.isExpired now = false) =
      count second fun r => r.caller = caller ∧ r.isExpired now = false := by
  unfold count
  congr 1
  ext id
  refine exists_congr fun r => ?_
  rw [← and_assoc,← and_assoc]
  exact and_congr_left' (and_congr_left fun owner => alike id r owner)

variable [FloatText] [Sha256]

theorem Alike.holder (alike : Alike caller first second) (left : first.WellFormed)
    (right : second.WellFormed) (key : TaskRouteIdempotencyKey) :
    first.holder caller key = second.holder caller key := by
  refine Option.ext fun r => ?_
  rw [left.holder,right.holder]
  exact and_congr_left fun owner => alike _ r owner.1

/-- A transition concerns the caller's own record only. -/
theorem compareAndSet_owned {id : PublicTaskId} (routes : Routes) :
    routes.compareAndSet caller id version update =
      match (routes id).filter fun r => r.caller = caller with
      | none => (.ok none,routes)
      | some current =>
        if current.transitionVersion ≠ version then (.error .staleTransition,routes)
        else match current.transition update with
          | .error error => (.error (.taskRoute error),routes)
          | .ok next => (.ok (some next),Function.update routes id (some next)) := by
  unfold compareAndSet
  rcases routes id with _ | current
  · rfl
  · by_cases owner : current.caller = caller
    · rw [Option.filter_some_pos (by simpa using owner)]
      exact if_neg (not_not.mpr owner)
    · simp [owner,Option.filter]

variable (unreadable : TaskRouteRecord → Option TaskRouteStorageError) {record : TaskRouteRecord}

theorem Alike.compareAndSet (alike : Alike caller first second) (id : PublicTaskId) (version : Nat)
    (update : TaskRouteUpdate) :
    (compareAndSetReading unreadable caller id version update first).1 =
        (compareAndSetReading unreadable caller id version update second).1 ∧
      Alike caller (compareAndSetReading unreadable caller id version update first).2
        (compareAndSetReading unreadable caller id version update second).2 := by
  unfold compareAndSetReading
  rw [compareAndSet_owned first,compareAndSet_owned second,alike.owned id]
  generalize (second id).filter (fun r => decide (r.caller = caller)) = found
  cases found with
  | none => exact ⟨rfl,alike⟩
  | some current =>
    rcases unread : (some current).bind unreadable with _ | error
    · rw [reading_none unread,reading_none unread]
      dsimp only
      split
      · exact ⟨rfl,alike⟩
      · split
        · exact ⟨rfl,alike⟩
        · exact ⟨rfl,alike.update _⟩
    · rw [reading_some unread,reading_some unread]
      exact ⟨rfl,alike⟩

/-- A refusal that is not about the caller's own routes. -/
inductive Foreign (record : TaskRouteRecord) (routes : Routes) :
    Except TaskRouteStorageError BeginTaskRouteResult → Prop
  | taken (stored : routes record.publicTaskId = some r) (other : r.caller ≠ record.caller) :
      Foreign record routes (.error .publicTaskIdCollision)
  | full (bound : maxStoredTaskRoutes ≤ count routes fun _ => True) :
      Foreign record routes (.error .taskRouteCapacity)

omit [FloatText] [Sha256] in
theorem Foreign.grow {less : Routes} (foreign : Foreign record less answer)
    (finite : {id | ∃ r, first id = some r}.Finite)
    (sub : ∀ id r, less id = some r → first id = some r) : Foreign record first answer := by
  cases foreign with
  | taken stored other => exact .taken (sub _ _ stored) other
  | full bound => exact .full (bound.trans (count_sub finite sub))

omit [FloatText] [Sha256] in
/-- The insertion into two stores that keep the same routes of the caller. -/
theorem Alike.insertNew {kept other : Routes} (alike : Alike record.caller first second)
    (keptAlike : Alike record.caller kept other) :
    ((insertNew record kept first).1 = (insertNew record other second).1 ∧
      Alike record.caller (insertNew record kept first).2 (insertNew record other second).2) ∨
    Foreign record kept (insertNew record kept first).1 ∨
      Foreign record other (insertNew record other second).1 := by
  have active := keptAlike.active record.createdAtUnixMs
  unfold Routes.insertNew
  rcases left : kept record.publicTaskId with _ | r
  · rcases right : other record.publicTaskId with _ | s
    · by_cases mine : maxActiveTaskRoutesPerCaller ≤ count kept (fun r =>
          r.caller = record.caller ∧ r.isExpired record.createdAtUnixMs = false)
      · have yours := mine
        rw [active] at yours
        simp only [Option.isSome_none,Bool.false_eq_true,if_false,mine,yours,or_true,if_true]
        exact .inl ⟨trivial,alike⟩
      · have yours := mine
        rw [active] at yours
        by_cases fullLeft : maxStoredTaskRoutes ≤ count kept fun _ => True
        · refine .inr (.inl ?_)
          simp only [Option.isSome_none,Bool.false_eq_true,if_false,fullLeft,true_or,if_true]
          exact .full fullLeft
        · by_cases fullRight : maxStoredTaskRoutes ≤ count other fun _ => True
          · refine .inr (.inr ?_)
            simp only [Option.isSome_none,Bool.false_eq_true,if_false,fullRight,true_or,if_true]
            exact .full fullRight
          · simp only [Option.isSome_none,Bool.false_eq_true,if_false,fullLeft,fullRight,mine,yours,
              or_self]
            exact .inl ⟨trivial,keptAlike.update _⟩
    · refine .inr (.inr ?_)
      simp only [Option.isSome_some,if_true]
      refine .taken right fun owner => ?_
      rw [(keptAlike _ s owner).mpr right] at left
      cases left
  · rcases right : other record.publicTaskId with _ | s
    · refine .inr (.inl ?_)
      simp only [Option.isSome_some,if_true]
      refine .taken left fun owner => ?_
      rw [(keptAlike _ r owner).mp left] at right
      cases right
    · simp only [Option.isSome_some,if_true]
      exact .inl ⟨trivial,alike⟩

theorem Alike.begin (alike : Alike record.caller first second) (left : first.WellFormed)
    (right : second.WellFormed) (finite : {id | ∃ r, first id = some r}.Finite)
    (finite' : {id | ∃ r, second id = some r}.Finite) :
    ((beginReading unreadable record first).1 = (beginReading unreadable record second).1 ∧
      Alike record.caller (beginReading unreadable record first).2
        (beginReading unreadable record second).2) ∨
    Foreign record first (beginReading unreadable record first).1 ∨
      Foreign record second (beginReading unreadable record second).1 := by
  have holders : record.idempotencyKey.bind (first.holder record.caller) =
      record.idempotencyKey.bind (second.holder record.caller) := by
    rcases record.idempotencyKey with _ | key
    · rfl
    · exact alike.holder left right key
  unfold beginReading Routes.begin
  rcases record.verifyPreparedForBegin with error | ⟨⟩
  · exact .inl ⟨rfl,alike⟩
  · dsimp only
    rw [holders]
    rcases record.idempotencyKey.bind (second.holder record.caller) with _ | old
    · simp only [reading,Option.bind_none]
      exact alike.insertNew alike
    · rcases unread : (some old).bind unreadable with _ | error
      · rw [reading_none unread,reading_none unread]
        dsimp only
        split
        · have drop : ∀ (routes : Routes) id r,
              Function.update routes old.publicTaskId none id = some r → routes id = some r := by
            intro routes id r found
            by_cases same : id = old.publicTaskId
            · subst same
              rw [Function.update_self] at found; cases found
            · rwa [Function.update_of_ne same] at found
          exact (alike.insertNew (alike.update none)).imp_right fun refused =>
            refused.imp (fun foreign => foreign.grow finite (drop first))
              fun foreign => foreign.grow finite' (drop second)
        · split
          · exact .inl ⟨rfl,alike⟩
          · exact .inl ⟨rfl,alike⟩
      · rw [reading_some unread,reading_some unread]
        exact .inl ⟨rfl,alike⟩

variable {unreadable} {before after : Routes} {other : TaskRouteCaller}

theorem beginReading_step (ok : before.WellFormed) (record : TaskRouteRecord) :
    Begin record before (beginReading unreadable record before).1
      (beginReading unreadable record before).2 := by
  unfold beginReading reading
  split
  · exact .refused
  · split
    · exact .refused
    · exact begin_step ok

theorem compareAndSetReading_step {id : PublicTaskId} :
    CompareAndSet other id version update before
      (compareAndSetReading unreadable other id version update before).1
      (compareAndSetReading unreadable other id version update before).2 := by
  unfold compareAndSetReading reading
  split
  · exact .refused
  · exact compareAndSet_step

theorem Begin.alike (begun : Begin record before answer after) (different : record.caller ≠ caller) :
    Alike caller after before := by
  cases begun with
  | existing => exact fun _ _ _ => Iff.rfl
  | refused => exact fun _ _ _ => Iff.rfl
  | inserted _ stored fresh others _ =>
    intro id r owner
    by_cases new : id = record.publicTaskId
    · subst new
      constructor
      · intro found
        rw [stored] at found; cases found
        exact absurd owner different
      · intro found
        exact absurd ((fresh r found).1.symm.trans owner) different
    · rcases others id new with same | ⟨gone,old,found,replaced⟩
      · rw [same]
      · rw [gone,found]
        refine ⟨nofun,fun same => ?_⟩
        cases same
        exact absurd (replaced.1.symm.trans owner) different

theorem CompareAndSet.alike {id : PublicTaskId}
    (set : CompareAndSet other id version update before answer after) (different : other ≠ caller) :
    Alike caller after before := by
  cases set with
  | unknown => exact fun _ _ _ => Iff.rfl
  | refused => exact fun _ _ _ => Iff.rfl
  | set stored owned _ moved =>
    intro i r owner
    by_cases same : i = id
    · subst same
      rw [Function.update_self,stored]
      have kept := (TaskRouteRecord.transition_ok moved).sameRoute.caller
      constructor
      · intro found
        cases found
        exact absurd (owned.symm.trans (kept.symm.trans owner)) different
      · intro found
        cases found
        exact absurd (owned.symm.trans owner) different
    · rw [Function.update_of_ne same]

end Routes

section
variable {σ : Type} [FloatText] [Sha256] [TaskRouteStorage σ] [ExactTaskRouteStorage σ]

open ExactTaskRouteStorage

/-- Two stores that hold the same routes of one caller. -/
def Alike (caller : TaskRouteCaller) (s t : σ) : Prop :=
  ∀ r, r.caller = caller → (holds s r ↔ holds t r)

/-- A refusal for a reason other callers' routes are part of: the id is another caller's,
or the store is full. -/
def ForeignRefusal (record : TaskRouteRecord) (s : σ)
    (answer : Except TaskRouteStorageError BeginTaskRouteResult) : Prop :=
  (answer = .error .publicTaskIdCollision ∧
    ∃ r, holds s r ∧ r.publicTaskId = record.publicTaskId ∧ r.caller ≠ record.caller) ∨
  (answer = .error .taskRouteCapacity ∧
    4096 ≤ {id | ∃ r, holds s r ∧ r.publicTaskId = id}.ncard)

/-- Every store a sequence of calls leads to represents some routes. -/
theorem represents_performAll (operations : List Operation) :
    ∃ routes, Represents (Operation.performAll operations (TaskRouteStorage.empty : σ)).2 routes := by
  suffices ∀ (s : σ) routes, Represents s routes →
      ∃ after, Represents (Operation.performAll operations s).2 after from this _ _ empty
  induction operations with
  | nil => exact fun _ routes rep => ⟨routes,rep⟩
  | cons operation rest ih =>
    intro s routes rep
    cases operation with
    | findTaskRoute => exact ih s routes rep
    | getTaskRoute => exact ih s routes rep
    | beginOrExisting record => exact ih _ _ (begin record rep).2
    | compareAndSetTaskRoute caller id version update =>
      exact ih _ _ (compareAndSet caller id version update rep).2
    | purgeExpiredTaskRoutes now limit => exact ih _ _ (purge now limit rep).2

variable {s t : σ} {first second : Routes} {caller : TaskRouteCaller}

theorem alike_iff (left : Represents s first) (right : Represents t second) :
    Alike caller s t ↔ Routes.Alike caller first second := by
  constructor
  · intro alike id r owner
    have same := alike r owner
    rw [holds_iff left,holds_iff right] at same
    constructor
    · intro found
      have here := (wellFormed left).id id r found
      exact here ▸ same.mp (here.symm ▸ found)
    · intro found
      have here := (wellFormed right).id id r found
      exact here ▸ same.mpr (here.symm ▸ found)
  · intro alike r owner
    rw [holds_iff left,holds_iff right]
    exact alike _ r owner

theorem foreign_refusal {record : TaskRouteRecord} (rep : Represents s first)
    (foreign : Routes.Foreign record first answer) : ForeignRefusal record s answer := by
  cases foreign with
  | taken stored other =>
    have here := (wellFormed rep).id _ _ stored
    exact .inl ⟨rfl,_,(holds_iff rep).mpr (here.symm ▸ stored),here,other⟩
  | full bound =>
    refine .inr ⟨rfl,bound.trans_eq ?_⟩
    unfold Routes.count
    congr 1
    ext id
    constructor
    · rintro ⟨r,found,-⟩
      have here := (wellFormed rep).id id r found
      exact ⟨r,(holds_iff rep).mpr (here.symm ▸ found),here⟩
    · rintro ⟨r,held,rfl⟩
      exact ⟨r,(holds_iff rep).mp held,trivial⟩

/-- Another caller's begin leaves the routes of the caller as they were. -/
theorem alike_begun (operation : Operation) {record : TaskRouteRecord}
    (different : record.caller ≠ caller) :
    Alike caller
      (Operation.performAll [operation,.beginOrExisting record] (TaskRouteStorage.empty : σ)).2
      (Operation.performAll [operation] TaskRouteStorage.empty).2 := by
  obtain ⟨routes,rep⟩ := represents_performAll (σ := σ) [operation]
  have after := (begin record rep).2
  exact (alike_iff after rep).mpr
    ((Routes.beginReading_step (wellFormed rep) record).alike different)

/-- What two stores that hold the same routes of a caller answer that caller, and what
another caller can do to those routes. -/
theorem caller_isolated (operations others : List Operation)
    (alike : Alike caller (Operation.performAll operations (TaskRouteStorage.empty : σ)).2
      (Operation.performAll others TaskRouteStorage.empty).2) :
    let s := (Operation.performAll operations (TaskRouteStorage.empty : σ)).2
    let t := (Operation.performAll others (TaskRouteStorage.empty : σ)).2
    (∀ key, TaskRouteStorage.findTaskRoute s caller key =
      TaskRouteStorage.findTaskRoute t caller key) ∧
    (∀ id, TaskRouteStorage.getTaskRoute s caller id =
      TaskRouteStorage.getTaskRoute t caller id) ∧
    (∀ id version update,
      (TaskRouteStorage.compareAndSetTaskRoute caller id version update s).1 =
          (TaskRouteStorage.compareAndSetTaskRoute caller id version update t).1 ∧
        Alike caller (TaskRouteStorage.compareAndSetTaskRoute caller id version update s).2
          (TaskRouteStorage.compareAndSetTaskRoute caller id version update t).2) ∧
    (∀ record, record.caller = caller →
      ((TaskRouteStorage.beginOrExisting record s).1 =
          (TaskRouteStorage.beginOrExisting record t).1 ∧
        Alike caller (TaskRouteStorage.beginOrExisting record s).2
          (TaskRouteStorage.beginOrExisting record t).2) ∨
      ForeignRefusal record s (TaskRouteStorage.beginOrExisting record s).1 ∨
        ForeignRefusal record t (TaskRouteStorage.beginOrExisting record t).1) ∧
    (∀ record, record.caller ≠ caller →
      Alike caller (TaskRouteStorage.beginOrExisting record s).2 s) ∧
    (∀ other id version update, other ≠ caller →
      Alike caller (TaskRouteStorage.compareAndSetTaskRoute other id version update s).2 s) := by
  intro s t
  obtain ⟨first,left⟩ : ∃ first, Represents s first := represents_performAll operations
  obtain ⟨second,right⟩ : ∃ second, Represents t second := represents_performAll others
  have same := (alike_iff left right).mp alike
  refine ⟨?_,?_,?_,?_,?_,?_⟩
  · intro key
    rw [find left,find right,same.holder (wellFormed left) (wellFormed right)]
  · intro id
    rw [get left,get right,same.owned]
  · intro id version update
    obtain ⟨answer,after⟩ := compareAndSet caller id version update left
    obtain ⟨answer',after'⟩ := compareAndSet caller id version update right
    obtain ⟨equal,kept⟩ := same.compareAndSet (unreadable σ) id version update
    exact ⟨answer.trans (equal.trans answer'.symm),(alike_iff after after').mpr kept⟩
  · rintro record rfl
    obtain ⟨answer,after⟩ := begin record left
    obtain ⟨answer',after'⟩ := begin record right
    rcases same.begin (unreadable σ) (wellFormed left) (wellFormed right)
        (finite left) (finite right) with ⟨equal,kept⟩ | foreign | foreign
    · exact .inl ⟨answer.trans (equal.trans answer'.symm),(alike_iff after after').mpr kept⟩
    · exact .inr (.inl (answer ▸ foreign_refusal left foreign))
    · exact .inr (.inr (answer' ▸ foreign_refusal right foreign))
  · intro record different
    have after := (begin record left).2
    exact (alike_iff after left).mpr ((Routes.beginReading_step (wellFormed left) record).alike different)
  · intro other id version update different
    have after := (compareAndSet other id version update left).2
    exact (alike_iff after left).mpr (Routes.compareAndSetReading_step.alike different)

end

section Example
open Reference

/-- The route of another caller with the same key. -/
noncomputable def otherDraft : TaskRouteRecord :=
  .prepared ⟨"gmt_2"⟩ ⟨⟨"bob"⟩,⟨"tenant-a"⟩⟩ (some ⟨"key"⟩) (.ofJson .null) .null
    exampleCapability "session-1" 1000 10000 .default

noncomputable def otherRoute : TaskRouteRecord :=
  { otherDraft with integrityDigest := otherDraft.expectedIntegrityDigest }

theorem otherRoute_prepared : otherRoute.verifyPreparedForBegin = .ok () :=
  TaskRouteRecord.verifyPreparedForBegin_ok.mpr ⟨TaskRouteRecord.verifyIntegrity_ok.mpr
    ⟨rfl,(TaskRouteRecord.expectedIntegrityDigest_with otherDraft _).symm⟩,rfl,rfl,rfl,rfl,rfl⟩

theorem otherRoute_caller : otherRoute.caller ≠ sealedRoute.caller := fun same =>
  absurd (congrArg (fun c => c.principal.text) same) (by decide : "bob" ≠ "alice")

theorem otherRoute_unheld : otherRoute.idempotencyKey.bind (Routes.holder
    (Function.update (fun _ => none) sealedRoute.publicTaskId (some sealedRoute))
    otherRoute.caller) = none := by
  refine dif_neg ?_
  rintro ⟨r,stored,owner,-⟩
  by_cases same : r.publicTaskId = sealedRoute.publicTaskId
  · rw [same,Function.update_self] at stored
    cases stored
    exact otherRoute_caller owner.symm
  · rw [Function.update_of_ne same] at stored
    cases stored

/-- The other caller's route goes next to the first one. -/
theorem otherRoute_begun : Routes.begin otherRoute
    (Function.update (fun _ => none) sealedRoute.publicTaskId (some sealedRoute)) =
      (.ok (.inserted otherRoute),Function.update (Function.update (fun _ => none)
        sealedRoute.publicTaskId (some sealedRoute)) otherRoute.publicTaskId (some otherRoute)) := by
  have other : otherRoute.publicTaskId ≠ sealedRoute.publicTaskId := by decide
  refine Routes.begin_free otherRoute_prepared otherRoute_unheld
    (Function.update_of_ne other ..) fun counted => ?_
  exact (Routes.count_only _ _ counted).trans_lt (by decide)

section
variable {σ : Type} [TaskRouteStorage σ] [ExactTaskRouteStorage σ]

open ExactTaskRouteStorage

/-- Both begins are accepted, and the first caller finds its route when it is alone. -/
theorem both_begun (readable : unreadable σ sealedRoute = none) :
    (Operation.performAll [.beginOrExisting sealedRoute,.beginOrExisting otherRoute]
        (TaskRouteStorage.empty : σ)).1 =
      [.begun (.ok (.inserted sealedRoute)),.begun (.ok (.inserted otherRoute))] ∧
    TaskRouteStorage.findTaskRoute (Operation.performAll [.beginOrExisting sealedRoute]
        (TaskRouteStorage.empty : σ)).2 sealedRoute.caller ⟨"key"⟩ = .ok (some sealedRoute) := by
  obtain ⟨first,rep⟩ := begin (σ := σ) sealedRoute empty
  rw [Routes.beginReading_empty sealedRoute_prepared] at first rep
  have second := (begin otherRoute rep).1
  dsimp only at first rep second
  rw [Routes.beginReading_free otherRoute_unheld,otherRoute_begun] at second
  constructor
  · exact congrArg₂ (fun a b => [Outcome.begun a,.begun b]) first second
  · have held : Routes.holder _ sealedRoute.caller ⟨"key"⟩ = some sealedRoute :=
      (wellFormed rep).holder.mpr ⟨Function.update_self ..,rfl,rfl⟩
    refine (find rep).trans ?_
    rw [held,Routes.read,Option.bind_some,readable]

end

/-- A caller finds its route although another caller has begun one with the same key. -/
theorem caller_isolated_example :
    let alone := [Operation.beginOrExisting sealedRoute]
    let together := [Operation.beginOrExisting sealedRoute,.beginOrExisting otherRoute]
    let begun := [Outcome.begun (.ok (.inserted sealedRoute)),.begun (.ok (.inserted otherRoute))]
    let memory := Operation.performAll together MemoryTaskRoutes.empty
    let table := Operation.performAll together TaskRouteTable.empty
    (memory.1 = begun ∧
      TaskRouteStorage.findTaskRoute memory.2 sealedRoute.caller ⟨"key"⟩ = .ok (some sealedRoute) ∧
      TaskRouteStorage.findTaskRoute (Operation.performAll alone MemoryTaskRoutes.empty).2
        sealedRoute.caller ⟨"key"⟩ = .ok (some sealedRoute)) ∧
    (table.1 = begun ∧
      TaskRouteStorage.findTaskRoute table.2 sealedRoute.caller ⟨"key"⟩ = .ok (some sealedRoute) ∧
      TaskRouteStorage.findTaskRoute (Operation.performAll alone TaskRouteTable.empty).2
        sealedRoute.caller ⟨"key"⟩ = .ok (some sealedRoute)) := by
  constructor
  · obtain ⟨begun,found⟩ := both_begun (σ := MemoryTaskRoutes) rfl
    exact ⟨begun,((caller_isolated _ _ (alike_begun _ otherRoute_caller)).1 ⟨"key"⟩).trans found,found⟩
  · obtain ⟨begun,found⟩ := both_begun (σ := TaskRouteTable)
      ((TaskRouteTable.undecodable_readable sealedRoute_valid).mpr sealedRoute_readable)
    exact ⟨begun,((caller_isolated _ _ (alike_begun _ otherRoute_caller)).1 ⟨"key"⟩).trans found,found⟩

end Example
end GaugeMesh
