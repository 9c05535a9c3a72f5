import GaugeMesh.Storage.Interface
import Mathlib.Data.Set.Card
import Mathlib.Data.Prod.Lex

/-! The operations on the map of routes itself, without any index or table. The two
stores are compared with these; each satisfies the step of its own name. -/
namespace GaugeMesh
open Json

namespace Routes

variable {routes : Routes}

open Classical in
/-- The record of the caller that holds the key; there is at most one. -/
noncomputable def holder (routes : Routes) (caller : TaskRouteCaller)
    (key : TaskRouteIdempotencyKey) : Option TaskRouteRecord :=
  if found : ∃ r, routes r.publicTaskId = some r ∧ r.caller = caller ∧ r.idempotencyKey = some key
  then some found.choose else none

/-- How many stored records satisfy `counted`. -/
noncomputable def count (routes : Routes) (counted : TaskRouteRecord → Prop) : Nat :=
  {id | ∃ r, routes id = some r ∧ counted r}.ncard

theorem count_only (i : PublicTaskId) (r : TaskRouteRecord) (counted : TaskRouteRecord → Prop) :
    count (Function.update (fun _ => none) i (some r)) counted ≤ 1 := by
  have only : {id | ∃ s, Function.update (fun _ => none) i (some r) id = some s ∧ counted s} ⊆ {i} := by
    rintro id ⟨s,stored,-⟩
    by_contra other
    rw [Function.update_of_ne other] at stored
    cases stored
  exact (Set.ncard_le_ncard only).trans (Set.ncard_singleton i).le

def expiryEntry (r : TaskRouteRecord) : Nat ×ₗ String := toLex (r.expiresAtUnixMs,r.publicTaskId.text)

/-- The expired routes in the order in which a purge takes them. -/
structure Due (routes : Routes) (now : Nat) (due : List (Nat ×ₗ String)) : Prop where
  sorted : due.Pairwise (· < ·)
  member : ∀ entry, entry ∈ due ↔
    ∃ r, routes r.publicTaskId = some r ∧ r.isExpired now = true ∧ entry = expiryEntry r

open Classical in
noncomputable def due (routes : Routes) (now : Nat) : List (Nat ×ₗ String) :=
  if found : ∃ entries, Due routes now entries then found.choose else []

noncomputable def find (routes : Routes) (caller : TaskRouteCaller)
    (key : TaskRouteIdempotencyKey) : Except TaskRouteStorageError (Option TaskRouteRecord) :=
  .ok (routes.holder caller key)

def get (routes : Routes) (caller : TaskRouteCaller) (id : PublicTaskId) :
    Except TaskRouteStorageError (Option TaskRouteRecord) :=
  .ok ((routes id).filter fun r => r.caller = caller)

/-- Two lists of the routes due now are the same list. -/
theorem Due.unique {first second : List (Nat ×ₗ String)} (left : Due routes now first)
    (right : Due routes now second) : first = second := by
  refine List.Perm.eq_of_pairwise ?_ left.sorted right.sorted ?_
  · intro a b _ _ below above
    exact absurd below (lt_asymm above)
  · refine (List.perm_ext_iff_of_nodup ?_ ?_).mpr ?_
    · exact left.sorted.imp ne_of_lt
    · exact right.sorted.imp ne_of_lt
    · intro entry
      rw [left.member,right.member]

theorem Due.due {entries : List (Nat ×ₗ String)} (sorted : Due routes now entries) :
    routes.due now = entries := by
  have found : ∃ entries, Due routes now entries := ⟨entries,sorted⟩
  rw [Routes.due,dif_pos found]
  exact found.choose_spec.unique sorted

theorem due_member {entry : Nat ×ₗ String} (member : entry ∈ routes.due now) :
    ∃ r, routes r.publicTaskId = some r ∧ r.isExpired now = true ∧ entry = expiryEntry r := by
  unfold Routes.due at member
  split at member
  · next found => exact (found.choose_spec.member entry).mp member
  · cases member

open Classical in
noncomputable def insertNew (record : TaskRouteRecord) (kept routes : Routes) :
    Except TaskRouteStorageError BeginTaskRouteResult × Routes :=
  if (kept record.publicTaskId).isSome then (.error .publicTaskIdCollision,routes)
  else if maxStoredTaskRoutes ≤ kept.count (fun _ => True) ∨
      maxActiveTaskRoutesPerCaller ≤ kept.count (fun r =>
        r.caller = record.caller ∧ r.isExpired record.createdAtUnixMs = false) then
    (.error .taskRouteCapacity,routes)
  else (.ok (.inserted record),Function.update kept record.publicTaskId (some record))

def without (routes : Routes) (gone : List (Nat ×ₗ String)) : Routes := fun id =>
  if id.text ∈ gone.map (fun entry => (ofLex entry).2) then none else routes id

theorem without_nil (routes : Routes) : routes.without [] = routes := by
  funext id
  exact if_neg (List.not_mem_nil)

theorem without_cons (routes : Routes) (r : TaskRouteRecord) (rest : List (Nat ×ₗ String)) :
    routes.without (expiryEntry r :: rest) =
      without (Function.update routes r.publicTaskId none) rest := by
  funext id
  unfold without
  rw [List.map_cons]
  change (if id.text ∈ r.publicTaskId.text :: _ then _ else _) = _
  by_cases gone : id.text ∈ rest.map fun entry => (ofLex entry).2
  · rw [if_pos gone,if_pos (List.mem_cons_of_mem _ gone)]
  · rw [if_neg gone]
    by_cases here : id = r.publicTaskId
    · rw [here,Function.update_self,if_pos List.mem_cons_self]
    · have text : id.text ≠ r.publicTaskId.text := fun same => here (congrArg PublicTaskId.mk same)
      rw [Function.update_of_ne here,if_neg]
      simp only [List.mem_cons,not_or]
      exact ⟨text,gone⟩

noncomputable def purge (now maxRecords : Nat) (routes : Routes) :
    Except TaskRouteStorageError Nat × Routes :=
  let gone := (routes.due now).take (boundedTaskRoutePurgeLimit maxRecords)
  (.ok gone.length,routes.without gone)

/-- The one route there is goes once it has expired. -/
theorem purge_only {r : TaskRouteRecord} (expired : r.isExpired now = true)
    (room : 0 < boundedTaskRoutePurgeLimit maxRecords) :
    purge now maxRecords (Function.update (fun _ => none) r.publicTaskId (some r)) =
      (.ok 1,fun _ => none) := by
  have due : Due (Function.update (fun _ => none) r.publicTaskId (some r)) now [expiryEntry r] := by
    refine ⟨List.pairwise_singleton _ _,fun entry => ?_⟩
    rw [List.mem_singleton]
    constructor
    · rintro rfl
      exact ⟨r,Function.update_self ..,expired,rfl⟩
    · rintro ⟨s,stored,-,rfl⟩
      by_cases same : s.publicTaskId = r.publicTaskId
      · rw [same,Function.update_self] at stored
        rw [Option.some.inj stored]
      · rw [Function.update_of_ne same] at stored
        cases stored
  have all : [expiryEntry r].take (boundedTaskRoutePurgeLimit maxRecords) = [expiryEntry r] :=
    List.take_of_length_le room
  rw [purge,due.due,all,without_cons,Function.update_idem,without_nil]
  exact Prod.ext rfl (Function.update_eq_self r.publicTaskId (fun _ => none))

theorem purge_step : Purge now routes (routes.purge now maxRecords).2 := by
  intro id
  change (if _ then none else routes id) = routes id ∨ (if _ then none else routes id) = none ∧ _
  split
  · next gone =>
    obtain ⟨entry,member,text⟩ := List.mem_map.mp gone
    obtain ⟨r,stored,expired,rfl⟩ := due_member (List.mem_of_mem_take member)
    have same : r.publicTaskId = id := congrArg PublicTaskId.mk text
    exact .inr ⟨rfl,r,same ▸ stored,expired⟩
  · exact .inl rfl

variable [FloatText] [Sha256]

noncomputable def begin (record : TaskRouteRecord) (routes : Routes) :
    Except TaskRouteStorageError BeginTaskRouteResult × Routes :=
  match record.verifyPreparedForBegin with
  | .error error => (.error (.taskRoute error),routes)
  | .ok () =>
    match record.idempotencyKey.bind (routes.holder record.caller) with
    | none => insertNew record routes routes
    | some old =>
      if old.isExpired record.createdAtUnixMs then
        insertNew record (Function.update routes old.publicTaskId none) routes
      else if old.requestDigest ≠ record.requestDigest then (.error .idempotencyConflict,routes)
      else (.ok (.existing old),routes)

def compareAndSet (caller : TaskRouteCaller) (id : PublicTaskId) (version : Nat)
    (update : TaskRouteUpdate) (routes : Routes) :
    Except TaskRouteStorageError (Option TaskRouteRecord) × Routes :=
  match routes id with
  | none => (.ok none,routes)
  | some current =>
    if current.caller ≠ caller then (.ok none,routes)
    else if current.transitionVersion ≠ version then (.error .staleTransition,routes)
    else match current.transition update with
      | .error error => (.error (.taskRoute error),routes)
      | .ok next => (.ok (some next),Function.update routes id (some next))

/-- A prepared record whose id and key are free is taken where there is room. -/
theorem begin_free (prepared : record.verifyPreparedForBegin = .ok ())
    (free : record.idempotencyKey.bind (routes.holder record.caller) = none)
    (absent : routes record.publicTaskId = none)
    (few : ∀ counted, routes.count counted < maxActiveTaskRoutesPerCaller) :
    routes.begin record =
      (.ok (.inserted record),Function.update routes record.publicTaskId (some record)) := by
  have stored : ¬maxStoredTaskRoutes ≤ routes.count fun _ => True := by
    have := few fun _ => True
    unfold maxActiveTaskRoutesPerCaller at this
    unfold maxStoredTaskRoutes
    omega
  rw [Routes.begin,prepared]
  dsimp only
  rw [free]
  simp [insertNew,absent,stored,few]

theorem begin_empty (prepared : record.verifyPreparedForBegin = .ok ()) :
    Routes.begin record (fun _ => none) =
      (.ok (.inserted record),Function.update (fun _ => none) record.publicTaskId (some record)) := by
  refine begin_free prepared ?_ rfl fun counted => by simp [count,maxActiveTaskRoutesPerCaller]
  rcases record.idempotencyKey with _ | key
  · rfl
  · simp [holder]

/-- A stored record is moved by an update it accepts. -/
theorem compareAndSet_moved {i : PublicTaskId} (stored : routes i = some r)
    (moved : r.transition update = .ok next) :
    routes.compareAndSet r.caller i r.transitionVersion update =
      (.ok (some next),Function.update routes i (some next)) := by
  rw [compareAndSet,stored]
  simp [moved]

theorem WellFormed.holder {key : TaskRouteIdempotencyKey} {r : TaskRouteRecord}
    (ok : routes.WellFormed) : routes.holder caller key = some r ↔
    routes r.publicTaskId = some r ∧ r.caller = caller ∧ r.idempotencyKey = some key := by
  unfold Routes.holder
  constructor
  · intro chosen
    split at chosen
    · next found => cases chosen; exact found.choose_spec
    · cases chosen
  · rintro ⟨stored,owner,held⟩
    have found : ∃ r, routes r.publicTaskId = some r ∧ r.caller = caller ∧
        r.idempotencyKey = some key := ⟨r,stored,owner,held⟩
    rw [dif_pos found]
    obtain ⟨stored',owner',held'⟩ := found.choose_spec
    have same := ok.key _ _ _ _ key stored' stored (owner'.trans owner.symm) held' held
    rw [same,stored] at stored'
    exact stored'.symm

/-- An insertion into what is kept is a step when only a replaced record is missing. -/
theorem insertNew_step {kept : Routes} (prepared : record.verifyPreparedForBegin = .ok ())
    (others : ∀ id, kept id = routes id ∨
      kept id = none ∧ ∃ old, routes id = some old ∧ Replaced record old)
    (alone : ∀ id r, kept id = some r → r.caller = record.caller →
      r.idempotencyKey = record.idempotencyKey → r.idempotencyKey = none) :
    Begin record routes (insertNew record kept routes).1 (insertNew record kept routes).2 := by
  unfold insertNew
  split
  · exact .refused
  · next free =>
    split
    · exact .refused
    · rw [Bool.not_eq_true,Option.isSome_eq_false_iff,Option.isNone_iff_eq_none] at free
      refine .inserted prepared (Function.update_self ..) ?_ ?_ ?_
      · intro old stored
        rcases others record.publicTaskId with same | ⟨-,old',stored',replaced⟩
        · rw [← same,free] at stored; cases stored
        · rw [stored] at stored'; cases stored'; exact replaced
      · intro id other
        dsimp only
        rw [Function.update_of_ne other]
        exact others id
      · intro id r other found
        dsimp only at found
        rw [Function.update_of_ne other] at found
        exact alone id r found

/-- Nobody holds a key that has no holder. -/
theorem WellFormed.unheld {record : TaskRouteRecord} (ok : routes.WellFormed)
    (free : record.idempotencyKey.bind (routes.holder record.caller) = none) (id : PublicTaskId)
    (r : TaskRouteRecord) (stored : routes id = some r) (caller : r.caller = record.caller)
    (same : r.idempotencyKey = record.idempotencyKey) : r.idempotencyKey = none := by
  rcases held : record.idempotencyKey with _ | key
  · rw [same,held]
  · rw [held,Option.bind_some] at free
    have taken := ok.holder.mpr ⟨(ok.id id r stored).symm ▸ stored,caller,same.trans held⟩
    rw [free] at taken
    cases taken

/-- Nobody holds a key whose holder has been taken out. -/
theorem WellFormed.released {record old : TaskRouteRecord} {key : TaskRouteIdempotencyKey}
    (ok : routes.WellFormed) (held : record.idempotencyKey = some key)
    (holds : routes.holder record.caller key = some old) (id : PublicTaskId) (r : TaskRouteRecord)
    (found : Function.update routes old.publicTaskId none id = some r)
    (callers : r.caller = record.caller) (keys : r.idempotencyKey = record.idempotencyKey) :
    r.idempotencyKey = none := by
  obtain ⟨stored,caller,oldKey⟩ := ok.holder.mp holds
  by_cases same : id = old.publicTaskId
  · subst same
    rw [Function.update_self] at found
    cases found
  · rw [Function.update_of_ne same] at found
    exact absurd (ok.key id r _ old key found stored (callers.trans caller.symm)
      (keys.trans held) oldKey) same

theorem begin_step (ok : routes.WellFormed) :
    Begin record routes (routes.begin record).1 (routes.begin record).2 := by
  unfold Routes.begin
  split
  · exact .refused
  · next prepared =>
    split
    · next free => exact insertNew_step prepared (fun id => .inl rfl) (ok.unheld free)
    · next old taken =>
      obtain ⟨key,held,holds⟩ := Option.bind_eq_some_iff.mp taken
      obtain ⟨stored,caller,oldKey⟩ := ok.holder.mp holds
      split
      · next expired =>
        refine insertNew_step prepared ?_ (ok.released held holds)
        intro id
        by_cases same : id = old.publicTaskId
        · subst same
          exact .inr ⟨Function.update_self ..,old,stored,caller,oldKey.trans held.symm,expired⟩
        · exact .inl (Function.update_of_ne same _ _)
      · split
        · exact .refused
        · next request =>
          exact .existing stored caller (oldKey.trans held.symm) (of_not_not request)

theorem compareAndSet_step {id : PublicTaskId} : CompareAndSet caller id version update routes
    (routes.compareAndSet caller id version update).1
    (routes.compareAndSet caller id version update).2 := by
  unfold compareAndSet
  split
  · exact .unknown
  · next current stored =>
    split
    · exact .unknown
    · next owner =>
      split
      · exact .refused
      · next fresh =>
        split
        · exact .refused
        · next next moved => exact .set stored (of_not_not owner) (of_not_not fresh) moved

end Routes
end GaugeMesh
