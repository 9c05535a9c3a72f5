import GaugeMesh.Proxy.History

/-! What one operation keeps: each has its reason, and afterwards the routes of the store,
the clock and the drawn ids agree with the longer history. -/
namespace GaugeMesh
open Json Interleaving ProxySystem

section
variable [FloatText] [Sha256]
variable {σ : Type} [TaskRouteStorage σ] [ExactTaskRouteStorage σ]
variable {w : ProxyWorld σ} {routes : Routes} {i : Nat} {s : Shared σ}

omit [FloatText] [Sha256] [TaskRouteStorage σ] [ExactTaskRouteStorage σ] in
/-- What was written later, but for routes written before, separates nothing. -/
theorem Separate.grow {trace past : List ProxyEvent} {now later : Nat} (separate : Separate past now)
    (known : ∀ r, Written r trace → ∃ old, Written old past ∧ old.SameRoute r)
    (time : now ≤ later) : Separate trace later := by
  intro r s key first second different caller left right
  obtain ⟨r',before,same⟩ := known r first
  obtain ⟨s',earlier,alike⟩ := known s second
  rcases separate r' s' key before earlier (by rw [← same.publicTaskId,← alike.publicTaskId]; exact different)
    (by rw [← same.caller,← alike.caller]; exact caller) (by rw [← same.idempotencyKey,left])
    (by rw [← alike.idempotencyKey,right]) with gone | gone
  · exact .inl (by rw [same.expiresAtUnixMs]; omega)
  · exact .inr (by rw [alike.expiresAtUnixMs]; omega)

omit [FloatText] [Sha256] [TaskRouteStorage σ] [ExactTaskRouteStorage σ] in
theorem written_silent {e : ProxyEvent} {past : List ProxyEvent} {r : TaskRouteRecord}
    (silent : written e = none) : Written r (e :: past) ↔ Written r past := by
  rw [written_cons,silent]
  simp

/-- The routes that are left are stored as before; the others had expired. -/
def Keeps (before after : Routes) (now : Nat) : Prop :=
  ∀ j, after j = before j ∨
    after j = none ∧ ∃ old, before j = some old ∧ old.expiresAtUnixMs ≤ now

/-- An operation that writes no record. -/
theorem Consistent.silent (consistent : Consistent w routes) {store : σ} {after : Routes}
    (represents : ExactTaskRouteStorage.Represents store after)
    (keeps : Keeps routes after w.state.clock) {op : ProxyOp} {reply : op.Ret}
    (silent : written ⟨i,op,reply⟩ = none)
    (clock : ∀ now, readTime ⟨i,op,reply⟩ = some now → now ≤ w.state.clock)
    (undrawn : drawn ⟨i,op,reply⟩ = none) :
    Consistent (w.after i op reply { w.state with store := store }) after where
  represents := represents
  origin {j r} found := by
    rw [World.after_trace,written_silent silent]
    rcases keeps j with same | ⟨gone,-⟩
    · exact consistent.origin (same ▸ found)
    · rw [gone] at found
      cases found
  latest {r t} known found := by
    refine consistent.latest ((written_silent silent).mp known) ?_
    rcases keeps r.publicTaskId with same | ⟨gone,-⟩
    · rw [← same,found]
    · rw [gone] at found
      cases found
  removed {r} known gone := by
    have before := (written_silent silent).mp known
    rcases keeps r.publicTaskId with same | ⟨-,old,found,expired⟩
    · exact consistent.removed before (same ▸ gone)
    · rw [(consistent.latest before found).sameRoute.expiresAtUnixMs] at expired
      exact expired
  separate := consistent.separate.grow
    (fun r known => ⟨r,(written_silent silent).mp known,.refl r⟩) (Nat.le_refl _)
  clock := List.forall_mem_cons.mpr ⟨clock,consistent.clock⟩
  ids := List.forall_mem_cons.mpr ⟨fun id drew => (by rw [undrawn] at drew; cases drew),
    consistent.ids⟩

/-- An operation that writes nothing and leaves the state alone. -/
theorem Consistent.idle (consistent : Consistent w routes) {op : ProxyOp} {reply : op.Ret}
    (silent : written ⟨i,op,reply⟩ = none)
    (clock : ∀ now, readTime ⟨i,op,reply⟩ = some now → now ≤ w.state.clock)
    (undrawn : drawn ⟨i,op,reply⟩ = none) :
    Consistent (w.after i op reply w.state) routes :=
  consistent.silent consistent.represents (fun _ => .inl rfl) silent clock undrawn

theorem Consistent.get (consistent : Consistent w routes) {caller : TaskRouteCaller}
    {id : PublicTaskId} {reply : (ProxyOp.getTaskRoute caller id).Ret}
    (acted : act (.getTaskRoute caller id) w.state reply s) :
    s = w.state ∧ ∀ r, reply = .ok (some r) →
      Written r w.trace ∧ r.publicTaskId = id ∧ r.caller = caller := by
  rcases acted with ⟨answer,same⟩ | ⟨error,failed,same⟩
  · refine ⟨same,fun r read => ?_⟩
    rw [answer,ExactTaskRouteStorage.get consistent.represents,Routes.read] at read
    split at read
    · cases read
    · have found := Except.ok.inj read
      obtain ⟨stored,owner⟩ := Option.filter_eq_some_iff.mp found
      exact ⟨consistent.origin stored,
        (ExactTaskRouteStorage.wellFormed consistent.represents).id id r stored,by simpa using owner⟩
  · refine ⟨same,fun r read => ?_⟩
    rw [failed] at read
    cases read

theorem Consistent.find (consistent : Consistent w routes) {caller : TaskRouteCaller}
    {key : TaskRouteIdempotencyKey} {reply : (ProxyOp.findTaskRoute caller key).Ret}
    (acted : act (.findTaskRoute caller key) w.state reply s) :
    s = w.state ∧ ∀ r, reply = .ok (some r) → Written r w.trace := by
  rcases acted with ⟨answer,same⟩ | ⟨error,failed,same⟩
  · refine ⟨same,fun r read => ?_⟩
    rw [answer,ExactTaskRouteStorage.find consistent.represents,Routes.read] at read
    split at read
    · cases read
    · have found := Except.ok.inj read
      exact consistent.origin
        ((ExactTaskRouteStorage.wellFormed consistent.represents).holder.mp found).1
  · refine ⟨same,fun r read => ?_⟩
    rw [failed] at read
    cases read

theorem Consistent.now (consistent : Consistent w routes) {reply : ProxyOp.now.Ret}
    (acted : act .now w.state reply s) :
    s = w.state ∧ (∀ now, reply = some now → now = w.state.clock) ∧
      Consistent (w.after i .now reply w.state) routes := by
  obtain ⟨read,same⟩ := acted
  have time : ∀ now, reply = some now → now = w.state.clock := by
    rintro now rfl
    rcases read with none | some
    · cases none
    · exact Option.some.inj some
  exact ⟨same,time,consistent.idle rfl (fun now known => Nat.le_of_eq (time now known)) rfl⟩

theorem Consistent.random (consistent : Consistent w routes) {id : PublicTaskId}
    (acted : act .randomTaskId w.state id s) :
    (∀ e ∈ w.trace, drawn e ≠ some id) ∧ Consistent (w.after i .randomTaskId id s) routes := by
  obtain ⟨fresh,rfl⟩ := acted
  refine ⟨fun e member drew => fresh (consistent.ids e member id drew),?_⟩
  have silent : written ⟨i,.randomTaskId,id⟩ = none := rfl
  exact {
    represents := consistent.represents
    origin := fun found => (written_silent silent).mpr (consistent.origin found)
    latest := fun known => consistent.latest ((written_silent silent).mp known)
    removed := fun known => consistent.removed ((written_silent silent).mp known)
    separate := consistent.separate.grow
      (fun r known => ⟨r,(written_silent silent).mp known,.refl r⟩) (Nat.le_refl _)
    clock := List.forall_mem_cons.mpr ⟨nofun,consistent.clock⟩
    ids := List.forall_mem_cons.mpr ⟨fun other drew => (by cases drew; exact List.mem_cons_self),
      fun e member other drew => List.mem_cons_of_mem _ (consistent.ids e member other drew)⟩ }

theorem Consistent.drift (consistent : Consistent w routes) {clock : Nat}
    (later : w.state.clock ≤ clock) :
    Consistent (w.drifted { w.state with clock := clock }) routes where
  represents := consistent.represents
  origin := consistent.origin
  latest := consistent.latest
  removed known gone := (consistent.removed known gone).trans later
  separate := consistent.separate.grow (fun r known => ⟨r,known,.refl r⟩) later
  clock e member now known := (consistent.clock e member now known).trans later
  ids := consistent.ids

/-- A store operation is one step of its routes, or it failed and none. -/
theorem Consistent.stores (consistent : Consistent w routes) {α : Type}
    {performed : Except TaskRouteStorageError α × σ} {reply : Except TaskRouteStorageError α}
    {next : Routes} (stores : Stores w.state performed reply s)
    (represents : ExactTaskRouteStorage.Represents performed.2 next)
    (step : Except TaskRouteStorageError α → Routes → Prop) (performs : step performed.1 next)
    (fails : ∀ error, step (.error error) routes) :
    ∃ store after, s = { w.state with store := store } ∧
      ExactTaskRouteStorage.Represents store after ∧ step reply after := by
  rcases stores with ⟨rfl,rfl⟩ | ⟨error,rfl,rfl⟩
  · exact ⟨_,next,rfl,represents,performs⟩
  · exact ⟨_,routes,rfl,consistent.represents,fails error⟩

theorem Consistent.compareAndSet (consistent : Consistent w routes) {caller : TaskRouteCaller}
    {id : PublicTaskId} {version : Nat} {update : TaskRouteUpdate}
    {reply : (ProxyOp.compareAndSetTaskRoute caller id version update).Ret}
    (acted : act (.compareAndSetTaskRoute caller id version update) w.state reply s) :
    (∃ after, Consistent (w.after i (.compareAndSetTaskRoute caller id version update) reply s) after) ∧
      ∀ r, reply = .ok (some r) → ∃ current, Written current w.trace ∧ current.publicTaskId = id ∧
        current.transitionVersion = version ∧ TaskRouteRecord.Transitioned current update r ∧
        ∀ earlier, Written earlier w.trace → earlier.publicTaskId = id → earlier.Leads current := by
  obtain ⟨replied,represents⟩ :=
    ExactTaskRouteStorage.compareAndSet caller id version update consistent.represents
  obtain ⟨store,after,rfl,represents,step⟩ := consistent.stores acted represents
    (fun reply after => Routes.CompareAndSet caller id version update routes reply after)
    (by rw [replied]; exact Routes.compareAndSetReading_step) fun error => .refused
  have ok := ExactTaskRouteStorage.wellFormed consistent.represents
  cases step with
  | unknown =>
    refine ⟨⟨routes,consistent.silent represents (fun _ => .inl rfl) rfl nofun rfl⟩,?_⟩
    intro r same
    cases same
  | refused =>
    refine ⟨⟨routes,consistent.silent represents (fun _ => .inl rfl) rfl nofun rfl⟩,?_⟩
    intro r same
    cases same
  | @set current next stored owner fresh moved =>
    have step := TaskRouteRecord.transition_ok moved
    have named := ok.id id current stored
    have known := consistent.origin stored
    have led : ∀ earlier, Written earlier w.trace → earlier.publicTaskId = id →
        earlier.Leads current := by
      intro earlier before same
      exact consistent.latest before (by rw [same,stored])
    have nextNamed : next.publicTaskId = id := step.sameRoute.publicTaskId.trans named
    have wrote : ∀ r, Written r (w.after i (.compareAndSetTaskRoute caller id version update)
        (.ok (some next)) { w.state with store := store }).trace ↔ r = next ∨ Written r w.trace := by
      intro r
      rw [World.after_trace,written_cons]
      exact or_congr_left ⟨fun same => (Option.some.inj same).symm,fun same => by rw [same]; rfl⟩
    refine ⟨⟨_,represents,?_,?_,?_,?_,?_,?_⟩,?_⟩
    · intro j r found
      rw [wrote]
      by_cases same : j = id
      · subst same
        rw [Function.update_self] at found
        exact .inl (Option.some.inj found).symm
      · rw [Function.update_of_ne same] at found
        exact .inr (consistent.origin found)
    · intro r t recorded found
      by_cases same : r.publicTaskId = id
      · rw [same,Function.update_self] at found
        cases found
        rcases (wrote r).mp recorded with rfl | before
        · exact .refl r
        · exact (led r before same).next step
      · rw [Function.update_of_ne same] at found
        rcases (wrote r).mp recorded with rfl | before
        · exact absurd nextNamed same
        · exact consistent.latest before found
    · intro r recorded gone
      by_cases same : r.publicTaskId = id
      · rw [same,Function.update_self] at gone
        cases gone
      · rw [Function.update_of_ne same] at gone
        rcases (wrote r).mp recorded with rfl | before
        · exact absurd nextNamed same
        · exact consistent.removed before gone
    · refine consistent.separate.grow (fun r recorded => ?_) (Nat.le_refl _)
      rcases (wrote r).mp recorded with rfl | before
      · exact ⟨current,known,step.sameRoute⟩
      · exact ⟨r,before,.refl r⟩
    · exact List.forall_mem_cons.mpr ⟨nofun,consistent.clock⟩
    · exact List.forall_mem_cons.mpr ⟨nofun,consistent.ids⟩
    · intro r same
      cases same
      exact ⟨current,known,named,fresh,step,led⟩

theorem Consistent.purge (consistent : Consistent w routes) {now limit : Nat}
    {reply : (ProxyOp.purgeExpiredTaskRoutes now limit).Ret} (past : now ≤ w.state.clock)
    (acted : act (.purgeExpiredTaskRoutes now limit) w.state reply s) :
    ∃ after, Consistent (w.after i (.purgeExpiredTaskRoutes now limit) reply s) after := by
  obtain ⟨replied,represents⟩ := ExactTaskRouteStorage.purge now limit consistent.represents
  obtain ⟨store,after,rfl,represents,step⟩ := consistent.stores acted represents
    (fun _ after => Routes.Purge now routes after) Routes.purge_step fun _ _ => .inl rfl
  refine ⟨after,consistent.silent represents (fun j => ?_) rfl nofun rfl⟩
  rcases step j with same | ⟨gone,old,found,expired⟩
  · exact .inl same
  · exact .inr ⟨gone,old,found,(of_decide_eq_true expired).trans past⟩

/-- A new route has an id of its own and was created in the past. -/
theorem Consistent.begin (consistent : Consistent w routes) {record : TaskRouteRecord}
    {reply : (ProxyOp.beginOrExisting record).Ret}
    (fresh : ∀ r, Written r w.trace → r.publicTaskId ≠ record.publicTaskId)
    (keyed : record.idempotencyKey.isSome) (past : record.createdAtUnixMs ≤ w.state.clock)
    (acted : act (.beginOrExisting record) w.state reply s) :
    (∃ after, Consistent (w.after i (.beginOrExisting record) reply s) after) ∧
      (∀ r, reply = .ok (.inserted r) → r = record) ∧
      ∀ r, reply = .ok (.existing r) → Written r w.trace ∧ r.caller = record.caller ∧
        r.idempotencyKey = record.idempotencyKey ∧ r.requestDigest = record.requestDigest := by
  have ok := ExactTaskRouteStorage.wellFormed consistent.represents
  obtain ⟨replied,represents⟩ := ExactTaskRouteStorage.begin record consistent.represents
  obtain ⟨store,after,rfl,represents,step⟩ := consistent.stores acted represents
    (fun reply after => Routes.Begin record routes reply after)
    (by rw [replied]; exact Routes.beginReading_step ok record) fun error => .refused
  have begins := step
  cases step with
  | refused =>
    refine ⟨⟨routes,consistent.silent represents (fun _ => .inl rfl) rfl nofun rfl⟩,?_,?_⟩ <;>
      (intro r same; cases same)
  | @existing r stored caller key request =>
    refine ⟨⟨routes,consistent.silent represents (fun _ => .inl rfl) rfl nofun rfl⟩,?_,?_⟩ <;>
      (intro t same; cases same)
    exact ⟨consistent.origin stored,caller,key,request⟩
  | inserted prepared stored unheld others alone =>
    have wrote : ∀ r, Written r (w.after i (.beginOrExisting record) (.ok (.inserted record))
        { w.state with store := store }).trace ↔ r = record ∨ Written r w.trace := by
      intro r
      rw [World.after_trace,written_cons]
      exact or_congr_left ⟨fun same => (Option.some.inj same).symm,fun same => by rw [same]; rfl⟩
    have earlier : ∀ {j r}, j ≠ record.publicTaskId → after j = some r → routes j = some r := by
      intro j r other found
      rcases begins.stored found with before | ⟨new,-⟩
      · exact before
      · exact absurd new other
    have expired : ∀ old, Routes.Replaced record old → old.expiresAtUnixMs ≤ w.state.clock :=
      fun old replaced => (of_decide_eq_true replaced.2.2).trans past
    -- A route of the same caller and key has expired: it is gone or just replaced.
    have overdue : ∀ r, Written r w.trace → r.caller = record.caller →
        r.idempotencyKey = record.idempotencyKey → r.expiresAtUnixMs ≤ w.state.clock := by
      intro r before caller key
      rcases there : routes r.publicTaskId with _ | current
      · exact consistent.removed before there
      · have route := (consistent.latest before there).sameRoute
        rw [← route.expiresAtUnixMs]
        have other := fresh r before
        rcases others r.publicTaskId other with same | ⟨-,old,found,replaced⟩
        · have unkeyed := alone _ current other (same.trans there) (route.caller.trans caller)
            (route.idempotencyKey.trans key)
          rw [route.idempotencyKey,key] at unkeyed
          rw [unkeyed] at keyed
          cases keyed
        · rw [there] at found
          cases found
          exact expired current replaced
    refine ⟨⟨after,represents,?_,?_,?_,?_,?_,?_⟩,fun r same => by cases same; rfl,
      fun r same => by cases same⟩
    · intro j r found
      rw [wrote]
      rcases begins.stored found with before | ⟨-,same,-⟩
      · exact .inr (consistent.origin before)
      · exact .inl same
    · intro r t recorded found
      rcases (wrote r).mp recorded with rfl | before
      · rw [stored] at found
        cases found
        exact .refl _
      · exact consistent.latest before (earlier (fresh r before) found)
    · intro r recorded gone
      rcases (wrote r).mp recorded with rfl | before
      · rw [stored] at gone
        cases gone
      · rcases others r.publicTaskId (fresh r before) with same | ⟨-,old,found,replaced⟩
        · exact consistent.removed before (same ▸ gone)
        · rw [← (consistent.latest before found).sameRoute.expiresAtUnixMs]
          exact expired old replaced
    · intro r t key first second different caller left right
      rcases (wrote r).mp first with rfl | before <;> rcases (wrote t).mp second with rfl | then'
      · exact absurd rfl different
      · exact .inr (overdue t then' caller.symm (right.trans left.symm))
      · exact .inl (overdue r before caller (left.trans right.symm))
      · exact consistent.separate r t key before then' different caller left right
    · exact List.forall_mem_cons.mpr ⟨nofun,consistent.clock⟩
    · exact List.forall_mem_cons.mpr ⟨nofun,consistent.ids⟩

end
end GaugeMesh
