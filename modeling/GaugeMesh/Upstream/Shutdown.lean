import GaugeMesh.Interleaving.Safety
import GaugeMesh.Upstream.Runtime

/-! Shutdown and restart over every interleaving. A restart reads the shutdown flag
before it waits for the lock of its source, so it may get the lock after shutdown has
been there. Services of a source are only replaced and taken under the lock; when no
restart got the lock that late, what shutdown took away is not put back. -/
namespace GaugeMesh
open Interleaving

abbrev UpstreamWorld := World UpstreamState UpstreamOp UpstreamOp.Ret UpstreamRequest
abbrev UpstreamEvent := Event UpstreamOp UpstreamOp.Ret

namespace UpstreamTrace

variable (source : String)

/-- The thread in possession of the restart lock. -/
def holder : List UpstreamEvent → Option Nat
  | [] => none
  | event :: rest =>
    match event.op with
    | .lockRestart s => if s = source then some event.thread else holder rest
    | .unlockRestart s => if s = source then none else holder rest
    | _ => holder rest

/-- Shutdown has taken the service of the source. -/
def drained (trace : List UpstreamEvent) : Prop :=
  ∃ event ∈ trace, event.op = .takeService source

/-- It had done so when the restart lock was last acquired. -/
def drainedAtLock : List UpstreamEvent → Prop
  | [] => False
  | event :: rest => if event.op = .lockRestart source then drained source rest else drainedAtLock rest

/-- Services are taken and replaced under the lock, by threads that do only one of them. -/
def Disciplined (requests : List UpstreamRequest) : List UpstreamEvent → Prop
  | [] => True
  | event :: rest => Disciplined requests rest ∧
    (∀ s, event.op = .takeService s → holder s rest = some event.thread ∧
      requests[event.thread]? = some .shutdown) ∧
    (∀ s service, event.op = .replaceService s service → holder s rest = some event.thread ∧
      ∃ r observed, requests[event.thread]? = some (.restartAfterFailure r observed))

/-- No restart that replaces a service had waited for the lock until after shutdown. -/
def Prompt : List UpstreamEvent → Prop
  | [] => True
  | event :: rest => Prompt rest ∧
    ∀ s service, event.op = .replaceService s service → ¬drainedAtLock s rest

variable {source}

theorem drained_of_drainedAtLock {trace : List UpstreamEvent} (late : drainedAtLock source trace) :
    drained source trace := by
  induction trace with
  | nil => cases late
  | cons event rest ih =>
    rw [drainedAtLock] at late
    obtain ⟨taken,member,same⟩ : drained source rest := by
      split at late
      · exact late
      · exact ih late
    exact ⟨taken,List.mem_cons_of_mem _ member,same⟩

/-- A history that replaces no service after it was taken is prompt. -/
theorem prompt_of {trace : List UpstreamEvent}
    (early : (trace.map (·.op)).Pairwise fun later earlier =>
      ∀ s service, later = .replaceService s service → earlier ≠ .takeService s) : Prompt trace := by
  induction trace with
  | nil => trivial
  | cons event rest ih =>
    obtain ⟨head,tail⟩ := List.pairwise_cons.mp early
    refine ⟨ih tail,fun s service same late => ?_⟩
    obtain ⟨taken,member,takes⟩ := drained_of_drainedAtLock late
    exact head _ (List.mem_map_of_mem member) s service same takes

/-- Only locking and unlocking the source changes who holds its lock. -/
theorem holder_cons (event : UpstreamEvent) (rest : List UpstreamEvent)
    (lock : event.op ≠ .lockRestart source) (unlock : event.op ≠ .unlockRestart source) :
    holder source (event :: rest) = holder source rest := by
  rw [holder]
  split
  · next s same =>
    refine if_neg ?_
    rintro rfl
    exact lock same
  · next s same =>
    refine if_neg ?_
    rintro rfl
    exact unlock same
  · rfl

theorem drained_cons (event : UpstreamEvent) (rest : List UpstreamEvent) :
    drained source (event :: rest) ↔ event.op = .takeService source ∨ drained source rest := by
  simp [drained]

/-- While a restart holds the lock, shutdown does not get to the source. -/
theorem drained_at_lock {requests : List UpstreamRequest} {trace : List UpstreamEvent}
    (disciplined : Disciplined requests trace) (holds : holder source trace = some i)
    (request : requests[i]? = some (.restartAfterFailure r observed))
    (taken : drained source trace) : drainedAtLock source trace := by
  induction trace with
  | nil => cases holds
  | cons event rest ih =>
    obtain ⟨before,takes,-⟩ := disciplined
    unfold drainedAtLock
    by_cases lock : event.op = .lockRestart source
    · rw [if_pos lock]
      rcases (drained_cons event rest).mp taken with now | earlier
      · rw [lock] at now; cases now
      · exact earlier
    · rw [if_neg lock]
      by_cases unlock : event.op = .unlockRestart source
      · simp [holder,unlock] at holds
      · rw [holder_cons event rest lock unlock] at holds
        refine ih before holds ?_
        rcases (drained_cons event rest).mp taken with now | earlier
        · obtain ⟨same,shutdown⟩ := takes source now
          rw [holds] at same
          cases same
          rw [request] at shutdown; cases shutdown
        · exact earlier

theorem Disciplined.start {requests : List UpstreamRequest} {trace : List UpstreamEvent}
    (disciplined : Disciplined requests trace) (request : UpstreamRequest) :
    Disciplined (requests ++ [request]) trace := by
  have kept : ∀ (i : Nat) served, requests[i]? = some served → (requests ++ [request])[i]? = some served := by
    intro i served found
    rw [List.getElem?_append_left (List.getElem?_eq_some_iff.mp found).1]
    exact found
  induction trace with
  | nil => trivial
  | cons event rest ih =>
    obtain ⟨before,takes,replaces⟩ := disciplined
    refine ⟨ih before,fun s same => ?_,fun s service same => ?_⟩
    · exact ⟨(takes s same).1,kept _ _ (takes s same).2⟩
    · obtain ⟨holds,r,observed,found⟩ := replaces s service same
      exact ⟨holds,r,observed,kept _ _ found⟩

end UpstreamTrace

open UpstreamTrace

namespace UpstreamState

@[simp] theorem set_source (s : UpstreamState) (source : String) (managed : ManagedSource)
    (other : String) : (s.set source managed).source other =
      if other = source then managed else s.source other := by
  simp only [set,Function.update_apply]

variable (s : UpstreamState) {source : String}

/-- A lock changes hands only by locking and unlocking. -/
theorem next_lock {op : UpstreamOp} (lock : op ≠ .lockRestart source)
    (unlock : op ≠ .unlockRestart source) :
    ((s.next i op).source source).restartLock = (s.source source).restartLock := by
  cases op <;> simp only [next] <;> (try split) <;> simp only [set_source] <;> (try split) <;>
    simp_all

/-- A service changes only by being taken or replaced. -/
theorem next_service {op : UpstreamOp} (take : op ≠ .takeService source)
    (replace : ∀ service, op ≠ .replaceService source service) :
    ((s.next i op).source source).service = (s.source source).service := by
  cases op <;> simp only [next] <;> (try split) <;> simp only [set_source] <;> (try split) <;>
    simp_all

end UpstreamState

namespace UpstreamRuntime

/-- The state as the history tells it. -/
structure Inv (w : UpstreamWorld) : Prop where
  locks : ∀ source, (w.state.source source).restartLock = holder source w.trace
  disciplined : Disciplined w.requests w.trace
  taken : ∀ source, Prompt w.trace → drained source w.trace →
    (w.state.source source).service = none

variable {runtime : UpstreamRuntime} {w : UpstreamWorld} {i : Nat} {source : String}

/-- What each step keeps: the two that touch a service need the lock. -/
theorem Inv.after {op : UpstreamOp} {reply : op.Ret} (inv : Inv w)
    (takes : ∀ source, op = .takeService source → holder source w.trace = some i ∧
      w.requests[i]? = some .shutdown)
    (replaces : ∀ source service, op = .replaceService source service →
      holder source w.trace = some i ∧
        ∃ r observed, w.requests[i]? = some (.restartAfterFailure r observed)) :
    Inv (w.after i op reply (w.state.next i op)) := by
  refine ⟨fun source => ?_,⟨inv.disciplined,takes,replaces⟩,fun source prompt taken => ?_⟩
  · by_cases lock : op = .lockRestart source
    · subst lock
      simp [holder,UpstreamState.next]
    · by_cases unlock : op = .unlockRestart source
      · subst unlock
        simp [holder,UpstreamState.next]
      · rw [World.after_state,w.state.next_lock lock unlock,inv.locks source]
        exact (holder_cons _ _ lock unlock).symm
  · rw [World.after_state]
    by_cases take : op = .takeService source
    · subst take
      simp [UpstreamState.next]
    · have earlier := ((drained_cons _ _).mp taken).resolve_left take
      rw [w.state.next_service take,inv.taken source prompt.1 earlier]
      intro service replace
      obtain ⟨holds,r,observed,request⟩ := replaces source service replace
      have late := drained_at_lock inv.disciplined holds request earlier
      exact prompt.2 source service replace late

/-- Thread `i` serves the request and is in possession of the lock. -/
def Holding (request : UpstreamRequest) (source : String) (i : Nat) (w : UpstreamWorld) : Prop :=
  w.requests[i]? = some request ∧ holder source w.trace = some i

theorem holding_stable (request : UpstreamRequest) :
    Stable runtime.system Inv i (Holding request source i) := by
  refine (Permanent.request request).stable.and ?_
  intro w w' moved holds
  cases moved with
  | @act j op _ reply s other acted before kept =>
    obtain ⟨answered,rfl⟩ := acted
    have locks := before.locks source
    rw [holds] at locks
    by_cases lock : op = .lockRestart source
    · subst lock
      cases locks.symm.trans answered
    · by_cases unlock : op = .unlockRestart source
      · subst unlock
        cases locks.symm.trans answered
        exact absurd rfl other
      · exact (holder_cons _ _ lock unlock).trans holds
  | drift => exact holds
  | start => exact holds

/-- Steps that leave every lock and every service alone. -/
def Quiet (op : UpstreamOp) : Prop :=
  (∀ source, op ≠ .lockRestart source) ∧ (∀ source, op ≠ .unlockRestart source) ∧
    (∀ source, op ≠ .takeService source) ∧ ∀ source service, op ≠ .replaceService source service

/-- The steps a restart takes under the lock. -/
def Restarting (source : String) (op : UpstreamOp) : Prop :=
  Quiet op ∨ ∃ service, op = .replaceService source service

theorem quiet_kept {op : UpstreamOp} {reply : op.Ret} (inv : Inv w) (quiet : Quiet op) :
    Inv (w.after i op reply (w.state.next i op)) :=
  inv.after (fun source same => absurd same (quiet.2.2.1 source))
    fun source service same => absurd same (quiet.2.2.2 source service)

theorem quiet_moves (request : UpstreamRequest) (op : UpstreamOp) (quiet : Quiet op) :
    Moves runtime.system Inv i (Holding request source i) op
      fun _ => Holding request source i := by
  rintro w reply s inv ⟨request,holds⟩ ⟨-,rfl⟩
  exact ⟨quiet_kept inv quiet,request,
    (holder_cons _ _ (quiet.1 source) (quiet.2.1 source)).trans holds⟩

theorem restarting_moves (r : String) (observed : Nat) (op : UpstreamOp)
    (restarting : Restarting source op) :
    Moves runtime.system Inv i (Holding (.restartAfterFailure r observed) source i) op
      fun _ => Holding (.restartAfterFailure r observed) source i := by
  rcases restarting with quiet | ⟨service,rfl⟩
  · exact quiet_moves _ op quiet
  · rintro w reply s inv ⟨request,holds⟩ ⟨-,rfl⟩
    refine ⟨inv.after nofun ?_,request,?_⟩
    · intro name other same
      cases same
      exact ⟨holds,r,observed,request⟩
    · exact (holder_cons _ _ (by simp) (by simp)).trans holds

theorem reconnect_within (observed : Nat) (expected : Sha256Digest) :
    (reconnect source observed expected).run.Within {op | Restarting source op} := by
  have quiet : ∀ op, Quiet op → (ask op).run.Within {op | Restarting source op} :=
    fun op quiet => Fallible.within_perform (.inl quiet)
  unfold reconnect
  refine Fallible.within_bind (quiet _ (by simp [Quiet])) fun generation => ?_
  split
  · trivial
  refine Fallible.within_bind (quiet _ (by simp [Quiet])) fun counted => ?_
  split
  · refine Fallible.within_bind (quiet _ (by simp [Quiet])) fun connected => ?_
    refine Fallible.within_bind trivial fun service => ?_
    refine Fallible.within_bind (quiet _ (by simp [Quiet])) fun discovered => ?_
    refine Fallible.within_bind trivial fun digest => ?_
    split
    · exact Fallible.within_bind (quiet _ (by simp [Quiet])) fun _ => trivial
    refine Fallible.within_bind (Fallible.within_perform (.inr ⟨service,rfl⟩)) fun old => ?_
    refine Fallible.within_bind (quiet _ (by simp [Quiet])) fun _ => ?_
    split
    · exact Fallible.within_bind (quiet _ (by simp [Quiet])) fun _ => trivial
    · trivial
  · trivial

theorem withRestartLock_run (body : Upstream Unit) : (withRestartLock source body).run =
    .call (.lockRestart source) fun _ => body.run.bind fun result =>
      .call (.unlockRestart source) fun _ => .pure result := by
  have lifted : ∀ p : Prog UpstreamOp UpstreamOp.Ret (Except UpstreamError Unit),
      (do
        let result ← ExceptT.lift p
        ask (.unlockRestart source)
        Fallible.ofExcept result : Upstream Unit).run =
      p.bind fun result => .call (.unlockRestart source) fun _ => .pure result := by
    intro p
    induction p with
    | pure result => rfl
    | call op next ih => exact congrArg (Prog.call op) (funext fun reply => ih reply)
  exact congrArg (Prog.call _) (funext fun _ => lifted body.run)

/-- What the body does, it does while the thread holds the lock. -/
theorem locked_triple {request : UpstreamRequest} {body : Upstream Unit}
    {post : UpstreamWorld → Prop} (permanent : Permanent post)
    (triple : Triple runtime.system Inv i (Holding request source i) body.run
      fun _ w => Holding request source i w ∧ post w) :
    Triple runtime.system Inv i (fun w => w.requests[i]? = some request)
      (withRestartLock source body).run
      fun _ w => w.requests[i]? = some request ∧ post w := by
  have served : Permanent fun w : UpstreamWorld => w.requests[i]? = some request :=
    Permanent.request request
  have locks : Moves runtime.system Inv i (fun w => w.requests[i]? = some request)
      (.lockRestart source) fun _ => Holding request source i := by
    rintro w reply s inv found ⟨-,rfl⟩
    exact ⟨inv.after nofun nofun,found,by simp [holder]⟩
  have unlocks : Moves runtime.system Inv i (fun w => Holding request source i w ∧ post w)
      (.unlockRestart source) fun _ w => w.requests[i]? = some request ∧ post w := by
    rintro w reply s inv ⟨held,after⟩ ⟨-,rfl⟩
    exact ⟨inv.after nofun nofun,held.1,permanent.after w _ _ _ _ after⟩
  rw [withRestartLock_run]
  refine Triple.call served.stable locks fun _ => triple.bind fun result => ?_
  refine Triple.call ((holding_stable request).and permanent.stable) unlocks fun _ => ?_
  exact Triple.pure (served.and permanent).stable fun _ _ known => known

theorem closeSource_triple : Triple runtime.system Inv i (Holding .shutdown source i)
    (closeSource source).run
    fun _ w => Holding .shutdown source i w ∧ drained source w.trace := by
  have close : ∀ service, Quiet (.closeWithTimeout service) := fun _ => by simp [Quiet]
  have takes : Moves runtime.system Inv i (Holding .shutdown source i) (.takeService source)
      fun _ w => Holding .shutdown source i w ∧ drained source w.trace := by
    rintro w reply s inv ⟨request,holds⟩ ⟨-,rfl⟩
    refine ⟨inv.after ?_ nofun,⟨request,?_⟩,⟨_,List.mem_cons_self,rfl⟩⟩
    · intro name same
      cases same
      exact ⟨holds,request⟩
    · exact (holder_cons _ _ (by simp) (by simp)).trans holds
  unfold closeSource
  rw [Fallible.run_bind]
  refine Triple.call (holding_stable .shutdown) takes fun taken => ?_
  refine Triple.keep (Permanent.past _) (Triple.frame ?_ (holding_stable .shutdown)
    fun op quiet => quiet_moves .shutdown op quiet)
  rcases taken with _ | service
  · trivial
  · refine Fallible.within_bind (Fallible.within_perform (close service)) fun closed => ?_
    refine Fallible.within_bind trivial fun done => ?_
    cases done <;> trivial

/-- A loop that ends without an error has taken the service of every source. -/
theorem closeSources_triple (sources : List String) : Triple runtime.system Inv i
    (fun w => w.requests[i]? = some .shutdown) (closeSources sources).run
    fun result w => result = .ok () → ∀ source ∈ sources, drained source w.trace := by
  induction sources with
  | nil => exact Triple.pure (Permanent.request _).stable fun _ _ _ _ => nofun
  | cons source rest ih =>
    rw [closeSources,Fallible.run_bind]
    refine (locked_triple (Permanent.past _) closeSource_triple).bind fun result => ?_
    rcases result with error | ⟨⟩
    · exact Triple.pure ((Permanent.request _).and (Permanent.past _)).stable fun _ _ _ => nofun
    · refine (Triple.keep (Permanent.past _) ih).weaken fun result w _ known ended => ?_
      exact List.forall_mem_cons.mpr ⟨known.2,known.1 ended⟩

theorem restartAfterFailure_triple (r : String) (observed : Nat) : Triple runtime.system Inv i
    (fun w => w.requests[i]? = some (.restartAfterFailure r observed))
    (runtime.restartAfterFailure r observed).run fun _ _ => True := by
  have served : Permanent fun w : UpstreamWorld =>
      w.requests[i]? = some (.restartAfterFailure r observed) := Permanent.request _
  have loads : Moves runtime.system Inv i
      (fun w => w.requests[i]? = some (.restartAfterFailure r observed)) .loadShuttingDown
      fun _ w => w.requests[i]? = some (.restartAfterFailure r observed) := by
    rintro w reply s inv found ⟨-,rfl⟩
    exact ⟨quiet_kept inv (by simp [Quiet]),found⟩
  unfold restartAfterFailure
  rw [Fallible.run_bind]
  refine Triple.call served.stable loads fun shuttingDown => ?_
  rcases shuttingDown with _ | _
  · dsimp only
    split
    · exact Triple.pure served.stable fun _ _ _ => trivial
    · next expected _ =>
      have body : Triple runtime.system Inv i (Holding (.restartAfterFailure r observed) r i)
          (reconnect r observed expected).run
          fun _ w => Holding (.restartAfterFailure r observed) r i w ∧ True :=
        (Triple.frame (reconnect_within observed expected) (holding_stable _)
          (restarting_moves r observed)).weaken fun _ _ _ held => ⟨held,trivial⟩
      refine (locked_triple ?_ body).weaken fun _ _ _ _ => trivial
      exact ⟨fun _ _ _ _ _ _ => trivial,fun _ _ _ => trivial,fun _ _ _ => trivial⟩
  · exact Triple.pure served.stable fun _ _ _ => trivial

/-- What a shutdown that returned has done. -/
def ended (runtime : UpstreamRuntime) (request : UpstreamRequest)
    (result : Except UpstreamError Unit) (w : UpstreamWorld) : Prop :=
  request = .shutdown → result = .ok () →
    ∀ source ∈ runtime.sources.map (·.1), drained source w.trace

theorem shutdown_triple : Triple runtime.system Inv i
    (fun w => w.requests[i]? = some .shutdown) runtime.shutdown.run
    (runtime.ended .shutdown) := by
  have stores : Moves runtime.system Inv i (fun w => w.requests[i]? = some .shutdown)
      .storeShuttingDown fun _ w => w.requests[i]? = some .shutdown := by
    rintro w reply s inv found ⟨-,rfl⟩
    exact ⟨quiet_kept inv (by simp [Quiet]),found⟩
  unfold shutdown
  rw [Fallible.run_bind]
  refine Triple.call (Permanent.request _).stable stores fun _ => ?_
  exact (closeSources_triple (runtime.sources.map (·.1))).weaken fun _ _ _ done _ => done

theorem certified : Certified runtime.system Inv fun request _ => runtime.ended request where
  initial s start := ⟨start.2,trivial,fun _ _ ⟨_,member,_⟩ => by cases member⟩
  drift _ _ _ moved := moved.elim
  start w request inv := ⟨inv.locks,inv.disciplined.start request,inv.taken⟩
  body request i := by
    have served : Triple runtime.system Inv i (fun w => w.requests[i]? = some request)
        (runtime.system.body request) (runtime.ended request) := by
      cases request with
      | restartAfterFailure r observed =>
        exact (restartAfterFailure_triple r observed).weaken fun _ _ _ _ => nofun
      | shutdown => exact shutdown_triple
    exact served.strengthen fun w _ known => known.1

/-- Once shutdown has returned, no source holds a service, in every run in which no
restart replaced one after getting its lock later than shutdown did. -/
theorem shutdown_leaves_no_service
    {c : Config UpstreamState UpstreamOp UpstreamOp.Ret UpstreamRequest (Except UpstreamError Unit)}
    (reachable : Reachable runtime.system c) (prompt : Prompt c.world.trace)
    (request : c.world.requests[i]? = some .shutdown)
    (returned : c.threads[i]? = some (some (.pure (.ok ())))) :
    ∀ source ∈ runtime.sources.map (·.1), (c.world.state.source source).service = none := by
  intro source member
  have taken := certified.result reachable request returned rfl rfl source member
  exact (certified.invariant reachable).taken source prompt taken

section Example

/-- Connections that always work, to one source. -/
def exampleUpstreams : UpstreamRuntime := ⟨[("worker",.default)]⟩

def reply (s : UpstreamState) (i : Nat) : (op : UpstreamOp) → Option op.Ret
  | .lockRestart source => if (s.source source).restartLock = none then some () else none
  | .unlockRestart source => if (s.source source).restartLock = some i then some () else none
  | .loadShuttingDown => some s.shuttingDown
  | .readGeneration source => some (s.source source).generation
  | .countRestart source => some (decide ((s.source source).restarts < 2))
  | .replaceService source _ => some (s.source source).service
  | .takeService source => some (s.source source).service
  | .connectSource _ => some (.ok ⟨1⟩)
  | .snapshot _ => some (.ok .default)
  | .closeWithTimeout _ => some (.ok true)
  | .storeShuttingDown => some ()
  | .cancel _ => some ()
  | .writePeer .. => some ()

def working : Oracle exampleUpstreams.system where
  choose i op s := (reply s i op).map fun answer => (answer,s.next i op)
  permitted i op s answer s' chosen := by
    obtain ⟨given,answered,same⟩ := Option.map_eq_some_iff.mp chosen
    cases same
    refine ⟨?_,rfl⟩
    cases op <;> simp_all [reply,UpstreamState.answers]

def connected : Config UpstreamState UpstreamOp UpstreamOp.Ret UpstreamRequest
    (Except UpstreamError Unit) :=
  ⟨⟨⟨false,fun _ => ⟨none,some ⟨0⟩,0,0⟩⟩,[],[]⟩,[]⟩

theorem connected_reachable : Reachable exampleUpstreams.system connected :=
  .initial ⟨rfl,fun _ => rfl⟩

/-- A service is replaced, and shutdown takes the new one. -/
theorem shutdown_leaves_no_service_example : ∃ c, Reachable exampleUpstreams.system c ∧
    c.world.requests = [.restartAfterFailure "worker" 0,.shutdown] ∧
      c.threads = [some (.pure (.ok ())),some (.pure (.ok ()))] ∧
      .replaceService "worker" ⟨1⟩ ∈ c.world.trace.map (·.op) ∧
      ∀ source ∈ ["worker"], (c.world.state.source source).service = none := by
  obtain ⟨c,played,requests,threads,ops⟩ : ∃ c, working.play connected
      [.start (.restartAfterFailure "worker" 0),.run 0,.run 0,.run 0,.run 0,.run 0,.run 0,.run 0,.run 0,
        .run 0,.run 0,.start .shutdown,.run 1,.run 1,.run 1,.run 1,.run 1] = some c ∧
      c.world.requests = [.restartAfterFailure "worker" 0,.shutdown] ∧
      c.threads = [some (.pure (.ok ())),some (.pure (.ok ()))] ∧
      c.world.trace.map (·.op) = [.unlockRestart "worker",.closeWithTimeout ⟨1⟩,
        .takeService "worker",.lockRestart "worker",.storeShuttingDown,.unlockRestart "worker",
        .closeWithTimeout ⟨0⟩,.writePeer "worker" 1,.replaceService "worker" ⟨1⟩,.snapshot ⟨1⟩,
        .connectSource "worker",.countRestart "worker",.readGeneration "worker",
        .lockRestart "worker",.loadShuttingDown] := ⟨_,rfl,rfl,rfl,rfl⟩
  have reachable := working.play_reachable connected_reachable played
  have prompt : Prompt c.world.trace := prompt_of (by rw [ops]; simp)
  exact ⟨c,reachable,requests,threads,by rw [ops]; simp,shutdown_leaves_no_service (i := 1) reachable
    prompt (by rw [requests]; rfl) (by rw [threads]; rfl)⟩

/-- A restart that saw the flag unset gets the lock after shutdown has let it go. -/
theorem restart_after_shutdown : ∃ c, Reachable exampleUpstreams.system c ∧
    c.world.requests = [.restartAfterFailure "worker" 0,.shutdown] ∧
      c.threads = [some (.pure (.ok ())),some (.pure (.ok ()))] ∧
        (c.world.state.source "worker").service = some ⟨1⟩ := by
  obtain ⟨c,played,requests,threads,service⟩ : ∃ c, working.play connected
      [.start (.restartAfterFailure "worker" 0),.start .shutdown,.run 0,
        .run 1,.run 1,.run 1,.run 1,.run 1,
        .run 0,.run 0,.run 0,.run 0,.run 0,.run 0,.run 0,.run 0] = some c ∧
      c.world.requests = [.restartAfterFailure "worker" 0,.shutdown] ∧
      c.threads = [some (.pure (.ok ())),some (.pure (.ok ()))] ∧
      (c.world.state.source "worker").service = some ⟨1⟩ := ⟨_,rfl,rfl,rfl,rfl⟩
  exact ⟨c,working.play_reachable connected_reachable played,requests,threads,service⟩

end Example
end UpstreamRuntime
end GaugeMesh
