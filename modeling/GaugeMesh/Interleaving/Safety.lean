import GaugeMesh.Interleaving.System

/-! Safety of one thread against every other thread. A thread is certified by
following its own program: before each of its operations the other threads may
have run, and after it the invariant holds again. `Certified.sound` turns the
certificates of all requests into an invariant of every reachable configuration. -/
namespace Interleaving

variable {σ Op Req Res : Type} {Ret : Op → Type}

/-- Thread `i` may go on with the program from `w`: each of its own operations keeps
the invariant, and its result satisfies `post` however late it is looked at. -/
def Safe (S : System σ Op Ret Req Res) (Inv : World σ Op Ret Req → Prop) (i : Nat)
    (post : α → World σ Op Ret Req → Prop) : Prog Op Ret α → World σ Op Ret Req → Prop
  | .pure value, w => ∀ w', Inv w' → Later S Inv i w w' → post value w'
  | .call op next, w => ∀ w' reply s, Inv w' → Later S Inv i w w' →
      S.act i op w'.state reply s → Inv (w'.after i op reply s) ∧
        Safe S Inv i post (next reply) (w'.after i op reply s)

section Rules

variable {S : System σ Op Ret Req Res} {Inv : World σ Op Ret Req → Prop} {i : Nat}
  {w w' : World σ Op Ret Req}

theorem Safe.later {post : α → World σ Op Ret Req → Prop} {p : Prog Op Ret α}
    (safe : Safe S Inv i post p w) (later : Later S Inv i w w') : Safe S Inv i post p w' := by
  cases p with
  | pure value => exact fun u valid rest => safe u valid (later.trans rest)
  | call op next => exact fun u reply s valid rest => safe u reply s valid (later.trans rest)

theorem Safe.weaken {post wider : α → World σ Op Ret Req → Prop} {p : Prog Op Ret α}
    (safe : Safe S Inv i post p w) (implies : ∀ value u, Inv u → post value u → wider value u) :
    Safe S Inv i wider p w := by
  induction p generalizing w with
  | pure value => exact fun u valid later => implies value u valid (safe u valid later)
  | call op next ih =>
    intro u reply s valid later acted
    obtain ⟨kept,rest⟩ := safe u reply s valid later acted
    exact ⟨kept,ih reply rest⟩

theorem Safe.bind {middle : α → World σ Op Ret Req → Prop} {post : β → World σ Op Ret Req → Prop}
    {p : Prog Op Ret α} {f : α → Prog Op Ret β} (valid : Inv w)
    (head : Safe S Inv i middle p w)
    (tail : ∀ value u, Inv u → middle value u → Safe S Inv i post (f value) u) :
    Safe S Inv i post (p.bind f) w := by
  induction p generalizing w with
  | pure value => exact tail value w valid (head w valid .refl)
  | call op next ih =>
    intro u reply s uvalid later acted
    obtain ⟨kept,rest⟩ := head u reply s uvalid later acted
    exact ⟨kept,ih reply kept rest⟩

theorem Safe.keep {fact : World σ Op Ret Req → Prop} (permanent : Permanent fact)
    {post : α → World σ Op Ret Req → Prop} {p : Prog Op Ret α} (safe : Safe S Inv i post p w)
    (holds : fact w) : Safe S Inv i (fun value u => post value u ∧ fact u) p w := by
  induction p generalizing w with
  | pure value =>
    exact fun u valid later => ⟨safe u valid later,permanent.stable.later later holds⟩
  | call op next ih =>
    intro u reply s valid later acted
    obtain ⟨kept,rest⟩ := safe u reply s valid later acted
    exact ⟨kept,ih reply rest (permanent.after _ _ _ _ _ (permanent.stable.later later holds))⟩

end Rules

/-- `pre` is what thread `i` knows before running `p`, `post` what it knows after. -/
def Triple (S : System σ Op Ret Req Res) (Inv : World σ Op Ret Req → Prop) (i : Nat)
    (pre : World σ Op Ret Req → Prop) (p : Prog Op Ret α)
    (post : α → World σ Op Ret Req → Prop) : Prop :=
  ∀ w, Inv w → pre w → Safe S Inv i post p w

/-- An operation of thread `i` takes every world with `pre` to one with `post`. -/
def Moves (S : System σ Op Ret Req Res) (Inv : World σ Op Ret Req → Prop) (i : Nat)
    (pre : World σ Op Ret Req → Prop) (op : Op)
    (post : Ret op → World σ Op Ret Req → Prop) : Prop :=
  ∀ w reply s, Inv w → pre w → S.act i op w.state reply s →
    Inv (w.after i op reply s) ∧ post reply (w.after i op reply s)

namespace Triple

variable {S : System σ Op Ret Req Res} {Inv : World σ Op Ret Req → Prop} {i : Nat}
  {pre : World σ Op Ret Req → Prop}

theorem pure {post : α → World σ Op Ret Req → Prop} (stable : Stable S Inv i pre)
    (result : ∀ w, Inv w → pre w → post value w) : Triple S Inv i pre (.pure value) post :=
  fun _ _ holds w' valid later => result w' valid (stable.later later holds)

theorem call {middle : Ret op → World σ Op Ret Req → Prop} {post : α → World σ Op Ret Req → Prop}
    {next : Ret op → Prog Op Ret α} (stable : Stable S Inv i pre)
    (moves : Moves S Inv i pre op middle)
    (rest : ∀ reply, Triple S Inv i (middle reply) (next reply) post) :
    Triple S Inv i pre (.call op next) post := by
  intro w _ holds u reply s valid later acted
  obtain ⟨kept,known⟩ := moves u reply s valid (stable.later later holds) acted
  exact ⟨kept,rest reply _ kept known⟩

theorem bind {middle : α → World σ Op Ret Req → Prop} {post : β → World σ Op Ret Req → Prop}
    {p : Prog Op Ret α} {f : α → Prog Op Ret β} (head : Triple S Inv i pre p middle)
    (tail : ∀ value, Triple S Inv i (middle value) (f value) post) :
    Triple S Inv i pre (p.bind f) post :=
  fun w valid holds => (head w valid holds).bind valid fun value u => tail value u

theorem weaken {post wider : α → World σ Op Ret Req → Prop} {p : Prog Op Ret α}
    (triple : Triple S Inv i pre p post)
    (implies : ∀ value w, Inv w → post value w → wider value w) :
    Triple S Inv i pre p wider :=
  fun w valid holds => (triple w valid holds).weaken implies

theorem strengthen {stronger : World σ Op Ret Req → Prop}
    {post : α → World σ Op Ret Req → Prop} {p : Prog Op Ret α}
    (triple : Triple S Inv i pre p post) (implies : ∀ w, Inv w → stronger w → pre w) :
    Triple S Inv i stronger p post :=
  fun w valid holds => triple w valid (implies w valid holds)

theorem assuming {fact : Prop} {post : α → World σ Op Ret Req → Prop} {p : Prog Op Ret α}
    (triple : fact → Triple S Inv i pre p post) :
    Triple S Inv i (fun w => fact ∧ pre w) p post :=
  fun w valid holds => triple holds.1 w valid holds.2

/-- What cannot be undone is still true afterwards. -/
theorem keep {fact : World σ Op Ret Req → Prop} {post : α → World σ Op Ret Req → Prop}
    {p : Prog Op Ret α} (permanent : Permanent fact) (triple : Triple S Inv i pre p post) :
    Triple S Inv i (fun w => pre w ∧ fact w) p fun value w => post value w ∧ fact w :=
  fun w valid holds => (triple w valid holds.1).keep permanent holds.2

/-- A program that stays within harmless operations keeps what its thread knows. -/
theorem frame {alphabet : Set Op} {p : Prog Op Ret α} (within : p.Within alphabet)
    (stable : Stable S Inv i pre)
    (harmless : ∀ op ∈ alphabet, Moves S Inv i pre op fun _ => pre) :
    Triple S Inv i pre p fun _ => pre := by
  induction p with
  | pure value => exact pure stable fun _ _ holds => holds
  | call op next ih =>
    exact call stable (harmless op within.1) fun reply => ih reply (within.2 reply)

end Triple

/-- What has to be shown of a system for `Inv` to hold of all its runs. -/
structure Certified (S : System σ Op Ret Req Res) (Inv : World σ Op Ret Req → Prop)
    (post : Req → Nat → Res → World σ Op Ret Req → Prop) : Prop where
  initial : ∀ s, S.initial s → Inv ⟨s,[],[]⟩
  drift : ∀ w s, Inv w → S.drift w.state s → Inv (w.drifted s)
  start : ∀ w request, Inv w → Inv (w.started request)
  body : ∀ request i, Triple S Inv i
    (fun w => w.requests[i]? = some request ∧ ∀ event ∈ w.trace, event.thread ≠ i)
    (S.body request) (post request i)

/-- Every running thread is still safe; the trace names only threads that exist. -/
structure Sound (S : System σ Op Ret Req Res) (Inv : World σ Op Ret Req → Prop)
    (post : Req → Nat → Res → World σ Op Ret Req → Prop) (c : Config σ Op Ret Req Res) : Prop where
  valid : Inv c.world
  length : c.threads.length = c.world.requests.length
  threads : ∀ event ∈ c.world.trace, event.thread < c.threads.length
  running : ∀ i request p, c.world.requests[i]? = some request → c.threads[i]? = some (some p) →
    Safe S Inv i (post request i) p c.world

variable {S : System σ Op Ret Req Res} {Inv : World σ Op Ret Req → Prop}
  {post : Req → Nat → Res → World σ Op Ret Req → Prop}

theorem Sound.start (certified : Certified S Inv post) (sound : Sound S Inv post c)
    (request : Req) :
    Sound S Inv post ⟨c.world.started request, c.threads ++ [some (S.body request)]⟩ := by
  have kept := certified.start c.world request sound.valid
  refine ⟨kept,by simp [sound.length],?_,?_⟩
  · intro event member
    have := sound.threads event member
    simp only [List.length_append,List.length_cons,List.length_nil]
    omega
  · intro i served p fetch active
    rw [World.started_requests] at fetch
    rcases Nat.lt_or_ge i c.threads.length with old | fresh
    · rw [List.getElem?_append_left (sound.length ▸ old)] at fetch
      rw [List.getElem?_append_left old] at active
      exact (sound.running i served p fetch active).later
        (.single (.start sound.valid kept))
    · rw [List.getElem?_append_right fresh] at active
      rw [List.getElem?_append_right (sound.length ▸ fresh)] at fetch
      have last : i = c.threads.length := by
        have := (List.getElem?_eq_some_iff.mp active).1
        simp only [List.length_cons,List.length_nil] at this
        omega
      subst last
      rw [← sound.length] at fetch
      simp only [Nat.sub_self,List.getElem?_cons_zero,Option.some.injEq] at fetch active
      subst fetch; subst active
      refine certified.body request c.threads.length _ kept ⟨?_,?_⟩
      · rw [World.started_requests, sound.length]; simp
      · intro event member same
        exact absurd (sound.threads event member) (by omega)

theorem Sound.run (sound : Sound S Inv post c)
    (active : c.threads[i]? = some (some (.call op next)))
    (acted : S.act i op c.world.state reply s) :
    Sound S Inv post ⟨c.world.after i op reply s, c.threads.set i (some (next reply))⟩ := by
  have bound := (List.getElem?_eq_some_iff.mp active).1
  obtain ⟨request,fetch⟩ : ∃ request, c.world.requests[i]? = some request :=
    ⟨_,List.getElem?_eq_getElem (sound.length ▸ bound)⟩
  obtain ⟨kept,rest⟩ :=
    sound.running i request _ fetch active c.world reply s sound.valid .refl acted
  refine ⟨kept,by simp [sound.length],?_,?_⟩
  · intro event member
    rw [List.length_set]
    rcases List.mem_cons.mp member with rfl | old
    · exact bound
    · exact sound.threads event old
  · intro j served p fetched running
    by_cases same : j = i
    · subst same
      rw [World.after_requests,fetch] at fetched
      rw [List.getElem?_set_self bound] at running
      cases fetched; cases running
      exact rest
    · rw [List.getElem?_set_ne (Ne.symm same)] at running
      exact (sound.running j served p fetched running).later
        (.single (.act (Ne.symm same) acted sound.valid kept))

theorem Sound.step (certified : Certified S Inv post) (sound : Sound S Inv post c)
    (stepped : Step S c d) : Sound S Inv post d := by
  cases stepped with
  | start request => exact sound.start certified request
  | run active acted => exact sound.run active acted
  | crash i =>
    refine ⟨sound.valid,by simp [sound.length],by simpa using sound.threads,?_⟩
    intro j served p fetched running
    rw [List.getElem?_set] at running
    split at running
    · split at running <;> simp at running
    · exact sound.running j served p fetched running
  | drift moved =>
    have kept := certified.drift c.world _ sound.valid moved
    exact ⟨kept,sound.length,sound.threads,fun j served p fetched running =>
      (sound.running j served p fetched running).later (.single (.drift moved sound.valid kept))⟩

theorem Certified.sound (certified : Certified S Inv post) (reachable : Reachable S c) :
    Sound S Inv post c := by
  induction reachable with
  | initial start =>
    exact ⟨certified.initial _ start,rfl,by simp,by simp⟩
  | step _ stepped ih => exact ih.step certified stepped

theorem Certified.invariant (certified : Certified S Inv post) (reachable : Reachable S c) :
    Inv c.world := (certified.sound reachable).valid

/-- A thread that has finished left what its body promised, and it still holds. -/
theorem Certified.result (certified : Certified S Inv post) (reachable : Reachable S c)
    (fetch : c.world.requests[i]? = some request)
    (finished : c.threads[i]? = some (some (.pure value))) : post request i value c.world :=
  (certified.sound reachable).running i request _ fetch finished c.world
    (certified.sound reachable).valid .refl

end Interleaving
