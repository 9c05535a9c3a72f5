import GaugeMesh.Interleaving.Program
import Mathlib.Logic.Relation

/-! Many callers over one shared state. Each operation is atomic, operations of
different threads interleave in every order, new requests arrive at any time and
a thread may stop for ever between two of its operations. -/
namespace Interleaving

/-- `act i op s reply s'`: thread `i` may perform `op` in `s`, leaving `s'`.
`drift` is what changes without any thread, for example a clock. -/
structure System (σ Op : Type) (Ret : Op → Type) (Req Res : Type) where
  initial : σ → Prop
  act : Nat → (op : Op) → σ → Ret op → σ → Prop
  drift : σ → σ → Prop
  body : Req → Prog Op Ret Res

structure Event (Op : Type) (Ret : Op → Type) where
  thread : Nat
  op : Op
  reply : Ret op

/-- The shared state with its history: thread `i` serves `requests[i]`, and the
trace holds every operation performed so far, the newest first. -/
structure World (σ Op : Type) (Ret : Op → Type) (Req : Type) where
  state : σ
  requests : List Req
  trace : List (Event Op Ret)

variable {σ Op Req Res : Type} {Ret : Op → Type}

namespace World

def after (w : World σ Op Ret Req) (i : Nat) (op : Op) (reply : Ret op) (s : σ) :
    World σ Op Ret Req :=
  ⟨s, w.requests, ⟨i,op,reply⟩ :: w.trace⟩

def drifted (w : World σ Op Ret Req) (s : σ) : World σ Op Ret Req := ⟨s, w.requests, w.trace⟩

def started (w : World σ Op Ret Req) (request : Req) : World σ Op Ret Req :=
  ⟨w.state, w.requests ++ [request], w.trace⟩

variable (w : World σ Op Ret Req)

@[simp] theorem after_state : (w.after i op reply s).state = s := rfl
@[simp] theorem after_requests : (w.after i op reply s).requests = w.requests := rfl
@[simp] theorem after_trace : (w.after i op reply s).trace = ⟨i,op,reply⟩ :: w.trace := rfl
@[simp] theorem drifted_state : (w.drifted s).state = s := rfl
@[simp] theorem drifted_requests : (w.drifted s).requests = w.requests := rfl
@[simp] theorem drifted_trace : (w.drifted s).trace = w.trace := rfl
@[simp] theorem started_state : (w.started request).state = w.state := rfl
@[simp] theorem started_requests : (w.started request).requests = w.requests ++ [request] := rfl
@[simp] theorem started_trace : (w.started request).trace = w.trace := rfl

end World

/-- `threads[i]` is what thread `i` still has to do; `none` when it crashed. -/
structure Config (σ Op : Type) (Ret : Op → Type) (Req Res : Type) where
  world : World σ Op Ret Req
  threads : List (Option (Prog Op Ret Res))

inductive Step (S : System σ Op Ret Req Res) :
    Config σ Op Ret Req Res → Config σ Op Ret Req Res → Prop
  | start (request : Req) :
      Step S c ⟨c.world.started request, c.threads ++ [some (S.body request)]⟩
  | run (active : c.threads[i]? = some (some (.call op next)))
      (acted : S.act i op c.world.state reply s) :
      Step S c ⟨c.world.after i op reply s, c.threads.set i (some (next reply))⟩
  | crash (i : Nat) : Step S c ⟨c.world, c.threads.set i none⟩
  | drift (moved : S.drift c.world.state s) : Step S c ⟨c.world.drifted s, c.threads⟩

inductive Reachable (S : System σ Op Ret Req Res) : Config σ Op Ret Req Res → Prop
  | initial (start : S.initial s) : Reachable S ⟨⟨s,[],[]⟩,[]⟩
  | step (before : Reachable S c) (stepped : Step S c d) : Reachable S d

/-- What has happened stays, whatever happens after it. -/
theorem Reachable.later {S : System σ Op Ret Req Res} {c d : Config σ Op Ret Req Res}
    (reachable : Reachable S c) (steps : Relation.ReflTransGen (Step S) c d) :
    Reachable S d ∧ c.world.trace <:+ d.world.trace := by
  induction steps with
  | refl => exact ⟨reachable,List.suffix_rfl⟩
  | tail _ stepped ih =>
    refine ⟨ih.1.step stepped,ih.2.trans ?_⟩
    cases stepped with
    | run => exact List.suffix_cons _ _
    | start => exact List.suffix_rfl
    | crash => exact List.suffix_rfl
    | drift => exact List.suffix_rfl

/-- One change seen by thread `i` that it did not make itself. -/
inductive Interference (S : System σ Op Ret Req Res) (Inv : World σ Op Ret Req → Prop) (i : Nat) :
    World σ Op Ret Req → World σ Op Ret Req → Prop
  | act (other : j ≠ i) (acted : S.act j op w.state reply s) (before : Inv w)
      (kept : Inv (w.after j op reply s)) : Interference S Inv i w (w.after j op reply s)
  | drift (moved : S.drift w.state s) (before : Inv w) (kept : Inv (w.drifted s)) :
      Interference S Inv i w (w.drifted s)
  | start (before : Inv w) (kept : Inv (w.started request)) :
      Interference S Inv i w (w.started request)

abbrev Later (S : System σ Op Ret Req Res) (Inv : World σ Op Ret Req → Prop) (i : Nat) :=
  Relation.ReflTransGen (Interference S Inv i)

/-- A fact about the world that thread `i` may keep while others run. -/
def Stable (S : System σ Op Ret Req Res) (Inv : World σ Op Ret Req → Prop) (i : Nat)
    (fact : World σ Op Ret Req → Prop) : Prop :=
  ∀ w w', Interference S Inv i w w' → fact w → fact w'

variable {S : System σ Op Ret Req Res} {Inv : World σ Op Ret Req → Prop} {i j : Nat}

theorem Stable.later {fact : World σ Op Ret Req → Prop} (stable : Stable S Inv i fact)
    (later : Later S Inv i w w') (holds : fact w) : fact w' := by
  induction later with
  | refl => exact holds
  | tail _ moved ih => exact stable _ _ moved ih

theorem Stable.and {fact other : World σ Op Ret Req → Prop} (first : Stable S Inv i fact)
    (second : Stable S Inv i other) : Stable S Inv i fun w => fact w ∧ other w :=
  fun w w' moved holds => ⟨first w w' moved holds.1, second w w' moved holds.2⟩

theorem Stable.forall {fact : ι → World σ Op Ret Req → Prop}
    (each : ∀ index, Stable S Inv i (fact index)) :
    Stable S Inv i fun w => ∀ index, fact index w :=
  fun w w' moved holds index => each index w w' moved (holds index)

/-- A fact about the world that nothing can undo. -/
structure Permanent (fact : World σ Op Ret Req → Prop) : Prop where
  after : ∀ w i op reply s, fact w → fact (w.after i op reply s)
  drifted : ∀ w s, fact w → fact (w.drifted s)
  started : ∀ w request, fact w → fact (w.started request)

theorem Permanent.stable {fact : World σ Op Ret Req → Prop} (permanent : Permanent fact) :
    Stable S Inv i fact := by
  intro w w' moved holds
  cases moved with
  | act => exact permanent.after _ _ _ _ _ holds
  | drift => exact permanent.drifted _ _ holds
  | start => exact permanent.started _ _ holds

theorem Permanent.and {fact other : World σ Op Ret Req → Prop} (first : Permanent fact)
    (second : Permanent other) : Permanent fun w => fact w ∧ other w :=
  ⟨fun w i op reply s holds => ⟨first.after w i op reply s holds.1,second.after w i op reply s holds.2⟩,
    fun w s holds => ⟨first.drifted w s holds.1,second.drifted w s holds.2⟩,
    fun w request holds => ⟨first.started w request holds.1,second.started w request holds.2⟩⟩

theorem Permanent.const (proposition : Prop) :
    Permanent fun _ : World σ Op Ret Req => proposition :=
  ⟨fun _ _ _ _ _ holds => holds,fun _ _ holds => holds,fun _ _ holds => holds⟩

theorem Permanent.forall {ι : Sort*} {fact : ι → World σ Op Ret Req → Prop}
    (each : ∀ index, Permanent (fact index)) : Permanent fun w => ∀ index, fact index w :=
  ⟨fun w i op reply s holds index => (each index).after w i op reply s (holds index),
    fun w s holds index => (each index).drifted w s (holds index),
    fun w request holds index => (each index).started w request (holds index)⟩

theorem Permanent.or {fact other : World σ Op Ret Req → Prop} (first : Permanent fact)
    (second : Permanent other) : Permanent fun w => fact w ∨ other w :=
  ⟨fun w i op reply s holds => holds.imp (first.after w i op reply s) (second.after w i op reply s),
    fun w s holds => holds.imp (first.drifted w s) (second.drifted w s),
    fun w request holds => holds.imp (first.started w request) (second.started w request)⟩

theorem Permanent.exists {ι : Sort*} {fact : ι → World σ Op Ret Req → Prop}
    (each : ∀ index, Permanent (fact index)) : Permanent fun w => ∃ index, fact index w :=
  ⟨fun w i op reply s ⟨index,holds⟩ => ⟨index,(each index).after w i op reply s holds⟩,
    fun w s ⟨index,holds⟩ => ⟨index,(each index).drifted w s holds⟩,
    fun w request ⟨index,holds⟩ => ⟨index,(each index).started w request holds⟩⟩

/-- What has happened stays in the trace. -/
theorem Permanent.past (happened : Event Op Ret → Prop) :
    Permanent fun w : World σ Op Ret Req => ∃ event ∈ w.trace, happened event :=
  ⟨fun _ _ _ _ _ ⟨event,member,holds⟩ => ⟨event,List.mem_cons_of_mem _ member,holds⟩,
    fun _ _ holds => holds,fun _ _ holds => holds⟩

/-- The history only grows. -/
theorem Permanent.grown {fact : List (Event Op Ret) → Prop}
    (grows : ∀ event past, fact past → fact (event :: past)) :
    Permanent fun w : World σ Op Ret Req => fact w.trace :=
  ⟨fun _ _ _ _ _ holds => grows _ _ holds,fun _ _ holds => holds,fun _ _ holds => holds⟩

/-- Requests are only added. -/
theorem Permanent.request (request : Req) :
    Permanent fun w : World σ Op Ret Req => w.requests[j]? = some request := by
  refine ⟨fun _ _ _ _ _ holds => holds,fun _ _ holds => holds,fun w other holds => ?_⟩
  have bound := (List.getElem?_eq_some_iff.mp holds).1
  rw [World.started_requests,List.getElem?_append_left bound]
  exact holds

/-- Only thread `i` adds its own events, so what is known of each of them stays known. -/
theorem Stable.owned {fact : Event Op Ret → World σ Op Ret Req → Prop}
    (permanent : ∀ event, Permanent (fact event)) :
    Stable S Inv i fun w => ∀ event ∈ w.trace, event.thread = i → fact event w := by
  intro w w' moved holds
  cases moved with
  | act other =>
    intro event member own
    rcases List.mem_cons.mp member with rfl | old
    · exact absurd own other
    · exact (permanent event).after _ _ _ _ _ (holds event old own)
  | drift => exact fun event member own => (permanent event).drifted _ _ (holds event member own)
  | start => exact fun event member own => (permanent event).started _ _ (holds event member own)

end Interleaving
