import Mathlib.Data.Rat.Floor
import Mathlib.Data.Set.Basic

/-! Sequential programs over an alphabet of atomic operations. A program is the
finite tree of everything it may do next; each node waits for one reply. Nothing
is assumed about where a reply comes from, so the same tree serves a run of one
caller, a run of many callers and a caller that stops half way. -/
namespace Interleaving

inductive Prog (Op : Type) (Ret : Op → Type) (α : Type) where
  | pure (value : α)
  | call (op : Op) (next : Ret op → Prog Op Ret α)

namespace Prog

variable {Op : Type} {Ret : Op → Type}

def bind : Prog Op Ret α → (α → Prog Op Ret β) → Prog Op Ret β
  | .pure value, f => f value
  | .call op next, f => .call op fun reply => (next reply).bind f

instance : Monad (Prog Op Ret) where
  pure := .pure
  bind := .bind

@[simp] theorem pure_eq (value : α) : (Pure.pure value : Prog Op Ret α) = .pure value := rfl
@[simp] theorem bind_eq (p : Prog Op Ret α) (f : α → Prog Op Ret β) : p >>= f = p.bind f := rfl
@[simp] theorem pure_bind (value : α) (f : α → Prog Op Ret β) :
    (Prog.pure value).bind f = f value := rfl
@[simp] theorem call_bind (op : Op) (next : Ret op → Prog Op Ret α) (f : α → Prog Op Ret β) :
    (Prog.call op next).bind f = .call op fun reply => (next reply).bind f := rfl

theorem bind_pure (p : Prog Op Ret α) : p.bind .pure = p := by
  induction p with
  | pure value => rfl
  | call op next ih => exact congrArg (Prog.call op) (funext ih)

theorem bind_assoc (p : Prog Op Ret α) (f : α → Prog Op Ret β) (g : β → Prog Op Ret γ) :
    (p.bind f).bind g = p.bind fun value => (f value).bind g := by
  induction p with
  | pure value => rfl
  | call op next ih => exact congrArg (Prog.call op) (funext ih)

instance : LawfulMonad (Prog Op Ret) :=
  LawfulMonad.mk' _ bind_pure (fun _ _ => rfl) bind_assoc

/-- One operation whose reply is the result. -/
def perform (op : Op) : Prog Op Ret (Ret op) := .call op .pure

@[simp] theorem perform_bind (op : Op) (f : Ret op → Prog Op Ret β) :
    (perform op).bind f = .call op f := rfl

/-- Whatever it is answered, the program performs only operations of `alphabet`. -/
def Within (alphabet : Set Op) : Prog Op Ret α → Prop
  | .pure _ => True
  | .call op next => op ∈ alphabet ∧ ∀ reply, (next reply).Within alphabet

@[simp] theorem within_pure (alphabet : Set Op) (value : α) :
    (Prog.pure value : Prog Op Ret α).Within alphabet := trivial

@[simp] theorem within_call (alphabet : Set Op) (op : Op) (next : Ret op → Prog Op Ret α) :
    (Prog.call op next).Within alphabet ↔
      op ∈ alphabet ∧ ∀ reply, (next reply).Within alphabet := Iff.rfl

theorem Within.bind {alphabet : Set Op} {p : Prog Op Ret α} {f : α → Prog Op Ret β}
    (head : p.Within alphabet) (tail : ∀ value, (f value).Within alphabet) :
    (p.bind f).Within alphabet := by
  induction p with
  | pure value => exact tail value
  | call op next ih => exact ⟨head.1, fun reply => ih reply (head.2 reply)⟩

end Prog

/-- A program that may stop with an error: every later operation is skipped. -/
abbrev Fallible (Op : Type) (Ret : Op → Type) (ε : Type) := ExceptT ε (Prog Op Ret)

namespace Fallible

variable {Op : Type} {Ret : Op → Type}

@[simp] theorem run_pure (value : α) :
    (Pure.pure value : Fallible Op Ret ε α).run = .pure (.ok value) := rfl

@[simp] theorem run_throw (error : ε) :
    (throw error : Fallible Op Ret ε α).run = .pure (.error error) := rfl

@[simp] theorem run_bind (p : Fallible Op Ret ε α) (f : α → Fallible Op Ret ε β) :
    (p >>= f).run = p.run.bind fun
      | .ok value => (f value).run
      | .error error => .pure (.error error) := by
  change Prog.bind p.run (ExceptT.bindCont f) = _
  refine congrArg (Prog.bind p.run) (funext fun outcome => ?_)
  cases outcome <;> rfl

/-- An operation that cannot fail by itself. -/
def perform (op : Op) : Fallible Op Ret ε (Ret op) := ExceptT.lift (Prog.perform op)

@[simp] theorem run_perform (op : Op) :
    (perform op : Fallible Op Ret ε (Ret op)).run = .call op fun reply => .pure (.ok reply) := rfl

/-- A result that is already known, turned into success or failure. -/
def ofExcept (result : Except ε α) : Fallible Op Ret ε α := ExceptT.mk (.pure result)

@[simp] theorem run_ofExcept (result : Except ε α) :
    (ofExcept result : Fallible Op Ret ε α).run = .pure result := rfl

@[simp] theorem ofExcept_ok_bind (value : α) (f : α → Fallible Op Ret ε β) :
    (ofExcept (.ok value) >>= f) = f value := rfl

@[simp] theorem ofExcept_error_bind (error : ε) (f : α → Fallible Op Ret ε β) :
    (ofExcept (.error error) >>= f) = ofExcept (.error error) := rfl

/-- The operations a program may perform, over its steps. -/
theorem within_bind {alphabet : Set Op} {p : Fallible Op Ret ε α} {f : α → Fallible Op Ret ε β}
    (head : p.run.Within alphabet) (tail : ∀ value, (f value).run.Within alphabet) :
    (p >>= f).run.Within alphabet := by
  rw [run_bind]
  refine head.bind fun outcome => ?_
  cases outcome with
  | ok value => exact tail value
  | error error => trivial

theorem within_perform {alphabet : Set Op} {op : Op} (member : op ∈ alphabet) :
    (perform op : Fallible Op Ret ε (Ret op)).run.Within alphabet :=
  ⟨member,fun _ => trivial⟩

end Fallible
end Interleaving
