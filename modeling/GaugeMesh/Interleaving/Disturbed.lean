import GaugeMesh.Interleaving.Program
import Mathlib.Logic.Relation

/-! One run of one program from its first operation to its result, with whatever others do
before each of its operations. Unlike a certificate of a thread, a run keeps every state it
met, so what was stored when an operation was answered can still be asked afterwards. -/
namespace Interleaving

/-- One operation of a run: the state others left to it, its reply and what it left. -/
structure Performed (σ Op : Type) (Ret : Op → Type) where
  before : σ
  op : Op
  reply : Ret op
  after : σ

variable {σ Op : Type} {Ret : Op → Type}

inductive Disturbed (act : (op : Op) → σ → Ret op → σ → Prop) (others : σ → σ → Prop) :
    Prog Op Ret α → σ → List (Performed σ Op Ret) → σ → α → Prop
  | pure : Disturbed act others (.pure value) s [] s value
  | call (between : Relation.ReflTransGen others s u) (acted : act op u reply t)
      (rest : Disturbed act others (next reply) t steps last value) :
      Disturbed act others (.call op next) s (⟨u,op,reply,t⟩ :: steps) last value

namespace Disturbed

variable {act : (op : Op) → σ → Ret op → σ → Prop} {others : σ → σ → Prop}
  {s last : σ} {steps : List (Performed σ Op Ret)}

@[simp] theorem pure_iff {value result : α} :
    Disturbed act others (.pure value) s steps last result ↔
      steps = [] ∧ last = s ∧ result = value := by
  constructor
  · intro run
    cases run
    exact ⟨rfl,rfl,rfl⟩
  · rintro ⟨rfl,rfl,rfl⟩
    exact .pure

theorem of_call {op : Op} {next : Ret op → Prog Op Ret α} {value : α}
    (run : Disturbed act others (.call op next) s steps last value) :
    ∃ u reply t rest, Relation.ReflTransGen others s u ∧ act op u reply t ∧
      steps = ⟨u,op,reply,t⟩ :: rest ∧ Disturbed act others (next reply) t rest last value := by
  cases run with
  | call between acted rest => exact ⟨_,_,_,_,between,acted,rfl,rest⟩

/-- A run of two programs in sequence is a run of each. -/
theorem bind {p : Prog Op Ret α} {f : α → Prog Op Ret β} {result : β}
    (run : Disturbed act others (p.bind f) s steps last result) :
    ∃ first middle value rest, steps = first ++ rest ∧
      Disturbed act others p s first middle value ∧
      Disturbed act others (f value) middle rest last result := by
  induction p generalizing s steps with
  | pure value => exact ⟨[],s,value,steps,rfl,.pure,run⟩
  | call op next ih =>
    cases run with
    | call between acted rest =>
      obtain ⟨first,middle,value,tail,rfl,head,later⟩ := ih _ rest
      exact ⟨_ :: first,middle,value,tail,rfl,.call between acted head,later⟩

theorem append {p : Prog Op Ret α} {f : α → Prog Op Ret β} {first rest} {middle : σ} {value : α}
    {result : β} (head : Disturbed act others p s first middle value)
    (tail : Disturbed act others (f value) middle rest last result) :
    Disturbed act others (p.bind f) s (first ++ rest) last result := by
  induction head with
  | pure => exact tail
  | call between acted _ ih => exact .call between acted (ih tail)

/-- Programs that may fail: an error of the first is the result of both. -/
theorem then_run {p : Fallible Op Ret ε α} {f : α → Fallible Op Ret ε β} {result : Except ε β}
    (run : Disturbed act others (p >>= f).run s steps last result) :
    (∃ error, result = .error error ∧ Disturbed act others p.run s steps last (.error error)) ∨
      ∃ first middle value rest, steps = first ++ rest ∧
        Disturbed act others p.run s first middle (.ok value) ∧
        Disturbed act others (f value).run middle rest last result := by
  rw [Fallible.run_bind] at run
  obtain ⟨first,middle,outcome,rest,rfl,head,later⟩ := run.bind
  rcases outcome with error | value
  · obtain ⟨rfl,rfl,rfl⟩ := pure_iff.mp later
    refine .inl ⟨error,rfl,?_⟩
    rw [List.append_nil]
    exact head
  · exact .inr ⟨first,middle,value,rest,rfl,head,later⟩

end Disturbed
end Interleaving
