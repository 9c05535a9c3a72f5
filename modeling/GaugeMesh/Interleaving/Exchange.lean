import GaugeMesh.Interleaving.Program
import Mathlib.Data.List.Basic

/-! Programs against one peer that answers as it likes. The peer sees every exchange so far, so
it may be as hostile as any; what holds of all sequences of answers holds of all peers. -/
namespace Interleaving

variable {Op : Type} {Ret : Op → Type}

structure Exchange (Op : Type) (Ret : Op → Type) where
  op : Op
  reply : Ret op

namespace Prog

/-- The program comes to a value with just these exchanges. -/
inductive Answered : Prog Op Ret α → List (Exchange Op Ret) → α → Prop where
  | pure {value : α} : Answered (.pure value) [] value
  | call {op : Op} {next : Ret op → Prog Op Ret α} {reply : Ret op} {log : List (Exchange Op Ret)}
      {value : α} (rest : Answered (next reply) log value) :
      Answered (.call op next) (⟨op,reply⟩ :: log) value

@[simp] theorem answered_pure {value result : α} {log : List (Exchange Op Ret)} :
    (Prog.pure value).Answered log result ↔ log = [] ∧ result = value := by
  constructor
  · intro answered
    cases answered
    exact ⟨rfl,rfl⟩
  · rintro ⟨rfl,rfl⟩
    exact .pure

theorem answered_call {op : Op} {next : Ret op → Prog Op Ret α} {log : List (Exchange Op Ret)}
    {value : α} : (Prog.call op next).Answered log value ↔
      ∃ reply rest, log = ⟨op,reply⟩ :: rest ∧ (next reply).Answered rest value := by
  constructor
  · intro answered
    cases answered with
    | call rest => exact ⟨_,_,rfl,rest⟩
  · rintro ⟨reply,rest,rfl,answered⟩
    exact .call answered

theorem answered_bind {p : Prog Op Ret α} {f : α → Prog Op Ret β} {log : List (Exchange Op Ret)}
    {value : β} : (p.bind f).Answered log value ↔
      ∃ a first rest, log = first ++ rest ∧ p.Answered first a ∧ (f a).Answered rest value := by
  induction p generalizing log with
  | pure a =>
    constructor
    · exact fun answered => ⟨a,[],log,rfl,.pure,answered⟩
    · rintro ⟨_,_,rest,rfl,done,answered⟩
      obtain ⟨rfl,rfl⟩ := answered_pure.mp done
      exact answered
  | call op next ih =>
    rw [call_bind,answered_call]
    constructor
    · rintro ⟨reply,more,rfl,answered⟩
      obtain ⟨a,first,rest,rfl,done,later⟩ := (ih reply).mp answered
      exact ⟨a,⟨op,reply⟩ :: first,rest,rfl,.call done,later⟩
    · rintro ⟨a,first,rest,rfl,done,later⟩
      obtain ⟨reply,more,rfl,head⟩ := answered_call.mp done
      exact ⟨reply,more ++ rest,rfl,(ih reply).mpr ⟨a,more,rest,rfl,head,later⟩⟩

/-- All exchanges with a peer, and the value. -/
def drive (peer : List (Exchange Op Ret) → (op : Op) → Ret op) :
    Prog Op Ret α → List (Exchange Op Ret) → List (Exchange Op Ret) × α
  | .pure value, log => (log,value)
  | .call op next, log => (next (peer log op)).drive peer (log ++ [⟨op,peer log op⟩])

theorem drive_answered (peer : List (Exchange Op Ret) → (op : Op) → Ret op) (p : Prog Op Ret α)
    (log : List (Exchange Op Ret)) :
    ∃ more, (p.drive peer log).1 = log ++ more ∧ p.Answered more (p.drive peer log).2 := by
  induction p generalizing log with
  | pure value => exact ⟨[],by simp [drive],.pure⟩
  | call op next ih =>
    obtain ⟨more,logged,answered⟩ := ih (peer log op) (log ++ [⟨op,peer log op⟩])
    exact ⟨⟨op,peer log op⟩ :: more,by rw [drive,logged,List.append_assoc]; rfl,.call answered⟩

end Prog

/-- A program that may fail and keeps its state when it does. -/
abbrev Stateful (σ Op : Type) (Ret : Op → Type) (ε : Type) := ExceptT ε (StateT σ (Prog Op Ret))

namespace Stateful

variable {σ ε : Type}

/-- The program comes to an outcome and a state with just these exchanges. -/
def Answered (p : Stateful σ Op Ret ε α) (s : σ) (log : List (Exchange Op Ret))
    (outcome : Except ε α) (after : σ) : Prop :=
  Prog.Answered (p.run.run s) log (outcome,after)

/-- All exchanges with a peer, the outcome and the state. -/
def drive (peer : List (Exchange Op Ret) → (op : Op) → Ret op) (p : Stateful σ Op Ret ε α) (s : σ) :
    List (Exchange Op Ret) × Except ε α × σ :=
  (p.run.run s).drive peer []

theorem drive_answered {peer : List (Exchange Op Ret) → (op : Op) → Ret op}
    {p : Stateful σ Op Ret ε α} {s after : σ} {log : List (Exchange Op Ret)} {outcome : Except ε α}
    (driven : p.drive peer s = (log,outcome,after)) : p.Answered s log outcome after := by
  obtain ⟨more,logged,answered⟩ := Prog.drive_answered peer (p.run.run s) []
  rw [drive] at driven
  rw [driven] at logged answered
  cases logged
  exact answered

theorem run_bind (p : Stateful σ Op Ret ε α) (f : α → Stateful σ Op Ret ε β) (s : σ) :
    ((p >>= f).run.run s : Prog Op Ret (Except ε β × σ)) =
      Prog.bind (p.run.run s) fun
        | (.ok a,middle) => (f a).run.run middle
        | (.error error,middle) => .pure (.error error,middle) := by
  change Prog.bind (p.run.run s) (fun pair => (ExceptT.bindCont f pair.1).run pair.2) = _
  refine congrArg (Prog.bind (p.run.run s)) (funext fun pair => ?_)
  obtain ⟨outcome,middle⟩ := pair
  cases outcome <;> rfl

/-- What went before was answered and failed, or both parts were answered. -/
theorem answered_bind {p : Stateful σ Op Ret ε α} {f : α → Stateful σ Op Ret ε β} {s after : σ}
    {log : List (Exchange Op Ret)} {outcome : Except ε β}
    (answered : (p >>= f).Answered s log outcome after) :
    (∃ error, outcome = .error error ∧ p.Answered s log (.error error) after) ∨
    ∃ a middle first rest, log = first ++ rest ∧ p.Answered s first (.ok a) middle ∧
      (f a).Answered middle rest outcome after := by
  rw [Answered,run_bind,Prog.answered_bind] at answered
  obtain ⟨⟨result,middle⟩,first,rest,rfl,done,later⟩ := answered
  rcases result with error | a
  · obtain ⟨rfl,same⟩ := Prog.answered_pure.mp later
    cases same
    exact .inl ⟨error,rfl,by rw [List.append_nil]; exact done⟩
  · exact .inr ⟨a,middle,first,rest,rfl,done,later⟩

@[simp] theorem answered_pure {value : α} {s after : σ} {log : List (Exchange Op Ret)}
    {outcome : Except ε α} : (pure value : Stateful σ Op Ret ε α).Answered s log outcome after ↔
      log = [] ∧ outcome = .ok value ∧ after = s := by
  change (Prog.pure (Except.ok value,s)).Answered log (outcome,after) ↔ _
  rw [Prog.answered_pure,Prod.mk.injEq]

/-- A result that is already known. -/
def ofExcept (result : Except ε α) : Stateful σ Op Ret ε α := ExceptT.mk (pure result)

@[simp] theorem answered_ofExcept {result outcome : Except ε α} {s after : σ}
    {log : List (Exchange Op Ret)} :
    (ofExcept result : Stateful σ Op Ret ε α).Answered s log outcome after ↔
      log = [] ∧ outcome = result ∧ after = s := by
  change (Prog.pure (result,s)).Answered log (outcome,after) ↔ _
  rw [Prog.answered_pure,Prod.mk.injEq]

/-- A step of the state alone; if it fails the state stays. -/
def update (step : σ → Except ε σ) : Stateful σ Op Ret ε Unit := ExceptT.mk fun s =>
  match step s with
  | .ok next => .pure (.ok (),next)
  | .error error => .pure (.error error,s)

theorem answered_update {step : σ → Except ε σ} {s after : σ} {log : List (Exchange Op Ret)}
    {outcome : Except ε Unit} :
    (update step : Stateful σ Op Ret ε Unit).Answered s log outcome after ↔ log = [] ∧
      ((∃ next, step s = .ok next ∧ outcome = .ok () ∧ after = next) ∨
        ∃ error, step s = .error error ∧ outcome = .error error ∧ after = s) := by
  change Prog.Answered (match step s with
    | .ok next => .pure (.ok (),next)
    | .error error => .pure (.error error,s)) log (outcome,after) ↔ _
  rcases stepped : step s with error | next
  · simp
  · simp only [Prog.answered_pure,Prod.mk.injEq,Except.ok.injEq,reduceCtorEq,false_and,exists_false,
      or_false,exists_eq_left']

end Stateful
end Interleaving
