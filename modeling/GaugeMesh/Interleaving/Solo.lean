import GaugeMesh.Interleaving.System

/-! One thread for a while by itself. What it comes to is found by following its program, one
rule for each way the program is built, and the configuration it leads to is reachable. -/
namespace Interleaving

variable {σ Op Req Res : Type} {Ret : Op → Type}

/-- Thread `i` gets from one point of its program to a later one while nothing else happens. -/
inductive Solo (S : System σ Op Ret Req Res) (i : Nat) :
    Prog Op Ret Res → World σ Op Ret Req → Prog Op Ret Res → World σ Op Ret Req → Prop
  | refl : Solo S i p w p w
  | act (acted : S.act i op w.state reply s)
      (rest : Solo S i (next reply) (w.after i op reply s) q w') : Solo S i (.call op next) w q w'

variable {S : System σ Op Ret Req Res} {i : Nat} {w w' w'' : World σ Op Ret Req}

theorem Solo.trans {p q r : Prog Op Ret Res} (first : Solo S i p w q w')
    (second : Solo S i q w' r w'') : Solo S i p w r w'' := by
  induction first with
  | refl => exact second
  | act acted _ ih => exact .act acted (ih second)

/-- What has happened stays in the trace, and nobody comes in between. -/
theorem Solo.past {p q : Prog Op Ret Res} (solo : Solo S i p w q w') :
    w.trace <:+ w'.trace ∧ w'.requests = w.requests := by
  induction solo with
  | refl => exact ⟨List.suffix_refl _,rfl⟩
  | act _ _ ih => exact ⟨(List.suffix_cons _ _).trans ih.1,ih.2⟩

theorem Solo.reachable {c : Config σ Op Ret Req Res} {p q : Prog Op Ret Res}
    (solo : Solo S i p w q w') (reachable : Reachable S c) (here : c.world = w)
    (active : c.threads[i]? = some (some p)) : Reachable S ⟨w',c.threads.set i (some q)⟩ := by
  induction solo generalizing c with
  | refl =>
    obtain ⟨bound,current⟩ := List.getElem?_eq_some_iff.mp active
    rw [← current,List.set_getElem_self,← here]
    exact reachable
  | act acted _ ih =>
    subst here
    have bound := (List.getElem?_eq_some_iff.mp active).1
    have moved := ih (reachable.step (.run active acted)) rfl (List.getElem?_set_self bound)
    rw [List.set_set] at moved
    exact moved

/-- A request that is served alone from its start. -/
theorem Solo.served {c : Config σ Op Ret Req Res} {request : Req} {q : Prog Op Ret Res}
    (solo : Solo S c.threads.length (S.body request) (c.world.started request) q w')
    (reachable : Reachable S c) : Reachable S ⟨w',c.threads ++ [some q]⟩ := by
  have started := solo.reachable (reachable.step (.start request)) rfl (by simp)
  rw [List.set_append_right _ _ le_rfl,Nat.sub_self] at started
  exact started

/-- Alone, thread `i` gets from a program to what is left of it, whatever it does with the
result. -/
def Goes (S : System σ Op Ret Req Res) (i : Nat) (program : Fallible Op Ret ε α)
    (w : World σ Op Ret Req) (rest : Fallible Op Ret ε α) (w' : World σ Op Ret Req) : Prop :=
  ∀ go : Except ε α → Prog Op Ret Res,
    Solo S i (program.run.bind go) w (rest.run.bind go) w'

namespace Goes

theorem refl (program : Fallible Op Ret ε α) : Goes S i program w program w := fun _ => .refl

theorem trans {program middle rest : Fallible Op Ret ε α} (first : Goes S i program w middle w')
    (second : Goes S i middle w' rest w'') : Goes S i program w rest w'' :=
  fun go => (first go).trans (second go)

theorem perform {op : Op} {reply : Ret op} {s : σ} (acted : S.act i op w.state reply s) :
    Goes S i (Fallible.perform op : Fallible Op Ret ε (Ret op)) w (pure reply)
      (w.after i op reply s) :=
  fun _ => .act acted .refl

theorem ofExcept {result : Except ε α} {value : α} (known : result = .ok value) :
    Goes S i (Fallible.ofExcept result : Fallible Op Ret ε α) w (pure value) w := by
  rw [known]
  exact refl _

/-- What follows goes on with the value. -/
theorem next {program : Fallible Op Ret ε α} {rest : α → Fallible Op Ret ε β} {value : α}
    (first : Goes S i program w (pure value) w') :
    Goes S i (program >>= rest) w (rest value) w' := by
  intro go
  rw [Fallible.run_bind,Prog.bind_assoc]
  exact first _

/-- What follows is skipped after an error. -/
theorem stop {program : Fallible Op Ret ε α} {rest : α → Fallible Op Ret ε β} {error : ε}
    (first : Goes S i program w (throw error) w') :
    Goes S i (program >>= rest) w (throw error) w' := by
  intro go
  rw [Fallible.run_bind,Prog.bind_assoc]
  exact first _

theorem bind {program : Fallible Op Ret ε α} {rest : α → Fallible Op Ret ε β}
    {left : Fallible Op Ret ε β} {value : α} (first : Goes S i program w (pure value) w')
    (second : Goes S i (rest value) w' left w'') : Goes S i (program >>= rest) w left w'' :=
  first.next.trans second

theorem thenBranch {condition : Prop} [Decidable condition] {yes no rest : Fallible Op Ret ε α}
    (holds : condition) (goes : Goes S i yes w rest w') :
    Goes S i (if condition then yes else no) w rest w' := by
  rw [if_pos holds]
  exact goes

theorem elseBranch {condition : Prop} [Decidable condition] {yes no rest : Fallible Op Ret ε α}
    (fails : ¬condition) (goes : Goes S i no w rest w') :
    Goes S i (if condition then yes else no) w rest w' := by
  rw [if_neg fails]
  exact goes

/-- A value that is looked at instead of passed on. -/
theorem lift {program : Fallible Op Ret ε α} {value : α}
    (first : Goes S i program w (pure value) w') :
    Goes S i (ExceptT.lift program.run : Fallible Op Ret ε (Except ε α)) w (pure (.ok value)) w' := by
  intro go
  have run : (ExceptT.lift program.run : Fallible Op Ret ε (Except ε α)).run =
      program.run.bind fun outcome => .pure (.ok outcome) := rfl
  rw [run,Prog.bind_assoc]
  exact first fun outcome => go (.ok outcome)

end Goes
end Interleaving
