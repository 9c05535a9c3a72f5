import GaugeMesh.Interleaving.Solo

/-! What can come of a program where the other threads leave it alone: one of its answers, in a
world that is reached with it. The rules follow the program like those for every answer, but each
operation is given the reply that is wanted. -/
namespace Interleaving

variable {σ Op Req Res : Type} {Ret : Op → Type}

/-- The world is that of a reachable configuration. -/
def Live (S : System σ Op Ret Req Res) (w : World σ Op Ret Req) : Prop :=
  ∃ threads, Reachable S ⟨w,threads⟩

/-- Alone, thread `i` can get through a program to a value for which `post` holds. -/
def Can (S : System σ Op Ret Req Res) (i : Nat) (program : Fallible Op Ret ε α)
    (w : World σ Op Ret Req) (post : α → World σ Op Ret Req → Prop) : Prop :=
  ∀ threads (go : Except ε α → Prog Op Ret Res), Reachable S ⟨w,threads⟩ →
    threads[i]? = some (some (program.run.bind go)) →
      ∃ value w', Reachable S ⟨w',threads.set i (some (go (.ok value)))⟩ ∧
        w'.requests = w.requests ∧ w.trace <:+ w'.trace ∧ post value w'

namespace Can

variable {S : System σ Op Ret Req Res} {i : Nat} {w : World σ Op Ret Req}
  {post : α → World σ Op Ret Req → Prop}

/-- The world from which a program is followed is a reachable one. -/
theorem live {program : Fallible Op Ret ε α} (can : Live S w → Can S i program w post) :
    Can S i program w post :=
  fun threads go reachable active => can ⟨threads,reachable⟩ threads go reachable active

theorem value {v : α} (holds : post v w) :
    Can S i (pure v : Fallible Op Ret ε α) w post := by
  intro threads go reachable active
  obtain ⟨bound,current⟩ := List.getElem?_eq_some_iff.mp active
  refine ⟨v,w,?_,rfl,List.suffix_rfl,holds⟩
  have unchanged : threads.set i (some (go (.ok v))) = threads := by
    rw [← show threads[i] = some (go (.ok v)) from current,List.set_getElem_self]
  rw [unchanged]
  exact reachable

theorem ofExcept {result : Except ε α} {v : α} (known : result = .ok v) (holds : post v w) :
    Can S i (Fallible.ofExcept result : Fallible Op Ret ε α) w post := by
  rw [known]
  exact value holds

theorem perform {op : Op} (reply : Ret op) (s : σ) {post : Ret op → World σ Op Ret Req → Prop}
    (acted : S.act i op w.state reply s) (holds : post reply (w.after i op reply s)) :
    Can S i (Fallible.perform op : Fallible Op Ret ε (Ret op)) w post := by
  intro threads go reachable active
  have calls : threads[i]? = some (some (.call op fun reply => go (.ok reply))) := active
  have stepped := reachable.step (.run calls acted)
  exact ⟨reply,w.after i op reply s,stepped,rfl,List.suffix_cons _ _,holds⟩

theorem bind {program : Fallible Op Ret ε α} {rest : α → Fallible Op Ret ε β}
    {last : β → World σ Op Ret Req → Prop} (first : Can S i program w post)
    (second : ∀ v w', post v w' → Can S i (rest v) w' last) :
    Can S i (program >>= rest) w last := by
  intro threads go reachable active
  rw [Fallible.run_bind,Prog.bind_assoc] at active
  obtain ⟨v,w',there,requests,past,holds⟩ := first threads _ reachable active
  have bound := (List.getElem?_eq_some_iff.mp active).1
  obtain ⟨u,w'',last,requests',past',holds'⟩ :=
    second v w' holds _ go there (List.getElem?_set_self bound)
  rw [List.set_set] at last
  exact ⟨u,w'',last,requests'.trans requests,past.trans past',holds'⟩

theorem mono {program : Fallible Op Ret ε α} {last : α → World σ Op Ret Req → Prop}
    (can : Can S i program w post) (implies : ∀ v w', Live S w' → post v w' → last v w') :
    Can S i program w last := by
  intro threads go reachable active
  obtain ⟨v,w',there,requests,past,holds⟩ := can threads go reachable active
  exact ⟨v,w',there,requests,past,implies v w' ⟨_,there⟩ holds⟩

theorem thenBranch {condition : Prop} [Decidable condition] {yes no : Fallible Op Ret ε α}
    (holds : condition) (can : Can S i yes w post) :
    Can S i (if condition then yes else no) w post := by
  rw [if_pos holds]
  exact can

theorem elseBranch {condition : Prop} [Decidable condition] {yes no : Fallible Op Ret ε α}
    (fails : ¬condition) (can : Can S i no w post) :
    Can S i (if condition then yes else no) w post := by
  rw [if_neg fails]
  exact can

/-- Both branches go on alike. -/
theorem join {condition : Prop} [Decidable condition] {yes no : Fallible Op Ret ε α}
    {rest : α → Fallible Op Ret ε β} {last : β → World σ Op Ret Req → Prop}
    (first : Can S i (if condition then yes else no) w post)
    (second : ∀ v w', post v w' → Can S i (rest v) w' last) :
    Can S i (if condition then yes >>= rest else no >>= rest) w last := by
  by_cases holds : condition
  · rw [if_pos holds] at first ⊢
    exact first.bind second
  · rw [if_neg holds] at first ⊢
    exact first.bind second

/-- A value that is looked at instead of passed on. -/
theorem lift {program : Fallible Op Ret δ α} {post : Except δ α → World σ Op Ret Req → Prop}
    (can : Can S i program w fun v => post (.ok v)) :
    Can S i (ExceptT.lift program.run : Fallible Op Ret ε (Except δ α)) w post := by
  intro threads go reachable active
  have run : (ExceptT.lift program.run : Fallible Op Ret ε (Except δ α)).run =
      program.run.bind fun outcome => .pure (.ok outcome) := rfl
  rw [run,Prog.bind_assoc] at active
  obtain ⟨v,w',there,kept⟩ := can threads _ reachable active
  exact ⟨.ok v,w',there,kept⟩

/-- A request that is served alone from its start can be answered. -/
theorem served {S : System σ Op Ret Req (Except ε α)} {c : Config σ Op Ret Req (Except ε α)}
    {request : Req} {program : Fallible Op Ret ε α} (body : S.body request = program.run)
    (can : Can S c.threads.length program (c.world.started request) post)
    (reachable : Reachable S c) :
    ∃ v w', Reachable S ⟨w',c.threads ++ [some (.pure (.ok v))]⟩ ∧
      w'.requests = c.world.requests ++ [request] ∧ c.world.trace <:+ w'.trace ∧ post v w' := by
  have started := reachable.step (.start request)
  rw [body] at started
  obtain ⟨v,w',there,kept⟩ := can _ .pure started (by simp [Prog.bind_pure])
  rw [List.set_append_right _ _ le_rfl,Nat.sub_self] at there
  exact ⟨v,w',there,kept⟩

end Can
end Interleaving
