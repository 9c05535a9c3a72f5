import GaugeMesh.Interleaving.System

/-! What a thread may perform at all. As long as its operations are answered as they can be, a
program performs only operations of its alphabet, so that each event of a history is of the
alphabet of the request that its thread serves. -/
namespace Interleaving

variable {σ Op Req Res : Type} {Ret : Op → Type}

/-- While it is answered as `honest` says, the program performs only operations of `alphabet`, and
`post` holds of its value. -/
def Prog.Confined (honest : ∀ op, Ret op → Prop) (alphabet : Set Op) (post : α → Prop) :
    Prog Op Ret α → Prop
  | .pure value => post value
  | .call op next => op ∈ alphabet ∧
      ∀ reply, honest op reply → (next reply).Confined honest alphabet post

section
variable {honest : ∀ op, Ret op → Prop} {alphabet : Set Op}

theorem Prog.Confined.mono {post last : α → Prop} {p : Prog Op Ret α}
    (confined : p.Confined honest alphabet post) (implies : ∀ value, post value → last value) :
    p.Confined honest alphabet last := by
  induction p with
  | pure value => exact implies value confined
  | call op next ih =>
    exact ⟨confined.1,fun reply answers => ih reply (confined.2 reply answers)⟩

theorem Prog.Confined.bind {post : α → Prop} {last : β → Prop} {p : Prog Op Ret α}
    {f : α → Prog Op Ret β} (head : p.Confined honest alphabet post)
    (tail : ∀ value, post value → (f value).Confined honest alphabet last) :
    (p.bind f).Confined honest alphabet last := by
  induction p with
  | pure value => exact tail value head
  | call op next ih => exact ⟨head.1,fun reply answers => ih reply (head.2 reply answers)⟩

end

/-- A program that may fail is confined; `post` holds of its value if it has one. -/
def Confines (honest : ∀ op, Ret op → Prop) (alphabet : Set Op) (p : Fallible Op Ret ε α)
    (post : α → Prop) : Prop :=
  p.run.Confined honest alphabet fun outcome => ∀ value, outcome = .ok value → post value

namespace Confines

variable {honest : ∀ op, Ret op → Prop} {alphabet : Set Op} {post : α → Prop}

theorem value {v : α} (holds : post v) :
    Confines honest alphabet (pure v : Fallible Op Ret ε α) post := by
  rintro _ ⟨⟩
  exact holds

theorem fail (error : ε) : Confines honest alphabet (throw error : Fallible Op Ret ε α) post :=
  nofun

theorem ofExcept {result : Except ε α} (holds : ∀ v, result = .ok v → post v) :
    Confines honest alphabet (Fallible.ofExcept result : Fallible Op Ret ε α) post := holds

theorem perform {op : Op} (member : op ∈ alphabet) :
    Confines honest alphabet (Fallible.perform op : Fallible Op Ret ε (Ret op)) (honest op) := by
  refine ⟨member,fun reply answers => ?_⟩
  rintro _ ⟨⟩
  exact answers

theorem bind {p : Fallible Op Ret ε α} {f : α → Fallible Op Ret ε β} {last : β → Prop}
    (head : Confines honest alphabet p post)
    (tail : ∀ value, post value → Confines honest alphabet (f value) last) :
    Confines honest alphabet (p >>= f) last := by
  rw [Confines,Fallible.run_bind]
  refine Prog.Confined.bind head fun outcome known => ?_
  cases outcome with
  | ok value => exact tail value (known value rfl)
  | error error => exact nofun

theorem mono {p : Fallible Op Ret ε α} {last : α → Prop} (confined : Confines honest alphabet p post)
    (implies : ∀ value, post value → last value) : Confines honest alphabet p last :=
  Prog.Confined.mono confined fun _ known value same => implies value (known value same)

theorem branch {condition : Prop} [Decidable condition] {yes no : Fallible Op Ret ε α}
    (first : condition → Confines honest alphabet yes post)
    (second : ¬condition → Confines honest alphabet no post) :
    Confines honest alphabet (if condition then yes else no) post := by
  split
  · next holds => exact first holds
  · next fails => exact second fails

/-- A result that is looked at instead of passed on. -/
theorem lift {p : Fallible Op Ret ε α} (confined : Confines honest alphabet p post) :
    Confines honest alphabet (ExceptT.lift p.run : Fallible Op Ret δ (Except ε α))
      fun outcome => ∀ value, outcome = .ok value → post value := by
  refine Prog.Confined.bind confined fun outcome known => ?_
  rintro _ ⟨⟩
  exact known

end Confines

/-- Every thread that is under way is confined, and so is everything that has happened. -/
structure Bounded (honest : ∀ op, Ret op → Prop) (alphabet : Req → Set Op)
    (c : Config σ Op Ret Req Res) : Prop where
  length : c.threads.length = c.world.requests.length
  threads : ∀ (i : Nat) (p : Prog Op Ret Res), c.threads[i]? = some (some p) →
    ∃ request, c.world.requests[i]? = some request ∧
      p.Confined honest (alphabet request) fun _ => True
  events : ∀ e ∈ c.world.trace, ∃ request, c.world.requests[e.thread]? = some request ∧
    e.op ∈ alphabet request

/-- The replies that a system gives are honest, and the programs of its requests confined. -/
structure Confining (S : System σ Op Ret Req Res) (honest : ∀ op, Ret op → Prop)
    (alphabet : Req → Set Op) : Prop where
  act : ∀ i op s reply t, S.act i op s reply t → honest op reply
  body : ∀ request, (S.body request).Confined honest (alphabet request) fun _ => True

variable {S : System σ Op Ret Req Res} {honest : ∀ op, Ret op → Prop} {alphabet : Req → Set Op}
  {c d : Config σ Op Ret Req Res}

theorem Bounded.step (confining : Confining S honest alphabet) (bounded : Bounded honest alphabet c)
    (stepped : Step S c d) : Bounded honest alphabet d := by
  cases stepped with
  | start request =>
    have earlier {i : Nat} {other : Req} (here : c.world.requests[i]? = some other) :
        (c.world.requests ++ [request])[i]? = some other := by
      rw [List.getElem?_append_left (List.getElem?_eq_some_iff.mp here).1]
      exact here
    refine ⟨by simp [bounded.length],fun i p active => ?_,fun e member => ?_⟩
    · rcases Nat.lt_or_ge i c.threads.length with old | fresh
      · rw [List.getElem?_append_left old] at active
        obtain ⟨other,here,confined⟩ := bounded.threads i p active
        exact ⟨other,earlier here,confined⟩
      · have last : i = c.threads.length := by
          have bound := (List.getElem?_eq_some_iff.mp active).1
          rw [List.length_append,List.length_singleton] at bound
          omega
        subst last
        rw [List.getElem?_concat_length] at active
        cases active
        refine ⟨request,?_,confining.body request⟩
        rw [World.started_requests,bounded.length]
        exact List.getElem?_concat_length
    · obtain ⟨other,here,allowed⟩ := bounded.events e member
      exact ⟨other,earlier here,allowed⟩
  | run active acted =>
    rename_i i _ reply _ _
    obtain ⟨request,here,performed,rest⟩ := bounded.threads i _ active
    refine ⟨by simp [bounded.length],fun j p there => ?_,fun e member => ?_⟩
    · by_cases same : i = j
      · subst same
        rw [List.getElem?_set_self (List.getElem?_eq_some_iff.mp active).1] at there
        cases there
        exact ⟨request,here,rest reply (confining.act _ _ _ _ _ acted)⟩
      · rw [List.getElem?_set_ne same] at there
        exact bounded.threads j p there
    · rcases List.mem_cons.mp member with rfl | old
      · exact ⟨request,here,performed⟩
      · exact bounded.events e old
  | crash i =>
    refine ⟨by simp [bounded.length],fun j p there => ?_,bounded.events⟩
    by_cases same : i = j
    · subst same
      have bound := (List.getElem?_eq_some_iff.mp there).1
      rw [List.length_set] at bound
      rw [List.getElem?_set_self bound] at there
      cases there
    · rw [List.getElem?_set_ne same] at there
      exact bounded.threads j p there
  | drift => exact ⟨bounded.length,bounded.threads,bounded.events⟩

theorem Reachable.bounded (confining : Confining S honest alphabet) (reachable : Reachable S c) :
    Bounded honest alphabet c := by
  induction reachable with
  | initial => exact ⟨rfl,nofun,nofun⟩
  | step _ stepped ih => exact ih.step confining stepped

end Interleaving
