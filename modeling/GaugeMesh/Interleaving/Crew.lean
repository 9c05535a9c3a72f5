import Mathlib.Data.List.Basic
import Mathlib.Data.Rat.Floor

/-! Tasks over one shared state, each known by what it is about to do. One task moves at a
time, in any order; new tasks come at any time. What the tasks hold together is found by
counting those that hold it. -/
namespace Interleaving

/-- `act i s task t next`: task number `i` may move from `task` to `next` and take the shared
state from `s` to `t`. `drift` is what changes without any task. -/
structure Crew (σ τ : Type) where
  initial : σ → Prop
  begins : τ → Prop
  act : Nat → σ → τ → σ → τ → Prop
  drift : σ → σ → Prop

structure Crowd (σ τ : Type) where
  state : σ
  tasks : List τ

namespace Crew

variable {σ τ : Type} {C : Crew σ τ}

inductive Step (C : Crew σ τ) : Crowd σ τ → Crowd σ τ → Prop
  | begin (fresh : C.begins task) : Step C c ⟨c.state,c.tasks ++ [task]⟩
  | act (here : c.tasks[i]? = some task) (acted : C.act i c.state task t next) :
      Step C c ⟨t,c.tasks.set i next⟩
  | drift (moved : C.drift c.state t) : Step C c ⟨t,c.tasks⟩

inductive Reachable (C : Crew σ τ) : Crowd σ τ → Prop
  | initial (start : C.initial s) : Reachable C ⟨s,[]⟩
  | step (before : Reachable C c) (stepped : Step C c d) : Reachable C d

theorem Reachable.begin {c : Crowd σ τ} (before : C.Reachable c) (task : τ)
    (fresh : C.begins task) : C.Reachable ⟨c.state,c.tasks ++ [task]⟩ :=
  before.step (.begin fresh)

theorem Reachable.act {c : Crowd σ τ} {t : σ} {task : τ} (before : C.Reachable c) (i : Nat)
    (next : τ) (here : c.tasks[i]? = some task) (acted : C.act i c.state task t next) :
    C.Reachable ⟨t,c.tasks.set i next⟩ :=
  before.step (.act here acted)

/-- A property of the empty crowd that every step keeps holds in every reachable crowd. -/
theorem Reachable.invariant (Inv : Crowd σ τ → Prop) (start : ∀ s, C.initial s → Inv ⟨s,[]⟩)
    (kept : ∀ c d, Inv c → C.Step c d → Inv d) {c : Crowd σ τ} (reachable : C.Reachable c) :
    Inv c := by
  induction reachable with
  | initial initial => exact start _ initial
  | step _ stepped ih => exact kept _ _ ih stepped

end Crew

section Tasks

variable {τ : Type} {tasks : List τ} {i j : Nat} {task next other : τ}

/-- The moved task is the new one, the others are as they were. -/
theorem getElem?_moved (found : (tasks.set i next)[j]? = some other) :
    j = i ∧ other = next ∨ j ≠ i ∧ tasks[j]? = some other := by
  by_cases same : i = j
  · subst same
    have bound : i < tasks.length := by
      have := (List.getElem?_eq_some_iff.mp found).choose
      simpa using this
    rw [List.getElem?_set_self bound] at found
    exact .inl ⟨rfl,(Option.some.inj found).symm⟩
  · rw [List.getElem?_set_ne same] at found
    exact .inr ⟨fun equal => same equal.symm,found⟩

theorem getElem?_begun (found : (tasks ++ [task])[j]? = some other) :
    tasks[j]? = some other ∨ j = tasks.length ∧ other = task := by
  rcases Nat.lt_trichotomy j tasks.length with before | here | after
  · rw [List.getElem?_append_left before] at found
    exact .inl found
  · subst here
    rw [List.getElem?_concat_length] at found
    exact .inr ⟨rfl,(Option.some.inj found).symm⟩
  · have none : (tasks ++ [task])[j]? = none := by
      simp only [List.getElem?_eq_none_iff,List.length_append,List.length_singleton]
      omega
    simp [none] at found

/-- How many tasks have a property, before and after one of them has moved. -/
theorem countP_moved (here : tasks[i]? = some task) (p : τ → Bool) (next : τ) :
    (tasks.set i next).countP p + (p task).toNat = tasks.countP p + (p next).toNat := by
  obtain ⟨bound,equal⟩ := List.getElem?_eq_some_iff.mp here
  have least : (p task).toNat ≤ tasks.countP p := by
    cases held : p task with
    | false => simp
    | true =>
      have member : task ∈ tasks := List.mem_of_getElem? here
      exact List.countP_pos_iff.mpr ⟨task,member,held⟩
  rw [List.countP_set bound,equal]
  revert least
  cases p task <;> cases p next <;>
    simp only [Bool.toNat_true,Bool.toNat_false,Bool.false_eq_true,↓reduceIte] <;> omega

/-- A new task that does not have the property is not counted. -/
theorem countP_begun (tasks : List τ) (p : τ → Bool) {t : τ} (outside : p t = false) :
    (tasks ++ [t]).countP p = tasks.countP p := by
  simp [outside]

theorem countP_eq_zero_moved {p : τ → Bool} (empty : tasks.countP p = 0)
    (outside : p next = false) : (tasks.set i next).countP p = 0 := by
  rw [List.countP_eq_zero] at empty ⊢
  intro member found
  rcases List.mem_or_eq_of_mem_set found with old | rfl
  · exact empty member old
  · simp [outside]

/-- A task with the property is one of those counted. -/
theorem countP_pos_of_getElem? {p : τ → Bool} (here : tasks[i]? = some task)
    (held : p task = true) : 0 < tasks.countP p :=
  List.countP_pos_iff.mpr ⟨task,List.mem_of_getElem? here,held⟩

/-- Without one of its members a list has one less to count, or as many. -/
theorem countP_erase {α : Type} [BEq α] [LawfulBEq α] {l : List α} {a : α} (member : a ∈ l)
    (f : α → Bool) : (l.erase a).countP f + (f a).toNat = l.countP f := by
  rw [(List.perm_cons_erase member).countP_eq f,List.countP_cons]
  cases f a <;> simp

end Tasks

section Queue

variable {τ : Type} {line line' : List Nat} {tasks : List τ} {waits : τ → Bool} {i : Nat}
  {task next : τ}

/-- A queue names each task that waits in it once, and no other. -/
structure Queue (line : List Nat) (tasks : List τ) (waits : τ → Bool) : Prop where
  nodup : line.Nodup
  mem : ∀ i, i ∈ line ↔ ∃ task, tasks[i]? = some task ∧ waits task = true

/-- What a move of task `i` may do to a queue: nothing, or it comes to its end, or it leaves. -/
def Turns (i : Nat) (line : List Nat) (before : Bool) (line' : List Nat) (after : Bool) : Prop :=
  line' = line ∧ after = before ∨ line' = line ++ [i] ∧ before = false ∧ after = true ∨
    line' = line.erase i ∧ after = false

theorem Queue.moved (queue : Queue line tasks waits) (here : tasks[i]? = some task)
    (turns : Turns i line (waits task) line' (waits next)) :
    Queue line' (tasks.set i next) waits := by
  have bound : i < tasks.length := (List.getElem?_eq_some_iff.mp here).choose
  have own : i ∈ line ↔ waits task = true := by simp [queue.mem,here]
  have others (j : Nat) (other : i ≠ j) :
      j ∈ line ↔ ∃ task, (tasks.set i next)[j]? = some task ∧ waits task = true := by
    rw [List.getElem?_set_ne other]
    exact queue.mem j
  have mine : (∃ task, (tasks.set i next)[i]? = some task ∧ waits task = true) ↔
      waits next = true := by simp [bound]
  rcases turns with ⟨rfl,same⟩ | ⟨rfl,before,after⟩ | ⟨rfl,after⟩
  · refine ⟨queue.nodup,fun j => ?_⟩
    by_cases other : i = j
    · subst other
      rw [mine,own,same]
    · exact others j other
  · have absent : i ∉ line := by simp [own,before]
    refine ⟨List.nodup_append.mpr ⟨queue.nodup,by simp,?_⟩,fun j => ?_⟩
    · rintro j member _ last rfl
      exact absent (List.mem_singleton.mp last ▸ member)
    · by_cases other : i = j
      · subst other
        simp [bound,after]
      · rw [List.mem_append,List.mem_singleton,others j other]
        simp [Ne.symm other]
  · refine ⟨queue.nodup.erase i,fun j => ?_⟩
    by_cases other : i = j
    · subst other
      rw [mine,after]
      simp [queue.nodup.not_mem_erase]
    · rw [List.mem_erase_of_ne (Ne.symm other),others j other]

/-- A new task that does not wait. -/
theorem Queue.begun (queue : Queue line tasks waits) (outside : waits task = false) :
    Queue line (tasks ++ [task]) waits := by
  refine ⟨queue.nodup,fun j => (queue.mem j).trans ⟨?_,?_⟩⟩
  · rintro ⟨other,found,waiting⟩
    have bound : j < tasks.length := (List.getElem?_eq_some_iff.mp found).choose
    exact ⟨other,by rw [List.getElem?_append_left bound,found],waiting⟩
  · rintro ⟨other,found,waiting⟩
    rcases getElem?_begun found with old | ⟨-,rfl⟩
    · exact ⟨other,old,waiting⟩
    · simp [outside] at waiting

end Queue

end Interleaving
