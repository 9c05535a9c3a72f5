import GaugeMesh.Interleaving.Safety

/-! Triples of programs that may fail: one postcondition for the result, one for every
error. -/
namespace Interleaving

variable {σ Op Req Res : Type} {Ret : Op → Type}

/-- The result satisfies `done`; where there is none, `failed` holds. -/
def Outcome (done : α → World σ Op Ret Req → Prop) (failed : World σ Op Ret Req → Prop) :
    Except ε α → World σ Op Ret Req → Prop
  | .ok value, w => done value w
  | .error _, w => failed w

def Runs (S : System σ Op Ret Req Res) (Inv : World σ Op Ret Req → Prop) (i : Nat)
    (pre : World σ Op Ret Req → Prop) (p : Fallible Op Ret ε α)
    (done : α → World σ Op Ret Req → Prop) (failed : World σ Op Ret Req → Prop) : Prop :=
  Triple S Inv i pre p.run (Outcome done failed)

variable {S : System σ Op Ret Req Res} {Inv : World σ Op Ret Req → Prop} {i : Nat}
  {pre failed : World σ Op Ret Req → Prop}

/-- An error is passed on as it is. -/
theorem Safe.outcome {middle : α → World σ Op Ret Req → Prop}
    {done : β → World σ Op Ret Req → Prop} {p : Prog Op Ret (Except ε α)}
    {next : Except ε α → Prog Op Ret (Except ε β)} {w : World σ Op Ret Req} (valid : Inv w)
    (head : Safe S Inv i (Outcome middle failed) p w)
    (passed : ∀ error, next (.error error) = .pure (.error error))
    (tail : ∀ a u, Inv u → middle a u → Safe S Inv i (Outcome done failed) (next (.ok a)) u) :
    Safe S Inv i (Outcome done failed) (p.bind next) w := by
  induction p generalizing w with
  | pure outcome =>
    rcases outcome with error | a
    · rw [Prog.pure_bind,passed]
      exact head
    · exact tail a w valid (head w valid .refl)
  | call op rest ih =>
    intro u reply s uvalid later acted
    obtain ⟨kept,rest⟩ := head u reply s uvalid later acted
    exact ⟨kept,ih reply kept rest⟩

theorem Safe.lift {done : α → World σ Op Ret Req → Prop} {p : Prog Op Ret α}
    {w : World σ Op Ret Req} (safe : Safe S Inv i done p w) :
    Safe S Inv i (Outcome done failed) (ExceptT.lift p : Fallible Op Ret ε α).run w := by
  induction p generalizing w with
  | pure value => exact safe
  | call op next ih =>
    intro u reply s valid later acted
    obtain ⟨kept,rest⟩ := safe u reply s valid later acted
    exact ⟨kept,ih reply rest⟩

namespace Runs

theorem bind {middle : α → World σ Op Ret Req → Prop} {done : β → World σ Op Ret Req → Prop}
    {p : Fallible Op Ret ε α} {f : α → Fallible Op Ret ε β}
    (head : Runs S Inv i pre p middle failed)
    (tail : ∀ a, Runs S Inv i (middle a) (f a) done failed) :
    Runs S Inv i pre (p >>= f) done failed := by
  intro w valid holds
  rw [Fallible.run_bind]
  exact (head w valid holds).outcome valid (fun _ => rfl) fun a u => tail a u

theorem pure {done : α → World σ Op Ret Req → Prop} {value : α} (stable : Stable S Inv i pre)
    (result : ∀ w, Inv w → pre w → done value w) :
    Runs S Inv i pre (Pure.pure value : Fallible Op Ret ε α) done failed :=
  Triple.pure stable result

theorem throw {done : α → World σ Op Ret Req → Prop} {error : ε} (stable : Stable S Inv i pre)
    (result : ∀ w, Inv w → pre w → failed w) :
    Runs S Inv i pre (throw error : Fallible Op Ret ε α) done failed :=
  Triple.pure stable result

theorem ofExcept {result : Except ε α} (stable : Stable S Inv i pre) :
    Runs S Inv i pre (Fallible.ofExcept result : Fallible Op Ret ε α)
      (fun a w => result = .ok a ∧ pre w) pre := by
  rcases result with error | a
  · exact Triple.pure stable fun w _ holds => holds
  · exact Triple.pure stable fun w _ holds => ⟨rfl,holds⟩

/-- One operation, and what is known of its reply however late it is looked at. -/
theorem perform {op : Op} {done : Ret op → World σ Op Ret Req → Prop}
    (stable : Stable S Inv i pre) (moves : Moves S Inv i pre op done)
    (after : ∀ reply, Stable S Inv i (done reply)) :
    Runs S Inv i pre (Fallible.perform op : Fallible Op Ret ε (Ret op)) done failed :=
  Triple.call stable moves fun reply => Triple.pure (after reply) fun _ _ holds => holds

theorem weaken {done wider : α → World σ Op Ret Req → Prop} {other : World σ Op Ret Req → Prop}
    {p : Fallible Op Ret ε α} (runs : Runs S Inv i pre p done failed)
    (result : ∀ a w, Inv w → done a w → wider a w) (error : ∀ w, Inv w → failed w → other w) :
    Runs S Inv i pre p wider other := by
  refine Triple.weaken runs fun outcome w valid holds => ?_
  rcases outcome with e | a
  · exact error w valid holds
  · exact result a w valid holds

theorem strengthen {stronger : World σ Op Ret Req → Prop} {done : α → World σ Op Ret Req → Prop}
    {p : Fallible Op Ret ε α} (runs : Runs S Inv i pre p done failed)
    (implies : ∀ w, Inv w → stronger w → pre w) : Runs S Inv i stronger p done failed :=
  Triple.strengthen runs implies

theorem assuming {fact : Prop} {done : α → World σ Op Ret Req → Prop} {p : Fallible Op Ret ε α}
    (runs : fact → Runs S Inv i pre p done failed) :
    Runs S Inv i (fun w => fact ∧ pre w) p done failed :=
  Triple.assuming runs

/-- What cannot be undone is still true afterwards. -/
theorem keep {fact : World σ Op Ret Req → Prop} {done : α → World σ Op Ret Req → Prop}
    {p : Fallible Op Ret ε α} (permanent : Permanent fact) (runs : Runs S Inv i pre p done failed) :
    Runs S Inv i (fun w => pre w ∧ fact w) p (fun a w => done a w ∧ fact w)
      fun w => failed w ∧ fact w := by
  refine Triple.weaken (Triple.keep permanent runs) fun outcome w _ holds => ?_
  rcases outcome with e | a <;> exact holds

/-- A program whose outcome is looked at instead of passed on. -/
theorem attempt {done : α → World σ Op Ret Req → Prop} {p : Prog Op Ret α}
    (triple : Triple S Inv i pre p done) :
    Runs S Inv i pre (ExceptT.lift p : Fallible Op Ret ε α) done failed :=
  fun w valid holds => (triple w valid holds).lift

/-- Harmless operations keep what their thread knows. -/
theorem frame {alphabet : Set Op} {p : Fallible Op Ret ε α} (within : p.run.Within alphabet)
    (stable : Stable S Inv i pre) (harmless : ∀ op ∈ alphabet, Moves S Inv i pre op fun _ => pre) :
    Runs S Inv i pre p (fun _ => pre) pre := by
  refine Triple.weaken (Triple.frame within stable harmless) fun outcome w _ holds => ?_
  rcases outcome with e | a <;> exact holds

/-- A request whose answer carries the result, whatever it is. -/
theorem served {fact : World σ Op Ret Req → Prop} {p : Fallible Op Ret ε α}
    (runs : Runs S Inv i pre p (fun _ => fact) fact) (stable : Stable S Inv i fact)
    (answer : Except ε α → β) :
    Triple S Inv i pre (p.run.bind fun result => .pure (answer result)) fun _ => fact := by
  refine Triple.bind runs fun result => Triple.pure ?_ fun w _ holds => ?_
  all_goals rcases result with error | value
  · exact stable
  · exact stable
  · exact holds
  · exact holds

end Runs
end Interleaving
