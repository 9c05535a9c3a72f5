import GaugeMesh.Dependency
import GaugeMesh.Json.Reference
import GaugeMesh.Run.Plan

/-! The cycle check of a plan. The loop takes a step in once its predecessors are in, so what it
has taken in lies on no cycle and behind none; when a pass takes nothing in, every step that
could be reached from below is there. -/
namespace GaugeMesh
open Json

namespace RunPlan

/-- The step `b` needs the step `a`. -/
def Needed (steps : List RunStep) (a b : String) : Prop :=
  ∃ step ∈ steps, step.id = b ∧ a ∈ step.dependsOn

def Acyclic (steps : List RunStep) : Prop := Dependency.Acyclic (Needed steps)

/-- The loop of the check: passes until one that takes nothing in. -/
inductive Passes (steps : List RunStep) : List String → List String → Prop
  | last (same : visited.length = (visit visited steps).length) :
      Passes steps visited (visit visited steps)
  | again (grown : visited.length ≠ (visit visited steps).length)
      (rest : Passes steps (visit visited steps) result) : Passes steps visited result

/-- What the check has of a list of steps: no id twice, and edges between them only. -/
structure Edged (steps : List RunStep) : Prop where
  distinct : (steps.map (·.id)).Nodup
  edges : ∀ step ∈ steps, ∀ id ∈ step.dependsOn, id ∈ steps.map (·.id) ∧ id ≠ step.id

/-- What has been visited are steps, none of them twice, that can be reached from below. -/
structure Visited (steps : List RunStep) (visited : List String) : Prop where
  nodup : visited.Nodup
  among : ∀ id ∈ visited, id ∈ steps.map (·.id)
  below : ∀ id ∈ visited, Acc (Needed steps) id

variable {steps rest : List RunStep} {visited result : List String}

theorem Edged.related (edged : Edged steps) (a b : String) (needed : Needed steps a b) :
    a ∈ steps.map (·.id) ∧ b ∈ steps.map (·.id) := by
  obtain ⟨step,member,rfl,depends⟩ := needed
  exact ⟨(edged.edges step member a depends).1,List.mem_map_of_mem member⟩

/-- A step is the only one of its id. -/
theorem Edged.needs (edged : Edged steps) {step : RunStep} (member : step ∈ steps) {a : String}
    (needed : Needed steps a step.id) : a ∈ step.dependsOn := by
  obtain ⟨other,among,same,depends⟩ := needed
  have equal := List.inj_on_of_nodup_map edged.distinct among member same
  exact equal ▸ depends

theorem Visited.length_le (sound : Visited steps visited) : visited.length ≤ steps.length := by
  have bound := sound.nodup.subperm sound.among
  simpa using bound.length_le

theorem visit_suffix (visited : List String) (rest : List RunStep) :
    visited <:+ visit visited rest := by
  induction rest generalizing visited with
  | nil => exact List.suffix_refl _
  | cons step rest ih =>
    rw [visit]
    split
    · exact (List.suffix_cons _ _).trans (ih _)
    · exact ih _

theorem Visited.visit (edged : Edged steps) (inside : ∀ step ∈ rest, step ∈ steps)
    (sound : Visited steps visited) : Visited steps (visit visited rest) := by
  induction rest generalizing visited with
  | nil => exact sound
  | cons step rest ih =>
    obtain ⟨head,tail⟩ := List.forall_mem_cons.mp inside
    rw [RunPlan.visit]
    split
    · next ready =>
      obtain ⟨ready,fresh⟩ := ready
      apply ih tail
      refine ⟨List.nodup_cons.mpr ⟨fresh,sound.nodup⟩,?_,?_⟩
      · exact List.forall_mem_cons.mpr ⟨List.mem_map_of_mem head,sound.among⟩
      · refine List.forall_mem_cons.mpr ⟨?_,sound.below⟩
        constructor
        intro a needed
        have depends := edged.needs head needed
        have before := List.all_eq_true.mp ready a depends
        exact sound.below a (by simpa using before)
    · exact ih tail sound

/-- A pass that takes nothing in has nothing left to take in. -/
theorem visit_same (same : visited.length = (visit visited rest).length) :
    visit visited rest = visited ∧
      ∀ step ∈ rest, (∀ id ∈ step.dependsOn, id ∈ visited) → step.id ∈ visited := by
  induction rest with
  | nil => exact ⟨rfl,by simp⟩
  | cons step rest ih =>
    rw [visit] at same ⊢
    split at same
    · have grown := (visit_suffix (step.id :: visited) rest).length_le
      simp only [List.length_cons] at grown
      omega
    · next stuck =>
      rw [if_neg stuck]
      obtain ⟨equal,others⟩ := ih same
      refine ⟨equal,List.forall_mem_cons.mpr ⟨fun ready => ?_,others⟩⟩
      by_contra absent
      apply stuck
      refine ⟨List.all_eq_true.mpr fun id depends => ?_,absent⟩
      simpa using ready id depends

theorem Passes.sound (edged : Edged steps) (passes : Passes steps visited result)
    (sound : Visited steps visited) : Visited steps result := by
  induction passes with
  | last => exact sound.visit edged fun _ member => member
  | again _ _ ih => exact ih (sound.visit edged fun _ member => member)

/-- When the loop ends, every step that can be reached from below has been visited. -/
theorem Passes.complete (edged : Edged steps) (passes : Passes steps visited result) {id : String}
    (below : Acc (Needed steps) id) (member : id ∈ steps.map (·.id)) : id ∈ result := by
  induction passes with
  | again _ _ ih => exact ih
  | @last visited same =>
    obtain ⟨equal,closed⟩ := visit_same same
    rw [equal]
    apply Dependency.mem_of_closed (s := {id | id ∈ visited})
      (fun a b needed => (edged.related a b needed).1) _ below member
    intro a among ready
    obtain ⟨step,there,rfl⟩ := List.mem_map.mp among
    apply closed step there
    intro b depends
    exact ready b ⟨step,there,rfl,depends⟩

/-- Each pass but the last takes a step in, so there is a last one. -/
theorem visitAll_passes (edged : Edged steps) (sound : Visited steps visited) {passes : Nat}
    (enough : steps.length < visited.length + passes) :
    Passes steps visited (visitAll steps passes visited) := by
  induction passes generalizing visited with
  | zero =>
    have bound := sound.length_le
    omega
  | succ passes ih =>
    rw [visitAll]
    split
    · next same => exact .last same
    · next grown =>
      have longer := (visit_suffix visited steps).length_le
      apply Passes.again grown
      exact ih (sound.visit edged fun _ member => member) (by omega)

theorem visited_none (steps : List RunStep) : Visited steps [] :=
  ⟨.nil,by simp,by simp⟩

/-- Everything was visited exactly when nothing is on a cycle. -/
theorem Passes.exact (edged : Edged steps) (passes : Passes steps [] result) :
    result.length = steps.length ↔ Acyclic steps := by
  have sound := passes.sound edged (visited_none steps)
  have acyclic : Acyclic steps ↔ ∀ id ∈ {id | id ∈ steps.map (·.id)}, Acc (Needed steps) id :=
    Dependency.acyclic_iff (List.finite_toSet _) edged.related
  rw [acyclic]
  constructor
  · intro whole id member
    have all : result.Perm (steps.map (·.id)) :=
      (sound.nodup.subperm sound.among).perm_of_length_le (by simp [whole])
    exact sound.below id (all.mem_iff.mpr member)
  · intro below
    have bound := edged.distinct.subperm fun id member =>
      passes.complete edged (below id member) member
    have least := bound.length_le
    have most := sound.length_le
    rw [List.length_map] at least
    omega

theorem ensure_error {condition : Prop} [Decidable condition] {error other : ε}
    (apart : error ≠ other) : ensure condition error ≠ .error other := by
  by_cases holds : condition <;> simp [ensure,holds,apart]

/-- An error comes from what follows when it is not the one of the check. -/
theorem Except.past_error {x : Except ε Unit} {f : Unit → Except ε β} {error : ε}
    (apart : x ≠ .error error) (failed : (x >>= f) = .error error) : f () = .error error := by
  rcases x with other | ⟨⟩
  · cases failed
    exact absurd rfl apart
  · exact failed

theorem checkEach_error {check : α → Except ε Unit} {items : List α} {error : ε}
    (failed : checkEach check items = .error error) : ∃ a ∈ items, check a = .error error := by
  induction items with
  | nil => cases failed
  | cons a rest ih =>
    rw [checkEach] at failed
    rcases checked : check a with other | ⟨⟩
    · rw [checked] at failed
      cases failed
      exact ⟨a,List.mem_cons_self,checked⟩
    · rw [checked] at failed
      obtain ⟨b,member,found⟩ := ih failed
      exact ⟨b,List.mem_cons_of_mem _ member,found⟩

variable [FloatText] [Sha256]

/-- No check of a single step fails with the error of the cycle check. -/
theorem validateStep_error (plan : RunPlan) (step : RunStep) :
    plan.validateStep step ≠ .error "GM_RUN_CYCLE" := by
  intro failed
  have inputs : validateInputs step step.arguments ≠ .error "GM_RUN_CYCLE" := by
    intro failed
    obtain ⟨⟨name,input⟩,-,failed⟩ := checkEach_error failed
    cases input with
    | literal => cases failed
    | predecessor => exact ensure_error (by decide) failed
  have failed := Except.past_error (ensure_error (by decide)) failed
  have failed := Except.past_error (ensure_error (by decide)) failed
  have failed := Except.past_error (ensure_error (by decide)) failed
  have failed := Except.past_error (ensure_error (by decide)) failed
  have failed := Except.past_error inputs failed
  have failed := Except.past_error (ensure_error (by decide)) failed
  exact ensure_error (by decide) failed

theorem validate_cycle {plan : RunPlan} {acceptedAt : Nat}
    (failed : plan.validate acceptedAt = .error "GM_RUN_CYCLE") :
    (visitAll plan.steps (plan.steps.length + 1) []).length ≠ plan.steps.length := by
  have steps : checkEach plan.validateStep plan.steps ≠ .error "GM_RUN_CYCLE" := by
    intro failed
    obtain ⟨step,-,failed⟩ := checkEach_error failed
    exact validateStep_error plan step failed
  have failed := Except.past_error (ensure_error (by decide)) failed
  have failed := Except.past_error (ensure_error (by decide)) failed
  have failed := Except.past_error (ensure_error (by decide)) failed
  have failed := Except.past_error (ensure_error (by decide)) failed
  have failed := Except.past_error (ensure_error (by decide)) failed
  have failed := Except.past_error (ensure_error (by decide)) failed
  have failed := Except.past_error (ensure_error (by decide)) failed
  have failed := Except.past_error steps failed
  intro whole
  rw [ensure,if_pos whole] at failed
  cases failed

theorem validate_visited {plan : RunPlan} {acceptedAt : Nat}
    (accepted : plan.validate acceptedAt = .ok ()) :
    (visitAll plan.steps (plan.steps.length + 1) []).length = plan.steps.length := by
  simp only [validate,Except.then_ok,ensure_ok] at accepted
  exact accepted.2.2.2.2.2.2.2.2

/-- The loop ends, and it has visited every step exactly when no step depends on itself in the
end; a plan that passes the checks before is accepted on that ground alone. -/
theorem cycle_check_exact (plan : RunPlan) (edged : Edged plan.steps) :
    (∃ visited, Passes plan.steps [] visited) ∧
    (∀ visited, Passes plan.steps [] visited →
      (visited.length = plan.steps.length ↔ Acyclic plan.steps)) ∧
    ∀ acceptedAt, plan.validate acceptedAt = .ok () ∨
        plan.validate acceptedAt = .error "GM_RUN_CYCLE" →
      (plan.validate acceptedAt = .ok () ↔ Acyclic plan.steps) := by
  have passes : Passes plan.steps [] (visitAll plan.steps (plan.steps.length + 1) []) :=
    visitAll_passes edged (visited_none _) (by simp)
  refine ⟨⟨_,passes⟩,fun visited passes => passes.exact edged,fun acceptedAt checked => ?_⟩
  rw [← passes.exact edged]
  rcases checked with accepted | failed
  · exact iff_of_true accepted (validate_visited accepted)
  · exact iff_of_false (by simp [failed]) (validate_cycle failed)

end RunPlan

section Example
open Reference

def bareStep (id : String) (dependsOn : List String) : RunStep :=
  ⟨id,dependsOn,"alias",.default,"provider/1",[],.default,⟨"policy",[]⟩,.default,
    .nonIdempotentWrite,1,1⟩

/-- Two steps, the dependent one first. -/
def orderedPlan : RunPlan :=
  ⟨"plan","key",1,1,1,"","","","/",[bareStep "b" ["a"],bareStep "a" []]⟩

theorem RunPlan.cycle_check_exact_example : RunPlan.Acyclic orderedPlan.steps := by
  have edged : RunPlan.Edged orderedPlan.steps := ⟨by decide,by decide⟩
  have passes : RunPlan.Passes orderedPlan.steps [] ["b","a"] :=
    .again (by decide) (.again (by decide) (.last (by decide)))
  exact ((RunPlan.cycle_check_exact orderedPlan edged).2.1 _ passes).mp rfl

end Example
end GaugeMesh
