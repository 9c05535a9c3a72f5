import Mathlib.Data.List.Nodup

/-! Chains of a partial map followed upwards until it has no value. A chain that ends is the only
one from where it starts, so it meets nothing twice. -/

/-- The path that starts at a value and ends where nothing is above. -/
inductive Lineage (up : κ → Option κ) : κ → List κ → Prop
  | root (top : up a = none) : Lineage up a [a]
  | step (above : up a = some b) (rest : Lineage up b path) : Lineage up a (a :: path)

namespace Lineage

variable {up : κ → Option κ} {a b : κ} {path second : List κ}

theorem unique (lineage : Lineage up a path) (again : Lineage up a second) : path = second := by
  induction lineage generalizing second with
  | root top =>
    cases again with
    | root => rfl
    | step above =>
      rw [top] at above
      cases above
  | step above rest ih =>
    cases again with
    | root top =>
      rw [above] at top
      cases top
    | step second rest' =>
      rw [above] at second
      cases second
      rw [ih rest']

/-- From a value on the path the path goes on as its lineage. -/
theorem onward (lineage : Lineage up a path) (member : b ∈ path) :
    ∃ rest, Lineage up b rest ∧ rest <:+ path := by
  induction lineage with
  | root top =>
    obtain rfl := List.mem_singleton.mp member
    exact ⟨_,.root top,List.suffix_refl _⟩
  | step above rest ih =>
    rcases List.mem_cons.mp member with rfl | later
    · exact ⟨_,.step above rest,List.suffix_refl _⟩
    · obtain ⟨onward,goes,ends⟩ := ih later
      exact ⟨onward,goes,ends.trans (List.suffix_cons _ _)⟩

theorem nodup (lineage : Lineage up a path) : path.Nodup := by
  induction lineage with
  | root => exact List.nodup_singleton _
  | @step a b path above rest ih =>
    refine List.nodup_cons.mpr ⟨fun member => ?_,ih⟩
    -- the value would start a lineage shorter than its own
    obtain ⟨onward,goes,ends⟩ := rest.onward member
    have same := unique (.step above rest) goes
    have shorter := ends.length_le
    rw [← same,List.length_cons] at shorter
    omega

end Lineage
