import GaugeMesh.Conserve.Context
import GaugeMesh.Json.OrderedMap
import GaugeMesh.Lineage

/-! `causal.rs`: the causal graph. An observation is appended under a fresh identity, and below
one that is there already, so the graph stays a forest. -/
namespace GaugeMesh
open Json

structure CausalObservation where
  id : CausalId
  parent : Option CausalId
  kind : String
  evidenceDigest : Sha256Digest
  deriving DecidableEq

/-- The parents of the observations are indexed by their identities. -/
structure CausalGraph where
  parents : OrderedMap (Option CausalId)
  observations : List CausalObservation

inductive CausalError where
  | duplicate
  | missingParent
  | cycle
  deriving DecidableEq

namespace CausalGraph

def default : CausalGraph := ⟨.empty,[]⟩

/-- What the index has as the parent of an identity; none too when it lacks the identity. -/
def parentOf (graph : CausalGraph) (id : CausalId) : Option CausalId :=
  (graph.parents.get id.text).join

/-- The identities of the index that the walk has not seen. -/
def unseen (graph : CausalGraph) (seen : List CausalId) : List String :=
  graph.parents.keys.filter fun key => ⟨key⟩ ∉ seen

theorem unseen_cons_length (graph : CausalGraph) (node : CausalId) (seen : List CausalId) :
    (graph.unseen (node :: seen)).length ≤ (graph.unseen seen).length := by
  apply List.Sublist.length_le
  apply List.monotone_filter_right
  intro key
  simp only [List.mem_cons,not_or,decide_eq_true_eq]
  exact And.right

theorem unseen_cons_lt {graph : CausalGraph} {node : CausalId} {seen : List CausalId}
    (known : graph.parents.containsKey node.text) (fresh : node ∉ seen) :
    (graph.unseen (node :: seen)).length < (graph.unseen seen).length := by
  have split : graph.unseen (node :: seen) =
      (graph.unseen seen).filter fun key => (⟨key⟩ : CausalId) ≠ node := by
    simp only [unseen,List.filter_filter,List.mem_cons,not_or,Bool.decide_and,ne_eq]
  have member : node.text ∈ graph.unseen seen := by
    simpa [unseen,fresh] using OrderedMap.mem_keys.mpr known
  rw [split]
  exact List.length_filter_lt_length_iff_exists.mpr ⟨node.text,member,by simp⟩

/-- The ancestors are followed from the cursor up; the new identity must not be among them. -/
def walk (graph : CausalGraph) (id : CausalId) (seen : List CausalId) :
    Option CausalId → Except CausalError Unit
  | none => .ok ()
  | some node =>
    if node = id ∨ node ∈ seen then .error .cycle
    else graph.walk id (node :: seen) (graph.parentOf node)
termination_by cursor => ((graph.unseen seen).length,if cursor.isSome then 1 else 0)
decreasing_by
  next passed =>
  by_cases known : graph.parents.containsKey node.text
  · exact .left _ _ (unseen_cons_lt known fun member => passed (.inr member))
  · have above : graph.parentOf node = none := by
      rw [OrderedMap.containsKey,Option.isSome_iff_ne_none,not_not] at known
      rw [parentOf,known,Option.join_none]
    rw [above]
    rcases (graph.unseen_cons_length node seen).lt_or_eq with fewer | same
    · exact .left _ _ fewer
    · rw [same]
      exact .right _ (by simp)

def validate (graph : CausalGraph) (observation : CausalObservation) : Except CausalError Unit :=
  if graph.parents.containsKey observation.id.text then .error .duplicate
  else match observation.parent with
    | none => .ok ()
    | some parent =>
      if parent = observation.id then .error .cycle
      else if ¬graph.parents.containsKey parent.text then .error .missingParent
      else graph.walk observation.id [] (some parent)

def append (graph : CausalGraph) (observation : CausalObservation) :
    Except CausalError Unit × CausalGraph :=
  match graph.validate observation with
  | .error error => (.error error,graph)
  | .ok () =>
    (.ok (),⟨graph.parents.insert observation.id.text observation.parent,
      graph.observations ++ [observation]⟩)

/-- The observations are appended one by one; those refused are passed over. -/
def appendAll (graph : CausalGraph) (observations : List CausalObservation) : CausalGraph :=
  observations.foldl (fun graph observation => (graph.append observation).2) graph

/-- The observations whose append is answered with `Ok`, in the order of the calls. -/
def appended (graph : CausalGraph) : List CausalObservation → List CausalObservation
  | [] => []
  | observation :: rest =>
    match graph.append observation with
    | (.ok (),next) => observation :: next.appended rest
    | (.error _,next) => next.appended rest

/-- Every observation is in the index, once, and below one that was appended before it. -/
structure Forest (graph : CausalGraph) : Prop where
  distinct : (graph.observations.map (·.id)).Nodup
  index : ∀ id parent, graph.parents.get id.text = some parent ↔
    ∃ observation ∈ graph.observations, observation.id = id ∧ observation.parent = parent
  earlier : ∀ before observation after, graph.observations = before ++ observation :: after →
    ∀ parent, observation.parent = some parent → parent ∈ before.map (·.id)

/-- From an identity the parents lead to one without a parent, past observations only and past
none of them twice. -/
def Rooted (graph : CausalGraph) (id : CausalId) : Prop :=
  ∃ path, Lineage graph.parentOf id path ∧ path.Nodup ∧ path ⊆ graph.observations.map (·.id)

variable {graph : CausalGraph} {observation : CausalObservation} {id node : CausalId}

theorem Forest.known (forest : Forest graph) :
    graph.parents.containsKey id.text ↔ id ∈ graph.observations.map (·.id) := by
  rw [OrderedMap.containsKey_iff,List.mem_map]
  constructor
  · rintro ⟨parent,found⟩
    obtain ⟨observation,member,same,-⟩ := (forest.index id parent).mp found
    exact ⟨observation,member,same⟩
  · rintro ⟨observation,member,same⟩
    exact ⟨_,(forest.index id _).mpr ⟨observation,member,same,rfl⟩⟩

theorem Forest.parentOf (forest : Forest graph) (member : observation ∈ graph.observations) :
    graph.parentOf observation.id = observation.parent := by
  have found := (forest.index observation.id _).mpr ⟨observation,member,rfl,rfl⟩
  rw [CausalGraph.parentOf,found,Option.join_some]

theorem append_error {error : CausalError} (refused : graph.validate observation = .error error) :
    graph.append observation = (.error error,graph) := by
  rw [append,refused]

theorem append_ok (accepted : graph.validate observation = .ok ()) :
    graph.append observation = (.ok (),⟨graph.parents.insert observation.id.text observation.parent,
      graph.observations ++ [observation]⟩) := by
  rw [append,accepted]

/-- What is accepted is new, and below what is there. -/
theorem validate_ok (accepted : graph.validate observation = .ok ()) :
    ¬graph.parents.containsKey observation.id.text ∧
      ∀ parent, observation.parent = some parent → graph.parents.containsKey parent.text := by
  rw [validate] at accepted
  split at accepted
  · cases accepted
  · next fresh =>
    refine ⟨fresh,fun parent named => ?_⟩
    rw [named] at accepted
    by_contra missing
    by_cases same : parent = observation.id <;> simp [same,missing] at accepted

theorem default_forest : Forest default := by
  constructor
  · exact .nil
  · intro id parent
    simp [default]
  · intro before observation after split
    simp [default] at split

/-- An append keeps the forest: a new observation is a leaf of it. -/
theorem Forest.append (forest : Forest graph) (observation : CausalObservation) :
    Forest (graph.append observation).2 := by
  rcases checked : graph.validate observation with error | ⟨⟩
  · rw [append_error checked]
    exact forest
  rw [append_ok checked]
  obtain ⟨fresh,below⟩ := validate_ok checked
  have absent : observation.id ∉ graph.observations.map (·.id) := fresh ∘ forest.known.mpr
  constructor
  · rw [List.map_append]
    exact List.nodup_append.mpr ⟨forest.distinct,by simp,by simpa using absent⟩
  · intro id parent
    rw [OrderedMap.get_insert]
    simp only [List.mem_append,List.mem_singleton]
    by_cases same : id = observation.id
    · subst same
      rw [if_pos rfl,Option.some_inj]
      constructor
      · intro named
        exact ⟨observation,.inr rfl,rfl,named⟩
      · rintro ⟨other,old | rfl,same,named⟩
        · exact absurd (List.mem_map.mpr ⟨other,old,same⟩) absent
        · exact named
    · have apart : id.text ≠ observation.id.text := fun texts => same (congrArg CausalId.mk texts)
      rw [if_neg apart,forest.index]
      constructor
      · rintro ⟨other,old,found⟩
        exact ⟨other,.inl old,found⟩
      · rintro ⟨other,old | rfl,named,found⟩
        · exact ⟨other,old,named,found⟩
        · exact absurd named.symm same
  · intro before other after split parent named
    rcases List.eq_nil_or_concat after with rfl | ⟨front,last,rfl⟩
    · -- the new observation itself
      obtain ⟨rfl,same⟩ := List.append_inj' split rfl
      cases same
      exact forest.known.mp (below parent named)
    · have split' : graph.observations ++ [observation] = (before ++ other :: front) ++ [last] := by
        simpa using split
      exact forest.earlier before other front (List.append_inj' split' rfl).1 parent named

/-- The parents of an observation were appended before it, so they come to an end. -/
theorem Forest.rooted (forest : Forest graph) (before : List CausalObservation)
    (observation : CausalObservation) (after : List CausalObservation)
    (split : graph.observations = before ++ observation :: after) :
    graph.Rooted observation.id := by
  induction bound : before.length using Nat.strong_induction_on generalizing before observation after
    with
  | _ n ih =>
    have member : observation ∈ graph.observations := by simp [split]
    have there := List.mem_map_of_mem (f := (·.id)) member
    rcases named : observation.parent with _ | parent
    · have top := (forest.parentOf member).trans named
      exact ⟨_,.root top,List.nodup_singleton _,by simpa using there⟩
    · obtain ⟨other,earlier,rfl⟩ := List.mem_map.mp (forest.earlier _ _ _ split parent named)
      obtain ⟨first,rest,rfl⟩ := List.append_of_mem earlier
      have split' : graph.observations = first ++ other :: (rest ++ observation :: after) := by
        simpa using split
      have shorter : first.length < n := by
        rw [← bound]
        simp
      obtain ⟨path,lineage,-,inside⟩ := ih first.length shorter first other _ split' rfl
      have whole := Lineage.step ((forest.parentOf member).trans named) lineage
      exact ⟨_,whole,whole.nodup,List.cons_subset.mpr ⟨there,inside⟩⟩

/-- The walk finds nothing on a path to a root that it has not begun. -/
theorem walk_ok {path seen : List CausalId} (lineage : Lineage graph.parentOf node path)
    (absent : id ∉ path) (apart : seen.Disjoint path) : graph.walk id seen (some node) = .ok () := by
  induction lineage generalizing seen with
  | root top =>
    rw [walk,if_neg,top,walk]
    rintro (rfl | begun)
    · exact absent List.mem_cons_self
    · exact apart begun List.mem_cons_self
  | @step node above path leads rest ih =>
    rw [walk,if_neg,leads]
    · apply ih (fun member => absent (List.mem_cons_of_mem _ member))
      have single := (Lineage.step leads rest).nodup
      intro other begun member
      rcases List.mem_cons.mp begun with rfl | begun
      · exact (List.nodup_cons.mp single).1 member
      · exact apart begun (List.mem_cons_of_mem _ member)
    · rintro (rfl | begun)
      · exact absent List.mem_cons_self
      · exact apart begun List.mem_cons_self

/-- In a forest only the identity and the parent decide: the walk never meets a cycle. -/
theorem Forest.accepts (forest : Forest graph) (observation : CausalObservation) :
    graph.validate observation = .ok () ↔
      observation.id ∉ graph.observations.map (·.id) ∧
        ∀ parent, observation.parent = some parent → parent ∈ graph.observations.map (·.id) := by
  constructor
  · intro accepted
    obtain ⟨fresh,below⟩ := validate_ok accepted
    exact ⟨fresh ∘ forest.known.mpr,fun parent named => forest.known.mp (below parent named)⟩
  · rintro ⟨fresh,below⟩
    rw [validate,if_neg (fresh ∘ forest.known.mp)]
    rcases named : observation.parent with _ | parent
    · rfl
    · have there := below parent named
      have apart : parent ≠ observation.id := fun same => fresh (same ▸ there)
      obtain ⟨other,member,rfl⟩ := List.mem_map.mp there
      obtain ⟨before,after,split⟩ := List.append_of_mem member
      obtain ⟨path,lineage,-,inside⟩ := forest.rooted before other after split
      have known := forest.known.mpr there
      simp only [if_neg apart,if_neg (not_not.mpr known)]
      exact walk_ok lineage (fun met => fresh (inside met)) (List.disjoint_nil_left _)

theorem Forest.appendAll (forest : Forest graph) (attempts : List CausalObservation) :
    Forest (graph.appendAll attempts) := by
  induction attempts generalizing graph with
  | nil => exact forest
  | cons observation rest ih => exact ih (forest.append observation)

/-- The graph holds what was appended to it and nothing else. -/
theorem observations_appendAll (graph : CausalGraph) (attempts : List CausalObservation) :
    (graph.appendAll attempts).observations = graph.observations ++ graph.appended attempts := by
  induction attempts generalizing graph with
  | nil => exact (List.append_nil _).symm
  | cons observation rest ih =>
    change ((graph.append observation).2.appendAll rest).observations = _
    rw [ih,appended]
    rcases checked : graph.validate observation with error | ⟨⟩
    · rw [append_error checked]
    · rw [append_ok checked]
      exact List.append_assoc ..

/-- Whatever is appended, the graph is a forest of exactly the observations whose append was
answered with `Ok`, in their order; its index has their parents, these lead to roots, and an
append that fails changes nothing. It succeeds for a new identity below an observation. -/
theorem appendAll_wellFormed (attempts : List CausalObservation) :
    (default.appendAll attempts).observations = default.appended attempts ∧
    Forest (default.appendAll attempts) ∧
    (∀ observation ∈ (default.appendAll attempts).observations,
      (default.appendAll attempts).Rooted observation.id) ∧
    (∀ observation error, ((default.appendAll attempts).append observation).1 = .error error →
      ((default.appendAll attempts).append observation).2 = default.appendAll attempts) ∧
    ∀ observation, ((default.appendAll attempts).append observation).1 = .ok () ↔
      observation.id ∉ (default.appended attempts).map (·.id) ∧
        ∀ parent, observation.parent = some parent →
          parent ∈ (default.appended attempts).map (·.id) := by
  have forest := default_forest.appendAll attempts
  have whole : (default.appendAll attempts).observations = default.appended attempts :=
    observations_appendAll default attempts
  refine ⟨whole,forest,?rooted,?unchanged,?answered⟩
  case rooted =>
    intro observation member
    obtain ⟨before,after,split⟩ := List.append_of_mem member
    exact forest.rooted before observation after split
  case unchanged =>
    intro observation error failed
    rcases checked : (default.appendAll attempts).validate observation with other | ⟨⟩
    · rw [append_error checked]
    · rw [append_ok checked] at failed
      cases failed
  case answered =>
    intro observation
    rw [← whole,← forest.accepts observation]
    rcases checked : (default.appendAll attempts).validate observation with other | ⟨⟩
    · simp [append_error checked]
    · simp [append_ok checked]

section Example

/-- A root, one below it and below that one a third; in between a repetition, an unknown parent
and an observation below itself. -/
def exampleAttempts : List CausalObservation := [
  ⟨⟨"plan"⟩,none,"plan",.default⟩,
  ⟨⟨"step"⟩,some ⟨"plan"⟩,"step",.default⟩,
  ⟨⟨"plan"⟩,some ⟨"step"⟩,"plan",.default⟩,
  ⟨⟨"stray"⟩,some ⟨"missing"⟩,"step",.default⟩,
  ⟨⟨"loop"⟩,some ⟨"loop"⟩,"step",.default⟩,
  ⟨⟨"call"⟩,some ⟨"step"⟩,"call",.default⟩]

theorem example_appended : (default.appended exampleAttempts).map (·.id) =
    [⟨"plan"⟩,⟨"step"⟩,⟨"call"⟩] := by
  simp [exampleAttempts,appended,append,validate,walk,parentOf,default,OrderedMap.containsKey,
    OrderedMap.get_insert]

theorem appendAll_wellFormed_example :
    (default.appendAll exampleAttempts).observations.map (·.id) = [⟨"plan"⟩,⟨"step"⟩,⟨"call"⟩] ∧
      (default.appendAll exampleAttempts).Rooted ⟨"call"⟩ := by
  obtain ⟨whole,-,rooted,-⟩ := appendAll_wellFormed exampleAttempts
  have ids := (congrArg (List.map (·.id)) whole).trans example_appended
  refine ⟨ids,?_⟩
  obtain ⟨observation,member,same⟩ := List.mem_map.mp (ids ▸ by simp :
    (⟨"call"⟩ : CausalId) ∈ (default.appendAll exampleAttempts).observations.map (·.id))
  exact same ▸ rooted observation member

end Example
end CausalGraph
end GaugeMesh
