import GaugeMesh.Json.OrderedMap
import GaugeMesh.Mesh.Discovery

/-! `federation.rs`: the federation with its four maps: tools and prompts by their aliases,
resources and templates by their virtual URIs. An update takes all of its entries or none. -/
namespace GaugeMesh.Catalog
open Json

structure FederatedTool where
  identity : CapabilityId
  nativeName : String
  «alias» : String
  description : String
  inputSchema : Value
  sideEffect : SideEffectClass
  fixtureResult : Value

structure FederatedResource where
  identity : CapabilityId
  virtualUri : String
  nativeUri : String
  name : String
  mimeType : String
  contents : String

structure FederatedPrompt where
  identity : CapabilityId
  nativeName : String
  «alias» : String
  description : String
  arguments : List String
  template : String

structure FederatedResourceTemplate where
  identity : CapabilityId
  virtualUriTemplate : String
  virtualPrefix : String
  nativeUriTemplate : String
  name : String
  description : String
  mimeType : Option String
  «variables» : List String

structure Federation where
  tools : OrderedMap FederatedTool
  resources : OrderedMap FederatedResource
  prompts : OrderedMap FederatedPrompt
  templates : OrderedMap FederatedResourceTemplate

inductive FederationError where
  | notFound
  | aliasCollision
  | cursorInvalid
  | cursorTooLarge
  deriving DecidableEq

def FederationError.text : FederationError → String
  | notFound => "GM_CAPABILITY_NOT_FOUND"
  | aliasCollision => "GM_CAPABILITY_ALIAS_COLLISION"
  | cursorInvalid => "GM_CURSOR_INVALID"
  | cursorTooLarge => "GM_CURSOR_TOO_LARGE"

/-- The map after an entry was offered under a key, and whether it was taken. -/
def insertNew (key : String) (value : α) (map : OrderedMap α) :
    OrderedMap α × Except FederationError Unit :=
  if map.containsKey key then (map,.error .aliasCollision) else (map.insert key value,.ok ())

/-- A key of the other map is a key of this one. -/
def collides (map other : OrderedMap α) : Bool := other.keys.any map.containsKey

namespace Federation

def default : Federation := ⟨.empty,.empty,.empty,.empty⟩

def merge (federation other : Federation) : Federation × Except FederationError Unit :=
  if collides federation.tools other.tools || collides federation.resources other.resources ||
      collides federation.prompts other.prompts || collides federation.templates other.templates then
    (federation,.error .aliasCollision)
  else
    ({ tools := federation.tools.extend other.tools
       resources := federation.resources.extend other.resources
       prompts := federation.prompts.extend other.prompts
       templates := federation.templates.extend other.templates },.ok ())

def insertTool (federation : Federation) (tool : FederatedTool) :
    Federation × Except FederationError Unit :=
  let inserted := insertNew tool.«alias» tool federation.tools
  ({ federation with tools := inserted.1 },inserted.2)

def insertResource (federation : Federation) (resource : FederatedResource) :
    Federation × Except FederationError Unit :=
  let inserted := insertNew resource.virtualUri resource federation.resources
  ({ federation with resources := inserted.1 },inserted.2)

def insertPrompt (federation : Federation) (prompt : FederatedPrompt) :
    Federation × Except FederationError Unit :=
  let inserted := insertNew prompt.«alias» prompt federation.prompts
  ({ federation with prompts := inserted.1 },inserted.2)

def insertTemplate (federation : Federation) (template : FederatedResourceTemplate) :
    Federation × Except FederationError Unit :=
  let inserted := insertNew template.virtualUriTemplate template federation.templates
  ({ federation with templates := inserted.1 },inserted.2)

def tool (federation : Federation) (name : String) : Except FederationError FederatedTool :=
  okOr (federation.tools.get name) .notFound

def resource (federation : Federation) (uri : String) : Except FederationError FederatedResource :=
  okOr (federation.resources.get uri) .notFound

def prompt (federation : Federation) (name : String) : Except FederationError FederatedPrompt :=
  okOr (federation.prompts.get name) .notFound

/-- Every federation that updates lead to, also those that failed. -/
inductive Reachable : Federation → Prop where
  | default : Reachable default
  | insertTool (tool : FederatedTool) : Reachable federation →
      Reachable (federation.insertTool tool).1
  | insertResource (resource : FederatedResource) : Reachable federation →
      Reachable (federation.insertResource resource).1
  | insertPrompt (prompt : FederatedPrompt) : Reachable federation →
      Reachable (federation.insertPrompt prompt).1
  | insertTemplate (template : FederatedResourceTemplate) : Reachable federation →
      Reachable (federation.insertTemplate template).1
  | merge : Reachable federation → Reachable other → Reachable (federation.merge other).1

end Federation

/-- Each key is the one its entry gives itself. -/
def KeyedBy (name : α → String) (map : OrderedMap α) : Prop :=
  ∀ key value, map.get key = some value → key = name value

section
variable {name : α → String} {map other : OrderedMap α} {key : String} {value : α}
  {error : FederationError}

theorem KeyedBy.empty : KeyedBy name (OrderedMap.empty) := by
  intro key value found
  cases found

theorem KeyedBy.insert (keyed : KeyedBy name map) (value : α) :
    KeyedBy name (map.insert (name value) value) := by
  intro key entry found
  rw [OrderedMap.get_insert] at found
  split at found
  · next same =>
    cases found
    exact same
  · exact keyed key entry found

theorem KeyedBy.insertNew (keyed : KeyedBy name map) (value : α) :
    KeyedBy name (insertNew (name value) value map).1 := by
  rw [Catalog.insertNew]
  split
  · exact keyed
  · exact keyed.insert value

theorem KeyedBy.extend (keyed : KeyedBy name map) (keyed' : KeyedBy name other) :
    KeyedBy name (map.extend other) := by
  intro key value found
  rw [OrderedMap.get_extend,Option.or_eq_some_iff] at found
  rcases found with joined | ⟨-,old⟩
  · exact keyed' key value joined
  · exact keyed key value old

theorem insertNew_error (refused : (insertNew key value map).2 = .error error) :
    (insertNew key value map).1 = map := by
  rw [insertNew] at refused ⊢
  split
  · rfl
  · next absent => rw [if_neg absent] at refused; cases refused

theorem collides_false (apart : collides map other = false) :
    ∀ key, other.containsKey key → ¬map.containsKey key := by
  intro key there here
  have member := OrderedMap.mem_keys.mpr there
  rw [collides,List.any_eq_false] at apart
  exact apart key member here

end

namespace Federation

variable {federation other : Federation} {error : FederationError}

structure Named (federation : Federation) : Prop where
  tools : KeyedBy FederatedTool.alias federation.tools
  resources : KeyedBy FederatedResource.virtualUri federation.resources
  prompts : KeyedBy FederatedPrompt.alias federation.prompts
  templates : KeyedBy FederatedResourceTemplate.virtualUriTemplate federation.templates

theorem Reachable.named (reachable : Reachable federation) : federation.Named := by
  induction reachable with
  | default => exact ⟨.empty,.empty,.empty,.empty⟩
  | insertTool tool _ ih => exact { ih with tools := ih.tools.insertNew tool }
  | insertResource resource _ ih => exact { ih with resources := ih.resources.insertNew resource }
  | insertPrompt prompt _ ih => exact { ih with prompts := ih.prompts.insertNew prompt }
  | insertTemplate template _ ih => exact { ih with templates := ih.templates.insertNew template }
  | merge _ _ ih ih' =>
    rw [Federation.merge]
    split
    · exact ih
    · exact ⟨ih.tools.extend ih'.tools,ih.resources.extend ih'.resources,
        ih.prompts.extend ih'.prompts,ih.templates.extend ih'.templates⟩

theorem merge_error (refused : (federation.merge other).2 = .error error) :
    (federation.merge other).1 = federation := by
  rw [merge] at refused ⊢
  split
  · rfl
  · next apart => rw [if_neg apart] at refused; cases refused

/-- All four maps have the look-ups of both sides. -/
structure Joined (federation other merged : Federation) : Prop where
  tools : OrderedMap.Joins federation.tools other.tools merged.tools
  resources : OrderedMap.Joins federation.resources other.resources merged.resources
  prompts : OrderedMap.Joins federation.prompts other.prompts merged.prompts
  templates : OrderedMap.Joins federation.templates other.templates merged.templates

theorem merge_ok (merged : (federation.merge other).2 = .ok ()) :
    Joined federation other (federation.merge other).1 := by
  rw [merge] at merged ⊢
  split at merged
  · cases merged
  · next apart =>
    simp only [Bool.or_eq_true,not_or,Bool.not_eq_true] at apart
    obtain ⟨⟨⟨tools,resources⟩,prompts⟩,templates⟩ := apart
    simp only [tools,resources,prompts,templates,Bool.or_self,Bool.false_eq_true,↓reduceIte]
    exact ⟨OrderedMap.joins_extend (collides_false tools),
      OrderedMap.joins_extend (collides_false resources),
      OrderedMap.joins_extend (collides_false prompts),
      OrderedMap.joins_extend (collides_false templates)⟩

/-- In a reachable federation every key is its entry's own; an update that fails changes
nothing, and a merge that does not keeps the look-ups of both sides and adds none. -/
theorem updates_all_or_nothing (reachable : Reachable federation) :
    federation.Named ∧
    (∀ tool error, (federation.insertTool tool).2 = .error error →
      (federation.insertTool tool).1 = federation) ∧
    (∀ resource error, (federation.insertResource resource).2 = .error error →
      (federation.insertResource resource).1 = federation) ∧
    (∀ prompt error, (federation.insertPrompt prompt).2 = .error error →
      (federation.insertPrompt prompt).1 = federation) ∧
    (∀ template error, (federation.insertTemplate template).2 = .error error →
      (federation.insertTemplate template).1 = federation) ∧
    ∀ other, Reachable other →
      (∀ error, (federation.merge other).2 = .error error →
        (federation.merge other).1 = federation) ∧
      ((federation.merge other).2 = .ok () → Joined federation other (federation.merge other).1) := by
  refine ⟨reachable.named,?_,?_,?_,?_,fun other _ => ⟨fun _ => merge_error,merge_ok⟩⟩
  · intro tool error refused
    simp only [insertTool,insertNew_error refused]
  · intro resource error refused
    simp only [insertResource,insertNew_error refused]
  · intro prompt error refused
    simp only [insertPrompt,insertNew_error refused]
  · intro template error refused
    simp only [insertTemplate,insertNew_error refused]

end Federation

/-- What the callers of a tool use of it. -/
def FederatedTool.core (tool : FederatedTool) : GaugeMesh.FederatedTool :=
  ⟨tool.identity,tool.nativeName,tool.inputSchema,tool.sideEffect,tool.fixtureResult⟩

namespace Federation

def core (federation : Federation) : GaugeMesh.Federation :=
  ⟨federation.tools.entries.map (Prod.map id FederatedTool.core)⟩

/-- A result of an update, for the tools alone. -/
def coreResult (updated : Federation × Except FederationError Unit) :
    Except String GaugeMesh.Federation :=
  match updated.2 with
  | .ok () => .ok updated.1.core
  | .error error => .error error.text

variable (federation other : Federation)

theorem core_containsTool (key : String) :
    federation.core.containsTool key = federation.tools.containsKey key := by
  rw [Bool.eq_iff_iff,GaugeMesh.Federation.containsTool_iff,← OrderedMap.mem_keys,core,
    OrderedMap.keys,List.map_map]
  exact Iff.of_eq (congrArg (key ∈ ·) (List.map_congr_left fun _ _ => rfl))

theorem core_insertTool (tool : FederatedTool) :
    federation.core.insertTool tool.«alias» tool.core = coreResult (federation.insertTool tool) := by
  rw [GaugeMesh.Federation.insertTool,core_containsTool,coreResult,insertTool,insertNew]
  by_cases there : federation.tools.containsKey tool.«alias»
  · simp only [there,↓reduceIte]
    rfl
  · simp only [there,Bool.false_eq_true,↓reduceIte,core,OrderedMap.insert,Entries.insert_map]

theorem core_merge :
    federation.core.merge other.core (!(collides federation.resources other.resources ||
      collides federation.prompts other.prompts || collides federation.templates other.templates)) =
      coreResult (federation.merge other) := by
  have keys : (other.core.tools.any fun entry => federation.core.containsTool entry.1) =
      collides federation.tools other.tools := by
    have contained : (fun entry : String × GaugeMesh.FederatedTool =>
        federation.core.containsTool entry.1) = fun entry => federation.tools.containsKey entry.1 :=
      funext fun entry => core_containsTool federation entry.1
    rw [contained,core,collides,OrderedMap.keys,List.any_map,List.any_map]
    rfl
  rw [GaugeMesh.Federation.merge,keys,coreResult,merge]
  by_cases tools : collides federation.tools other.tools
  · simp only [tools,true_or,↓reduceIte,Bool.true_or]
    rfl
  · rw [Bool.not_eq_true] at tools
    simp only [tools,Bool.false_eq_true,false_or,Bool.false_or,Bool.not_eq_true]
    by_cases others : (collides federation.resources other.resources ||
      collides federation.prompts other.prompts || collides federation.templates other.templates)
    · simp only [others,Bool.not_true,↓reduceIte]
      rfl
    · rw [Bool.not_eq_true] at others
      simp only [others,Bool.not_false,Bool.true_eq_false,↓reduceIte,Bool.false_eq_true]
      simp only [core,OrderedMap.extend_map]

end Federation

def docsTool : FederatedTool :=
  ⟨⟨⟨"docs"⟩,.tool,⟨[]⟩,⟨[]⟩,⟨"2026-07-28"⟩,⟨[]⟩⟩,"search","docs__search","",.object [],.readOnly,.null⟩

def docsFederation : Federation := (Federation.default.insertTool docsTool).1

theorem updates_all_or_nothing_docs :
    (docsFederation.merge docsFederation).2 = .error .aliasCollision ∧
      (docsFederation.merge docsFederation).1 = docsFederation := by
  have reachable : docsFederation.Reachable := .insertTool docsTool .default
  have refused : (docsFederation.merge docsFederation).2 = .error .aliasCollision := rfl
  have updates := Federation.updates_all_or_nothing reachable
  exact ⟨refused,(updates.2.2.2.2.2 docsFederation reachable).1 _ refused⟩

end GaugeMesh.Catalog
