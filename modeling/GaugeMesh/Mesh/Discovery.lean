import GaugeMesh.Config.Config
import GaugeMesh.Proxy.Answers

/-! `federation.rs` and `outbound.rs`: how the tools of the configured sources are discovered
and put together under their aliases. What a source answers is left open; of its resources,
templates and prompts only whether they were taken in. -/
namespace GaugeMesh
open Json GaugeMesh.Configuration

/-- The normal form NFC, a library. -/
class UnicodeNormalization where
  nfc : String → String

/-- A character that an alias keeps. -/
def plainCharacter (c : Char) : Bool := c.isAlphanum || c = '_' || c = '-'

/-- The alias of a name under a source. -/
def aliasOf (source nativeName : String) : String :=
  String.ofList (source.toList ++ ['_','_'] ++
    nativeName.toList.map fun c => if plainCharacter c then c else '_')

namespace CapabilityId

def new [UnicodeNormalization] [Sha256] (source : SourceId) (kind : CapabilityKind)
    (nativeIdentity : String) (schemaDigest : Sha256Digest) (revision : CapabilityRevision)
    (sourceConfigurationDigest : Sha256Digest) : CapabilityId :=
  ⟨source,kind,.ofStr (UnicodeNormalization.nfc nativeIdentity),schemaDigest,revision,
    sourceConfigurationDigest⟩

def readableAlias (c : CapabilityId) (nativeName : String) : String :=
  aliasOf c.source.text nativeName

end CapabilityId

namespace Federation

def aliasCollision : String := "GM_CAPABILITY_ALIAS_COLLISION"

def containsTool (federation : Federation) (key : String) : Bool :=
  federation.tools.any fun entry => entry.1 == key

def insertTool (federation : Federation) (key : String) (tool : FederatedTool) :
    Except String Federation :=
  if federation.containsTool key then .error aliasCollision
  else .ok ⟨Entries.insert key tool federation.tools⟩

/-- `others` tells whether the other three maps have no key in common. -/
def merge (federation other : Federation) (others : Bool) : Except String Federation :=
  if other.tools.any (fun entry => federation.containsTool entry.1) ∨ ¬others then
    .error aliasCollision
  else .ok ⟨other.tools.foldl (fun tools entry => Entries.insert entry.1 entry.2 tools)
    federation.tools⟩

def rmcpTools (federation : Federation) : List String := federation.tools.map Prod.fst

end Federation

structure ToolAnnotations where
  readOnlyHint : Option Bool
  idempotentHint : Option Bool

/-- A tool as its source describes it; `json` is the whole description. -/
structure McpTool where
  name : String
  inputSchema : Value
  annotations : Option ToolAnnotations
  json : Value

structure CapturedDiscovery where
  tools : List McpTool
  protocolRevision : String
  capabilityManifestDigest : Sha256Digest
  othersTaken : Bool
  othersMerged : Bool

def McpTool.sideEffect (tool : McpTool) : SideEffectClass :=
  match tool.annotations with
  | some annotations =>
    if annotations.readOnlyHint = some true then .readOnly
    else if annotations.idempotentHint = some true then .idempotentWrite
    else .nonIdempotentWrite
  | none => .nonIdempotentWrite

variable [FloatText] [Sha256] [UnicodeNormalization]

/-- The tool of one round of `add_source_capabilities`. -/
def federatedTool (source : McpSourceConfig) (revision : String) (tool : McpTool) : FederatedTool where
  identity := .new ⟨source.id⟩ .tool tool.name (.ofJson tool.json) ⟨revision⟩ (.ofJson source.encode)
  nativeName := tool.name
  inputSchema := tool.inputSchema
  sideEffect := tool.sideEffect
  fixtureResult := .null

def addTools (source : McpSourceConfig) (revision : String) :
    Federation → List McpTool → Except String Federation
  | federation, [] => .ok federation
  | federation, tool :: rest => do
    reject (tool.inputSchema.byteLength > 256 * 1024) "GM_MCP_UPSTREAM_METADATA_TOO_LARGE"
    let entry := federatedTool source revision tool
    let federation ← federation.insertTool (entry.identity.readableAlias tool.name) entry
    addTools source revision federation rest

def addSourceCapabilities (source : McpSourceConfig) (discovered : CapturedDiscovery) :
    Except String Federation := do
  let federation ← addTools source discovered.protocolRevision ⟨[]⟩ discovered.tools
  reject (¬discovered.othersTaken) Federation.aliasCollision
  return federation

/-- A connected and discovered source joins the federation, or fails with an error. -/
def joinSource (source : McpSourceConfig) (federation : Federation)
    (connected : Except String CapturedDiscovery) : Except String Federation := do
  let discovered ← connected
  let own ← addSourceCapabilities source discovered
  reject (source.capabilitySnapshotDigest.any (· ≠ discovered.capabilityManifestDigest))
    "GM_MCP_UPSTREAM_IDENTITY_CHANGED"
  federation.merge own discovered.othersMerged

/-- The federation and the ids of the active sources. -/
def connectConfiguredSources (connect : McpSourceConfig → Except String CapturedDiscovery)
    (mode : DiscoveryMode) (federation : Federation) (active : List String) :
    List McpSourceConfig → Except String (Federation × List String)
  | [] => .ok (federation,active)
  | source :: rest =>
    match joinSource source federation (connect source) with
    | .ok joined => connectConfiguredSources connect mode joined (active ++ [source.id]) rest
    | .error error =>
      if mode = .strict then .error error
      else connectConfiguredSources connect mode federation active rest

/-- Every tool stands once, under its own alias, and comes from one of the sources. -/
structure Federation.Aliased (federation : Federation) (sources : List String) : Prop where
  distinct : (federation.tools.map Prod.fst).Nodup
  named : ∀ entry ∈ federation.tools, entry.1 = entry.2.identity.readableAlias entry.2.nativeName
  sourced : ∀ entry ∈ federation.tools, entry.2.identity.source.text ∈ sources

omit [FloatText] [Sha256] [UnicodeNormalization]

namespace Federation

theorem containsTool_iff (federation : Federation) (key : String) :
    federation.containsTool key ↔ key ∈ federation.tools.map Prod.fst := by
  simp [containsTool]

theorem Aliased.insert {federation : Federation} {sources : List String}
    (aliased : federation.Aliased sources) (tool : FederatedTool)
    (absent : tool.identity.readableAlias tool.nativeName ∉ federation.tools.map Prod.fst)
    (sourced : tool.identity.source.text ∈ sources) :
    (⟨Entries.insert (tool.identity.readableAlias tool.nativeName) tool federation.tools⟩ :
      Federation).Aliased sources := by
  have perm := Entries.insert_perm tool absent
  refine ⟨?_,fun entry member => ?_,fun entry member => ?_⟩
  · rw [(perm.map Prod.fst).nodup_iff]
    exact List.nodup_cons.mpr ⟨absent,aliased.distinct⟩
  · rcases List.mem_cons.mp (perm.mem_iff.mp member) with rfl | old
    · rfl
    · exact aliased.named entry old
  · rcases List.mem_cons.mp (perm.mem_iff.mp member) with rfl | old
    · exact sourced
    · exact aliased.sourced entry old

theorem Aliased.mono {federation : Federation} {sources more : List String}
    (aliased : federation.Aliased sources) (subset : sources ⊆ more) : federation.Aliased more :=
  ⟨aliased.distinct,aliased.named,fun entry member => subset (aliased.sourced entry member)⟩

theorem aliased_empty (sources : List String) : (⟨[]⟩ : Federation).Aliased sources :=
  ⟨.nil,by simp,by simp⟩

/-- Tools of another federation with other aliases may all be inserted. -/
theorem Aliased.fold {federation : Federation} {sources : List String}
    (aliased : federation.Aliased sources) {entries : Entries FederatedTool}
    (distinct : (entries.map Prod.fst).Nodup)
    (apart : ∀ entry ∈ entries, entry.1 ∉ federation.tools.map Prod.fst)
    (named : ∀ entry ∈ entries, entry.1 = entry.2.identity.readableAlias entry.2.nativeName)
    (sourced : ∀ entry ∈ entries, entry.2.identity.source.text ∈ sources) :
    (⟨entries.foldl (fun tools entry => Entries.insert entry.1 entry.2 tools) federation.tools⟩ :
      Federation).Aliased sources := by
  induction entries generalizing federation with
  | nil => exact aliased
  | cons entry rest ih =>
    obtain ⟨first,others⟩ := List.nodup_cons.mp distinct
    have absent := apart entry (by simp)
    have name := named entry (by simp)
    rw [name] at absent
    have next := aliased.insert _ absent (sourced entry (by simp))
    rw [List.foldl_cons]
    have perm := Entries.insert_perm entry.2 absent
    rw [name]
    refine ih next others (fun other member inside => ?_)
      (fun other member => named other (List.mem_cons_of_mem _ member))
      (fun other member => sourced other (List.mem_cons_of_mem _ member))
    rw [(perm.map Prod.fst).mem_iff,List.map_cons,List.mem_cons] at inside
    rcases inside with same | old
    · exact first (List.mem_map.mpr ⟨other,member,same.trans name.symm⟩)
    · exact apart other (List.mem_cons_of_mem _ member) old

theorem Aliased.merge {federation other next : Federation} {sources : List String} {others : Bool}
    (aliased : federation.Aliased sources) (joining : other.Aliased sources)
    (merged : federation.merge other others = .ok next) : next.Aliased sources := by
  rw [Federation.merge] at merged
  split at merged
  · cases merged
  · next apart =>
    cases merged
    refine aliased.fold joining.distinct (fun entry member => ?_) joining.named joining.sourced
    rw [← containsTool_iff]
    intro inside
    exact apart (.inl (List.any_eq_true.mpr ⟨entry,member,inside⟩))

/-- A tool is found under its alias. -/
theorem Aliased.tool {federation : Federation} {sources : List String}
    (aliased : federation.Aliased sources) {key : String} {entry : FederatedTool}
    (member : (key,entry) ∈ federation.tools) : federation.tool key = some entry := by
  have distinct := aliased.distinct
  rw [Federation.tool]
  generalize federation.tools = tools at member distinct
  induction tools with
  | nil => cases member
  | cons head rest ih =>
    obtain ⟨first,others⟩ := List.nodup_cons.mp distinct
    rcases List.mem_cons.mp member with rfl | later
    · simp
    · have other : head.1 ≠ key := by
        rintro rfl
        exact first (List.mem_map.mpr ⟨_,later,rfl⟩)
      rw [List.find?_cons_of_neg (by simpa using other)]
      exact ih later others

end Federation

variable [FloatText] [Sha256] [UnicodeNormalization]

theorem addTools_aliased {source : McpSourceConfig} {revision : String} {tools : List McpTool}
    {federation next : Federation} (aliased : federation.Aliased [source.id])
    (added : addTools source revision federation tools = .ok next) : next.Aliased [source.id] := by
  induction tools generalizing federation with
  | nil =>
    cases added
    exact aliased
  | cons tool rest ih =>
    simp only [addTools,Except.bind_ok] at added
    obtain ⟨_,_,joined,inserted,added⟩ := added
    rw [Federation.insertTool] at inserted
    split at inserted
    · cases inserted
    · next absent =>
      rw [Federation.containsTool_iff] at absent
      cases inserted
      exact ih (aliased.insert (federatedTool source revision tool) absent
        (List.mem_singleton.mpr rfl)) added

theorem joinSource_aliased {source : McpSourceConfig} {federation next : Federation}
    {sources : List String} {connected : Except String CapturedDiscovery}
    (aliased : federation.Aliased sources) (joined : joinSource source federation connected = .ok next) :
    next.Aliased (sources ++ [source.id]) := by
  simp only [joinSource,addSourceCapabilities,Except.bind_ok] at joined
  obtain ⟨discovered,_,own,⟨added,tools,_,_,same⟩,_,_,merged⟩ := joined
  cases same
  have joining := addTools_aliased (Federation.aliased_empty [source.id]) tools
  exact (aliased.mono (by simp)).merge (joining.mono (by simp)) merged

/-- Discovery puts every tool under its own alias, and every tool has an active source. -/
theorem connectConfiguredSources_aliased
    {connect : McpSourceConfig → Except String CapturedDiscovery} {mode : DiscoveryMode}
    {sources : List McpSourceConfig} {federation next : Federation} {active ids : List String}
    (aliased : federation.Aliased active)
    (connected : connectConfiguredSources connect mode federation active sources = .ok (next,ids)) :
    next.Aliased ids := by
  induction sources generalizing federation active with
  | nil =>
    cases connected
    exact aliased
  | cons source rest ih =>
    rw [connectConfiguredSources] at connected
    split at connected
    · next joined same => exact ih (joinSource_aliased aliased same) connected
    · split at connected
      · cases connected
      · exact ih aliased connected

end GaugeMesh
