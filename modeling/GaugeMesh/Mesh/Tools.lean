import GaugeMesh.Json.Reference
import GaugeMesh.Lease.MetaTools
import GaugeMesh.Mesh.Discovery

/-! `mcp.rs`: the names that the server lists and where a call by name goes. Every name that
begins as the names of the meta tools do is taken for one of them, so the tools of a source
whose id makes their aliases begin like that are listed and cannot be called. -/
namespace GaugeMesh
open Json GaugeMesh.Configuration

inductive MeshTool where
  | search
  | describe
  | lease
  | invoke
  | submit
  | release
  | run
  deriving DecidableEq

namespace MeshTool

def name : MeshTool → String
  | search => "gaugemesh_search"
  | describe => "gaugemesh_describe"
  | lease => "gaugemesh_lease"
  | invoke => "gaugemesh_invoke"
  | submit => "gaugemesh_submit"
  | release => "gaugemesh_release"
  | run => "gaugemesh_run"

/-- In the order of the list. -/
def all : List MeshTool := [search,describe,lease,invoke,submit,release,run]

/-- The arm of `call_meta_tool`. -/
def ofName (name : String) : Option MeshTool := all.find? fun tool => tool.name == name

theorem ofName_name (tool : MeshTool) : ofName tool.name = some tool := by
  cases tool <;> decide

end MeshTool

/-- The server with the conformance fixture off. -/
structure MeshMcpServer extends MeshServer where
  capabilityMode : CapabilityMode
  runs : Bool

/-- Where a call goes on. -/
inductive ToolDispatch where
  | metaTool (tool : MeshTool) (arguments : Option JsonObject)
  | toolError (code : String)
  | invalidRequest (code : String)
  | invalidParams (code : String)
  | upstream (source : SourceId) (name : String) (arguments : Option JsonObject)
  | fixture (tool : FederatedTool) (arguments : Option JsonObject)
  deriving DecidableEq

def metaPrefix : List Char := ['g','a','u','g','e','m','e','s','h','_']

namespace MeshMcpServer

def pageSize : Nat := 128

/-- All names, before they are cut into pages. -/
def toolNames (server : MeshMcpServer) (clientSupportsTasks : Bool) : List String :=
  let exposeTaskSubmission := server.taskProxy.isSome && clientSupportsTasks
  (if server.capabilityMode = .transparent then server.federation.rmcpTools else []) ++
    (MeshTool.all.filter fun tool => (exposeTaskSubmission || tool ≠ .submit) &&
      (exposeTaskSubmission && server.runs || tool ≠ .run)).map MeshTool.name

/-- The page at the position that the cursor holds, the first without a cursor. -/
def listTools (server : MeshMcpServer) (clientSupportsTasks : Bool) (start : Nat) : List String :=
  ((server.toolNames clientSupportsTasks).drop start).take pageSize

def callMetaTool (name : String) (arguments : Option JsonObject) : ToolDispatch :=
  match MeshTool.ofName name with
  | some tool => .metaTool tool arguments
  | none => .toolError Federation.notFound

def callTool (server : MeshMcpServer) (name : String) (arguments : Option JsonObject) :
    ToolDispatch :=
  if metaPrefix.isPrefixOf name.toList then callMetaTool name arguments
  else if server.capabilityMode = .lease then .invalidRequest "GM_CAPABILITY_LEASE_REQUIRED"
  else
    match server.federation.tool name with
    | none => .invalidParams Federation.notFound
    | some tool =>
      if server.upstreams.any fun contains => contains tool.identity.source then
        .upstream tool.identity.source tool.nativeName arguments
      else .fixture tool arguments

end MeshMcpServer

/-- What the configuration leaves open: the stores, and which active sources take tasks. -/
structure Environment where
  connect : McpSourceConfig → Except String CapturedDiscovery
  sqlite : Bool
  takesTasks : String → Bool

section
variable [FloatText] [Sha256] [UnicodeNormalization]

/-- The two fixtures that stand in when no source is configured. -/
def demoTool (source result : String) : FederatedTool where
  identity := .new ⟨source⟩ .tool "search" (.ofJson demoSchema) ⟨"2026-07-28"⟩
    (.ofStr ("fixture:" ++ source))
  nativeName := "search"
  inputSchema := demoSchema
  sideEffect := .readOnly
  fixtureResult := .object [("result",toValue result),("source",toValue source)]
where
  demoSchema : Value := .object [
    ("additionalProperties",toValue false),
    ("properties",.object [("query",.object [("type",toValue "string")])]),
    ("required",toValue ["query"]),
    ("type",toValue "object")]

def Federation.demo : Federation :=
  ⟨[("docs-a__search",demoTool "docs-a" "alpha result"),
    ("docs-b__search",demoTool "docs-b" "beta result")]⟩

/-- The server of a configuration; with sources, its tools are those that were discovered. -/
def runtimeMcp (environment : Environment) (config : Config) : Except String MeshMcpServer :=
  if config.mcpSources.isEmpty then
    .ok ⟨⟨.demo,none,none⟩,config.capabilityMode,false⟩
  else do
    let (federation,active) ← connectConfiguredSources environment.connect config.discoveryMode
      ⟨[]⟩ [] config.mcpSources
    let takes := fun source : SourceId => active.contains source.text &&
      environment.takesTasks source.text
    let proxy := if environment.sqlite && active.any environment.takesTasks then some takes else none
    return ⟨⟨federation,some fun source => active.contains source.text,proxy⟩,
      config.capabilityMode,environment.sqlite⟩

end

/-- An id whose aliases are taken for meta tools. -/
def Reserved (id : String) : Prop :=
  id.toList = metaPrefix.dropLast ∨ metaPrefix.isPrefixOf id.toList

instance (id : String) : Decidable (Reserved id) := inferInstanceAs (Decidable (_ ∨ _))

theorem prefix_reserved (id rest : List Char) :
    metaPrefix <+: id ++ '_' :: '_' :: rest ↔ id = metaPrefix.dropLast ∨ metaPrefix <+: id := by
  constructor
  · intro begins
    have shared := List.prefix_or_prefix_of_prefix begins (List.prefix_append id ('_' :: '_' :: rest))
    rcases shared with inside | ⟨tail,whole⟩
    · exact .inr inside
    · cases tail with
      | nil => exact .inr ⟨[],by simpa using whole.symm⟩
      | cons c tail =>
        rw [← whole,List.prefix_append_right_inj,List.cons_prefix_cons] at begins
        have underscore : metaPrefix[id.length]? = some '_' := by simp [← whole,begins.1]
        have front : metaPrefix.take id.length = id := by simp [← whole]
        have short : id.length < 10 := by
          have length := congrArg List.length whole
          simp only [List.length_append,List.length_cons] at length
          change _ = 10 at length
          omega
        -- The only underscore of the prefix is its last character.
        have last : ∀ n < 10, metaPrefix[n]? = some '_' → metaPrefix.take n = metaPrefix.dropLast := by
          decide
        exact .inl (front.symm.trans (last id.length short underscore))
  · rintro (rfl | ⟨tail,rfl⟩)
    · exact ⟨'_' :: rest,rfl⟩
    · exact ⟨tail ++ '_' :: '_' :: rest,by simp⟩

theorem alias_reserved (c : CapabilityId) (nativeName : String) :
    metaPrefix.isPrefixOf (c.readableAlias nativeName).toList ↔ Reserved c.source.text := by
  simp only [CapabilityId.readableAlias,aliasOf,Reserved,String.toList_ofList,List.isPrefixOf_iff_prefix,
    List.append_assoc,List.cons_append,List.nil_append,prefix_reserved]

/-- No alias is the name of a meta tool: it has two underscores in a row. -/
theorem alias_ne_meta (c : CapabilityId) (nativeName : String) (tool : MeshTool) :
    c.readableAlias nativeName ≠ tool.name := by
  intro same
  have apart : ¬['_','_'] <:+: tool.name.toList := by cases tool <;> decide
  refine apart ⟨c.source.text.toList,nativeName.toList.map fun c => if plainCharacter c then c else '_',?_⟩
  rw [← same,CapabilityId.readableAlias,aliasOf,String.toList_ofList]

namespace MeshMcpServer

/-- A call by the name goes to the very tool it is listed for, whatever the arguments. -/
structure Reaches (server : MeshMcpServer) (name : String) : Prop where
  federated : ∀ tool, (name,tool) ∈ server.federation.tools → ∀ arguments,
    server.callTool name arguments =
      if server.upstreams.isSome then .upstream tool.identity.source tool.nativeName arguments
      else .fixture tool arguments
  metaTools : ∀ tool : MeshTool, tool.name = name → ∀ arguments,
    server.callTool name arguments = .metaTool tool arguments

/-- What is known of the server of a configuration. -/
structure Configured (server : MeshMcpServer) : Prop where
  aliased : ∃ sources, server.federation.Aliased sources
  sourced : ∀ contains, server.upstreams = some contains →
    ∀ entry ∈ server.federation.tools, contains entry.2.identity.source

theorem callTool_meta (server : MeshMcpServer) (tool : MeshTool) (arguments : Option JsonObject) :
    server.callTool tool.name arguments = .metaTool tool arguments := by
  have begins : metaPrefix.isPrefixOf tool.name.toList = true := by cases tool <;> decide
  rw [callTool,if_pos begins,callMetaTool,MeshTool.ofName_name]

/-- A listed name comes from the federation or from the meta tools. -/
theorem listTools_cases {server : MeshMcpServer} {clientSupportsTasks : Bool} {start : Nat}
    {name : String} (listed : name ∈ server.listTools clientSupportsTasks start) :
    (∃ tool, (name,tool) ∈ server.federation.tools) ∨ ∃ tool : MeshTool, tool.name = name := by
  have member := List.mem_of_mem_drop (List.mem_of_mem_take listed)
  rw [toolNames] at member
  rcases List.mem_append.mp member with federated | metaTool
  · split at federated
    · obtain ⟨entry,inside,rfl⟩ := List.mem_map.mp federated
      exact .inl ⟨entry.2,inside⟩
    · cases federated
  · obtain ⟨tool,_,same⟩ := List.mem_map.mp metaTool
    exact .inr ⟨tool,same⟩

/-- In transparent mode every alias is on one of the pages. -/
theorem listTools_federated {server : MeshMcpServer} (transparent : server.capabilityMode = .transparent)
    (clientSupportsTasks : Bool) {entry : String × FederatedTool}
    (member : entry ∈ server.federation.tools) :
    ∃ page, entry.1 ∈ server.listTools clientSupportsTasks (page * pageSize) := by
  have among : entry.1 ∈ server.toolNames clientSupportsTasks := by
    rw [toolNames,if_pos transparent]
    exact List.mem_append_left _ (List.mem_map_of_mem member)
  obtain ⟨i,bound,found⟩ := List.mem_iff_getElem.mp among
  refine ⟨i / pageSize,?_⟩
  rw [listTools,List.mem_iff_getElem?]
  have whole := Nat.div_add_mod i pageSize
  have small : i % pageSize < pageSize := Nat.mod_lt _ (by decide)
  refine ⟨i % pageSize,?_⟩
  rw [List.getElem?_take_of_lt small,List.getElem?_drop,Nat.mul_comm,whole]
  exact List.getElem?_eq_some_iff.mpr ⟨bound,found⟩

/-- The alias of a source with an ordinary id leads to the tool. -/
theorem Configured.reaches {server : MeshMcpServer} (configured : server.Configured)
    (transparent : server.capabilityMode = .transparent) {key : String} {tool : FederatedTool}
    (member : (key,tool) ∈ server.federation.tools) (free : ¬Reserved tool.identity.source.text) :
    server.Reaches key := by
  obtain ⟨sources,aliased⟩ := configured.aliased
  have name : key = tool.identity.readableAlias tool.nativeName := aliased.named _ member
  have plain : ¬metaPrefix.isPrefixOf key.toList = true := by rwa [name,alias_reserved]
  have mode : ¬server.capabilityMode = .lease := by simp [transparent]
  constructor
  · intro other inside arguments
    have found := aliased.tool inside
    rw [callTool,if_neg plain,if_neg mode,found]
    cases upstreams : server.upstreams with
    | none => simp
    | some contains =>
      have known := configured.sourced contains upstreams _ inside
      simp only [Option.any_some,known,↓reduceIte,Option.isSome_some]
  · intro metaTool same
    exact absurd (name ▸ same.symm) (alias_ne_meta _ _ metaTool)

theorem Configured.lost {server : MeshMcpServer} (configured : server.Configured)
    {key : String} {tool : FederatedTool} (member : (key,tool) ∈ server.federation.tools)
    (reserved : Reserved tool.identity.source.text) : ¬server.Reaches key := by
  obtain ⟨sources,aliased⟩ := configured.aliased
  have name : key = tool.identity.readableAlias tool.nativeName := aliased.named _ member
  have begins : metaPrefix.isPrefixOf key.toList = true := by rwa [name,alias_reserved]
  intro reaches
  have routed := reaches.federated tool member none
  rw [callTool,if_pos begins,callMetaTool] at routed
  cases known : MeshTool.ofName key <;> cases upstreams : server.upstreams <;>
    simp [known,upstreams] at routed

theorem Configured.listed {server : MeshMcpServer} (configured : server.Configured)
    (transparent : server.capabilityMode = .transparent) :
    (∀ clientSupportsTasks page name, name ∈ server.listTools clientSupportsTasks (page * pageSize) →
      server.Reaches name) ↔
    ∀ entry ∈ server.federation.tools, ¬Reserved entry.2.identity.source.text := by
  constructor
  · intro all entry member reserved
    obtain ⟨page,listed⟩ := listTools_federated transparent false member
    exact configured.lost member reserved (all false page entry.1 listed)
  · intro free clientSupportsTasks page name listed
    rcases listTools_cases listed with ⟨tool,member⟩ | ⟨tool,rfl⟩
    · exact configured.reaches transparent member (free _ member)
    · obtain ⟨sources,aliased⟩ := configured.aliased
      refine ⟨fun other member => ?_,fun other same arguments => ?_⟩
      · exact absurd (aliased.named _ member).symm (alias_ne_meta _ _ tool)
      · rw [← same]
        exact callTool_meta server other arguments

end MeshMcpServer

section Started
variable [FloatText] [Sha256] [UnicodeNormalization]

theorem demo_aliased : Federation.demo.Aliased ["docs-a","docs-b"] := by
  refine ⟨by simp [Federation.demo],?_,?_⟩ <;> intro entry member <;>
    simp only [Federation.demo,List.mem_cons,List.not_mem_nil,or_false] at member <;>
    rcases member with rfl | rfl
  · exact (by decide : "docs-a__search" = aliasOf "docs-a" "search")
  · exact (by decide : "docs-b__search" = aliasOf "docs-b" "search")
  · simp [demoTool,CapabilityId.new]
  · simp [demoTool,CapabilityId.new]

theorem runtimeMcp_configured {environment : Environment} {config : Config} {server : MeshMcpServer}
    (started : runtimeMcp environment config = .ok server) :
    server.Configured ∧ server.capabilityMode = config.capabilityMode := by
  rw [runtimeMcp] at started
  split at started
  · cases started
    exact ⟨⟨⟨_,demo_aliased⟩,by simp⟩,rfl⟩
  · simp only [Except.bind_ok] at started
    obtain ⟨⟨federation,active⟩,connected,same⟩ := started
    cases same
    have aliased := connectConfiguredSources_aliased (Federation.aliased_empty []) connected
    refine ⟨⟨⟨active,aliased⟩,?_⟩,rfl⟩
    rintro contains ⟨⟩ entry member
    simpa using aliased.sourced entry member

/-- Every listed name leads to its tool exactly when no tool comes from a source whose id is
`gaugemesh` or begins with `gaugemesh_`. -/
theorem listed_tools_reachable {environment : Environment} {config : Config}
    {server : MeshMcpServer} (transparent : config.capabilityMode = .transparent)
    (started : runtimeMcp environment config = .ok server) :
    (∀ clientSupportsTasks page name,
      name ∈ server.listTools clientSupportsTasks (page * MeshMcpServer.pageSize) →
      server.Reaches name) ↔
    ∀ entry ∈ server.federation.tools, ¬Reserved entry.2.identity.source.text := by
  obtain ⟨configured,mode⟩ := runtimeMcp_configured started
  exact configured.listed (mode.trans transparent)

end Started

section Example
open Reference

/-- A normalization that is right for plain ASCII names. -/
scoped instance Reference.nfc : UnicodeNormalization := ⟨id⟩

/-- The two addresses of the local fixture. -/
scoped instance Reference.netText : NetText where
  ipAddr _ := none
  socketIp text := if text = "127.0.0.1:8090" ∨ text = "127.0.0.1:8092" then some (.v4 127 0 0 1) else none

/-- A reviewed local source with a reserved id, and with an ordinary one. -/
def docsSource (id : String) : McpSourceConfig :=
  ⟨id,.stdio "/usr/bin/docs" [],"2026-07-28",none,.nonShareable,true,.deny⟩

def docsConfig (id : String) : Config :=
  ⟨1,⟨"127.0.0.1:8090","127.0.0.1:8092",none⟩,⟨32,4⟩,⟨.deny,[]⟩,.strict,.transparent,
    [docsSource id],[]⟩

def searchTool : McpTool := ⟨"search",.object [],none,.object []⟩

def docsEnvironment : Environment :=
  ⟨fun _ => .ok ⟨[searchTool],"2026-07-28",.default,true,true⟩,false,fun _ => false⟩

noncomputable def docsServer (id : String) : MeshMcpServer :=
  ⟨⟨⟨[(aliasOf id "search",federatedTool (docsSource id) "2026-07-28" searchTool)]⟩,
    some fun source => [id].contains source.text,none⟩,.transparent,false⟩

theorem docsConfig_valid (id : String) (named : validateId id = .ok ()) :
    (docsConfig id).validate = .ok () := by
  have compiled : Policy.compile ⟨.deny,[]⟩ = .ok ⟨⟨.deny,[]⟩⟩ := by
    simp [Policy.compile,Policy.checkRules,Policy.checkReachable,bind,Except.bind,pure,Except.pure]
  have source : validateEach (·.id) (validateSource false) [] [docsSource id] = .ok [id] := by
    rw [validateEach]
    change (validateId id).bind _ = _
    rw [named]
    rfl
  simp only [Config.validate,docsConfig,compiled]
  change (validateEach (·.id) (validateSource false) [] [docsSource id]).bind _ = _
  rw [source]
  rfl

theorem docsServer_started (id : String) :
    runtimeMcp docsEnvironment (docsConfig id) = .ok (docsServer id) := by
  rfl

theorem listed_tools_reachable_example : (docsConfig "docs").validate = .ok () ∧
    ∀ clientSupportsTasks page name,
      name ∈ (docsServer "docs").listTools clientSupportsTasks (page * MeshMcpServer.pageSize) →
      (docsServer "docs").Reaches name := by
  refine ⟨docsConfig_valid "docs" (by decide),?_⟩
  refine (listed_tools_reachable rfl (docsServer_started "docs")).mpr fun entry member => ?_
  cases List.mem_singleton.mp member
  exact (by decide : ¬Reserved "docs")

/-- The configuration is valid, the tool is listed, and a call by its name is refused. -/
theorem listed_tool_unreachable : (docsConfig "gaugemesh_docs").validate = .ok () ∧
    (docsConfig "gaugemesh_docs").capabilityMode = .transparent ∧
    runtimeMcp docsEnvironment (docsConfig "gaugemesh_docs") = .ok (docsServer "gaugemesh_docs") ∧
    "gaugemesh_docs__search" ∈ (docsServer "gaugemesh_docs").listTools false 0 ∧
    (docsServer "gaugemesh_docs").callTool "gaugemesh_docs__search" none =
      .toolError "GM_CAPABILITY_NOT_FOUND" ∧
    ¬(docsServer "gaugemesh_docs").Reaches "gaugemesh_docs__search" := by
  have name : aliasOf "gaugemesh_docs" "search" = "gaugemesh_docs__search" := by decide
  have refused : (docsServer "gaugemesh_docs").callTool "gaugemesh_docs__search" none =
      .toolError "GM_CAPABILITY_NOT_FOUND" := by
    have begins : metaPrefix.isPrefixOf "gaugemesh_docs__search".toList = true := by decide
    have unknown : MeshTool.ofName "gaugemesh_docs__search" = none := by decide
    rw [MeshMcpServer.callTool,if_pos begins,MeshMcpServer.callMetaTool,unknown]
    rfl
  refine ⟨docsConfig_valid _ (by decide),rfl,docsServer_started _,?_,refused,fun reaches => ?_⟩
  · rw [← name]
    exact List.mem_cons_self
  · have routed := reaches.federated _ (List.mem_singleton.mpr (by rw [name])) none
    rw [refused] at routed
    cases routed

end Example
end GaugeMesh
