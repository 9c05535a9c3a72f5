import GaugeMesh.Mesh.Catalog
import GaugeMesh.Replace

/-! `federation.rs` and `outbound.rs`: the templates of resources. A template is taken from a
source if it has simple variables only; a virtual URI gives one segment for each of them. -/
namespace GaugeMesh.Catalog
open Json GaugeMesh.Configuration

/-- `remaining` is what follows the last variable found. -/
def scanVariables (found : List String) (remaining : List Char) : Option (List String) :=
  match _opened : remaining.dropWhile (· ≠ '{') with
  | [] =>
    if remaining.contains '}' ∨ found = [] ∨ found.length > 8 then none else some found
  | _ :: afterOpen =>
    let name := afterOpen.takeWhile (· ≠ '}')
    match _closed : afterOpen.dropWhile (· ≠ '}') with
    | [] => none
    | _ :: afterClose =>
      if name = [] ∨ (String.ofList name).utf8ByteSize > 64 ∨
          ¬alphanumericOr ['_','-'] (String.ofList name) then none
      else scanVariables (found ++ [String.ofList name]) afterClose
termination_by remaining.length
decreasing_by
  have first := (List.dropWhile_suffix (fun c : Char => decide (c ≠ '{')) (l := remaining)).length_le
  have second := (List.dropWhile_suffix (fun c : Char => decide (c ≠ '}')) (l := afterOpen)).length_le
  rw [_opened] at first
  rw [_closed] at second
  simp only [List.length_cons] at first second
  omega

def simpleTemplateVariables (template : String) : Option (List String) :=
  scanVariables [] template.toList

def hexValue (value : UInt8) : Option UInt8 :=
  if 48 ≤ value ∧ value ≤ 57 then some (value - 48)
  else if 97 ≤ value ∧ value ≤ 102 then some (value - 97 + 10)
  else if 65 ≤ value ∧ value ≤ 70 then some (value - 65 + 10)
  else none

def decodeBytes : List UInt8 → Option (List UInt8)
  | [] => some []
  | 37 :: high :: low :: rest => do
    return ((← hexValue high) * 16 + (← hexValue low)) :: (← decodeBytes rest)
  | 37 :: _ => none
  | byte :: rest => do return byte :: (← decodeBytes rest)

def percentDecode (value : String) : Option String :=
  (decodeBytes value.toByteArray.data.toList).bind fun bytes => String.fromUTF8? ⟨bytes.toArray⟩

def placeholder (name : String) : List Char := '{' :: name.toList ++ ['}']

/-- The loop over the variables and their segments. -/
def substitute (native : List Char) : List (String × List Char) → Option (List Char)
  | [] => some native
  | (name,encoded) :: rest => do
    let value ← percentDecode (String.ofList encoded)
    substitute (Replace.replaceAll (placeholder name) value.toList native) rest

def stripPrefix (front text : List Char) : Option (List Char) :=
  if front.isPrefixOf text then some (text.drop front.length) else none

def resolveOne (virtualUri : String) (template : FederatedResourceTemplate) :
    Option (FederatedResourceTemplate × String) := do
  let suffix ← stripPrefix template.virtualPrefix.toList virtualUri.toList
  let encodedValues := suffix.splitOn '/'
  if encodedValues.length ≠ template.«variables».length then none
  else
    let native ← substitute template.nativeUriTemplate.toList
      (template.«variables».zip encodedValues)
    return (template,String.ofList native)

def Federation.resolveTemplate (federation : Federation) (virtualUri : String) :
    Option (FederatedResourceTemplate × String) :=
  federation.templates.values.findSome? (resolveOne virtualUri)

structure McpToolDescription extends McpTool where
  description : Option String

structure McpResource where
  uri : String
  name : String
  mimeType : Option String
  json : Value

structure McpResourceTemplate where
  uriTemplate : String
  name : String
  description : Option String
  mimeType : Option String
  json : Value

structure McpPrompt where
  name : String
  description : Option String
  arguments : Option (List String)
  json : Value

structure CapturedDiscovery where
  tools : List McpToolDescription
  resources : List McpResource
  resourceTemplates : List McpResourceTemplate
  prompts : List McpPrompt
  protocolRevision : String

def boundedChars : Nat → List Char → List Char
  | _, [] => []
  | room, c :: rest => if c.utf8Size ≤ room then c :: boundedChars (room - c.utf8Size) rest else []

/-- The longest front of whole characters that has at most so many bytes. -/
def boundedText (value : String) (maxBytes : Nat) : String :=
  String.ofList (boundedChars maxBytes value.toList)

/-- An update that failed ends the work on a source. -/
def taken (updated : Federation × Except FederationError Unit) : Except String Federation :=
  match updated.2 with
  | .ok () => .ok updated.1
  | .error error => .error error.text

section
variable [FloatText] [Sha256] [UnicodeNormalization] (source : McpSourceConfig) (revision : String)

def sourceIdentity (kind : CapabilityKind) (native : String) (json : Value) : CapabilityId :=
  .new ⟨source.id⟩ kind native (.ofJson json) ⟨revision⟩ (.ofJson source.encode)

/-- `gaugemesh://`, the kind, the source and 24 digits of the digest of the native identity. -/
def virtualUri (kind : String) (identity : CapabilityId) : List Char :=
  "gaugemesh://".toList ++ kind.toList ++ ['/'] ++ source.id.toList ++ ['/'] ++
    ((identity.nativeIdentityDigest.toString.toList.drop 7).take 24)

def addTool (federation : Federation) (tool : McpToolDescription) : Except String Federation := do
  reject (tool.inputSchema.byteLength > 256 * 1024) "GM_MCP_UPSTREAM_METADATA_TOO_LARGE"
  let identity := sourceIdentity source revision .tool tool.name tool.json
  taken (federation.insertTool {
    identity
    nativeName := tool.name
    «alias» := identity.readableAlias tool.name
    description := boundedText (tool.description.getD "") 4096
    inputSchema := tool.inputSchema
    sideEffect := tool.sideEffect
    fixtureResult := .null })

def addResource (federation : Federation) (resource : McpResource) : Except String Federation :=
  let identity := sourceIdentity source revision .resource resource.uri resource.json
  taken (federation.insertResource {
    identity
    virtualUri := String.ofList (virtualUri source "resource" identity)
    nativeUri := resource.uri
    name := boundedText resource.name 1024
    mimeType := resource.mimeType.getD "application/octet-stream"
    contents := "" })

/-- A template with other expressions than simple variables is left out. -/
def addTemplate (federation : Federation) (template : McpResourceTemplate) :
    Except String Federation :=
  match simpleTemplateVariables template.uriTemplate with
  | none => .ok federation
  | some names =>
    let identity := sourceIdentity source revision .resourceTemplate template.uriTemplate template.json
    let front := virtualUri source "template" identity ++ ['/']
    taken (federation.insertTemplate {
      identity
      virtualUriTemplate := String.ofList (front ++ ['/'].intercalate (names.map placeholder))
      virtualPrefix := String.ofList front
      nativeUriTemplate := template.uriTemplate
      name := boundedText template.name 1024
      description := boundedText (template.description.getD "") 4096
      mimeType := template.mimeType
      «variables» := names })

def addPrompt (federation : Federation) (prompt : McpPrompt) : Except String Federation :=
  let identity := sourceIdentity source revision .prompt prompt.name prompt.json
  taken (federation.insertPrompt {
    identity
    nativeName := prompt.name
    «alias» := identity.readableAlias prompt.name
    description := boundedText (prompt.description.getD "") 4096
    arguments := prompt.arguments.getD []
    template := "" })

def addSourceCapabilities (federation : Federation) (discovered : CapturedDiscovery) :
    Except String Federation := do
  let revision := discovered.protocolRevision
  let federation ← discovered.tools.foldlM (addTool source revision) federation
  let federation ← discovered.resources.foldlM (addResource source revision) federation
  let federation ← discovered.resourceTemplates.foldlM (addTemplate source revision) federation
  discovered.prompts.foldlM (addPrompt source revision) federation

end
end GaugeMesh.Catalog
