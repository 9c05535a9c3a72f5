import GaugeMesh.Digest

/-! `capability.rs`, the identity types of `context.rs` and `auth.rs`, and the reviewed tools
of `federation.rs`: who calls, and which capability of which source is called. -/
namespace GaugeMesh
open Json

@[ext] structure PrincipalId where
  text : String
  deriving DecidableEq

@[ext] structure TenantId where
  text : String
  deriving DecidableEq

@[ext] structure SourceId where
  text : String
  deriving DecidableEq

@[ext] structure CapabilityRevision where
  text : String
  deriving DecidableEq

instance : Serde PrincipalId := ⟨fun p => .string p.text,fun v => v.asStr.map .mk⟩
instance : LawfulSerde PrincipalId := ⟨fun _ => rfl⟩
instance : Serde TenantId := ⟨fun t => .string t.text,fun v => v.asStr.map .mk⟩
instance : LawfulSerde TenantId := ⟨fun _ => rfl⟩
instance : Serde SourceId := ⟨fun s => .string s.text,fun v => v.asStr.map .mk⟩
instance : LawfulSerde SourceId := ⟨fun _ => rfl⟩
instance : Serde CapabilityRevision := ⟨fun r => .string r.text,fun v => v.asStr.map .mk⟩
instance : LawfulSerde CapabilityRevision := ⟨fun _ => rfl⟩

inductive CapabilityKind where
  | tool
  | resource
  | resourceTemplate
  | prompt
  | model
  deriving DecidableEq

namespace CapabilityKind

def name : CapabilityKind → String
  | tool => "tool"
  | resource => "resource"
  | resourceTemplate => "resource_template"
  | prompt => "prompt"
  | model => "model"

def all : List CapabilityKind := [tool,resource,resourceTemplate,prompt,model]

instance : Serde CapabilityKind :=
  ⟨fun k => .string k.name,fun v => (unitVariant v).bind fun s => all.find? (·.name == s)⟩
instance : LawfulSerde CapabilityKind := ⟨fun k => by cases k <;> decide⟩

end CapabilityKind

inductive SideEffectClass where
  | readOnly
  | idempotentWrite
  | nonIdempotentWrite
  deriving DecidableEq

namespace SideEffectClass

def name : SideEffectClass → String
  | readOnly => "read_only"
  | idempotentWrite => "idempotent_write"
  | nonIdempotentWrite => "non_idempotent_write"

def all : List SideEffectClass := [readOnly,idempotentWrite,nonIdempotentWrite]

instance : Serde SideEffectClass :=
  ⟨fun e => .string e.name,fun v => (unitVariant v).bind fun s => all.find? (·.name == s)⟩
instance : LawfulSerde SideEffectClass := ⟨fun e => by cases e <;> decide⟩

end SideEffectClass

structure CapabilityId where
  source : SourceId
  kind : CapabilityKind
  nativeIdentityDigest : Sha256Digest
  schemaDigest : Sha256Digest
  revision : CapabilityRevision
  sourceConfigurationDigest : Sha256Digest
  deriving DecidableEq

namespace CapabilityId

def encode (c : CapabilityId) : Value := .object [
  ("source",toValue c.source),
  ("kind",toValue c.kind),
  ("native_identity_digest",toValue c.nativeIdentityDigest),
  ("schema_digest",toValue c.schemaDigest),
  ("revision",toValue c.revision),
  ("source_configuration_digest",toValue c.sourceConfigurationDigest)]

def decode (v : Value) : Option CapabilityId := do
  let fields ← structFields ["source","kind","native_identity_digest","schema_digest",
    "revision","source_configuration_digest"] v
  return {
    source := ← field fields "source"
    kind := ← field fields "kind"
    nativeIdentityDigest := ← field fields "native_identity_digest"
    schemaDigest := ← field fields "schema_digest"
    revision := ← field fields "revision"
    sourceConfigurationDigest := ← field fields "source_configuration_digest" }

theorem decode_encode (c : CapabilityId) : decode c.encode = some c := by
  refine (structFields_object (List.Subset.refl _)).trans ?_
  iterate 6 refine field_then (by simp only [Value.find_cons,↓reduceIte,String.reduceEq]; rfl) ?_
  rfl

instance : Serde CapabilityId := ⟨encode,decode⟩
instance : LawfulSerde CapabilityId := ⟨decode_encode⟩

def digest [FloatText] [Sha256] (c : CapabilityId) : Sha256Digest := .ofJson (toValue c)

end CapabilityId

structure AuthenticatedIdentity where
  principal : PrincipalId
  tenant : TenantId
  scopes : List String
  deriving DecidableEq

/-- What the callers of a tool use of it. -/
structure FederatedTool where
  identity : CapabilityId
  nativeName : String
  inputSchema : Value
  sideEffect : SideEffectClass
  fixtureResult : Value
  deriving DecidableEq

/-- The tools by their aliases; a look-up that finds none fails with one error. -/
structure Federation where
  tools : List (String × FederatedTool)

namespace Federation

def notFound : String := "GM_CAPABILITY_NOT_FOUND"

def tool (federation : Federation) (name : String) : Option FederatedTool :=
  (federation.tools.find? fun entry => entry.1 == name).map Prod.snd

end Federation

end GaugeMesh
