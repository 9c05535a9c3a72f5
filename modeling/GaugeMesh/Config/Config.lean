import GaugeMesh.Policy.Policy
import GaugeMesh.Task.Record

/-! `config.rs`: what a configuration must satisfy before the gateway starts. A URL is given
by its parts as the library takes them; addresses are parsed by the standard library. -/
namespace GaugeMesh.Configuration
open Json

inductive CapabilityMode where
  | transparent
  | lease
  deriving DecidableEq

inductive DiscoveryMode where
  | strict
  | degraded
  deriving DecidableEq

inductive SharingClass where
  | shareableStateless
  | shareableWithSerialization
  | principalIsolated
  | tenantIsolated
  | nonShareable
  deriving DecidableEq

/-- Four octets or eight segments. -/
inductive IpAddr where
  | v4 (a b c d : UInt8)
  | v6 (segments : Fin 8 → UInt16)

structure Url where
  text : String
  scheme : String
  host : Option String
  username : String
  password : Option String
  path : String
  query : Option String
  fragment : Option String
  deriving DecidableEq

/-- `str::parse` for the addresses of the standard library; of a socket only the address. -/
class NetText where
  ipAddr : String → Option IpAddr
  socketIp : String → Option IpAddr

inductive ApprovalConfig where
  | deny
  | staticPolicy (response : Value)
  | localCli
  | signedWebhook (url : Url) (secretEnv : String) (timeoutMs : Nat)

inductive McpTransportConfig where
  | stdio (command : String) (args : List String)
  | streamableHttp (url : Url)

structure McpSourceConfig where
  id : String
  transport : McpTransportConfig
  protocolRevision : String
  capabilitySnapshotDigest : Option Sha256Digest
  sharing : SharingClass
  reviewed : Bool
  approval : ApprovalConfig

structure ModelCostConfig where
  version : String
  inputMicrosPerMillionTokens : Nat
  outputMicrosPerMillionTokens : Nat
  deriving DecidableEq

structure ModelConfig where
  id : String
  baseUrl : Url
  providerModelId : String
  contextLimit : Nat
  maxOutputTokens : Nat
  costTable : ModelCostConfig
  credentialEnv : Option String

structure RemoteConfig where
  tlsCertificate : String
  tlsPrivateKey : String
  publicOrigin : Url
  issuer : Url
  audience : String
  resource : String
  jwksUrl : Url
  requiredScopes : List String
  jwksCacheTtlSeconds : Nat
  clockSkewSeconds : Nat
  trustedProxies : List IpAddr

structure ListenerConfig where
  dataAddress : String
  adminAddress : String
  remote : Option RemoteConfig

structure RoutingConfig where
  maxQueuePerTenant : UInt16
  maxConcurrentPerTenant : UInt16

structure Config where
  version : UInt16
  listeners : ListenerConfig
  routing : RoutingConfig
  policy : Policy.PolicyDocument
  discoveryMode : DiscoveryMode
  capabilityMode : CapabilityMode
  mcpSources : List McpSourceConfig
  models : List ModelConfig

inductive ConfigError where
  | version
  | unauthenticatedNonLoopback
  | remoteDefaultAllow
  | duplicateId (id : String)
  | unreviewedSource (id : String)
  | unsafeUrl (url : String)
  | invalidId (id : String)
  | invalidLimit (place : String)
  | listenerCollision
  | invalidRemote (field : String)
  | policy (error : Policy.PolicyCompileError)
  deriving DecidableEq

def SharingClass.name : SharingClass → String
  | shareableStateless => "shareable_stateless"
  | shareableWithSerialization => "shareable_with_serialization"
  | principalIsolated => "principal_isolated"
  | tenantIsolated => "tenant_isolated"
  | nonShareable => "non_shareable"

def ApprovalConfig.encode : ApprovalConfig → Value
  | deny => .object [("mode",toValue "deny")]
  | staticPolicy response => .object [("mode",toValue "static_policy"),("response",response)]
  | localCli => .object [("mode",toValue "local_cli")]
  | signedWebhook url secretEnv timeoutMs => .object [
    ("mode",toValue "signed_webhook"),
    ("secret_env",toValue secretEnv),
    ("timeout_ms",toValue timeoutMs),
    ("url",toValue url.text)]

def McpTransportConfig.encode : McpTransportConfig → Value
  | stdio command args => .object [
    ("args",toValue args),
    ("command",toValue command),
    ("type",toValue "stdio")]
  | streamableHttp url => .object [("type",toValue "streamable_http"),("url",toValue url.text)]

def McpSourceConfig.encode (s : McpSourceConfig) : Value := .object [
  ("approval",s.approval.encode),
  ("capability_snapshot_digest",toValue s.capabilitySnapshotDigest),
  ("id",toValue s.id),
  ("protocol_revision",toValue s.protocolRevision),
  ("reviewed",toValue s.reviewed),
  ("sharing",toValue s.sharing.name),
  ("transport",s.transport.encode)]

namespace IpAddr

def isLoopback : IpAddr → Bool
  | v4 a _ _ _ => a = 127
  | v6 s => decide (∀ i, s i = if i = 7 then 1 else 0)

def isUnspecified : IpAddr → Bool
  | v4 a b c d => a = 0 ∧ b = 0 ∧ c = 0 ∧ d = 0
  | v6 s => decide (∀ i, s i = 0)

def isMulticast : IpAddr → Bool
  | v4 a _ _ _ => 224 ≤ a ∧ a ≤ 239
  | v6 s => s 0 &&& 0xff00 = 0xff00

def isPrivate : IpAddr → Bool
  | v4 a b c d => a = 10 ∨ (a = 172 ∧ 16 ≤ b ∧ b ≤ 31) ∨ (a = 192 ∧ b = 168) ∨
      (a = 169 ∧ b = 254 ∧ c = 169 ∧ d = 254)
  | v6 s => s 0 &&& 0xfe00 = 0xfc00

def isLinkLocal : IpAddr → Bool
  | v4 a b _ _ => a = 169 ∧ b = 254
  | v6 s => s 0 &&& 0xffc0 = 0xfe80

end IpAddr

def eqIgnoreAsciiCase (a b : String) : Bool := a.toList.map Char.toLower = b.toList.map Char.toLower

def isAbsolute (path : String) : Bool := path.toList.head? = some '/'

/-- `is_ascii_alphanumeric`, or one of a few other characters. -/
def alphanumericOr (others : List Char) (text : String) : Bool :=
  text.toList.all fun c => c.isAlphanum || others.contains c

variable [NetText]

def validateRemoteUrl (url : Url) (allowLoopback : Bool) : Except ConfigError Unit := do
  reject (url.scheme ≠ "http" ∧ url.scheme ≠ "https") (.unsafeUrl url.text)
  reject (url.username ≠ "" ∨ url.password.isSome ∨ url.fragment.isSome) (.unsafeUrl url.text)
  match url.host with
  | none => throw (.unsafeUrl url.text)
  | some host =>
    reject (url.scheme = "http" ∧ (¬allowLoopback ∨ ¬(eqIgnoreAsciiCase host "localhost" ∨
      (NetText.ipAddr host).any IpAddr.isLoopback))) (.unsafeUrl url.text)
    reject ((NetText.ipAddr host).any fun ip =>
      ip.isUnspecified || ip.isMulticast || (!allowLoopback && ip.isLoopback) || ip.isLinkLocal ||
        (ip.isPrivate && !ip.isLoopback)) (.unsafeUrl url.text)
    reject (eqIgnoreAsciiCase host "metadata.google.internal" ∨
      eqIgnoreAsciiCase host "instance-data.ec2.internal") (.unsafeUrl url.text)

omit [NetText] in
def validateOrigin (url : Url) (rootOnly : Bool) (field : String) : Except ConfigError Unit :=
  reject (url.scheme ≠ "https" ∨ url.host.isNone ∨ url.username ≠ "" ∨ url.password.isSome ∨
    url.fragment.isSome ∨ url.query.isSome ∨ (rootOnly ∧ url.path ≠ "/")) (.invalidRemote field)

omit [NetText] in
def validateId (id : String) : Except ConfigError Unit :=
  reject (id = "" ∨ id.utf8ByteSize > 64 ∨ ¬alphanumericOr ['.','_','-'] id) (.invalidId id)

def addressIp (address : String) : Except ConfigError IpAddr :=
  match NetText.socketIp address with
  | some ip => .ok ip
  | none => .error (.unsafeUrl address)

def validateRemote (remote : RemoteConfig) : Except ConfigError Unit := do
  reject (¬isAbsolute remote.tlsCertificate ∨ ¬isAbsolute remote.tlsPrivateKey)
    (.invalidRemote "tls_path")
  validateOrigin remote.publicOrigin true "public_origin"
  validateOrigin remote.issuer false "issuer"
  validateRemoteUrl remote.jwksUrl false
  reject (remote.jwksUrl.scheme ≠ "https") (.invalidRemote "jwks_https")
  reject (remote.audience = "" ∨ remote.audience.utf8ByteSize > 256 ∨ remote.resource = "" ∨
    remote.resource.utf8ByteSize > 512 ∨ remote.requiredScopes = [] ∨
    remote.requiredScopes.length > 32 ∨
    (remote.requiredScopes.any fun scope => scope = "" || scope.utf8ByteSize > 128 ||
      !alphanumericOr [':','.','_','-'] scope) ∨
    ¬(30 ≤ remote.jwksCacheTtlSeconds ∧ remote.jwksCacheTtlSeconds ≤ 86400) ∨
    remote.clockSkewSeconds > 300) (.invalidRemote "oidc_binding")
  reject (remote.trustedProxies.any fun address =>
    address.isUnspecified || address.isMulticast || address.isLinkLocal)
    (.invalidRemote "trusted_proxy")

variable [FloatText]

def validateApproval (approval : ApprovalConfig) (source : String) : Except ConfigError Unit :=
  match approval with
  | .deny | .localCli => .ok ()
  | .staticPolicy response =>
    reject (¬response.isObject ∨ response.byteLength > 16 * 1024)
      (.invalidLimit ("approval:" ++ source))
  | .signedWebhook url secretEnv timeoutMs => do
    validateRemoteUrl url false
    reject (url.scheme ≠ "https" ∨ ¬(100 ≤ timeoutMs ∧ timeoutMs ≤ 10000) ∨ secretEnv = "" ∨
      secretEnv.utf8ByteSize > 128 ∨ ¬alphanumericOr ['_'] secretEnv)
      (.invalidLimit ("approval:" ++ source))

/-- `McpRevision::parse` knows two revisions. -/
def revisions : List String := ["2025-11-25","2026-07-28"]

def validateSource (remote : Bool) (source : McpSourceConfig) : Except ConfigError Unit := do
  reject (source.reviewed = false) (.unreviewedSource source.id)
  validateApproval source.approval source.id
  reject (source.protocolRevision ∉ revisions) .version
  match source.transport with
  | .streamableHttp url => validateRemoteUrl url (!remote)
  | .stdio command args =>
    reject (¬isAbsolute command ∨ args.length > 128 ∨
      args.any fun argument => argument.utf8ByteSize > 8192) (.invalidLimit source.id)

omit [FloatText] in
def validateModel (remote : Bool) (model : ModelConfig) : Except ConfigError Unit := do
  validateRemoteUrl model.baseUrl (!remote)
  reject (model.contextLimit = 0 ∨ model.maxOutputTokens = 0 ∨
    model.maxOutputTokens > model.contextLimit ∨ model.costTable.version = "" ∨
    model.costTable.version.utf8ByteSize > 128 ∨
    model.credentialEnv.any fun name => name = "" || name.utf8ByteSize > 128 ||
      !alphanumericOr ['_'] name) (.invalidLimit model.id)

omit [NetText] [FloatText] in
/-- The loop over the sources or the models: the ids are those seen so far. -/
def validateEach (id : α → String) (validate : α → Except ConfigError Unit) :
    List String → List α → Except ConfigError (List String)
  | ids, [] => .ok ids
  | ids, item :: rest => do
    validateId (id item)
    reject (id item ∈ ids) (.duplicateId (id item))
    validate item
    validateEach id validate (id item :: ids) rest

namespace Config

def validate (config : Config) : Except ConfigError Unit := do
  reject (config.version ≠ 1) .version
  let dataIp ← addressIp config.listeners.dataAddress
  let adminIp ← addressIp config.listeners.adminAddress
  reject (config.listeners.dataAddress = config.listeners.adminAddress) .listenerCollision
  reject (config.listeners.remote.isNone ∧ (¬dataIp.isLoopback ∨ ¬adminIp.isLoopback))
    .unauthenticatedNonLoopback
  reject (¬adminIp.isLoopback) .unauthenticatedNonLoopback
  reject (config.listeners.remote.isSome ∧ config.policy.default ≠ .deny) .remoteDefaultAllow
  match config.listeners.remote with
  | some remote =>
    validateRemote remote
    reject (config.mcpSources.any fun source => source.sharing ≠ .shareableStateless &&
      source.sharing ≠ .shareableWithSerialization) (.invalidRemote "mcp_sharing")
  | none => pure ()
  let _ ← (Policy.compile config.policy).mapError .policy
  reject (config.mcpSources.length > 64 ∨ config.models.length > 64) (.invalidLimit "routes")
  reject (config.routing.maxQueuePerTenant = 0 ∨ config.routing.maxConcurrentPerTenant = 0 ∨
    config.routing.maxConcurrentPerTenant > config.routing.maxQueuePerTenant)
    (.invalidLimit "routing")
  let remote := config.listeners.remote.isSome
  let ids ← validateEach (·.id) (validateSource remote) [] config.mcpSources
  let _ ← validateEach (·.id) (validateModel remote) ids config.models
  return ()

end Config
end GaugeMesh.Configuration
