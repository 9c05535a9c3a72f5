import GaugeMesh.Config.Config
import GaugeMesh.Sorted
import GaugeMesh.Task.Transition
import Mathlib.Data.Fin.VecNotation
import Mathlib.Data.Fintype.Pi
import Mathlib.Data.List.Lex
import Mathlib.Data.UInt

/-! `security.rs`: the origin of an outbound connection. A host is looked up once, every
address found is screened, and later peers and redirects are held against the result. -/
namespace GaugeMesh.Configuration

deriving instance DecidableEq for IpAddr

/-- The private ranges of the standard library, by their first two octets. -/
def privateOctets (a b : UInt8) : Bool :=
  a = 10 ∨ (a = 172 ∧ 16 ≤ b ∧ b ≤ 31) ∨ (a = 192 ∧ b = 168)

def addressDenied (address : IpAddr) (allowPrivate : Bool) : Bool :=
  match address with
  | .v4 a b _ _ => address.isUnspecified || address.isLoopback || address.isLinkLocal ||
      address.isMulticast || (!allowPrivate && privateOctets a b)
  | .v6 _ => address.isUnspecified || address.isLoopback || address.isMulticast ||
      address.isLinkLocal || (!allowPrivate && address.isPrivate)

inductive OriginError where
  | scheme
  | credentials
  | host
  | address (denied : IpAddr)
  | dnsEmpty
  | dnsRebind
  | redirect

structure ResolvedOrigin where
  scheme : String
  host : String
  port : Nat
  addresses : List IpAddr

/-- The declared order: four octets before eight segments, each by its numbers. -/
def IpAddr.orderKey : IpAddr → List Nat
  | .v4 a b c d => [0,a.toNat,b.toNat,c.toNat,d.toNat]
  | .v6 s => 1 :: (List.ofFn s).map UInt16.toNat

/-- `addresses.sort()` and then `dedup()`. -/
def sortAddresses (addresses : List IpAddr) : List IpAddr := Sorted.distinct IpAddr.orderKey addresses

namespace ResolvedOrigin

/-- The loop over the addresses: the first one that is denied is reported. -/
def screen (allowPrivate : Bool) : List IpAddr → Except OriginError Unit
  | [] => .ok ()
  | address :: rest => do
    reject (addressDenied address allowPrivate = true) (.address address)
    screen allowPrivate rest

/-- `port` is the one of the URL or of its scheme, `lookupHost` the resolver. -/
def resolve (lookupHost : String → Nat → Option (List IpAddr)) (url : Url) (port : Option Nat)
    (allowPrivate : Bool) : Except OriginError ResolvedOrigin := do
  reject (url.scheme ≠ "http" ∧ url.scheme ≠ "https") .scheme
  reject (url.username ≠ "" ∨ url.password.isSome) .credentials
  let host ← okOr url.host .host
  let port ← okOr port .host
  let found ← okOr (lookupHost host port) .dnsEmpty
  let addresses := sortAddresses found
  reject (addresses = []) .dnsEmpty
  screen allowPrivate addresses
  return ⟨url.scheme,host,port,addresses⟩

def validateConnectedPeer (origin : ResolvedOrigin) (address : IpAddr) : Except OriginError Unit :=
  reject (address ∉ origin.addresses) .dnsRebind

def validateRedirect (origin : ResolvedOrigin) (target : Url) (port : Option Nat) :
    Except OriginError Unit :=
  reject (target.scheme ≠ origin.scheme ∨ target.host ≠ some origin.host ∨ port ≠ some origin.port)
    .redirect

theorem screen_ok {allowPrivate : Bool} {addresses : List IpAddr} :
    screen allowPrivate addresses = .ok () ↔
      ∀ address ∈ addresses, addressDenied address allowPrivate = false := by
  induction addresses with
  | nil => simp [screen]
  | cons address rest ih => simp [screen,Except.then_ok,ih]

variable {lookupHost : String → Nat → Option (List IpAddr)} {url : Url} {port : Option Nat}
  {allowPrivate : Bool} {origin : ResolvedOrigin}

/-- An origin holds what the resolver found, and none of it is denied. -/
theorem resolve_ok : resolve lookupHost url port allowPrivate = .ok origin ↔
    (url.scheme = "http" ∨ url.scheme = "https") ∧ url.username = "" ∧ url.password = none ∧
      ∃ host number found, url.host = some host ∧ port = some number ∧
        lookupHost host number = some found ∧ found ≠ [] ∧
        (∀ address ∈ found, addressDenied address allowPrivate = false) ∧
        origin = ⟨url.scheme,host,number,sortAddresses found⟩ := by
  simp only [resolve,Except.then_ok,reject_ok,okOr_bind_ok,screen_ok,sortAddresses,
    Sorted.distinct_eq_nil,Sorted.mem_distinct,Except.pure_ok,Except.ok.injEq]
  constructor
  · rintro ⟨scheme,credentials,host,named,number,bound,found,answered,nonempty,clean,rfl⟩
    simp only [not_or,not_not,Option.not_isSome_iff_eq_none] at credentials
    exact ⟨by tauto,credentials.1,credentials.2,host,number,found,named,bound,answered,nonempty,
      clean,rfl⟩
  · rintro ⟨scheme,user,password,host,number,found,named,bound,answered,nonempty,clean,rfl⟩
    exact ⟨by tauto,by simp [user,password],host,named,number,bound,found,answered,nonempty,clean,
      rfl⟩

/-- The address is in no origin that is resolved. -/
def Rejects (allowPrivate : Bool) (address : IpAddr) : Prop :=
  ∀ lookupHost url port origin, resolve lookupHost url port allowPrivate = .ok origin →
    address ∉ origin.addresses

theorem rejects_iff (allowPrivate : Bool) (address : IpAddr) :
    Rejects allowPrivate address ↔ addressDenied address allowPrivate = true := by
  constructor
  · intro rejected
    by_contra clean
    have resolved : resolve (fun _ _ => some [address])
        ⟨"","https",some "host","",none,"",none,none⟩ (some 443) allowPrivate =
          .ok ⟨"https","host",443,sortAddresses [address]⟩ :=
      resolve_ok.mpr ⟨.inr rfl,rfl,rfl,"host",443,[address],rfl,rfl,rfl,by simp,by simpa using clean,
        rfl⟩
    exact rejected _ _ _ _ resolved ((Sorted.mem_distinct _).mpr (by simp))
  · intro denied lookupHost url port origin resolved member
    obtain ⟨-,-,-,host,number,found,-,-,-,-,clean,rfl⟩ := resolve_ok.mp resolved
    rw [clean address ((Sorted.mem_distinct _).mp member)] at denied
    cases denied

end ResolvedOrigin

namespace IpAddr

/-- `Ipv4Addr::to_ipv6_mapped`: the address `::ffff:a.b.c.d`. -/
def toIpv6Mapped (a b c d : UInt8) : IpAddr :=
  .v6 ![0,0,0,0,0,0xffff,a.toUInt16 <<< 8 ||| b.toUInt16,c.toUInt16 <<< 8 ||| d.toUInt16]

theorem mapped_not_denied (a b c d : UInt8) (allowPrivate : Bool) :
    addressDenied (toIpv6Mapped a b c d) allowPrivate = false := by
  have marked (low high : UInt16) :
      (![0,0,0,0,0,0xffff,high,low] : Fin 8 → UInt16) 5 = 0xffff := rfl
  have unspecified : (toIpv6Mapped a b c d).isUnspecified = false := by
    simp only [isUnspecified,toIpv6Mapped,decide_eq_false_iff_not]
    intro all
    have fifth := all 5
    rw [marked] at fifth
    cases fifth
  have loopback : (toIpv6Mapped a b c d).isLoopback = false := by
    simp only [isLoopback,toIpv6Mapped,decide_eq_false_iff_not]
    intro all
    have fifth := all 5
    rw [marked,if_neg (by decide)] at fifth
    cases fifth
  rw [toIpv6Mapped] at *
  simp [addressDenied,unspecified,loopback,isMulticast,isLinkLocal,isPrivate]

/-- The ranges an address of four octets is denied for, the private ones unless allowed. -/
theorem v4_denied (a b c d : UInt8) (allowPrivate : Bool) :
    addressDenied (.v4 a b c d) allowPrivate = true ↔
      (a = 0 ∧ b = 0 ∧ c = 0 ∧ d = 0) ∨ a = 127 ∨ (a = 169 ∧ b = 254) ∨ (224 ≤ a ∧ a ≤ 239) ∨
        (allowPrivate = false ∧
          (a = 10 ∨ (a = 172 ∧ 16 ≤ b ∧ b ≤ 31) ∨ (a = 192 ∧ b = 168))) := by
  simp [addressDenied,isUnspecified,isLoopback,isLinkLocal,isMulticast,privateOctets,or_assoc]

end IpAddr

/-- An address inside eight segments is treated as the plain one exactly if the plain one is in
no denied range: the arm for eight segments knows none of them. -/
theorem mapped_screened_iff (a b c d : UInt8) (allowPrivate : Bool) :
    (addressDenied (.toIpv6Mapped a b c d) allowPrivate = addressDenied (.v4 a b c d) allowPrivate ∧
      (ResolvedOrigin.Rejects allowPrivate (.v4 a b c d) →
        ResolvedOrigin.Rejects allowPrivate (.toIpv6Mapped a b c d))) ↔
      ¬((a = 0 ∧ b = 0 ∧ c = 0 ∧ d = 0) ∨ a = 127 ∨ (a = 169 ∧ b = 254) ∨ (224 ≤ a ∧ a ≤ 239) ∨
        (allowPrivate = false ∧
          (a = 10 ∨ (a = 172 ∧ 16 ≤ b ∧ b ≤ 31) ∨ (a = 192 ∧ b = 168)))) := by
  rw [← IpAddr.v4_denied a b c d allowPrivate,ResolvedOrigin.rejects_iff,ResolvedOrigin.rejects_iff,
    IpAddr.mapped_not_denied]
  cases addressDenied (.v4 a b c d) allowPrivate <;> simp

/-- The metadata address is denied, and resolved when it is written with eight segments. -/
theorem metadata_bypass :
    addressDenied (.v4 169 254 169 254) false = true ∧
      addressDenied (.toIpv6Mapped 169 254 169 254) false = false ∧
      ResolvedOrigin.resolve (fun _ _ => some [.toIpv6Mapped 169 254 169 254])
        ⟨"https://host.example/","https",some "host.example","",none,"/",none,none⟩ (some 443) false =
        .ok ⟨"https","host.example",443,[.toIpv6Mapped 169 254 169 254]⟩ := by
  have clean := IpAddr.mapped_not_denied 169 254 169 254 false
  have alone : sortAddresses [.toIpv6Mapped 169 254 169 254] = [.toIpv6Mapped 169 254 169 254] := by
    simp [sortAddresses]
  constructor
  · decide
  constructor
  · exact clean
  · apply ResolvedOrigin.resolve_ok.mpr
    exact ⟨.inr rfl,rfl,rfl,"host.example",443,_,rfl,rfl,rfl,List.cons_ne_nil _ [],
      by simpa using clean,by rw [alone]⟩

end GaugeMesh.Configuration
