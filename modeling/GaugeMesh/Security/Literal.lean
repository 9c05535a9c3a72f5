import GaugeMesh.Security.Origin
import GaugeMesh.Json.Reference

/-! A URL with an address for a host: `validate_remote_url` sees the text the URL library
writes for it, the screening of connections the address itself. -/
namespace GaugeMesh.Configuration
open Json

def v4Text (a b c d : UInt8) : List Char :=
  ['.'].intercalate ([a,b,c,d].map fun octet => Nat.toDigits 10 octet.toNat)

/-- Segments as numbers to base 16, with colons between them. -/
def segmentsText (segments : List UInt16) : List Char :=
  [':'].intercalate (segments.map fun segment => Nat.toDigits 16 segment.toNat)

/-- The number of zeros from a place on. -/
def zeroRun (segments : List UInt16) (start : Nat) : Nat :=
  ((segments.drop start).takeWhile (· = 0)).length

/-- The first longest run of two or more zero segments is left out. -/
def v6Text (s : Fin 8 → UInt16) : List Char :=
  let segments := List.ofFn s
  let longest := ((List.range 8).map (zeroRun segments)).foldl max 0
  match (List.range 8).find? (zeroRun segments · = longest) with
  | some start =>
    if longest < 2 then segmentsText segments
    else segmentsText (segments.take start) ++ [':',':'] ++
      segmentsText (segments.drop (start + longest))
  | none => segmentsText segments

/-- Eight segments stand in brackets. -/
def hostText : IpAddr → String
  | .v4 a b c d => String.ofList (v4Text a b c d)
  | .v6 s => String.ofList ('[' :: v6Text s ++ [']'])

/-- The standard library reads four octets back, and no address that starts with a bracket. -/
class LiteralText extends NetText where
  octets : ∀ a b c d, ipAddr (String.ofList (v4Text a b c d)) = some (.v4 a b c d)
  bracketed : ∀ rest, ipAddr (String.ofList ('[' :: rest)) = none

variable [LiteralText] {url : Url}

omit [LiteralText] in
theorem bracketed_name (rest : List Char) (name : String) (letter : name.toList.head? = some 'm' ∨
    name.toList.head? = some 'i') :
    eqIgnoreAsciiCase (String.ofList ('[' :: rest)) name = false := by
  simp only [eqIgnoreAsciiCase,decide_eq_false_iff_not,String.toList_ofList,List.map_cons]
  intro same
  have head := congrArg List.head? same
  rw [List.head?_map] at head
  have bracket : '['.toLower ≠ 'm' ∧ '['.toLower ≠ 'i' := by decide
  rcases letter with first | first
  · rw [first] at head
    exact bracket.1 (Option.some.inj head)
  · rw [first] at head
    exact bracket.2 (Option.some.inj head)

/-- With a bracketed host only the scheme and the parts around the host are looked at. -/
theorem bracketed_accepted {rest : List Char}
    (literal : url.host = some (String.ofList ('[' :: rest))) :
    validateRemoteUrl url false = .ok () ↔
      url.scheme = "https" ∧ url.username = "" ∧ url.password = none ∧ url.fragment = none := by
  have unread := LiteralText.bracketed rest
  have google := bracketed_name rest "metadata.google.internal" (.inl (by simp))
  have amazon := bracketed_name rest "instance-data.ec2.internal" (.inr (by simp))
  simp only [validateRemoteUrl,Except.then_ok,reject_ok,literal,unread,google,amazon]
  constructor
  · rintro ⟨scheme,parts,plain,-⟩
    simp only [not_or,not_not,Option.not_isSome_iff_eq_none] at parts
    refine ⟨?_,parts⟩
    by_contra other
    have http : url.scheme = "http" := by tauto
    simp [http] at plain
  · rintro ⟨scheme,user,password,fragment⟩
    simp [scheme,user,password,fragment]

/-- Four octets are read back, and every range screened later is refused here. -/
theorem octets_accepted {a b c d : UInt8} (literal : url.host = some (hostText (.v4 a b c d)))
    (accepted : validateRemoteUrl url false = .ok ()) :
    addressDenied (.v4 a b c d) false = false := by
  have read : NetText.ipAddr (hostText (.v4 a b c d)) = some (.v4 a b c d) := LiteralText.octets a b c d
  simp only [validateRemoteUrl,Except.then_ok,reject_ok,literal,read,Option.any_some] at accepted
  obtain ⟨-,-,-,allowed,-⟩ := accepted
  simp only [Bool.not_eq_true,Bool.or_eq_false_iff] at allowed
  obtain ⟨⟨⟨⟨unspecified,multicast⟩,loopback⟩,linkLocal⟩,«private»⟩ := allowed
  have loop : IpAddr.isLoopback (.v4 a b c d) = false := by simpa using loopback
  have octets : privateOctets a b = false := by
    rw [loop] at «private»
    simp only [IpAddr.isPrivate,Bool.not_false,Bool.and_true,decide_eq_false_iff_not,not_or] at «private»
    simp only [privateOctets,decide_eq_false_iff_not,not_or]
    exact ⟨«private».1,«private».2.1,«private».2.2.1⟩
  simp [addressDenied,unspecified,multicast,loop,linkLocal,octets]

omit [LiteralText] in
theorem v6_denied (s : Fin 8 → UInt16) :
    addressDenied (.v6 s) false = true ↔ IpAddr.isUnspecified (.v6 s) ∨ IpAddr.isLoopback (.v6 s) ∨
      IpAddr.isMulticast (.v6 s) ∨ IpAddr.isLinkLocal (.v6 s) ∨ IpAddr.isPrivate (.v6 s) := by
  simp [addressDenied,or_assoc]

/-- The two filters agree on an address as a host unless it is in brackets, where the first one
sees no address, and in a range the second one denies. -/
theorem literal_screened_iff (url : Url) (ip : IpAddr) (literal : url.host = some (hostText ip)) :
    (validateRemoteUrl url false = .ok () → addressDenied ip false = false) ↔
      ¬(url.scheme = "https" ∧ url.username = "" ∧ url.password = none ∧ url.fragment = none ∧
        (∃ s, ip = .v6 s) ∧ (ip.isUnspecified ∨ ip.isLoopback ∨ ip.isMulticast ∨
          ip.isLinkLocal ∨ ip.isPrivate)) := by
  cases ip with
  | v4 a b c d => simpa using octets_accepted literal
  | v6 s =>
    rw [bracketed_accepted literal,← v6_denied,← Bool.not_eq_true]
    have segments : ∃ t, IpAddr.v6 s = .v6 t := ⟨s,rfl⟩
    tauto

end GaugeMesh.Configuration

namespace GaugeMesh.Reference
open Json GaugeMesh.Configuration

/-- The octet a decimal numeral without leading zeros stands for. -/
def octetOf (digits : List Char) : Option UInt8 :=
  ((List.range 256).find? fun n => Nat.toDigits 10 n = digits).map UInt8.ofNat

theorem octetOf_toDigits (octet : UInt8) : octetOf (Nat.toDigits 10 octet.toNat) = some octet := by
  have found : ((List.range 256).find? fun n => Nat.toDigits 10 n = Nat.toDigits 10 octet.toNat) =
      some octet.toNat := by
    rw [List.find?_range_eq_some]
    refine ⟨by simp,List.mem_range.mpr octet.toNat_lt,fun other below => ?_⟩
    simp only [Bool.not_eq_eq_eq_not,Bool.not_true,decide_eq_false_iff_not]
    intro same
    have := toDigits_injective _ _ same
    omega
  simp [octetOf,found]

theorem octetOf_bracket (rest : List Char) : octetOf ('[' :: rest) = none := by
  rw [octetOf,Option.map_eq_none_iff,List.find?_eq_none]
  intro n _
  simp only [decide_eq_true_eq]
  intro same
  have digit := Nat.isDigit_of_mem_toDigits (b := 10) (n := n) (c := '[') (by decide) (by decide)
    (by simp [same])
  exact absurd digit (by decide)

/-- Four decimal numerals with points between them, and no other address. -/
scoped instance literalText : LiteralText where
  ipAddr text := match (text.toList.splitOn '.').map octetOf with
    | [some a,some b,some c,some d] => some (.v4 a b c d)
    | _ => none
  socketIp _ := none
  octets a b c d := by
    have split : (v4Text a b c d).splitOn '.' =
        [a,b,c,d].map fun octet => Nat.toDigits 10 octet.toNat := by
      apply List.splitOn_intercalate
      · intro numeral member point
        obtain ⟨octet,-,rfl⟩ := List.mem_map.mp member
        exact absurd (Nat.isDigit_of_mem_toDigits (by decide) (by decide) point) (by decide)
      · simp
    simp [split,octetOf_toDigits]
  bracketed rest := by
    have first : ∃ piece pieces, ('[' :: rest).splitOn '.' = ('[' :: piece) :: pieces := by
      rw [List.splitOn_cons_eq_if_modifyHead,if_neg (by decide)]
      obtain ⟨piece,pieces,split⟩ := List.exists_cons_of_ne_nil (List.splitOn_ne_nil '.' rest)
      exact ⟨piece,pieces,by rw [split,List.modifyHead_cons]⟩
    obtain ⟨piece,pieces,split⟩ := first
    simp [split,octetOf_bracket]

end GaugeMesh.Reference

namespace GaugeMesh.Configuration
open Reference

def loopbackUrl : Url :=
  ⟨"https://[::1]/","https",some "[::1]","",none,"/",none,none⟩

def loopbackV6 : IpAddr := .v6 ![0,0,0,0,0,0,0,1]

example : hostText loopbackV6 = "[::1]" := by decide

theorem loopback_bypass :
    loopbackUrl.host = some (hostText loopbackV6) ∧ validateRemoteUrl loopbackUrl false = .ok () ∧
      addressDenied loopbackV6 false = true := by
  have bracketed : loopbackUrl.host = some (String.ofList ('[' :: [':',':','1',']'])) := by decide
  constructor
  · decide
  constructor
  · exact (bracketed_accepted bracketed).mpr ⟨rfl,rfl,rfl,rfl⟩
  · decide

theorem literal_screened_loopback :
    loopbackUrl.host = some (hostText loopbackV6) ∧
      ((validateRemoteUrl loopbackUrl false = .ok () → addressDenied loopbackV6 false = false) ↔
        ¬(loopbackUrl.scheme = "https" ∧ loopbackUrl.username = "" ∧ loopbackUrl.password = none ∧
          loopbackUrl.fragment = none ∧ (∃ s, loopbackV6 = .v6 s) ∧ (loopbackV6.isUnspecified ∨
            loopbackV6.isLoopback ∨ loopbackV6.isMulticast ∨ loopbackV6.isLinkLocal ∨
            loopbackV6.isPrivate))) :=
  ⟨by decide,literal_screened_iff loopbackUrl loopbackV6 (by decide)⟩

end GaugeMesh.Configuration
