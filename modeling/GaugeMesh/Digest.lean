import GaugeMesh.Json.Serde

/-! `digest.rs`: canonical JSON and the digests over it. -/
namespace GaugeMesh
open Json

/-- The 32 bytes of the source; their number is left open, because an injective
hash, which many properties assume, has no fixed output length. -/
structure Sha256Digest where
  bytes : List UInt8
  deriving DecidableEq

/-- The hash function, a library. -/
class Sha256 where
  digest : List UInt8 → List UInt8

namespace Sha256Digest

def default : Sha256Digest := ⟨List.replicate 32 0⟩

def hexChars (byte : UInt8) : List Char :=
  [hexDigit (byte.toNat / 16),hexDigit (byte.toNat % 16)]

def scheme : List Char := ['s','h','a','2','5','6',':']

/-- `sha256:` and the bytes in lower-case hexadecimal. -/
def toString (digest : Sha256Digest) : String :=
  String.ofList (scheme ++ digest.bytes.flatMap hexChars)

def hexNibble (c : Char) : Option Nat :=
  if c.isDigit then some (c.toNat - '0'.toNat)
  else if 'a' ≤ c ∧ c ≤ 'f' then some (c.toNat - 'a'.toNat + 10)
  else if 'A' ≤ c ∧ c ≤ 'F' then some (c.toNat - 'A'.toNat + 10)
  else none

def hexDecode : List Char → Option (List UInt8)
  | [] => some []
  | high :: low :: rest => do
    return UInt8.ofNat ((← hexNibble high) * 16 + (← hexNibble low)) :: (← hexDecode rest)
  | [_] => none

/-- The digest that a text was made of, however many bytes it has. -/
def readBack (text : String) : Option Sha256Digest :=
  if scheme.isPrefixOf text.toList then
    (hexDecode (text.toList.drop scheme.length)).map Sha256Digest.mk
  else none

/-- Thirty-two bytes, as every digest of the source has. -/
def Whole (digest : Sha256Digest) : Prop := digest.bytes.length = 32

instance (digest : Sha256Digest) : Decidable digest.Whole := inferInstanceAs (Decidable (_ = _))

/-- A text from outside. What the program itself has written is `readBack`: there the length
holds by the type in the source, which is open here. -/
def fromStr (text : String) : Option Sha256Digest := (readBack text).filter (·.Whole)

theorem hexDecode_hexChars (bytes : List UInt8) :
    hexDecode (bytes.flatMap hexChars) = some bytes := by
  induction bytes with
  | nil => rfl
  | cons byte bytes ih =>
    have digits : ∀ n < 16, hexNibble (hexDigit n) = some n := by decide
    have small := byte.toNat_lt
    simp only [List.flatMap_cons,hexChars,List.cons_append,List.nil_append,hexDecode,
      digits (byte.toNat / 16) (by omega),digits (byte.toNat % 16) (by omega),ih]
    have whole : byte.toNat / 16 * 16 + byte.toNat % 16 = byte.toNat := by omega
    change some (UInt8.ofNat (byte.toNat / 16 * 16 + byte.toNat % 16) :: bytes) = _
    rw [whole,UInt8.ofNat_toNat]

@[simp] theorem readBack_toString (digest : Sha256Digest) :
    readBack digest.toString = some digest := by
  have front : scheme.isPrefixOf (scheme ++ digest.bytes.flatMap hexChars) = true :=
    List.isPrefixOf_iff_prefix.mpr (List.prefix_append _ _)
  rw [readBack,toString,String.toList_ofList,if_pos front,List.drop_left,hexDecode_hexChars]
  rfl

theorem fromStr_toString {digest : Sha256Digest} (whole : digest.Whole) :
    fromStr digest.toString = some digest := by
  rw [fromStr,readBack_toString,Option.filter_some,if_pos (decide_eq_true whole)]

theorem fromStr_whole {text : String} {digest : Sha256Digest} (read : fromStr text = some digest) :
    digest.Whole := by
  have kept := (Option.filter_eq_some_iff.mp read).2
  exact of_decide_eq_true kept

theorem toString_injective (a b : Sha256Digest) (same : a.toString = b.toString) : a = b :=
  Option.some.inj (by rw [← readBack_toString a,same,readBack_toString])

instance : Serde Sha256Digest := ⟨fun d => .string d.toString,fun v => v.asStr.bind readBack⟩
instance : LawfulSerde Sha256Digest := ⟨fun d => by simp [toValue,fromValue]⟩
instance : NonNull Sha256Digest := ⟨fun _ => by simp [toValue]⟩

variable [Sha256]

def ofBytes (value : List UInt8) : Sha256Digest := ⟨Sha256.digest value⟩

def ofStr (value : String) : Sha256Digest := ofBytes value.toByteArray.data.toList

end Sha256Digest

mutual

/-- Every object is rebuilt as an ordered map. -/
def canonicalJson : Value → Value
  | .object entries => .object (Entries.collect (canonicalEntries entries))
  | .array items => .array (canonicalItems items)
  | v => v

def canonicalItems : List Value → List Value
  | [] => []
  | v :: vs => canonicalJson v :: canonicalItems vs

def canonicalEntries : List (String × Value) → List (String × Value)
  | [] => []
  | (k,v) :: rest => (k,canonicalJson v) :: canonicalEntries rest

end

/-- An object in key order whose values are canonical is canonical. -/
theorem canonicalJson_object {entries : List (String × Value)} (sorted : Entries.Sorted entries)
    (values : ∀ entry ∈ entries, canonicalJson entry.2 = entry.2) :
    canonicalJson (.object entries) = .object entries := by
  have same : canonicalEntries entries = entries := by
    clear sorted
    induction entries with
    | nil => simp only [canonicalEntries]
    | cons entry rest ih =>
      obtain ⟨head,tail⟩ := List.forall_mem_cons.mp values
      simp only [canonicalEntries,head,ih tail]
  rw [canonicalJson,same,Entries.collect_sorted entries sorted]

variable [FloatText] [Sha256]

def Sha256Digest.ofJson (value : Value) : Sha256Digest :=
  .ofStr (String.ofList (canonicalJson value).text)

/-- Equal digests of an injective hash come from equal canonical values. -/
theorem Sha256Digest.ofJson_injective (hash : Function.Injective Sha256.digest) (v w : Value)
    (same : ofJson v = ofJson w) : canonicalJson v = canonicalJson w := by
  have bytes := hash (congrArg Sha256Digest.bytes same)
  have arrays : (String.ofList (canonicalJson v).text).toByteArray =
      (String.ofList (canonicalJson w).text).toByteArray :=
    ByteArray.ext (Array.toList_inj.mp bytes)
  have texts := congrArg String.toList (String.toByteArray_inj.mp arrays)
  rw [String.toList_ofList,String.toList_ofList] at texts
  exact Value.text_injective texts

end GaugeMesh
