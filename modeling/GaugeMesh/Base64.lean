import Mathlib.Data.List.Basic
import Mathlib.Data.Rat.Floor

/-! Base64 with the alphabet that is safe in URLs and without padding: three bytes become four
characters, and the one or two bytes that are left two or three. -/
namespace Base64

def alphabet : List Char :=
  "ABCDEFGHIJKLMNOPQRSTUVWXYZabcdefghijklmnopqrstuvwxyz0123456789-_".toList

def digit (n : Nat) : Char := alphabet[n]?.getD 'A'

def value (c : Char) : Option Nat :=
  if c ∈ alphabet then some (alphabet.idxOf c) else none

def encode : List UInt8 → List Char
  | [] => []
  | [a] => [digit (a.toNat / 4),digit (a.toNat % 4 * 16)]
  | [a,b] => [digit (a.toNat / 4),digit (a.toNat % 4 * 16 + b.toNat / 16),
      digit (b.toNat % 16 * 4)]
  | a :: b :: c :: rest => digit (a.toNat / 4) :: digit (a.toNat % 4 * 16 + b.toNat / 16) ::
      digit (b.toNat % 16 * 4 + c.toNat / 64) :: digit (c.toNat % 64) :: encode rest

/-- Bits that are left over have to be zero. -/
def decode : List Char → Option (List UInt8)
  | [] => some []
  | [_] => none
  | [p,q] => do
    let x ← value p
    let y ← value q
    if y % 16 = 0 then some [UInt8.ofNat (x * 4 + y / 16)] else none
  | [p,q,r] => do
    let x ← value p
    let y ← value q
    let z ← value r
    if z % 4 = 0 then
      some [UInt8.ofNat (x * 4 + y / 16),UInt8.ofNat (y % 16 * 16 + z / 4)]
    else none
  | p :: q :: r :: s :: rest => do
    let x ← value p
    let y ← value q
    let z ← value r
    let w ← value s
    let bytes ← decode rest
    return UInt8.ofNat (x * 4 + y / 16) :: UInt8.ofNat (y % 16 * 16 + z / 4) ::
      UInt8.ofNat (z % 4 * 64 + w) :: bytes

theorem value_digit {n : Nat} (small : n < 64) : value (digit n) = some n := by
  have all : ∀ n < 64, value (digit n) = some n := by decide +kernel
  exact all n small

theorem digit_mem (n : Nat) : digit n ∈ alphabet := by
  rw [digit]
  rcases found : alphabet[n]? with _ | c
  · decide
  · exact List.mem_of_getElem? found

theorem byte_of {a : UInt8} {n : Nat} (same : n = a.toNat) : UInt8.ofNat n = a := by
  rw [same,UInt8.ofNat_toNat]

theorem decode_encode (bytes : List UInt8) : decode (encode bytes) = some bytes := by
  induction bytes using encode.induct with
  | case1 => rfl
  | case2 a =>
    have := a.toNat_lt
    have first : UInt8.ofNat (a.toNat / 4 * 4 + a.toNat % 4 * 16 / 16) = a := byte_of (by omega)
    have rest : a.toNat % 4 * 16 % 16 = 0 := by omega
    simp only [encode,decode,value_digit (show a.toNat / 4 < 64 by omega),
      value_digit (show a.toNat % 4 * 16 < 64 by omega),Option.bind_eq_bind,Option.bind_some,
      first,rest,↓reduceIte]
  | case3 a b =>
    have := a.toNat_lt
    have := b.toNat_lt
    have first : UInt8.ofNat (a.toNat / 4 * 4 + (a.toNat % 4 * 16 + b.toNat / 16) / 16) = a :=
      byte_of (by omega)
    have second : UInt8.ofNat ((a.toNat % 4 * 16 + b.toNat / 16) % 16 * 16 +
        b.toNat % 16 * 4 / 4) = b := byte_of (by omega)
    have rest : b.toNat % 16 * 4 % 4 = 0 := by omega
    simp only [encode,decode,value_digit (show a.toNat / 4 < 64 by omega),
      value_digit (show a.toNat % 4 * 16 + b.toNat / 16 < 64 by omega),
      value_digit (show b.toNat % 16 * 4 < 64 by omega),Option.bind_eq_bind,Option.bind_some,
      first,second,rest,↓reduceIte]
  | case4 a b c rest ih =>
    have := a.toNat_lt
    have := b.toNat_lt
    have := c.toNat_lt
    have first : UInt8.ofNat (a.toNat / 4 * 4 + (a.toNat % 4 * 16 + b.toNat / 16) / 16) = a :=
      byte_of (by omega)
    have second : UInt8.ofNat ((a.toNat % 4 * 16 + b.toNat / 16) % 16 * 16 +
        (b.toNat % 16 * 4 + c.toNat / 64) / 4) = b := byte_of (by omega)
    have third : UInt8.ofNat ((b.toNat % 16 * 4 + c.toNat / 64) % 4 * 64 + c.toNat % 64) = c :=
      byte_of (by omega)
    simp only [encode,decode,value_digit (show a.toNat / 4 < 64 by omega),
      value_digit (show a.toNat % 4 * 16 + b.toNat / 16 < 64 by omega),
      value_digit (show b.toNat % 16 * 4 + c.toNat / 64 < 64 by omega),
      value_digit (show c.toNat % 64 < 64 by omega),Option.bind_eq_bind,Option.bind_some,
      ih,first,second,third,Option.pure_def]

theorem length_encode (bytes : List UInt8) : (encode bytes).length = (4 * bytes.length + 2) / 3 := by
  induction bytes using encode.induct with
  | case1 => rfl
  | case2 a => simp [encode]
  | case3 a b => simp [encode]
  | case4 a b c rest ih =>
    simp only [encode,List.length_cons,ih]
    omega

theorem mem_encode {bytes : List UInt8} {c : Char} (member : c ∈ encode bytes) : c ∈ alphabet := by
  induction bytes using encode.induct with
  | case1 => cases member
  | case2 a =>
    simp only [encode,List.mem_cons,List.not_mem_nil,or_false] at member
    rcases member with rfl | rfl <;> exact digit_mem _
  | case3 a b =>
    simp only [encode,List.mem_cons,List.not_mem_nil,or_false] at member
    rcases member with rfl | rfl | rfl <;> exact digit_mem _
  | case4 a b d rest ih =>
    simp only [encode,List.mem_cons] at member
    rcases member with rfl | rfl | rfl | rfl | later
    · exact digit_mem _
    · exact digit_mem _
    · exact digit_mem _
    · exact digit_mem _
    · exact ih later

end Base64
