import GaugeMesh.Json.Value
import Mathlib.Algebra.Order.Field.Basic
import Mathlib.Algebra.Order.Group.Abs
import Mathlib.Algebra.Order.Ring.Cast
import Mathlib.Algebra.Order.Ring.Rat
import Mathlib.Data.Nat.Log
import Mathlib.Order.Monotone.Basic
import Mathlib.Tactic.Ring

/-! Doubles as numbers. Every double is a whole number of the least one, so exact values are
compared as integers; an integer is rounded to the nearest double, which is itself as long as it
has at most 53 bits. -/
namespace Json

namespace F64

/-- The magnitude in units of the least positive double, `2^-1074`. -/
def scaled (magnitude : Nat) : Nat :=
  if magnitude / 2^52 = 0 then magnitude % 2^52
  else (2^52 + magnitude % 2^52) * 2^(magnitude / 2^52 - 1)

def units (a : F64) : Int := if a.negative then -(scaled a.magnitude : Int) else scaled a.magnitude

/-- The library's `<=`. -/
def le (a b : F64) : Bool :=
  match a.negative, b.negative with
  | false, false => decide (a.magnitude ≤ b.magnitude)
  | true, true => decide (b.magnitude ≤ a.magnitude)
  | true, false => true
  | false, true => a.magnitude == 0 && b.magnitude == 0

def abs (a : F64) : F64 := ⟨false,a.magnitude,a.finite⟩

/-- `9007199254740991.0`, the double before `2^53`. -/
def maxSafe : F64 := ⟨false,1076 * 2^52 - 1,by decide⟩

/-- The magnitude of the double next to an integer; halfway it is the even one. -/
def nearest (n : Nat) : Nat :=
  if n = 0 then 0
  else
    let bits := n.log2
    if bits ≤ 52 then (bits + 1022) * 2^52 + n * 2^(52 - bits)
    else
      let down := n / 2^(bits - 52)
      let rest := 2 * (n % 2^(bits - 52))
      if rest > 2^(bits - 52) ∨ (rest = 2^(bits - 52) ∧ down % 2 = 1) then
        (bits + 1022) * 2^52 + (down + 1)
      else (bits + 1022) * 2^52 + down

/-- There is no double next to an integer that is too large for all. -/
def ofNat (negative : Bool) (n : Nat) : Option F64 :=
  if finite : nearest n < 2047 * 2^52 then some ⟨negative,nearest n,finite⟩ else none

end F64

namespace Number

def asF64 : Number → Option F64
  | .posInt n => F64.ofNat false n
  | .negInt n => F64.ofNat true (n + 1)
  | .float a => some a

/-- The exact number, in units of the least positive double. -/
def units : Number → Int
  | .posInt n => n * 2^1074
  | .negInt n => -((n + 1) * 2^1074)
  | .float a => a.units

def value (n : Number) : ℚ := n.units / 2^1074

end Number

namespace F64

theorem scaled_split (exponent fraction : Nat) (small : fraction < 2^52) :
    scaled (exponent * 2^52 + fraction) =
      if exponent = 0 then fraction else (2^52 + fraction) * 2^(exponent - 1) := by
  have quotient : (exponent * 2^52 + fraction) / 2^52 = exponent := by omega
  have remainder : (exponent * 2^52 + fraction) % 2^52 = fraction := by omega
  rw [scaled,quotient,remainder]

theorem scaled_lt_succ (magnitude : Nat) : scaled magnitude < scaled (magnitude + 1) := by
  obtain ⟨exponent,fraction,small,rfl⟩ : ∃ exponent fraction, fraction < 2^52 ∧
      magnitude = exponent * 2^52 + fraction :=
    ⟨magnitude / 2^52,magnitude % 2^52,by omega,by omega⟩
  rw [scaled_split exponent fraction small]
  by_cases last : fraction + 1 = 2^52
  · -- the next double has the next exponent and no fraction
    have next : exponent * 2^52 + fraction + 1 = (exponent + 1) * 2^52 + 0 := by omega
    rw [next,scaled_split _ 0 (by decide),if_neg (Nat.succ_ne_zero exponent),Nat.add_sub_cancel]
    split
    · next zero =>
      subst zero
      omega
    · next positive =>
      obtain ⟨e,rfl⟩ := Nat.exists_eq_succ_of_ne_zero positive
      rw [Nat.succ_sub_one,Nat.pow_succ]
      have room : (2^52 + fraction) * 2^e < (2^52 * 2) * 2^e :=
        Nat.mul_lt_mul_of_pos_right (by omega) (Nat.two_pow_pos e)
      calc (2^52 + fraction) * 2^e < (2^52 * 2) * 2^e := room
        _ = (2^52 + 0) * (2^e * 2) := by ring
  · rw [Nat.add_assoc,scaled_split exponent (fraction + 1) (by omega)]
    split
    · exact Nat.lt_succ_self fraction
    · exact Nat.mul_lt_mul_of_pos_right (by omega) (Nat.two_pow_pos _)

theorem scaled_strictMono : StrictMono scaled := strictMono_nat_of_lt_succ scaled_lt_succ

theorem scaled_zero : scaled 0 = 0 := rfl

/-- Doubles are ordered as the numbers they are. -/
theorem le_iff {a b : F64} : a.le b = true ↔ a.units ≤ b.units := by
  have order : scaled a.magnitude ≤ scaled b.magnitude ↔ a.magnitude ≤ b.magnitude :=
    scaled_strictMono.le_iff_le
  have other : scaled b.magnitude ≤ scaled a.magnitude ↔ b.magnitude ≤ a.magnitude :=
    scaled_strictMono.le_iff_le
  have zero : ∀ m, scaled m = 0 ↔ m = 0 := fun m => by
    rw [← scaled_strictMono.injective.eq_iff (a := m),scaled_zero]
  have left := zero a.magnitude
  have right := zero b.magnitude
  rw [le,units,units]
  cases a.negative <;> cases b.negative <;> simp only [Bool.false_eq_true,↓reduceIte,
    decide_eq_true_eq,Bool.and_eq_true,beq_iff_eq,true_iff]
  all_goals omega

/-- Up to 53 bits an integer is a double. -/
theorem scaled_nearest {n : Nat} (small : n < 2^53) :
    scaled (nearest n) = n * 2^1074 ∧ nearest n < 1076 * 2^52 := by
  by_cases zero : n = 0
  · subst zero
    exact ⟨by rw [Nat.zero_mul]; rfl,by decide⟩
  have low : 2^n.log2 ≤ n := Nat.log2_self_le zero
  have high : n < 2^(n.log2 + 1) := Nat.lt_log2_self
  have bits : n.log2 ≤ 52 := by
    have := (Nat.log2_lt zero).mpr small
    omega
  obtain ⟨rest,shift⟩ : ∃ rest, 52 = n.log2 + rest := ⟨52 - n.log2,by omega⟩
  have least : 2^52 ≤ n * 2^rest := by
    rw [shift,Nat.pow_add]
    exact Nat.mul_le_mul_right _ low
  have most : n * 2^rest < 2^53 := by
    have room : n * 2^rest < 2^(n.log2 + 1) * 2^rest :=
      Nat.mul_lt_mul_of_pos_right high (Nat.two_pow_pos rest)
    rw [← Nat.pow_add] at room
    exact room.trans_le (Nat.pow_le_pow_right (by decide) (by omega))
  have split : nearest n = (n.log2 + 1023) * 2^52 + (n * 2^rest - 2^52) := by
    have distance : 52 - n.log2 = rest := by omega
    rw [nearest,if_neg zero]
    simp only [bits,↓reduceIte,distance]
    omega
  refine ⟨?_,by omega⟩
  rw [split,scaled_split _ _ (by omega),if_neg (by omega)]
  have whole : 2^52 + (n * 2^rest - 2^52) = n * 2^rest := by omega
  have exponent : rest + (n.log2 + 1023 - 1) = 1074 := by omega
  rw [whole,Nat.mul_assoc,← Nat.pow_add,exponent]

/-- A larger integer becomes a double no less than `2^53`. -/
theorem nearest_large {n : Nat} (large : 2^53 ≤ n) : 1076 * 2^52 ≤ nearest n := by
  have zero : n ≠ 0 := by omega
  have bits : 53 ≤ n.log2 := (Nat.le_log2 zero).mpr large
  have down : 2^52 ≤ n / 2^(n.log2 - 52) := by
    rw [Nat.le_div_iff_mul_le (Nat.two_pow_pos _),← Nat.pow_add,Nat.add_sub_cancel' (by omega)]
    exact Nat.log2_self_le zero
  have many : ¬n.log2 ≤ 52 := by omega
  rw [nearest,if_neg zero]
  simp only [many,↓reduceIte]
  split <;> omega

/-- `2^53 - 1`, in units of the least positive double. -/
def limit : Int := (2^53 - 1) * 2^1074

theorem scaled_maxSafe : (scaled maxSafe.magnitude : Int) = limit := by
  have split : maxSafe.magnitude = 1075 * 2^52 + (2^52 - 1) := by decide
  have whole : ((2^52 + (2^52 - 1) : Nat) : Int) = 2^53 - 1 := by decide
  rw [split,scaled_split _ _ (by decide),if_neg (by decide),limit,Nat.cast_mul,whole,Nat.cast_pow]
  rfl

theorem abs_le_maxSafe {a : F64} : a.abs.le maxSafe = true ↔ -limit ≤ a.units ∧ a.units ≤ limit := by
  rw [le_iff]
  have positive : a.abs.units = scaled a.magnitude := rfl
  have bound : maxSafe.units = limit := scaled_maxSafe
  rw [positive,bound,units]
  split <;> omega

/-- Two numbers are the same, or both are beyond the limit on the same side. -/
def Near (a b : Int) : Prop := a = b ∨ (limit < a ∧ limit < b) ∨ (a < -limit ∧ b < -limit)

theorem near_nearest (n : Nat) : Near (scaled (nearest n)) (n * 2^1074) := by
  by_cases small : n < 2^53
  · exact .inl (by exact_mod_cast (scaled_nearest small).1)
  · have above : scaled maxSafe.magnitude < scaled (nearest n) :=
      scaled_strictMono (Nat.lt_of_lt_of_le (by decide) (nearest_large (not_lt.mp small)))
    have unit : (0 : Int) < 2^1074 := Int.pow_pos (by decide)
    refine .inr (.inl ⟨?_,?_⟩)
    · rw [← scaled_maxSafe]
      exact_mod_cast above
    · exact Int.mul_lt_mul_of_pos_right (by omega) unit

theorem Near.neg {a b : Int} (near : Near a b) : Near (-a) (-b) := by
  rcases near with rfl | beyond | under
  · exact .inl rfl
  · exact .inr (.inr (by omega))
  · exact .inr (.inl (by omega))

theorem asF64_near {n : Number} {a : F64} (read : n.asF64 = some a) : Near a.units n.units := by
  have rounded : ∀ {negative : Bool} {k : Nat}, ofNat negative k = some a →
      a.negative = negative ∧ a.magnitude = nearest k := by
    intro negative k made
    rw [ofNat] at made
    split at made
    · cases made
      exact ⟨rfl,rfl⟩
    · cases made
  cases n with
  | posInt k =>
    obtain ⟨sign,magnitude⟩ := rounded read
    rw [units,sign,magnitude]
    exact near_nearest k
  | negInt k =>
    obtain ⟨sign,magnitude⟩ := rounded read
    rw [units,sign,magnitude]
    exact (near_nearest (k + 1)).neg
  | float b =>
    cases read
    exact .inl rfl

/-- A number within the limit is a double. -/
theorem asF64_exists {n : Number} (low : -limit ≤ n.units) (high : n.units ≤ limit) :
    ∃ a, n.asF64 = some a := by
  have made : ∀ (negative : Bool) (k : Nat), (k : Int) * 2^1074 ≤ limit → ∃ a, ofNat negative k = some a := by
    intro negative k bounded
    have unit : (0 : Int) < 2^1074 := Int.pow_pos (by decide)
    have small : (k : Int) ≤ 2^53 - 1 := Int.le_of_mul_le_mul_right bounded unit
    have finite : nearest k < 2047 * 2^52 := (scaled_nearest (by omega)).2.trans (by decide)
    exact ⟨_,dif_pos finite⟩
  cases n with
  | posInt k => exact made false k high
  | negInt k => exact made true (k + 1) (by rw [Number.units] at low; push_cast; omega)
  | float b => exact ⟨b,rfl⟩

/-- A number is taken as a double of at most 53 bits exactly if it is within the limit. -/
theorem asF64_safe {n : Number} : (∃ a, n.asF64 = some a ∧ a.abs.le maxSafe = true) ↔
    -limit ≤ n.units ∧ n.units ≤ limit := by
  constructor
  · rintro ⟨a,read,safe⟩
    have bounds := abs_le_maxSafe.mp safe
    rcases asF64_near read with same | beyond | under
    · rwa [same] at bounds
    · omega
    · omega
  · rintro ⟨low,high⟩
    obtain ⟨a,read⟩ := asF64_exists low high
    refine ⟨a,read,abs_le_maxSafe.mpr ?_⟩
    rcases asF64_near read with same | beyond | under
    · rw [same]
      exact ⟨low,high⟩
    · omega
    · omega

/-- Between doubles the order of two numbers is their own, if one is within the limit. -/
theorem asF64_le {n bound : Number} {a b : F64} (read : n.asF64 = some a)
    (bounded : bound.asF64 = some b) (safe : a.abs.le maxSafe = true) :
    (b.le a = true ↔ bound.units ≤ n.units) ∧ (a.le b = true ↔ n.units ≤ bound.units) := by
  obtain ⟨low,high⟩ := abs_le_maxSafe.mp safe
  have number := asF64_near read
  have other := asF64_near bounded
  rw [le_iff,le_iff]
  have same : a.units = n.units := by
    rcases number with same | beyond | under <;> omega
  rw [← same]
  rcases other with equal | beyond | under
  · rw [equal]
    exact ⟨Iff.rfl,Iff.rfl⟩
  · omega
  · omega

end F64

theorem Number.value_le {n m : Number} : n.value ≤ m.value ↔ n.units ≤ m.units := by
  have unit : (0 : ℚ) < 2^1074 := pow_pos (by decide) _
  rw [value,value,div_le_div_iff_of_pos_right unit,Int.cast_le]

theorem Number.abs_value_le {n : Number} :
    |n.value| ≤ 2^53 - 1 ↔ -F64.limit ≤ n.units ∧ n.units ≤ F64.limit := by
  have unit : (0 : ℚ) < 2^1074 := pow_pos (by decide) _
  rw [abs_le,value,le_div_iff₀ unit,div_le_iff₀ unit,neg_mul]
  have same : ((2^53 - 1) * 2^1074 : ℚ) = ((F64.limit : Int) : ℚ) := by
    have bits : ((2^53 - 1 : Int) : ℚ) = 2^53 - 1 := by norm_num
    rw [F64.limit,Int.cast_mul,bits,Int.cast_pow,Int.cast_ofNat]
  rw [same]
  constructor
  · rintro ⟨low,high⟩
    exact ⟨by exact_mod_cast low,by exact_mod_cast high⟩
  · rintro ⟨low,high⟩
    exact ⟨by exact_mod_cast low,by exact_mod_cast high⟩

end Json
