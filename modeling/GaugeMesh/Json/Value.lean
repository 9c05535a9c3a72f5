import Mathlib.Data.List.Basic
import Mathlib.Data.Rat.Floor

/-! JSON values as `serde_json` keeps them: integers and finite doubles are
different numbers, and an object is the list of its entries in key order, as an
ordered map iterates. Two equalities matter. Lean's own is "the same text";
`Value.same` is the library's `==`, which takes the two zeros of a double as one. -/
namespace Json

/-- A finite IEEE double: sign, and exponent with fraction as one number, so that
magnitudes of equal sign are ordered as their bits are. -/
structure F64 where
  negative : Bool
  magnitude : Nat
  finite : magnitude < 2047 * 2^52
  deriving DecidableEq

def F64.same (a b : F64) : Bool :=
  (a.magnitude == 0 && b.magnitude == 0) || (a.negative == b.negative && a.magnitude == b.magnitude)

/-- `negInt n` stands for `-(n+1)`: negative integers have one spelling. -/
inductive Number where
  | posInt (value : Nat)
  | negInt (predecessor : Nat)
  | float (value : F64)
  deriving DecidableEq

def Number.same : Number → Number → Bool
  | .posInt a, .posInt b => a == b
  | .negInt a, .negInt b => a == b
  | .float a, .float b => a.same b
  | _, _ => false

inductive Value where
  | null
  | bool (value : Bool)
  | number (value : Number)
  | string (value : String)
  | array (items : List Value)
  | object (entries : List (String × Value))

namespace Value

mutual

def decEq : (a b : Value) → Decidable (a = b)
  | .null, .null => .isTrue rfl
  | .bool a, .bool b => decidable_of_iff (a = b) (by simp)
  | .number a, .number b => decidable_of_iff (a = b) (by simp)
  | .string a, .string b => decidable_of_iff (a = b) (by simp)
  | .array a, .array b =>
    match decEqItems a b with
    | .isTrue h => .isTrue (by rw [h])
    | .isFalse h => .isFalse (by simpa using h)
  | .object a, .object b =>
    match decEqEntries a b with
    | .isTrue h => .isTrue (by rw [h])
    | .isFalse h => .isFalse (by simpa using h)
  | .null, .bool _ | .null, .number _ | .null, .string _ | .null, .array _ | .null, .object _
  | .bool _, .null | .bool _, .number _ | .bool _, .string _ | .bool _, .array _
  | .bool _, .object _ | .number _, .null | .number _, .bool _ | .number _, .string _
  | .number _, .array _ | .number _, .object _ | .string _, .null | .string _, .bool _
  | .string _, .number _ | .string _, .array _ | .string _, .object _ | .array _, .null
  | .array _, .bool _ | .array _, .number _ | .array _, .string _ | .array _, .object _
  | .object _, .null | .object _, .bool _ | .object _, .number _ | .object _, .string _
  | .object _, .array _ => .isFalse (by simp)

def decEqItems : (a b : List Value) → Decidable (a = b)
  | [], [] => .isTrue rfl
  | [], _ :: _ | _ :: _, [] => .isFalse (by simp)
  | a :: as, b :: bs =>
    match decEq a b, decEqItems as bs with
    | .isTrue h, .isTrue t => .isTrue (by rw [h,t])
    | .isFalse h, _ => .isFalse (by simp [h])
    | _, .isFalse t => .isFalse (by simp [t])

def decEqEntries : (a b : List (String × Value)) → Decidable (a = b)
  | [], [] => .isTrue rfl
  | [], _ :: _ | _ :: _, [] => .isFalse (by simp)
  | (j,a) :: as, (k,b) :: bs =>
    match decEq a b, decEqEntries as bs with
    | .isTrue h, .isTrue t => decidable_of_iff (j = k) (by simp [h,t])
    | .isFalse h, _ => .isFalse (by simp [h])
    | _, .isFalse t => .isFalse (by simp [t])

end

instance : DecidableEq Value := decEq

mutual

/-- The library's `==`. -/
def same : Value → Value → Bool
  | .null, .null => true
  | .bool a, .bool b => a == b
  | .number a, .number b => a.same b
  | .string a, .string b => a == b
  | .array a, .array b => sameItems a b
  | .object a, .object b => sameEntries a b
  | _, _ => false

def sameItems : List Value → List Value → Bool
  | [], [] => true
  | a :: as, b :: bs => a.same b && sameItems as bs
  | _, _ => false

def sameEntries : List (String × Value) → List (String × Value) → Bool
  | [], [] => true
  | (j,a) :: as, (k,b) :: bs => j == k && a.same b && sameEntries as bs
  | _, _ => false

end

mutual

/-- Containers around the innermost leaf. -/
def depth : Value → Nat
  | .array items => depthItems items + 1
  | .object entries => depthEntries entries + 1
  | _ => 0

def depthItems : List Value → Nat
  | [] => 0
  | v :: vs => max v.depth (depthItems vs)

def depthEntries : List (String × Value) → Nat
  | [] => 0
  | (_,v) :: vs => max v.depth (depthEntries vs)

end

def find (key : String) : List (String × Value) → Option Value
  | [] => none
  | (k,v) :: rest => if k = key then some v else find key rest

def get (key : String) : Value → Option Value
  | .object entries => find key entries
  | _ => none

/-- `v["key"]`: a missing entry reads as null. -/
def index (v : Value) (key : String) : Value := (v.get key).getD .null

def asStr : Value → Option String
  | .string s => some s
  | _ => none

def asU64 : Value → Option Nat
  | .number (.posInt n) => some n
  | _ => none

def asObject : Value → Option (List (String × Value))
  | .object entries => some entries
  | _ => none

def asArray : Value → Option (List Value)
  | .array items => some items
  | _ => none

def isObject (v : Value) : Bool := v.asObject.isSome

/-- `x.replace("~d", r)` on the characters of a reference token. -/
def replaceTilde (d r : Char) : List Char → List Char
  | '~' :: c :: cs => if c = d then r :: replaceTilde d r cs else '~' :: replaceTilde d r (c :: cs)
  | c :: cs => c :: replaceTilde d r cs
  | [] => []

def parseIndex (token : List Char) : Option Nat :=
  if token.head? = some '+' ∨ (token.head? = some '0' ∧ token.length ≠ 1) then none
  else if token ≠ [] ∧ token.all Char.isDigit then some (Nat.ofDigitChars 10 token 0) else none

def follow (target : Value) : List (List Char) → Option Value
  | [] => some target
  | token :: rest =>
    match target with
    | .object entries => (find (String.ofList token) entries).bind fun v => follow v rest
    | .array items => (parseIndex token).bind fun i => (items[i]?).bind fun v => follow v rest
    | _ => none

/-- A JSON pointer: empty for the whole value, else reference tokens after slashes. -/
def pointer (v : Value) (path : String) : Option Value :=
  match path.toList with
  | [] => some v
  | '/' :: rest =>
    follow v ((rest.splitOn '/').map fun token => replaceTilde '0' '~' (replaceTilde '1' '/' token))
  | _ => none

@[simp] theorem find_nil (key : String) : find key [] = none := rfl
@[simp] theorem find_cons (key k : String) (v : Value) (rest : List (String × Value)) :
    find key ((k,v) :: rest) = if k = key then some v else find key rest := rfl
@[simp] theorem get_object (key : String) (entries : List (String × Value)) :
    (Value.object entries).get key = find key entries := rfl
@[simp] theorem asStr_string (s : String) : (Value.string s).asStr = some s := rfl
@[simp] theorem asU64_posInt (n : Nat) : (Value.number (.posInt n)).asU64 = some n := rfl
@[simp] theorem asObject_object (entries : List (String × Value)) :
    (Value.object entries).asObject = some entries := rfl

theorem asU64_eq_some {v : Value} : v.asU64 = some n ↔ v = .number (.posInt n) := by
  constructor
  · intro h
    unfold asU64 at h
    split at h
    · rw [Option.some.inj h]
    · cases h
  · rintro rfl; rfl

theorem asStr_eq_some {v : Value} : v.asStr = some s ↔ v = .string s := by
  constructor
  · intro h
    unfold asStr at h
    split at h
    · rw [Option.some.inj h]
    · cases h
  · rintro rfl; rfl

end Value

/-- A double without the sign of its zero. -/
def F64.unsigned (a : F64) : F64 := if a.magnitude = 0 then ⟨false,0,by decide⟩ else a

theorem F64.same_iff (a b : F64) : a.same b = true ↔ a.unsigned = b.unsigned := by
  obtain ⟨s,m,finite⟩ := a
  obtain ⟨t,n,bound⟩ := b
  by_cases left : m = 0 <;> by_cases right : n = 0
  · simp [same,unsigned,left,right]
  · simp [same,unsigned,left,right,Ne.symm right]
  · simp [same,unsigned,left,right]
  · simp [same,unsigned,left,right]

def Number.unsigned : Number → Number
  | .float value => .float value.unsigned
  | other => other

theorem Number.same_iff (a b : Number) : a.same b = true ↔ a.unsigned = b.unsigned := by
  cases a <;> cases b <;> simp [same,unsigned,F64.same_iff]

namespace Value

mutual

/-- A value without the signs of its zeros. -/
def unsigned : Value → Value
  | .number n => .number n.unsigned
  | .array items => .array (unsignedItems items)
  | .object entries => .object (unsignedEntries entries)
  | other => other

def unsignedItems : List Value → List Value
  | [] => []
  | v :: vs => v.unsigned :: unsignedItems vs

def unsignedEntries : List (String × Value) → List (String × Value)
  | [] => []
  | (k,v) :: rest => (k,v.unsigned) :: unsignedEntries rest

end

mutual

theorem same_iff : (a b : Value) → (a.same b = true ↔ a.unsigned = b.unsigned)
  | .null, b => by cases b <;> simp [same,unsigned]
  | .bool _, b => by cases b <;> simp [same,unsigned]
  | .number _, b => by cases b <;> simp [same,unsigned,Number.same_iff]
  | .string _, b => by cases b <;> simp [same,unsigned]
  | .array items, b => by cases b <;> simp [same,unsigned,sameItems_iff items]
  | .object entries, b => by cases b <;> simp [same,unsigned,sameEntries_iff entries]

theorem sameItems_iff : (as bs : List Value) →
    (sameItems as bs = true ↔ unsignedItems as = unsignedItems bs)
  | [], bs => by cases bs <;> simp [sameItems,unsignedItems]
  | a :: as, bs => by
    cases bs <;> simp [sameItems,unsignedItems,same_iff a,sameItems_iff as]

theorem sameEntries_iff : (as bs : List (String × Value)) →
    (sameEntries as bs = true ↔ unsignedEntries as = unsignedEntries bs)
  | [], bs => by cases bs <;> simp [sameEntries,unsignedEntries]
  | (j,a) :: as, bs => by
    cases bs <;> simp [sameEntries,unsignedEntries,same_iff a,sameEntries_iff as,and_assoc]

end

theorem same_refl (v : Value) : v.same v = true := (same_iff v v).mpr rfl

theorem same_symm {a b : Value} (same : a.same b = true) : b.same a = true :=
  (same_iff b a).mpr ((same_iff a b).mp same).symm

theorem same_trans {a b c : Value} (first : a.same b = true) (second : b.same c = true) :
    a.same c = true :=
  (same_iff a c).mpr (((same_iff a b).mp first).trans ((same_iff b c).mp second))

end Value
end Json
