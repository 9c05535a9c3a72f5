import GaugeMesh.Json.Text

/-! How long the compact text of a value can be. An escape takes at most six bytes for each
byte it stands for, and an object is its keys, its values and four bytes for each of them. -/
namespace Json

/-- Bytes of the characters in UTF-8. -/
def size (cs : List Char) : Nat := (cs.map Char.utf8Size).sum

@[simp] theorem size_nil : size [] = 0 := rfl

@[simp] theorem size_cons (c : Char) (cs : List Char) :
    size (c :: cs) = c.utf8Size + size cs := rfl

@[simp] theorem size_append (a b : List Char) : size (a ++ b) = size a + size b := by
  simp [size]

theorem size_ofList (cs : List Char) : (String.ofList cs).utf8ByteSize = size cs := by
  induction cs with
  | nil => simp
  | cons c cs ih => rw [String.ofList_cons,String.utf8ByteSize_append,ih,
      String.utf8ByteSize_singleton,size_cons]

theorem size_toList (s : String) : size s.toList = s.utf8ByteSize := by
  rw [← size_ofList,String.ofList_toList]

/-- Characters of one byte each. -/
theorem size_ascii {cs : List Char} (ascii : ∀ c ∈ cs, c.utf8Size = 1) : size cs = cs.length := by
  induction cs with
  | nil => rfl
  | cons c cs ih =>
    obtain ⟨head,tail⟩ := List.forall_mem_cons.mp ascii
    rw [size_cons,head,ih tail,List.length_cons]
    omega

theorem size_hexDigit (n : Nat) (small : n < 16) : (hexDigit n).utf8Size = 1 := by
  revert n
  decide

theorem size_escape_le (c : Char) : size (escape c) ≤ 6 * c.utf8Size := by
  have positive := c.utf8Size_pos
  unfold escape
  split
  · have : size ['\\','"'] = 2 := by decide
    omega
  split
  · have : size ['\\','\\'] = 2 := by decide
    omega
  split
  · have : size ['\\','b'] = 2 := by decide
    omega
  split
  · have : size ['\\','f'] = 2 := by decide
    omega
  split
  · have : size ['\\','n'] = 2 := by decide
    omega
  split
  · have : size ['\\','r'] = 2 := by decide
    omega
  split
  · have : size ['\\','t'] = 2 := by decide
    omega
  split
  · next small =>
    have front : size ['\\','u','0','0'] = 4 := by decide
    have digits := size_append ['\\','u','0','0'] [hexDigit (c.toNat / 16),hexDigit (c.toNat % 16)]
    rw [front,size_cons,size_cons,size_nil,size_hexDigit _ (by omega),
      size_hexDigit _ (by omega)] at digits
    exact Nat.le_trans (Nat.le_of_eq digits) (by omega)
  · rw [size_cons,size_nil]
    omega

theorem size_stringText_le (s : String) : size (stringText s) ≤ 6 * s.utf8ByteSize + 2 := by
  have body : ∀ cs, size (escapeAll cs) ≤ 6 * size cs := by
    intro cs
    induction cs with
    | nil => simp [escapeAll]
    | cons c cs ih =>
      have head := size_escape_le c
      rw [escapeAll,List.flatMap_cons,size_append,size_cons]
      rw [escapeAll] at ih
      omega
  have inner := body s.toList
  have quote : '"'.utf8Size = 1 := by decide
  rw [size_toList] at inner
  rw [stringText,size_append,size_cons,size_cons,size_nil,quote]
  omega

/-- A number of at most twenty digits. -/
theorem size_digits_le {n digits : Nat} (positive : 0 < digits) (small : n < 10 ^ digits) :
    size (Nat.toDigits 10 n) ≤ digits := by
  rw [size_ascii]
  · exact (Nat.length_toDigits_le_iff (by decide) positive).mpr small
  · intro c member
    have digit := Nat.isDigit_of_mem_toDigits (by decide) (by decide) member
    simp only [Char.isDigit,Bool.and_eq_true,decide_eq_true_eq] at digit
    have ascii : c.val ≤ 127 := UInt32.le_trans digit.2 (by decide)
    simp [Char.utf8Size,ascii]

variable [FloatText]

theorem byteLength_eq (v : Value) : v.byteLength = size v.text := size_ofList _

/-- The sizes of the values of an object. -/
def sizes (entries : List (String × Value)) : Nat :=
  (entries.map fun entry => size entry.2.text).sum

@[simp] theorem sizes_nil : sizes [] = 0 := rfl

@[simp] theorem sizes_cons (key : String) (v : Value) (rest : List (String × Value)) :
    sizes ((key,v) :: rest) = size v.text + sizes rest := rfl

theorem size_entries_le {entries : List (String × Value)} {key : Nat}
    (keys : ∀ entry ∈ entries, entry.1.utf8ByteSize ≤ key) :
    size (Value.entriesText entries) ≤ entries.length * (6 * key + 4) + sizes entries + 1 := by
  induction entries with
  | nil =>
    have : size ['}'] = 1 := by decide
    simp [Value.entriesText,this]
  | cons entry rest ih =>
    obtain ⟨name,v⟩ := entry
    obtain ⟨head,tail⟩ := List.forall_mem_cons.mp keys
    have later := ih tail
    have text := size_stringText_le name
    have comma : ','.utf8Size = 1 := by decide
    have colon : ':'.utf8Size = 1 := by decide
    have length : (rest.length + 1) * (6 * key + 4) = rest.length * (6 * key + 4) + (6 * key + 4) :=
      Nat.succ_mul ..
    simp only at head
    simp only [Value.entriesText,size_append,size_cons,comma,colon,sizes_cons,List.length_cons,
      length]
    omega

theorem size_object_le (key : Nat) (entries : List (String × Value))
    (keys : ∀ entry ∈ entries, entry.1.utf8ByteSize ≤ key) :
    size (Value.object entries).text ≤ entries.length * (6 * key + 4) + sizes entries + 2 := by
  cases entries with
  | nil =>
    have : size ['{','}'] = 2 := by decide
    simp [Value.text,this]
  | cons entry rest =>
    obtain ⟨name,v⟩ := entry
    have whole := size_entries_le keys
    have brace : '{'.utf8Size = 1 := by decide
    have comma : ','.utf8Size = 1 := by decide
    simp only [Value.entriesText,Value.text,size_append,size_cons,comma,brace] at whole ⊢
    omega

end Json
