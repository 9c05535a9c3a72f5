import GaugeMesh.Json.Reference
import GaugeMesh.Json.Size

/-! Bounds on the size of a text by its parts. A canonical document is no longer than the document,
so that even a hash that keeps its input leaves digests of a known size. -/
namespace Json

section
variable [FloatText]

/-- The entries of an object, each with its colon and its comma. -/
def room (entries : Entries Value) : Nat :=
  (entries.map fun entry => size (stringText entry.1) + size entry.2.text + 2).sum

@[simp] theorem room_nil : room [] = 0 := rfl

@[simp] theorem room_cons (entry : String × Value) (rest : Entries Value) :
    room (entry :: rest) = size (stringText entry.1) + size entry.2.text + 2 + room rest := by
  simp [room]

theorem size_entriesText (entries : Entries Value) :
    size (Value.entriesText entries) = room entries + 1 := by
  have comma : ','.utf8Size = 1 := by decide
  have colon : ':'.utf8Size = 1 := by decide
  induction entries with
  | nil =>
    have brace : '}'.utf8Size = 1 := by decide
    simp [Value.entriesText,brace]
  | cons entry rest ih =>
    simp only [Value.entriesText,size_append,size_cons,comma,colon,ih,room_cons]
    omega

theorem size_object (entry : String × Value) (rest : Entries Value) :
    size (Value.object (entry :: rest)).text = room (entry :: rest) + 1 := by
  have brace : '{'.utf8Size = 1 := by decide
  have colon : ':'.utf8Size = 1 := by decide
  simp only [Value.text,size_append,size_cons,brace,colon,size_entriesText,room_cons]
  omega

theorem size_array (v : Value) (rest : List Value) :
    size (Value.array (v :: rest)).text = size v.text + size (Value.itemsText rest) + 1 := by
  have bracket : '['.utf8Size = 1 := by decide
  simp only [Value.text,size_append,size_cons,bracket]
  omega

theorem room_insert_le (key : String) (v : Value) (entries : Entries Value) :
    room (Entries.insert key v entries) ≤ size (stringText key) + size v.text + 2 + room entries := by
  induction entries with
  | nil => simp [Entries.insert]
  | cons entry rest ih =>
    obtain ⟨name,old⟩ := entry
    rw [Entries.insert]
    split
    · rw [room_cons]
    split
    · simp only [room_cons]
      omega
    · simp only [room_cons]
      omega

theorem room_collect_le (entries : Entries Value) : room (Entries.collect entries) ≤ room entries := by
  have folded (map : Entries Value) :
      room (entries.foldl (fun map entry => Entries.insert entry.1 entry.2 map) map) ≤
        room map + room entries := by
    induction entries generalizing map with
    | nil => simp
    | cons entry rest ih =>
      have head := room_insert_le entry.1 entry.2 map
      have tail := ih (Entries.insert entry.1 entry.2 map)
      rw [List.foldl_cons,room_cons]
      omega
  exact (folded []).trans_eq (Nat.zero_add _)

omit [FloatText] in
theorem collect_ne_nil (entry : String × Value) (rest : Entries Value) :
    Entries.collect (entry :: rest) ≠ [] := by
  have inserted (key : String) (v : Value) (map : Entries Value) : Entries.insert key v map ≠ [] := by
    cases map with
    | nil => simp [Entries.insert]
    | cons head tail =>
      rw [Entries.insert]
      split
      · simp
      split <;> simp
  have folded (entries map : Entries Value) (present : map ≠ []) :
      entries.foldl (fun map entry => Entries.insert entry.1 entry.2 map) map ≠ [] := by
    induction entries generalizing map with
    | nil => exact present
    | cons head tail ih => exact ih _ (inserted _ _ _)
  exact folded rest _ (inserted _ _ _)

/-- A field with a short name and a value of at most this size. -/
def Sized (entry : String × Value) (most : Nat) : Prop :=
  entry.1.utf8ByteSize ≤ 32 ∧ size entry.2.text ≤ most

theorem sized {entries : Entries Value} {bounds : List Nat}
    (short : ∀ key ∈ entries.map Prod.fst, key.utf8ByteSize ≤ 32)
    (each : List.Forall₂ (fun entry most => size entry.2.text ≤ most) entries bounds) :
    List.Forall₂ Sized entries bounds := by
  induction each with
  | nil => exact .nil
  | cons small _ ih =>
    rw [List.map_cons,List.forall_mem_cons] at short
    exact .cons ⟨short.1,small⟩ (ih short.2)

theorem size_bounded (entries : Entries Value) (bounds : List Nat)
    (each : List.Forall₂ Sized entries bounds) :
    size (Value.object entries).text ≤ entries.length * 196 + bounds.sum + 2 := by
  have keys : ∀ entry ∈ entries, entry.1.utf8ByteSize ≤ 32 := by
    induction each with
    | nil => simp
    | cons head _ ih => exact List.forall_mem_cons.mpr ⟨head.1,ih⟩
  have values : sizes entries ≤ bounds.sum := by
    clear keys
    induction each with
    | nil => simp
    | cons head _ ih => exact Nat.add_le_add head.2 ih
  have whole := size_object_le 32 entries keys
  omega

theorem size_literal (n : Nat) {s : String} {cs : List Char} (same : s = String.ofList cs)
    (short : size cs ≤ n) : size (Value.string s).text ≤ 6 * n + 2 := by
  have bound := size_stringText_le s
  rw [same,size_ofList] at bound
  rw [Value.text,same]
  omega

theorem size_number {n : Nat} (small : n < 10 ^ 8) : size (Value.number (.posInt n)).text ≤ 8 :=
  size_digits_le (by decide) small

theorem size_true : size (Value.bool true).text ≤ 5 := by
  rw [Value.text]
  decide

theorem size_false : size (Value.bool false).text ≤ 5 := by
  rw [Value.text]
  decide

theorem size_null : size Value.null.text ≤ 5 := by
  rw [Value.text]
  decide

end
end Json

namespace GaugeMesh
open Json

variable [FloatText]

mutual

/-- Bringing a document into its canonical form makes it no longer. -/
theorem size_canonicalJson_le : (v : Value) → size (canonicalJson v).text ≤ size v.text
  | .null | .bool _ | .number _ | .string _ => by rw [canonicalJson] <;> simp
  | .array [] => by rw [canonicalJson,canonicalItems]
  | .array (v :: rest) => by
    have head := size_canonicalJson_le v
    have tail := size_canonicalItems_le rest
    rw [canonicalJson,canonicalItems,size_array,size_array]
    omega
  | .object [] => le_rfl
  | .object ((key,v) :: rest) => by
    have shorter := room_canonicalEntries_le ((key,v) :: rest)
    have collected := room_collect_le (canonicalEntries ((key,v) :: rest))
    have present : Entries.collect (canonicalEntries ((key,v) :: rest)) ≠ [] := by
      rw [canonicalEntries]
      exact collect_ne_nil _ _
    rw [canonicalJson,size_object]
    obtain ⟨first,others,shape⟩ := List.exists_cons_of_ne_nil present
    rw [shape] at collected ⊢
    rw [size_object]
    omega

theorem size_canonicalItems_le : (items : List Value) →
    size (Value.itemsText (canonicalItems items)) ≤ size (Value.itemsText items)
  | [] => le_rfl
  | v :: rest => by
    have head := size_canonicalJson_le v
    have tail := size_canonicalItems_le rest
    have comma : ','.utf8Size = 1 := by decide
    simp only [canonicalItems,Value.itemsText,size_append,size_cons]
    omega

theorem room_canonicalEntries_le : (entries : Entries Value) →
    room (canonicalEntries entries) ≤ room entries
  | [] => le_rfl
  | (key,v) :: rest => by
    have head := size_canonicalJson_le v
    have tail := room_canonicalEntries_le rest
    simp only [canonicalEntries,room_cons]
    omega

end

/-- Characters that are written as they are. -/
def Plain (cs : List Char) : Prop := ∀ c ∈ cs, c.utf8Size = 1 ∧ escape c = [c]

omit [FloatText] in
theorem size_plain {s : String} (plain : Plain s.toList) : size (stringText s) = s.toList.length + 2 := by
  have same : escapeAll s.toList = s.toList := by
    rw [escapeAll,List.flatMap_congr fun c member => (plain c member).2]
    exact List.flatMap_singleton' _
  have quote : '"'.utf8Size = 1 := by decide
  rw [stringText,same,size_append,size_cons,size_cons,size_nil,quote,
    size_ascii fun c member => (plain c member).1]
  omega

omit [FloatText] in
theorem plain_hexChars (bytes : List UInt8) : Plain (bytes.flatMap Sha256Digest.hexChars) := by
  have digits : ∀ n < 16, (hexDigit n).utf8Size = 1 ∧ escape (hexDigit n) = [hexDigit n] := by decide
  intro c member
  obtain ⟨byte,-,there⟩ := List.mem_flatMap.mp member
  have small := byte.toNat_lt
  simp only [Sha256Digest.hexChars,List.mem_cons,List.not_mem_nil,or_false] at there
  rcases there with rfl | rfl
  · exact digits _ (by omega)
  · exact digits _ (by omega)

omit [FloatText] in
theorem length_hexChars (bytes : List UInt8) :
    (bytes.flatMap Sha256Digest.hexChars).length = 2 * bytes.length := by
  simp [List.length_flatMap,Sha256Digest.hexChars,Nat.mul_comm]

omit [FloatText] in
theorem size_hexChars (bytes : List UInt8) :
    size (bytes.flatMap Sha256Digest.hexChars) = 2 * bytes.length := by
  rw [size_ascii fun c member => (plain_hexChars bytes c member).1,length_hexChars]

theorem size_digestText (digest : Sha256Digest) :
    size (Value.string digest.toString).text = 2 * digest.bytes.length + 9 := by
  have plain : Plain digest.toString.toList := by
    rw [Sha256Digest.toString,String.toList_ofList]
    intro c member
    have front : ∀ c ∈ Sha256Digest.scheme, c.utf8Size = 1 ∧ escape c = [c] := by
      simp [Sha256Digest.scheme,escape,Char.utf8Size]
    rcases List.mem_append.mp member with scheme | hex
    · exact front c scheme
    · exact plain_hexChars _ c hex
  have front : Sha256Digest.scheme.length = 7 := rfl
  rw [Value.text,size_plain plain,Sha256Digest.toString,String.toList_ofList,List.length_append,
    length_hexChars,front]
  omega

end GaugeMesh

namespace GaugeMesh.Reference
open Json

variable [FloatText]

omit [FloatText] in
/-- The bytes of a text. -/
theorem size_ofBytes (cs : List Char) :
    (Sha256Digest.ofStr (String.ofList cs)).bytes.length = size cs := by
  rw [← size_ofList]
  exact Array.length_toList

theorem size_ofJson_le (v : Value) :
    size (Value.string (Sha256Digest.ofJson v).toString).text ≤ 2 * size v.text + 9 := by
  have shorter := size_canonicalJson_le v
  rw [size_digestText,Sha256Digest.ofJson,size_ofBytes]
  omega

theorem size_json {v : Value} {n : Nat} (small : size v.text ≤ n) :
    size (Value.string (Sha256Digest.ofJson v).toString).text ≤ 2 * n + 9 := by
  have bound := size_ofJson_le v
  omega

theorem size_default : size (Value.string Sha256Digest.default.toString).text ≤ 73 :=
  (size_digestText .default).le

/-- The bytes of the text of a document. -/
noncomputable def written (v : Value) : List UInt8 := (String.ofList v.text).toByteArray.data.toList

theorem length_written (v : Value) : (written v).length = size v.text := by
  rw [written,← size_ofList]
  exact Array.length_toList

omit [FloatText] in
theorem bytes_ofBytes (bytes : List UInt8) : (Sha256Digest.ofBytes bytes).bytes = bytes := rfl

theorem written_injective : Function.Injective written := by
  intro v w same
  have arrays : (String.ofList v.text).toByteArray = (String.ofList w.text).toByteArray :=
    ByteArray.ext (Array.toList_inj.mp same)
  have texts := congrArg String.toList (String.toByteArray_inj.mp arrays)
  rw [String.toList_ofList,String.toList_ofList] at texts
  exact Value.text_injective texts

open Classical in
noncomputable scoped instance bytes : SerdeJson.Bytes where
  fromSlice bytes :=
    if read : ∃ v : Value, v.depth ≤ 127 ∧ written v = bytes then some read.choose else none

theorem fromSlice_written {v : Value} (shallow : v.depth ≤ 127) :
    SerdeJson.Bytes.fromSlice (written v) = some v := by
  have read : ∃ u : Value, u.depth ≤ 127 ∧ written u = written v := ⟨v,shallow,rfl⟩
  exact (dif_pos read).trans (congrArg some (written_injective read.choose_spec.2))

end GaugeMesh.Reference
