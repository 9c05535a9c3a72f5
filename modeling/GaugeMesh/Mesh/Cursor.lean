import GaugeMesh.Base64
import GaugeMesh.Json.Reference
import GaugeMesh.Json.Size
import GaugeMesh.Mesh.Catalog
import GaugeMesh.Replace

/-! `federation.rs`: cursors that the client holds. The body is bounded when a cursor is sealed,
the whole text when it is opened, and the text of a large body is longer than that. -/
namespace GaugeMesh.Catalog
open Json

/-- The message authentication code, a library. -/
class Hmac where
  sign : List UInt8 → List UInt8 → List UInt8
  length_sign : ∀ key message, (sign key message).length = 32

structure CompositeCursor where
  sourcePositions : OrderedMap String
  snapshotDigest : Sha256Digest

/-- The bytes of a text in UTF-8. -/
def utf8 (text : List Char) : List UInt8 := (String.ofList text).toByteArray.data.toList

/-- `serde_json::from_slice`. -/
def fromSlice [SerdeJson] (bytes : List UInt8) : Option Value :=
  (String.fromUTF8? ⟨bytes.toArray⟩).bind SerdeJson.fromStr

namespace CompositeCursor

def encode (cursor : CompositeCursor) : Value := .object [
  ("source_positions",toValue cursor.sourcePositions.entries),
  ("snapshot_digest",toValue cursor.snapshotDigest)]

def decode (v : Value) : Option CompositeCursor := do
  let fields ← structFields ["source_positions","snapshot_digest"] v
  let positions : Entries String ← field fields "source_positions"
  let snapshotDigest ← field fields "snapshot_digest"
  return ⟨.collect positions,snapshotDigest⟩

def body [FloatText] (cursor : CompositeCursor) : List UInt8 := utf8 cursor.encode.text

end CompositeCursor

def sealCursor [FloatText] [Hmac] (cursor : CompositeCursor) (key : List UInt8) :
    Except FederationError String := do
  let body := cursor.body
  reject (body.length > 3072) .cursorTooLarge
  let tag := Hmac.sign key body
  return String.ofList (Base64.encode body ++ '.' :: Base64.encode tag)

def openCursor [SerdeJson] [Hmac] (value : String) (key : List UInt8) :
    Except FederationError CompositeCursor := do
  reject (value.utf8ByteSize > 4096) .cursorTooLarge
  let parts ← okOr (Replace.splitOnce '.' value.toList) .cursorInvalid
  let body ← okOr (Base64.decode parts.1) .cursorInvalid
  let tag ← okOr (Base64.decode parts.2) .cursorInvalid
  reject (Hmac.sign key body ≠ tag) .cursorInvalid
  okOr ((fromSlice body).bind CompositeCursor.decode) .cursorInvalid

theorem length_utf8 (text : List Char) : (utf8 text).length = size text :=
  size_ofList text

theorem fromSlice_utf8 [SerdeJson] (v : Value) (shallow : v.depth ≤ SerdeJson.recursionLimit) :
    fromSlice (utf8 v.text) = some v := by
  have read : String.fromUTF8? ⟨(utf8 v.text).toArray⟩ = some (String.ofList v.text) := by
    rw [utf8,Array.toArray_toList]
    exact dif_pos (String.ofList v.text).isValidUTF8
  rw [fromSlice,read,Option.bind_some,SerdeJson.fromStr_text,if_pos shallow]

theorem CompositeCursor.decode_encode (cursor : CompositeCursor) :
    decode cursor.encode = some cursor := by
  obtain ⟨positions,digest⟩ := cursor
  refine (structFields_object (List.Subset.refl _)).trans ?_
  refine field_then (a := positions.entries) (by simp only [Value.find_cons,↓reduceIte]) ?_
  refine field_then (a := digest) (by simp only [Value.find_cons,↓reduceIte,String.reduceEq]) ?_
  simp

theorem CompositeCursor.depth_encode (cursor : CompositeCursor) : cursor.encode.depth = 2 := by
  have inner : ∀ entries : Entries String,
      Value.depthEntries (entries.map fun entry => (entry.1,Value.string entry.2)) = 0 := by
    intro entries
    induction entries with
    | nil => rfl
    | cons entry rest ih => simpa [Value.depthEntries,Value.depth] using ih
  simp [encode,Value.depth,Value.depthEntries,toValue,inner]

variable [SerdeJson] [Hmac] {cursor : CompositeCursor} {key : List UInt8}

/-- The text that a cursor is sealed as. -/
def sealedText (cursor : CompositeCursor) (key : List UInt8) : List Char :=
  Base64.encode cursor.body ++ '.' :: Base64.encode (Hmac.sign key cursor.body)

theorem sealCursor_ok {text : String} : sealCursor cursor key = .ok text ↔
    cursor.body.length ≤ 3072 ∧ text = String.ofList (sealedText cursor key) := by
  simp only [sealCursor,Except.then_ok,reject_ok,Except.pure_ok,Except.ok.injEq,sealedText]
  constructor
  · rintro ⟨small,rfl⟩
    exact ⟨by omega,rfl⟩
  · rintro ⟨small,rfl⟩
    exact ⟨by omega,rfl⟩

theorem size_sealedText (cursor : CompositeCursor) (key : List UInt8) :
    size (sealedText cursor key) = (4 * cursor.body.length + 2) / 3 + 44 := by
  have all : (Base64.alphabet.all fun c => c.utf8Size == 1) = true := rfl
  have letters : ∀ c ∈ Base64.alphabet, c.utf8Size = 1 := fun c member =>
    beq_iff_eq.mp (List.all_eq_true.mp all c member)
  have ascii : ∀ c ∈ sealedText cursor key, c.utf8Size = 1 := by
    intro c member
    rcases List.mem_append.mp member with body | rest
    · exact letters c (Base64.mem_encode body)
    · rcases List.mem_cons.mp rest with rfl | tag
      · decide
      · exact letters c (Base64.mem_encode tag)
  rw [size_ascii ascii,sealedText,List.length_append,List.length_cons,Base64.length_encode,
    Base64.length_encode,Hmac.length_sign]

/-- A sealed text is opened exactly if the body leaves room for its encoding and the tag. -/
theorem openCursor_sealed (deep : 2 ≤ SerdeJson.recursionLimit) (cursor : CompositeCursor)
    (key : List UInt8) : openCursor (String.ofList (sealedText cursor key)) key =
      if cursor.body.length ≤ 3039 then .ok cursor else .error .cursorTooLarge := by
  have bytes : (String.ofList (sealedText cursor key)).utf8ByteSize =
      (4 * cursor.body.length + 2) / 3 + 44 := (size_ofList _).trans (size_sealedText cursor key)
  have point : '.' ∉ Base64.encode cursor.body := by
    intro member
    exact absurd (Base64.mem_encode member) (by decide)
  have parts : Replace.splitOnce '.' (sealedText cursor key) =
      some (Base64.encode cursor.body,Base64.encode (Hmac.sign key cursor.body)) :=
    Replace.splitOnce_append point _
  have read : (fromSlice cursor.body).bind CompositeCursor.decode = some cursor := by
    rw [CompositeCursor.body,fromSlice_utf8 _ (by rw [CompositeCursor.depth_encode]; exact deep),
      Option.bind_some,CompositeCursor.decode_encode]
  rw [openCursor,bytes]
  by_cases small : cursor.body.length ≤ 3039
  · have fits : ¬(4 * cursor.body.length + 2) / 3 + 44 > 4096 := by omega
    simp [small,fits,reject,parts,Base64.decode_encode,read,okOr]
  · have long : (4 * cursor.body.length + 2) / 3 + 44 > 4096 := by omega
    simp [small,long,reject]

/-- A cursor that is sealed is opened again exactly if its body is at most 3039 bytes long; up to
3072 bytes it is sealed, and its text is then too long. -/
theorem cursor_round_trip (deep : 2 ≤ SerdeJson.recursionLimit) (cursor : CompositeCursor)
    (key : List UInt8) :
    (∀ text, sealCursor cursor key = .ok text → openCursor text key = .ok cursor) ↔
      cursor.body.length ≤ 3039 ∨ 3072 < cursor.body.length := by
  constructor
  · intro opens
    by_contra between
    have opened := opens _ (sealCursor_ok.mpr ⟨by omega,rfl⟩)
    rw [openCursor_sealed deep,if_neg (by omega)] at opened
    cases opened
  · rintro bounds text sealed
    obtain ⟨small,rfl⟩ := sealCursor_ok.mp sealed
    rw [openCursor_sealed deep,if_pos (by omega)]

end GaugeMesh.Catalog

namespace GaugeMesh.Reference

/-- Thirty-two bytes of the key and the message. -/
scoped instance hmac : Catalog.Hmac where
  sign key message := (key ++ message ++ List.replicate 32 0).take 32
  length_sign key message := by
    simp only [List.length_take,List.length_append,List.length_replicate]
    omega

end GaugeMesh.Reference

namespace GaugeMesh.Catalog
open Json Reference

/-- One position of a list, as so many letters. -/
def longCursor (letters : Nat) : CompositeCursor :=
  ⟨OrderedMap.empty.insert "tools" (String.ofList (List.replicate letters 'x')),.default⟩

theorem size_plain (letters : Nat) :
    size (stringText (String.ofList (List.replicate letters 'x'))) = letters + 2 := by
  have kept : escapeAll (List.replicate letters 'x') = List.replicate letters 'x' := by
    induction letters with
    | zero => rfl
    | succ letters ih =>
      rw [List.replicate_succ,escapeAll,List.flatMap_cons]
      rw [escapeAll] at ih
      rw [ih]
      rfl
  have ascii : size (List.replicate letters 'x') = letters := by
    rw [size_ascii fun c member => by rw [(List.mem_replicate.mp member).2]; decide,
      List.length_replicate]
  have quote : '"'.utf8Size = 1 := by decide
  rw [stringText,size_append,size_cons,String.toList_ofList,kept,ascii,size_cons,size_nil,quote]
  omega

theorem length_longCursor (letters : Nat) : (longCursor letters).body.length = letters + 125 := by
  have positions : size (stringText "source_positions") = 18 := by decide
  have tools : size (stringText "tools") = 7 := by decide
  have digest : size (stringText "snapshot_digest") = 17 := by decide
  have zeros : size (stringText Sha256Digest.default.toString) = 73 := by decide
  have marks : '{'.utf8Size = 1 ∧ '}'.utf8Size = 1 ∧ ':'.utf8Size = 1 ∧ ','.utf8Size = 1 := by decide
  have text : (longCursor letters).encode.text = '{' :: stringText "source_positions" ++
      ':' :: ('{' :: stringText "tools" ++
        ':' :: stringText (String.ofList (List.replicate letters 'x')) ++ ['}']) ++
      (',' :: stringText "snapshot_digest" ++ ':' :: stringText Sha256Digest.default.toString ++
        ['}']) := rfl
  rw [CompositeCursor.body,length_utf8,text]
  simp only [size_append,size_cons,size_nil,positions,tools,digest,zeros,marks,size_plain]
  omega

theorem cursor_lost : ∃ text, sealCursor (longCursor 2915) [] = .ok text ∧
    openCursor text [] = .error .cursorTooLarge := by
  have long := length_longCursor 2915
  refine ⟨_,sealCursor_ok.mpr ⟨by omega,rfl⟩,?_⟩
  rw [openCursor_sealed (by decide),if_neg (by omega)]

theorem cursor_round_trip_short :
    (∀ text, sealCursor (longCursor 0) [] = .ok text → openCursor text [] = .ok (longCursor 0)) ↔
      (longCursor 0).body.length ≤ 3039 ∨ 3072 < (longCursor 0).body.length :=
  cursor_round_trip (by decide) (longCursor 0) []

end GaugeMesh.Catalog
