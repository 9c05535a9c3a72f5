import GaugeMesh.Lease.MetaTools
import GaugeMesh.Mesh.Cursor
import GaugeMesh.Model.Execute
import GaugeMesh.Proxy.Window

/-! `mcp.rs`: lists in pages. A cursor holds the place where the next page starts, for one kind
of list and one digest of all the items. -/
namespace GaugeMesh.Catalog
open Json

inductive ListKind where
  | tools
  | resources
  | resourceTemplates
  | prompts
  deriving DecidableEq

def ListKind.name : ListKind → String
  | tools => "tools"
  | resources => "resources"
  | resourceTemplates => "resource_templates"
  | prompts => "prompts"

/-- The cursor for one position of one list. -/
def positionCursor (kind : ListKind) (position : Nat) (snapshotDigest : Sha256Digest) :
    CompositeCursor :=
  ⟨OrderedMap.empty.insert kind.name (String.ofList (Nat.toDigits 10 position)),snapshotDigest⟩

section
variable [SerdeJson] [Sha256] [Hmac] (key : List UInt8) {α : Type} (json : α → Value)

def snapshotDigest (items : List α) : Sha256Digest := .ofJson (.array (items.map json))

def cursorStart (kind : ListKind) (items : List α) (text : String) : Except McpError Nat := do
  let cursor ← (openCursor text key).mapError fun error => .invalidParams error.text
  reject (cursor.snapshotDigest ≠ snapshotDigest json items ∨
    cursor.sourcePositions.entries.length ≠ 1) (.invalidParams "GM_CURSOR_STALE")
  okOr (((cursor.sourcePositions.get kind.name).bind Model.parseU64).filter
    fun position => position ≤ items.length) (.invalidParams "GM_CURSOR_INVALID")

def pageSize : Nat := 128

/-- The page that starts at a place, with the cursor for the next one if there is more. -/
def pageFrom (kind : ListKind) (items : List α) (start : Nat) :
    Except McpError (List α × Option String) := do
  let stop := min (saturatingAdd start pageSize) items.length
  let page := (items.take stop).drop start
  if stop < items.length then
    let next ← (sealCursor (positionCursor kind stop (snapshotDigest json items)) key).mapError
      fun error => .internalError error.text
    return (page,some next)
  else return (page,none)

def page (kind : ListKind) (items : List α) (cursor : Option String) :
    Except McpError (List α × Option String) := do
  let start ← match cursor with
    | some text => cursorStart key json kind items text
    | none => .ok 0
  pageFrom key json kind items start

/-- A client that asks for page after page, with the cursor of the page before, as often as
the fuel allows; nothing if that was not enough. -/
def enumerate (kind : ListKind) (items : List α) : Nat → Option String → Option (Except McpError (List α))
  | 0, _ => none
  | fuel + 1, cursor =>
    match page key json kind items cursor with
    | .error error => some (.error error)
    | .ok (page,none) => some (.ok page)
    | .ok (page,some next) => (enumerate kind items fuel (some next)).map fun rest =>
        rest.map (page ++ ·)

end

theorem parseU64_toDigits {n : Nat} (small : n ≤ maxU64) :
    Model.parseU64 (String.ofList (Nat.toDigits 10 n)) = some n := by
  have digits : ∀ c ∈ Nat.toDigits 10 n, c.isDigit := fun c member =>
    Nat.isDigit_of_mem_toDigits (by decide) (by decide) member
  have nonempty : Nat.toDigits 10 n ≠ [] := Nat.toDigits_ne_nil
  have unsigned : ∀ rest, Nat.toDigits 10 n ≠ '+' :: rest := by
    intro rest same
    exact absurd (digits '+' (by rw [same]; exact List.mem_cons_self)) (by decide)
  rw [Model.parseU64,String.toList_ofList]
  split
  · next rest same => exact absurd same (unsigned rest)
  · simp [nonempty,List.all_eq_true.mpr digits,small]

variable [SerdeJson]

theorem length_positionCursor (kind : ListKind) {position : Nat} {digest : Sha256Digest}
    (small : position ≤ maxU64) (whole : digest.Whole) :
    (positionCursor kind position digest).body.length ≤ 3039 := by
  have names : kind.name.utf8ByteSize ≤ 18 := by cases kind <;> decide
  have digits : (String.ofList (Nat.toDigits 10 position)).utf8ByteSize ≤ 20 := by
    rw [size_ofList]
    exact size_digits_le (by decide) (by rw [maxU64] at small; omega)
  have text := size_stringText_le (String.ofList (Nat.toDigits 10 position))
  have hex := size_stringText_le digest.toString
  rw [digest.bytes_toString,whole] at hex
  have inner := size_object_le 18 [(kind.name,Value.string (String.ofList (Nat.toDigits 10 position)))]
    (by simpa using names)
  have outer := size_object_le 16 [("source_positions",Value.object
      [(kind.name,Value.string (String.ofList (Nat.toDigits 10 position)))]),
    ("snapshot_digest",Value.string digest.toString)] (by simp; decide)
  have same : (positionCursor kind position digest).encode.text = (Value.object
      [("source_positions",Value.object
        [(kind.name,Value.string (String.ofList (Nat.toDigits 10 position)))]),
      ("snapshot_digest",Value.string digest.toString)]).text := rfl
  rw [CompositeCursor.body,length_utf8,same]
  simp only [sizes_cons,sizes_nil,Value.text,List.length_cons,List.length_nil] at inner outer ⊢
  omega

variable [Sha256] [Hmac] {key : List UInt8} {α : Type} {json : α → Value} {kind : ListKind}
  {items : List α}

variable (key kind) in
theorem sealCursor_position {position : Nat} (small : position ≤ maxU64)
    (whole : (snapshotDigest json items).Whole) :
    sealCursor (positionCursor kind position (snapshotDigest json items)) key =
      .ok (String.ofList (sealedText (positionCursor kind position (snapshotDigest json items)) key)) := by
  have short := length_positionCursor kind small whole
  exact sealCursor_ok.mpr ⟨by omega,rfl⟩

/-- A place of the list is read back from its cursor. -/
theorem cursorStart_position (deep : 2 ≤ SerdeJson.recursionLimit) {position : Nat}
    (bounded : items.length ≤ maxU64) (inside : position ≤ items.length)
    (whole : (snapshotDigest json items).Whole) :
    cursorStart key json kind items (String.ofList
      (sealedText (positionCursor kind position (snapshotDigest json items)) key)) = .ok position := by
  have small : position ≤ maxU64 := inside.trans bounded
  have opened := openCursor_sealed deep (positionCursor kind position (snapshotDigest json items)) key
  rw [if_pos (length_positionCursor kind small whole)] at opened
  have single : (positionCursor kind position (snapshotDigest json items)).sourcePositions.entries =
      [(kind.name,String.ofList (Nat.toDigits 10 position))] := rfl
  have found : (positionCursor kind position (snapshotDigest json items)).sourcePositions.get
      kind.name = some (String.ofList (Nat.toDigits 10 position)) := by
    rw [positionCursor,OrderedMap.get_insert,if_pos rfl]
  have same : (positionCursor kind position (snapshotDigest json items)).snapshotDigest =
      snapshotDigest json items := rfl
  rw [cursorStart,opened]
  simp [Except.mapError,bind,Except.bind,reject,same,single,found,parseU64_toDigits small,okOr,Option.filter,inside]

variable (key) in
/-- A cursor is only taken for the list and the kind that it was sealed for. -/
theorem cursorStart_other (deep : 2 ≤ SerdeJson.recursionLimit) {cursor : CompositeCursor}
    (other : cursor.snapshotDigest ≠ snapshotDigest json items ∨
      cursor.sourcePositions.get kind.name = none) :
    ∃ error, cursorStart key json kind items (String.ofList (sealedText cursor key)) = .error error := by
  have opened := openCursor_sealed deep cursor key
  rcases started : cursorStart key json kind items (String.ofList (sealedText cursor key)) with
    error | start
  · exact ⟨error,rfl⟩
  simp only [cursorStart,Except.bind_ok,okOr_ok,mapError_ok] at started
  obtain ⟨read,reads,_,fresh,position⟩ := started
  rw [reads] at opened
  split at opened
  · cases opened
    rcases other with stale | missing
    · exact absurd (Or.inl stale) ((reject_ok _ _).mp fresh)
    · rw [missing] at position
      cases position
  · cases opened

/-- The page at a place, with the cursor of the place after it. -/
theorem pageFrom_inside {start : Nat} (bounded : items.length ≤ maxU64)
    (whole : (snapshotDigest json items).Whole) :
    pageFrom key json kind items start = .ok (
      if start + pageSize < items.length then
        ((items.drop start).take pageSize,some (String.ofList (sealedText
          (positionCursor kind (start + pageSize) (snapshotDigest json items)) key)))
      else (items.drop start,none)) := by
  rw [pageFrom]
  by_cases more : start + pageSize < items.length
  · have stop : min (saturatingAdd start pageSize) items.length = start + pageSize := by
      rw [saturatingAdd]
      omega
    rw [stop,if_pos more,sealCursor_position key kind (by omega) whole,if_pos more,List.drop_take]
    simp
    rfl
  · have stop : min (saturatingAdd start pageSize) items.length = items.length := by
      rw [saturatingAdd]
      omega
    rw [stop,if_neg (lt_irrefl _),if_neg more,List.take_length]
    rfl

/-- The rest of the list follows from any place, in as many pages as it fills. -/
theorem enumerate_from (deep : 2 ≤ SerdeJson.recursionLimit) (bounded : items.length ≤ maxU64)
    (whole : (snapshotDigest json items).Whole) (fuel : Nat) {start : Nat} {cursor : Option String}
    (here : page key json kind items cursor = pageFrom key json kind items start)
    (enough : items.length < start + pageSize * (fuel + 1)) :
    enumerate key json kind items (fuel + 1) cursor = some (.ok (items.drop start)) := by
  induction fuel generalizing start cursor with
  | zero =>
    have last : ¬start + pageSize < items.length := by omega
    rw [enumerate,here,pageFrom_inside bounded whole,if_neg last]
  | succ fuel ih =>
    rw [enumerate,here,pageFrom_inside bounded whole]
    by_cases more : start + pageSize < items.length
    · have next : page key json kind items (some (String.ofList (sealedText
          (positionCursor kind (start + pageSize) (snapshotDigest json items)) key))) =
          pageFrom key json kind items (start + pageSize) := by
        rw [page,cursorStart_position deep bounded (by omega) whole]
        rfl
      have split : (items.drop start).take pageSize ++ items.drop (start + pageSize) =
          items.drop start := by
        rw [← List.drop_drop,List.take_append_drop]
      rw [if_pos more]
      simp only [ih next (by rw [pageSize] at enough ⊢; omega),Option.map_some,Except.map,split]
    · rw [if_neg more]

variable (key json kind items) in
/-- Following the cursors gives the list, and a cursor of another list or of another kind is
refused. -/
theorem pages_exact (deep : 2 ≤ SerdeJson.recursionLimit) (bounded : items.length ≤ maxU64) :
    ((snapshotDigest json items).Whole →
      enumerate key json kind items (items.length / pageSize + 1) none = some (.ok items)) ∧
    (Function.Injective Sha256.digest → ∀ (β : Type) (json' : β → Value) (items' : List β)
      (kind' : ListKind) (position : Nat) (text : String),
      sealCursor (positionCursor kind' position (snapshotDigest json' items')) key = .ok text →
      (kind' ≠ kind ∨ canonicalJson (.array (items'.map json')) ≠ canonicalJson (.array (items.map json))) →
      ∃ error, page key json kind items (some text) = .error error) := by
  constructor
  · intro whole
    have first : page key json kind items none = pageFrom key json kind items 0 := rfl
    refine enumerate_from deep bounded whole (items.length / pageSize) first ?_
    have division := Nat.lt_mul_div_succ items.length (b := pageSize) (by decide)
    omega
  · intro hash β json' items' kind' position text sealed other
    obtain ⟨-,rfl⟩ := sealCursor_ok.mp sealed
    have refused : (positionCursor kind' position (snapshotDigest json' items')).snapshotDigest ≠
        snapshotDigest json items ∨ (positionCursor kind' position
          (snapshotDigest json' items')).sourcePositions.get kind.name = none := by
      rcases other with kinds | lists
      · right
        have names : kind.name ≠ kind'.name := by
          cases kind <;> cases kind' <;> simp [ListKind.name] at kinds ⊢
        rw [positionCursor,OrderedMap.get_insert,if_neg names,OrderedMap.get_empty]
      · exact .inl fun same => lists (Sha256Digest.ofJson_injective hash _ _ same)
    obtain ⟨error,failed⟩ := cursorStart_other key deep refused
    exact ⟨error,by rw [page,failed]; rfl⟩

end GaugeMesh.Catalog

namespace GaugeMesh.Reference

/-- A hash of thirty-two bytes: what it reads first. -/
@[reducible] def cutSha256 : Sha256 := ⟨fun bytes => (bytes ++ List.replicate 32 0).take 32⟩

theorem cutSha256_whole (v : Json.Value) : (@Sha256Digest.ofJson _ cutSha256 v).Whole := by
  refine (List.length_take_of_le ?_ : (List.take 32 (_ ++ List.replicate 32 (0 : UInt8))).length = 32)
  rw [List.length_append,List.length_replicate]
  omega

end GaugeMesh.Reference

namespace GaugeMesh.Catalog
open Json Reference

def letters : List String := [String.ofList (List.replicate 28 'x')]

theorem letters_whole : (snapshotDigest Value.string letters).Whole := by
  have canonical : canonicalJson (.array (letters.map .string)) = .array (letters.map .string) := by
    simp only [letters,List.map_cons,List.map_nil,canonicalJson,canonicalItems]
  have text : (Value.array (letters.map .string)).text =
      '[' :: stringText (String.ofList (List.replicate 28 'x')) ++ [']'] := by
    simp only [letters,List.map_cons,List.map_nil,Value.text,Value.itemsText]
  rw [snapshotDigest,Sha256Digest.ofJson,canonical,text,Sha256Digest.Whole]
  refine (length_utf8 _).trans ?_
  rw [size_append,size_cons,size_plain]
  decide

theorem pages_exact_numbers :
    @enumerate _ cutSha256 _ [] _ (fun n => .number (.posInt n)) .tools (List.range 300) 3 none =
      some (.ok (List.range 300)) ∧
    ∃ error, page [] Value.string .tools letters (some (String.ofList (sealedText
      (positionCursor .prompts 1 (snapshotDigest Value.string letters)) []))) = .error error := by
  constructor
  · have long := (@pages_exact _ cutSha256 _ [] _ (fun n => .number (.posInt n)) .tools
      (List.range 300) (by decide) (by rw [List.length_range]; decide)).1 (cutSha256_whole _)
    rw [List.length_range] at long
    exact long
  · have sealed := sealCursor_position [] .prompts (by decide : 1 ≤ maxU64) letters_whole
    exact (pages_exact [] Value.string .tools letters (by decide) (by decide)).2
      Function.injective_id _ _ _ _ _ _ sealed (.inl (by decide))

end GaugeMesh.Catalog
