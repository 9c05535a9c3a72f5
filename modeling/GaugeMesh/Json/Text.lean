import GaugeMesh.Json.Value

/-! The compact text of a value, and that it determines the value. Strings end at
the first unescaped quote, numbers at the first character no number contains, and
every container closes with its own bracket, so two texts that agree up to what
follows them were written from the same value. -/
namespace Json

def hexDigit (n : Nat) : Char := Nat.digitChar n

def hexValue (c : Char) : Nat :=
  if c.isDigit then c.toNat - '0'.toNat else c.toNat - 'a'.toNat + 10

def escape (c : Char) : List Char :=
  if c = '"' then ['\\','"']
  else if c = '\\' then ['\\','\\']
  else if c = '\x08' then ['\\','b']
  else if c = '\x0c' then ['\\','f']
  else if c = '\n' then ['\\','n']
  else if c = '\r' then ['\\','r']
  else if c = '\t' then ['\\','t']
  else if c.toNat < 32 then ['\\','u','0','0',hexDigit (c.toNat / 16),hexDigit (c.toNat % 16)]
  else [c]

def escapeAll (cs : List Char) : List Char := cs.flatMap escape

def stringText (s : String) : List Char := '"' :: escapeAll s.toList ++ ['"']

/-- Reads one escaped character back. -/
def unescape : List Char → Option (Char × List Char)
  | '\\' :: '"' :: rest => some ('"',rest)
  | '\\' :: '\\' :: rest => some ('\\',rest)
  | '\\' :: 'b' :: rest => some ('\x08',rest)
  | '\\' :: 'f' :: rest => some ('\x0c',rest)
  | '\\' :: 'n' :: rest => some ('\n',rest)
  | '\\' :: 'r' :: rest => some ('\r',rest)
  | '\\' :: 't' :: rest => some ('\t',rest)
  | '\\' :: 'u' :: '0' :: '0' :: high :: low :: rest =>
    some (Char.ofNat (hexValue high * 16 + hexValue low),rest)
  | c :: rest => some (c,rest)
  | [] => none

theorem hexValue_pair (n : Nat) (small : n < 32) :
    hexValue (hexDigit (n / 16)) * 16 + hexValue (hexDigit (n % 16)) = n := by
  revert n
  decide

theorem unescape_plain (c : Char) (rest : List Char) (plain : c ≠ '\\') :
    unescape (c :: rest) = some (c,rest) := by
  unfold unescape
  split <;> simp_all

theorem unescape_escape (c : Char) (rest : List Char) :
    unescape (escape c ++ rest) = some (c,rest) := by
  unfold escape
  split
  · next h => subst h; rfl
  split
  · next h => subst h; rfl
  split
  · next h => subst h; rfl
  split
  · next h => subst h; rfl
  split
  · next h => subst h; rfl
  split
  · next h => subst h; rfl
  split
  · next h => subst h; rfl
  split
  · next small =>
    simp only [List.cons_append,List.nil_append,unescape,hexValue_pair _ small,Char.ofNat_toNat]
  · next backslash _ _ _ _ _ _ => exact unescape_plain c rest backslash

theorem escape_head (c : Char) (rest tail : List Char) : escape c ++ rest ≠ '"' :: tail := by
  intro same
  have read := unescape_escape c rest
  rw [same,unescape_plain '"' tail (by decide)] at read
  obtain ⟨rfl,rfl⟩ := by simpa using read
  simp [escape] at same

theorem escapeAll_cancel (s t : List Char) (x y : List Char)
    (same : escapeAll s ++ '"' :: x = escapeAll t ++ '"' :: y) : s = t ∧ x = y := by
  induction s generalizing t with
  | nil =>
    cases t with
    | nil => simpa [escapeAll] using same
    | cons d t =>
      simp only [escapeAll,List.flatMap_nil,List.nil_append,List.flatMap_cons,
        List.append_assoc] at same
      exact absurd same.symm (escape_head d _ _)
  | cons c s ih =>
    cases t with
    | nil =>
      simp only [escapeAll,List.flatMap_nil,List.nil_append,List.flatMap_cons,
        List.append_assoc] at same
      exact absurd same (escape_head c _ _)
    | cons d t =>
      simp only [escapeAll,List.flatMap_cons,List.append_assoc] at same
      have read := congrArg unescape same
      rw [unescape_escape,unescape_escape] at read
      simp only [Option.some.injEq,Prod.mk.injEq] at read
      obtain ⟨rfl,rest⟩ := ih t read.2
      exact ⟨by rw [read.1],rest⟩

theorem stringText_cancel (s t : String) (x y : List Char)
    (same : stringText s ++ x = stringText t ++ y) : s = t ∧ x = y := by
  simp only [stringText,List.cons_append,List.append_assoc,List.nil_append,List.cons.injEq,
    true_and] at same
  obtain ⟨chars,rest⟩ := escapeAll_cancel _ _ _ _ same
  exact ⟨String.toList_inj.mp chars,rest⟩

theorem toDigits_injective (a b : Nat) (same : Nat.toDigits 10 a = Nat.toDigits 10 b) : a = b := by
  rw [← Nat.ofDigitChars_toDigits (b := 10) (n := a) (by decide) (by decide),same,
    Nat.ofDigitChars_toDigits (by decide) (by decide)]

private theorem negative_ne_natural (a b : Nat) :
    '-' :: Nat.toDigits 10 a ≠ Nat.toDigits 10 b := by
  intro same
  have : '-' ∈ Nat.toDigits 10 b := by rw [← same]; simp
  exact absurd (Nat.isDigit_of_mem_toDigits (by decide) (by decide) this) (by decide)

def IsNumeric (c : Char) : Prop := c.isDigit ∨ c ∈ ['-','+','.','e']

instance : DecidablePred IsNumeric := fun _ => inferInstanceAs (Decidable (_ ∨ _))

/-- What may follow a value inside a text. -/
def Ends (rest : List Char) : Prop := ∀ c, rest.head? = some c → c ∈ [',',']','}']

theorem numeric_cancel (a b x y : List Char) (first : ∀ c ∈ a, IsNumeric c)
    (second : ∀ c ∈ b, IsNumeric c) (ex : Ends x) (ey : Ends y) (same : a ++ x = b ++ y) :
    a = b ∧ x = y := by
  have stop : ∀ {z : List Char} {c : Char} {cs : List Char}, Ends z → IsNumeric c →
      z ≠ c :: cs := by
    rintro z c cs ends numeric rfl
    have closing := ends c rfl
    simp only [List.mem_cons,List.not_mem_nil,or_false] at closing
    rcases closing with rfl | rfl | rfl <;> exact absurd numeric (by decide)
  induction a generalizing b with
  | nil =>
    cases b with
    | nil => exact ⟨rfl,same⟩
    | cons d b => exact absurd same (stop ex (second d (by simp)))
  | cons c a ih =>
    cases b with
    | nil => exact absurd same.symm (stop ey (first c (by simp)))
    | cons d b =>
      obtain ⟨rfl,rest⟩ := List.cons.inj same
      obtain ⟨rfl,tails⟩ := ih b (fun e m => first e (by simp [m]))
        (fun e m => second e (by simp [m])) rest
      exact ⟨rfl,tails⟩

/-- The kind of value a text starts with; numbers start with whatever is left. -/
def leading : List Char → Nat
  | 'n' :: _ => 0
  | 't' :: _ => 1
  | 'f' :: _ => 2
  | '"' :: _ => 3
  | '[' :: _ => 4
  | '{' :: _ => 5
  | _ => 6

theorem leading_numeric (c : Char) (cs : List Char) (numeric : IsNumeric c) :
    leading (c :: cs) = 6 := by
  unfold leading
  split <;> first | rfl | (rename_i h; cases h; exact absurd numeric (by decide))

/-- How one double is printed. The library prints the shortest decimal text that
reads back as the same double, always with a point or an exponent. -/
class FloatText where
  text : F64 → List Char
  injective : Function.Injective text
  numeric : ∀ value, ∀ c ∈ text value, c.isDigit ∨ c ∈ ['-','+','.','e']
  marked : ∀ value, '.' ∈ text value ∨ 'e' ∈ text value

variable [FloatText]

def Number.text : Number → List Char
  | .posInt n => Nat.toDigits 10 n
  | .negInt n => '-' :: Nat.toDigits 10 (n+1)
  | .float f => FloatText.text f

namespace Value

mutual

def text : Value → List Char
  | .null => ['n','u','l','l']
  | .bool true => ['t','r','u','e']
  | .bool false => ['f','a','l','s','e']
  | .number n => n.text
  | .string s => stringText s
  | .array [] => ['[',']']
  | .array (v :: vs) => '[' :: v.text ++ itemsText vs
  | .object [] => ['{','}']
  | .object ((k,v) :: rest) => '{' :: stringText k ++ ':' :: v.text ++ entriesText rest

/-- The items after the first, with the closing bracket. -/
def itemsText : List Value → List Char
  | [] => [']']
  | v :: vs => ',' :: v.text ++ itemsText vs

def entriesText : List (String × Value) → List Char
  | [] => ['}']
  | (k,v) :: rest => ',' :: stringText k ++ ':' :: v.text ++ entriesText rest

end

/-- Length in bytes of the compact text. -/
def byteLength (v : Value) : Nat := (String.ofList v.text).utf8ByteSize

end Value


theorem numeric_text (n : Number) : ∀ c ∈ n.text, IsNumeric c := by
  intro c member
  cases n with
  | posInt n => exact .inl (Nat.isDigit_of_mem_toDigits (by decide) (by decide) member)
  | negInt n =>
    rcases List.mem_cons.mp member with rfl | digits
    · exact .inr (by simp)
    · exact .inl (Nat.isDigit_of_mem_toDigits (by decide) (by decide) digits)
  | float f => exact FloatText.numeric f c member

theorem text_ne_nil (n : Number) : n.text ≠ [] := by
  cases n with
  | posInt n => exact Nat.toDigits_ne_nil
  | negInt n => simp [Number.text]
  | float f =>
    intro empty
    rcases FloatText.marked f with point | exponent
    · simp [Number.text] at empty; simp [empty] at point
    · simp [Number.text] at empty; simp [empty] at exponent

/-- An integer is printed with digits only, after at most one sign. -/
private theorem float_ne_integer (f : F64) (digits : Nat) (front : List Char)
    (plain : '.' ∉ front ∧ 'e' ∉ front) :
    FloatText.text f ≠ front ++ Nat.toDigits 10 digits := by
  intro same
  have digit : ∀ c ∈ Nat.toDigits 10 digits, c.isDigit :=
    fun c member => Nat.isDigit_of_mem_toDigits (by decide) (by decide) member
  rcases FloatText.marked f with point | exponent
  · rw [same] at point
    rcases List.mem_append.mp point with h | h
    · exact plain.1 h
    · exact absurd (digit _ h) (by decide)
  · rw [same] at exponent
    rcases List.mem_append.mp exponent with h | h
    · exact plain.2 h
    · exact absurd (digit _ h) (by decide)

theorem Number.text_injective (a b : Number) (same : a.text = b.text) : a = b := by
  cases a <;> cases b <;> simp only [Number.text] at same
  case posInt.posInt a b => rw [toDigits_injective a b same]
  case posInt.negInt a b => exact absurd same.symm (negative_ne_natural _ _)
  case posInt.float a f => exact absurd same.symm (float_ne_integer f a [] (by simp))
  case negInt.posInt a b => exact absurd same (negative_ne_natural _ _)
  case negInt.negInt a b =>
    have := toDigits_injective _ _ (List.cons.inj same).2
    rw [Nat.succ.inj this]
  case negInt.float a f => exact absurd same.symm (float_ne_integer f (a+1) ['-'] (by decide))
  case float.posInt f b => exact absurd same (float_ne_integer f b [] (by simp))
  case float.negInt f b => exact absurd same (float_ne_integer f (b+1) ['-'] (by decide))
  case float.float f g => rw [FloatText.injective same]

theorem leading_number (n : Number) (rest : List Char) : leading (n.text ++ rest) = 6 := by
  cases shape : n.text with
  | nil => exact absurd shape (text_ne_nil n)
  | cons c cs => exact leading_numeric c _ (numeric_text n c (by simp [shape]))

def Value.kind : Value → Nat
  | .null => 0
  | .bool true => 1
  | .bool false => 2
  | .string _ => 3
  | .array _ => 4
  | .object _ => 5
  | .number _ => 6

theorem leading_text (v : Value) (rest : List Char) : leading (v.text ++ rest) = v.kind := by
  cases v with
  | null => rfl
  | bool b => cases b <;> rfl
  | number n => exact leading_number n rest
  | string s => rfl
  | array items => cases items <;> rfl
  | object entries => rcases entries with _ | ⟨⟨k,v⟩,es⟩ <;> rfl

/-- A value never starts with the bracket that closes a container. -/
theorem text_ne_closing (v : Value) (rest tail : List Char) : v.text ++ rest ≠ ']' :: tail := by
  intro same
  have kind : v.kind = 6 := by rw [← leading_text v rest,same]; rfl
  cases v with
  | number n =>
    cases shape : n.text with
    | nil => exact text_ne_nil n shape
    | cons d ds =>
      have numeric := numeric_text n d (by simp [shape])
      simp only [Value.text,shape,List.cons_append,List.cons.injEq] at same
      exact absurd (same.1 ▸ numeric) (by decide)
  | bool b => cases b <;> simp [Value.kind] at kind
  | _ => simp [Value.kind] at kind

theorem ends_items (vs : List Value) (rest : List Char) : Ends (Value.itemsText vs ++ rest) := by
  intro c first
  cases vs <;> simp only [Value.itemsText,List.cons_append,List.head?_cons,Option.some.injEq] at first
    <;> simp [← first]

theorem ends_entries (es : List (String × Value)) (rest : List Char) :
    Ends (Value.entriesText es ++ rest) := by
  intro c first
  rcases es with _ | ⟨⟨k,v⟩,es⟩ <;>
    simp only [Value.entriesText,List.cons_append,List.head?_cons,Option.some.injEq] at first <;>
    simp [← first]

mutual

theorem text_cancel (v w : Value) (x y : List Char) (ex : Ends x) (ey : Ends y)
    (same : v.text ++ x = w.text ++ y) : v = w ∧ x = y := by
  have kinds : v.kind = w.kind := by rw [← leading_text v x,← leading_text w y,same]
  match v, w with
  | .null, .null => exact ⟨rfl,by simpa [Value.text] using same⟩
  | .bool a, .bool b =>
    cases a <;> cases b <;> simp [Value.kind] at kinds <;>
      exact ⟨rfl,by simpa [Value.text] using same⟩
  | .number a, .number b =>
    obtain ⟨texts,rest⟩ := numeric_cancel _ _ x y (numeric_text a) (numeric_text b) ex ey same
    exact ⟨by rw [Number.text_injective a b texts],rest⟩
  | .string s, .string t =>
    obtain ⟨rfl,rest⟩ := stringText_cancel s t x y same
    exact ⟨rfl,rest⟩
  | .array [], .array [] => exact ⟨rfl,by simpa [Value.text] using same⟩
  | .array [], .array (w :: ws) =>
    simp only [Value.text,List.cons_append,List.nil_append,List.append_assoc,List.cons.injEq,
      true_and] at same
    exact absurd same.symm (text_ne_closing w _ _)
  | .array (v :: vs), .array [] =>
    simp only [Value.text,List.cons_append,List.nil_append,List.append_assoc,List.cons.injEq,
      true_and] at same
    exact absurd same (text_ne_closing v _ _)
  | .array (v :: vs), .array (w :: ws) =>
    simp only [Value.text,List.cons_append,List.append_assoc,List.cons.injEq,true_and] at same
    obtain ⟨rfl,tails⟩ := text_cancel v w _ _ (ends_items vs x) (ends_items ws y) same
    obtain ⟨rfl,rest⟩ := itemsText_cancel vs ws x y tails
    exact ⟨rfl,rest⟩
  | .object [], .object [] => exact ⟨rfl,by simpa [Value.text] using same⟩
  | .object [], .object ((k,w) :: fs) => simp [Value.text,stringText] at same
  | .object ((j,v) :: es), .object [] => simp [Value.text,stringText] at same
  | .object ((j,v) :: es), .object ((k,w) :: fs) =>
    simp only [Value.text,List.cons_append,List.append_assoc,List.cons.injEq,true_and] at same
    obtain ⟨rfl,values⟩ := stringText_cancel j k _ _ same
    obtain ⟨rfl,tails⟩ := text_cancel v w _ _ (ends_entries es x) (ends_entries fs y)
      (List.cons.inj values).2
    obtain ⟨rfl,rest⟩ := entriesText_cancel es fs x y tails
    exact ⟨rfl,rest⟩
  | .null, .number _ | .null, .string _ | .null, .array _ | .null, .object _
  | .number _, .null | .number _, .string _ | .number _, .array _ | .number _, .object _
  | .string _, .null | .string _, .number _ | .string _, .array _ | .string _, .object _
  | .array _, .null | .array _, .number _ | .array _, .string _ | .array _, .object _
  | .object _, .null | .object _, .number _ | .object _, .string _ | .object _, .array _ =>
    simp [Value.kind] at kinds
  | .bool b, .null | .bool b, .number _ | .bool b, .string _ | .bool b, .array _
  | .bool b, .object _ | .number _, .bool b | .string _, .bool b | .array _, .bool b
  | .object _, .bool b | .null, .bool b => cases b <;> simp [Value.kind] at kinds

theorem itemsText_cancel (vs ws : List Value) (x y : List Char)
    (same : Value.itemsText vs ++ x = Value.itemsText ws ++ y) : vs = ws ∧ x = y := by
  match vs, ws with
  | [], [] => exact ⟨rfl,by simpa [Value.itemsText] using same⟩
  | [], _ :: _ => simp [Value.itemsText] at same
  | _ :: _, [] => simp [Value.itemsText] at same
  | v :: vs, w :: ws =>
    simp only [Value.itemsText,List.cons_append,List.append_assoc,List.cons.injEq,true_and] at same
    obtain ⟨rfl,tails⟩ := text_cancel v w _ _ (ends_items vs x) (ends_items ws y) same
    obtain ⟨rfl,rest⟩ := itemsText_cancel vs ws x y tails
    exact ⟨rfl,rest⟩

theorem entriesText_cancel (es fs : List (String × Value)) (x y : List Char)
    (same : Value.entriesText es ++ x = Value.entriesText fs ++ y) : es = fs ∧ x = y := by
  match es, fs with
  | [], [] => exact ⟨rfl,by simpa [Value.entriesText] using same⟩
  | [], (_,_) :: _ => simp [Value.entriesText] at same
  | (_,_) :: _, [] => simp [Value.entriesText] at same
  | (j,v) :: es, (k,w) :: fs =>
    simp only [Value.entriesText,List.cons_append,List.append_assoc,List.cons.injEq,
      true_and] at same
    obtain ⟨rfl,values⟩ := stringText_cancel j k _ _ same
    obtain ⟨rfl,tails⟩ := text_cancel v w _ _ (ends_entries es x) (ends_entries fs y)
      (List.cons.inj values).2
    obtain ⟨rfl,rest⟩ := entriesText_cancel es fs x y tails
    exact ⟨rfl,rest⟩

end

/-- Different values have different texts. -/
theorem Value.text_injective : Function.Injective Value.text := fun v w same =>
  (text_cancel v w [] [] (by simp [Ends]) (by simp [Ends]) (by simpa using same)).1

end Json
