import GaugeMesh.Run.Inputs

/-! The inputs that are accepted are the valid ones. What a schema must look like and which values
it admits is said here without the checks: for one schema at a time and for all that are nested in
it, whether a value uses them or not. -/
namespace Json.Value

theorem asArray_eq_some {v : Value} {items : List Value} :
    v.asArray = some items ↔ v = .array items := by
  cases v <;> simp [asArray]

theorem asObject_eq_some {v : Value} {entries : List (String × Value)} :
    v.asObject = some entries ↔ v = .object entries := by
  cases v <;> simp [asObject]

theorem asF64_eq_some {v : Value} {a : F64} :
    v.asF64 = some a ↔ ∃ n, v = .number n ∧ n.asF64 = some a := by
  cases v <;> simp [asF64]

theorem index_eq {v w : Value} {key : String} (present : w ≠ .null) :
    v.index key = w ↔ v.get key = some w := by
  rw [index]
  cases v.get key with
  | none => simp [Ne.symm present]
  | some other => simp

theorem mem_of_find {name : String} {v : Value} {entries : List (String × Value)}
    (found : find name entries = some v) : v ∈ entries.map Prod.snd := by
  induction entries with
  | nil => cases found
  | cons entry rest ih =>
    obtain ⟨k,w⟩ := entry
    rw [find_cons] at found
    split at found
    · cases found
      exact List.mem_cons_self
    · exact List.mem_cons_of_mem _ (ih found)

end Json.Value

namespace GaugeMesh.Inputs
open Json

theorem ifSome_ok {value : Option α} {check : α → Except ε Unit} :
    ifSome value check = .ok () ↔ ∀ a, value = some a → check a = .ok () := by
  cases value <;> simp [ifSome]

/-- The type that a schema declares. -/
def Declares (schema : Value) (kind : String) : Prop := schema.get "type" = some (.string kind)

theorem index_type {schema : Value} {kind : String} :
    schema.index "type" = .string kind ↔ Declares schema kind :=
  Value.index_eq nofun

/-- Two bounds of a size, for one kind of value. -/
structure SizeBounds (schema : Value) (minimum maximum kind : String) : Prop where
  bounds : ∀ name ∈ [minimum,maximum], ∀ bound, schema.get name = some bound →
    Declares schema kind ∧ ∃ n, bound = .number (.posInt n) ∧ n ≤ maxU32
  ordered : ∀ least most, schema.get minimum = some (.number (.posInt least)) →
    schema.get maximum = some (.number (.posInt most)) → least ≤ most

/-- The properties of an object, and which of them are required. -/
structure ClosedProperties (schema : Value) (properties : List (String × Value)) : Prop where
  given : schema.get "properties" = some (.object properties)
  closed : schema.get "additionalProperties" = some (.bool false)
  required : ∀ required, schema.get "required" = some required → ∃ names : List String,
    required = .array (names.map .string) ∧ names.Nodup ∧
      ∀ name ∈ names, (Value.find name properties).isSome

/-- A schema of the supported subset, apart from what is nested in it. -/
structure Shape (schema : Value) : Prop where
  keywords : ∃ object, schema = .object object ∧ ∀ key ∈ object.map Prod.fst, key ∈ supportedKeywords
  kind : ∃ kind ∈ supportedKinds, Declares schema kind
  dialect : ∀ dialect, schema.get "$schema" = some dialect → dialect = .string dialectUri
  texts : ∀ name ∈ ["title","description"], ∀ text, schema.get name = some text →
    ∃ s, text = .string s
  choices : ∀ v, schema.get "enum" = some v →
    ∃ choices, v = .array choices ∧ choices ≠ [] ∧ choices.length ≤ 64
  numbers : ∀ name ∈ ["minimum","maximum"], ∀ bound, schema.get name = some bound →
    (Declares schema "integer" ∨ Declares schema "number") ∧
      ∃ n a, bound = .number n ∧ n.asF64 = some a
  ordered : ∀ least most a b, schema.get "minimum" = some (.number least) →
    schema.get "maximum" = some (.number most) → least.asF64 = some a → most.asF64 = some b →
      a.le b = true
  lengths : SizeBounds schema "minLength" "maxLength" "string"
  counts : SizeBounds schema "minItems" "maxItems" "array"
  object : Declares schema "object" → ∃ properties, ClosedProperties schema properties
  array : Declares schema "array" → ∃ items, schema.get "items" = some items
  propertiesPlaced : Declares schema "object" ∨
    ∀ key ∈ ["properties","required","additionalProperties"], schema.get key = none
  itemsPlaced : Declares schema "array" ∨ schema.get "items" = none

/-- The schemas one level further down. -/
def children (schema : Value) : List Value :=
  (((schema.get "properties").bind Value.asObject).getD []).map Prod.snd ++
    (schema.get "items").toList

/-- The schemas nested in a schema, with their depth. -/
inductive Nested : Value → Nat → Value → Prop where
  | self (schema : Value) : Nested schema 0 schema
  | child {schema child inner : Value} {depth : Nat} (member : child ∈ children schema)
      (nested : Nested child depth inner) : Nested schema (depth + 1) inner

theorem checkKeywords_ok {schema : Value} : checkKeywords schema = .ok () ↔
    (∃ object, schema = .object object ∧ ∀ key ∈ object.map Prod.fst, key ∈ supportedKeywords) ∧
      ∃ kind ∈ supportedKinds, Declares schema kind := by
  simp only [checkKeywords,okOr_bind_ok,ensure_ok,Value.asObject_eq_some,index_type]
  constructor
  · rintro ⟨object,rfl,keys,kind⟩
    exact ⟨⟨object,rfl,keys⟩,kind⟩
  · rintro ⟨⟨object,rfl,keys⟩,kind⟩
    exact ⟨object,rfl,keys,kind⟩

theorem checkAnnotations_ok {schema : Value} : checkAnnotations schema = .ok () ↔
    (∀ dialect, schema.get "$schema" = some dialect → dialect = .string dialectUri) ∧
      ∀ name ∈ ["title","description"], ∀ text, schema.get name = some text → ∃ s, text = .string s := by
  simp only [checkAnnotations,Except.then_ok,ifSome_ok,ensure_ok,checkEach_ok,Option.isSome_iff_exists,
    Value.asStr_eq_some]

theorem checkChoices_ok {schema : Value} : checkChoices schema = .ok () ↔
    ∀ v, schema.get "enum" = some v →
      ∃ choices, v = .array choices ∧ choices ≠ [] ∧ choices.length ≤ 64 := by
  simp only [checkChoices,ifSome_ok,ensure_ok,Option.any_eq_true,Value.asArray_eq_some,
    Bool.and_eq_true,Bool.not_eq_true',List.isEmpty_eq_false_iff,decide_eq_true_eq]

theorem checkNumericBounds_ok {schema : Value} : checkNumericBounds schema = .ok () ↔
    ∀ name ∈ ["minimum","maximum"], ∀ bound, schema.get name = some bound →
      (Declares schema "integer" ∨ Declares schema "number") ∧
        ∃ n a, bound = .number n ∧ n.asF64 = some a := by
  have read : ∀ bound : Value, bound.asF64.isSome = true ↔
      ∃ n a, bound = .number n ∧ n.asF64 = some a := by
    intro bound
    simp only [Option.isSome_iff_exists,Value.asF64_eq_some]
    exact exists_comm
  simp only [checkNumericBounds,checkEach_ok,ifSome_ok,ensure_ok,List.mem_cons,List.not_mem_nil,
    or_false,index_type,read]

theorem index_posInt {schema : Value} {key : String} {n : Nat} :
    (schema.index key).asU64 = some n ↔ schema.get key = some (.number (.posInt n)) := by
  rw [Value.asU64_eq_some,Value.index_eq (by simp : Value.number (.posInt n) ≠ .null)]

theorem checkSizeBounds_ok {schema : Value} {minimum maximum kind : String} :
    checkSizeBounds schema minimum maximum kind = .ok () ↔
      SizeBounds schema minimum maximum kind := by
  have bounds : (∀ name ∈ [minimum,maximum], ifSome (schema.get name) (fun bound =>
      ensure (schema.index "type" = .string kind ∧ bound.asU64.any (· ≤ maxU32)) schemaInvalid) =
        .ok ()) ↔ ∀ name ∈ [minimum,maximum], ∀ bound, schema.get name = some bound →
          Declares schema kind ∧ ∃ n, bound = .number (.posInt n) ∧ n ≤ maxU32 := by
    simp only [ifSome_ok,ensure_ok,index_type,Option.any_eq_true,Value.asU64_eq_some,
      decide_eq_true_eq]
  rw [checkSizeBounds,Except.then_ok,checkEach_ok,bounds]
  have whole : SizeBounds schema minimum maximum kind ↔ _ ∧ _ :=
    ⟨fun sizes => ⟨sizes.bounds,sizes.ordered⟩,fun both => ⟨both.1,both.2⟩⟩
  rw [whole]
  refine and_congr_right fun _ => ?_
  simp only [← index_posInt]
  cases (schema.index minimum).asU64 <;> cases (schema.index maximum).asU64 <;> simp

theorem index_number {schema : Value} {key : String} {a : F64} : (schema.index key).asF64 = some a ↔
    ∃ n, schema.get key = some (.number n) ∧ n.asF64 = some a := by
  simp only [Value.asF64_eq_some]
  exact exists_congr fun n => by rw [Value.index_eq (by simp : Value.number n ≠ .null)]

theorem checkOrder_ok {schema : Value} : checkOrder schema = .ok () ↔
    ∀ least most a b, schema.get "minimum" = some (.number least) →
      schema.get "maximum" = some (.number most) → least.asF64 = some a → most.asF64 = some b →
        a.le b = true := by
  have whole : checkOrder schema = .ok () ↔ ∀ a b, (schema.index "minimum").asF64 = some a →
      (schema.index "maximum").asF64 = some b → a.le b = true := by
    rw [checkOrder]
    cases (schema.index "minimum").asF64 <;> cases (schema.index "maximum").asF64 <;> simp
  rw [whole]
  constructor
  · intro ordered least most a b low high first second
    exact ordered a b (index_number.mpr ⟨least,low,first⟩) (index_number.mpr ⟨most,high,second⟩)
  · intro ordered a b low high
    obtain ⟨least,low,first⟩ := index_number.mp low
    obtain ⟨most,high,second⟩ := index_number.mp high
    exact ordered least most a b low high first second

/-- Names that are all texts and as many as their set has. -/
theorem checkRequired_ok {properties : List (String × Value)} {required : Value} :
    checkRequired properties required = .ok () ↔ ∃ names : List String,
      required = .array (names.map .string) ∧ names.Nodup ∧
        ∀ name ∈ names, (Value.find name properties).isSome := by
  simp only [checkRequired,okOr_bind_ok,ensure_ok,Value.asArray_eq_some,Option.any_eq_true,
    Value.asStr_eq_some]
  have texts : ∀ names : List String, (names.map Value.string).filterMap Value.asStr = names := by
    intro names
    rw [List.filterMap_map]
    exact List.filterMap_some
  constructor
  · rintro ⟨values,rfl,known,distinct⟩
    obtain ⟨names,rfl⟩ : ∃ names : List String, values = names.map .string :=
      ⟨values.filterMap Value.asStr,by
        clear distinct
        induction values with
        | nil => rfl
        | cons value rest ih =>
          obtain ⟨name,rfl,-⟩ := known value List.mem_cons_self
          rw [List.filterMap_cons_some (Value.asStr_string name),List.map_cons,
            ← ih fun value member => known value (List.mem_cons_of_mem _ member)]⟩
    rw [texts,List.length_map] at distinct
    refine ⟨names,rfl,?_,fun name member => ?_⟩
    · exact List.dedup_eq_self.mp ((List.dedup_sublist names).eq_of_length (by
        rwa [← List.card_toFinset]))
    · obtain ⟨_,same,present⟩ := known _ (List.mem_map_of_mem member)
      cases same
      exact present
  · rintro ⟨names,rfl,distinct,known⟩
    refine ⟨_,rfl,fun value member => ?_,?_⟩
    · obtain ⟨name,among,rfl⟩ := List.mem_map.mp member
      exact ⟨name,rfl,known name among⟩
    · rw [texts,List.length_map,List.toFinset_card_of_nodup distinct]

theorem checkProperties_ok {nested : Value → Except String Unit} {schema : Value} :
    checkProperties nested schema = .ok () ↔ (Declares schema "object" →
      ∃ properties, ClosedProperties schema properties ∧
        ∀ property ∈ properties.map Prod.snd, nested property = .ok ()) := by
  rw [checkProperties]
  split
  · next declared =>
    have declared := index_type.mp declared
    simp only [declared,true_imp_iff,Except.then_ok,okOr_bind_ok,ensure_ok,ifSome_ok,checkEach_ok,
      checkRequired_ok,Value.asObject_eq_some]
    rw [Value.index_eq (by simp : Value.bool false ≠ .null)]
    constructor
    · rintro ⟨closed,properties,given,required,below⟩
      exact ⟨properties,⟨(Value.index_eq (by simp)).mp given,closed,required⟩,below⟩
    · rintro ⟨properties,⟨given,closed,required⟩,below⟩
      exact ⟨closed,properties,(Value.index_eq (by simp)).mpr given,required,below⟩
  · next other =>
    exact ⟨fun _ declared => absurd (index_type.mpr declared) other,fun _ => rfl⟩

theorem checkItems_ok {nested : Value → Except String Unit} {schema : Value} :
    checkItems nested schema = .ok () ↔
      (Declares schema "array" → nested (schema.index "items") = .ok ()) := by
  rw [checkItems]
  split
  · next declared => simp [index_type.mp declared]
  · next other =>
    exact ⟨fun _ declared => absurd (index_type.mpr declared) other,fun _ => rfl⟩

theorem checkPlacement_ok {schema : Value} : checkPlacement schema = .ok () ↔
    (Declares schema "object" ∨
      ∀ key ∈ ["properties","required","additionalProperties"], schema.get key = none) ∧
    (Declares schema "array" ∨ schema.get "items" = none) := by
  simp only [checkPlacement,Except.then_ok,ensure_ok,index_type]

/-- Nothing that is missing is a schema. -/
theorem shapeWithin_null (room : Nat) : shapeWithin room .null ≠ .ok () := by
  cases room <;> nofun

theorem Declares.unique {schema : Value} {kind other : String} (declared : Declares schema kind)
    (again : Declares schema other) : kind = other := by
  rw [Declares,declared] at again
  cases again
  rfl

/-- One level: the schema itself has its shape, and so has everything below. -/
theorem shapeWithin_succ {room : Nat} {schema : Value} : shapeWithin (room + 1) schema = .ok () ↔
    Shape schema ∧ ∀ child ∈ children schema, shapeWithin room child = .ok () := by
  rw [shapeWithin]
  simp only [Except.then_ok,checkKeywords_ok,checkAnnotations_ok,checkChoices_ok,
    checkNumericBounds_ok,checkSizeBounds_ok,checkOrder_ok,checkProperties_ok,checkItems_ok,
    checkPlacement_ok]
  constructor
  · rintro ⟨⟨keywords,kind⟩,⟨dialect,texts⟩,choices,numbers,lengths,counts,ordered,properties,items,
      propertiesPlaced,itemsPlaced⟩
    have present : Declares schema "array" → ∃ v, schema.get "items" = some v := by
      intro declared
      rcases found : schema.get "items" with _ | v
      · have below := items declared
        rw [Value.index,found] at below
        exact absurd below (shapeWithin_null room)
      · exact ⟨v,rfl⟩
    refine ⟨⟨keywords,kind,dialect,texts,choices,numbers,ordered,lengths,counts,?_,present,
      propertiesPlaced,itemsPlaced⟩,?_⟩
    · intro declared
      obtain ⟨names,closed,-⟩ := properties declared
      exact ⟨names,closed⟩
    intro child member
    rw [children,List.mem_append] at member
    rcases member with property | item
    · rcases propertiesPlaced with declared | absent
      · obtain ⟨names,closed,below⟩ := properties declared
        rw [closed.given] at property
        exact below child property
      · rw [absent "properties" (by simp)] at property
        cases property
    · rcases itemsPlaced with declared | absent
      · have below := items declared
        rw [Value.index,Option.mem_toList.mp item] at below
        exact below
      · rw [absent] at item
        cases item
  · rintro ⟨shape,below⟩
    refine ⟨⟨shape.keywords,shape.kind⟩,⟨shape.dialect,shape.texts⟩,shape.choices,shape.numbers,
      shape.lengths,shape.counts,shape.ordered,?_,?_,shape.propertiesPlaced,shape.itemsPlaced⟩
    · intro declared
      obtain ⟨names,closed⟩ := shape.object declared
      refine ⟨names,closed,fun property member => below property ?_⟩
      rw [children,closed.given]
      exact List.mem_append_left _ member
    · intro declared
      obtain ⟨v,given⟩ := shape.array declared
      rw [Value.index,given]
      refine below v ?_
      rw [children,given]
      exact List.mem_append_right _ List.mem_cons_self

/-- A schema passes exactly if every schema nested in it has the shape, none of them too deep. -/
theorem shapeWithin_iff {room : Nat} {schema : Value} : shapeWithin room schema = .ok () ↔
    ∀ depth inner, Nested schema depth inner → depth < room ∧ Shape inner := by
  induction room generalizing schema with
  | zero => exact ⟨nofun,fun all => absurd (all 0 schema (.self schema)).1 (Nat.lt_irrefl 0)⟩
  | succ room ih =>
    rw [shapeWithin_succ]
    constructor
    · rintro ⟨shape,below⟩ depth inner nested
      cases nested with
      | self => exact ⟨Nat.succ_pos room,shape⟩
      | child member nested =>
        obtain ⟨inside,innerShape⟩ := ih.mp (below _ member) _ _ nested
        exact ⟨Nat.succ_lt_succ inside,innerShape⟩
    · intro all
      refine ⟨(all 0 schema (.self schema)).2,fun child member => ih.mpr fun depth inner nested => ?_⟩
      obtain ⟨inside,innerShape⟩ := all (depth + 1) inner (.child member nested)
      exact ⟨Nat.lt_of_succ_lt_succ inside,innerShape⟩

/-- The types that a value has. -/
def kinds : Value → List String
  | .null => ["null"]
  | .bool _ => ["boolean"]
  | .number (.float _) => ["number"]
  | .number _ => ["integer","number"]
  | .string _ => ["string"]
  | .array _ => ["array"]
  | .object _ => ["object"]

/-- The value has the declared type and is one of those that are listed, if any are. -/
structure Admits (schema value : Value) : Prop where
  declared : ∃ kind ∈ kinds value, Declares schema kind
  const : ∀ expected, schema.get "const" = some expected → expected.same value = true
  enum : ∀ choices, schema.get "enum" = some (.array choices) → ∃ choice ∈ choices, choice.same value = true

def Sized (schema : Value) (minimum maximum : String) (size : Nat) : Prop :=
  (∀ least, schema.get minimum = some (.number (.posInt least)) → least ≤ size) ∧
    ∀ most, schema.get maximum = some (.number (.posInt most)) → size ≤ most

def InRange (schema : Value) (n : Number) : Prop :=
  |n.value| ≤ 2^53 - 1 ∧
    (∀ least, schema.get "minimum" = some (.number least) → least.value ≤ n.value) ∧
    ∀ most, schema.get "maximum" = some (.number most) → n.value ≤ most.value

mutual

/-- The value is valid under the schema. -/
def Conforms (schema : Value) : Value → Prop
  | .number n => Admits schema (.number n) ∧ InRange schema n
  | .string text => Admits schema (.string text) ∧ Sized schema "minLength" "maxLength" text.length
  | .array items => Admits schema (.array items) ∧ items.length ≤ 1024 ∧
      Sized schema "minItems" "maxItems" items.length ∧ ConformItems (schema.index "items") items
  | .object entries => Admits schema (.object entries) ∧
      (∀ names, schema.get "required" = some (.array names) →
        ∀ name ∈ names, ∃ key, name = .string key ∧ (Value.find key entries).isSome) ∧
      ConformEntries (schema.index "properties") entries
  | value => Admits schema value

def ConformItems (schema : Value) : List Value → Prop
  | [] => True
  | item :: rest => Conforms schema item ∧ ConformItems schema rest

/-- Every entry is a property, and its value is valid under the schema of that. -/
def ConformEntries (properties : Value) : List (String × Value) → Prop
  | [] => True
  | (name,value) :: rest => (∃ property, properties.get name = some property ∧
      Conforms property value) ∧ ConformEntries properties rest

end

theorem conformItems_iff {schema : Value} {items : List Value} :
    ConformItems schema items ↔ ∀ item ∈ items, Conforms schema item := by
  induction items with
  | nil => simp [ConformItems]
  | cons item rest ih => simp [ConformItems,ih]

theorem conformEntries_iff {properties : Value} {entries : List (String × Value)} :
    ConformEntries properties entries ↔ ∀ entry ∈ entries, ∃ property,
      properties.get entry.1 = some property ∧ Conforms property entry.2 := by
  induction entries with
  | nil => simp [ConformEntries]
  | cons entry rest ih => simp [ConformEntries,ih]

theorem hasKind_iff {kind : String} {value : Value} : hasKind kind value = true ↔ kind ∈ kinds value := by
  unfold hasKind
  split
  all_goals rcases value with _ | _ | (_ | _ | _) | _ | _ | _
  all_goals simp_all [kinds,Value.isObject,Value.asObject,Value.asArray,Value.isInteger,Value.isNumber,
    Value.asStr,Value.isBoolean]

theorem validateChoice_ok {schema value : Value} : validateChoice schema value = .ok () ↔
    (∀ expected, schema.get "const" = some expected → expected.same value = true) ∧
    ∀ v, schema.get "enum" = some v →
      ∃ choices, v = .array choices ∧ ∃ choice ∈ choices, choice.same value = true := by
  simp only [validateChoice,Except.then_ok,ifSome_ok,ensure_ok,Option.any_eq_true,
    Value.asArray_eq_some,List.any_eq_true]

theorem checkSize_ok {schema : Value} {minimum maximum kind : String} {size : Nat}
    (shape : SizeBounds schema minimum maximum kind) :
    checkSize schema size minimum maximum = .ok () ↔ Sized schema minimum maximum size := by
  have read : ∀ {name : String} {v : Value}, name ∈ [minimum,maximum] → schema.get name = some v →
      ∃ n, v = .number (.posInt n) := by
    intro name v member found
    obtain ⟨-,n,rfl,-⟩ := shape.bounds name member v found
    exact ⟨n,rfl⟩
  simp only [checkSize,Except.then_ok,ifSome_ok,okOr_bind_ok,ensure_ok,Value.asU64_eq_some,Sized]
  constructor
  · rintro ⟨low,high⟩
    constructor
    · intro least found
      obtain ⟨n,same,bound⟩ := low _ found
      cases same
      exact bound
    · intro most found
      obtain ⟨n,same,bound⟩ := high _ found
      cases same
      exact bound
  · rintro ⟨low,high⟩
    constructor
    · intro v found
      obtain ⟨n,rfl⟩ := read (by simp) found
      exact ⟨n,rfl,low n found⟩
    · intro v found
      obtain ⟨n,rfl⟩ := read (by simp) found
      exact ⟨n,rfl,high n found⟩

theorem validateNumber_ok {schema : Value} {n : Number} (shape : Shape schema) :
    validateNumber schema (.number n) = .ok () ↔ InRange schema n := by
  have read : ∀ {name : String} {v : Value}, name ∈ ["minimum","maximum"] →
      schema.get name = some v → ∃ m b, v = .number m ∧ m.asF64 = some b := fun member found =>
    (shape.numbers _ member _ found).2
  simp only [validateNumber,okOr_bind_ok,Except.then_ok,ensure_ok,ifSome_ok,Value.asF64_eq_some,
    InRange,Number.abs_value_le,← F64.asF64_safe,Number.value_le]
  constructor
  · rintro ⟨a,⟨_,same,number⟩,safe,low,high⟩
    cases same
    refine ⟨⟨a,number,safe⟩,fun least found => ?_,fun most found => ?_⟩
    · obtain ⟨b,⟨_,same,bound⟩,order⟩ := low _ found
      cases same
      exact (F64.asF64_le number bound safe).1.mp order
    · obtain ⟨b,⟨_,same,bound⟩,order⟩ := high _ found
      cases same
      exact (F64.asF64_le number bound safe).2.mp order
  · rintro ⟨⟨a,number,safe⟩,low,high⟩
    refine ⟨a,⟨n,rfl,number⟩,safe,fun v found => ?_,fun v found => ?_⟩
    · obtain ⟨m,b,rfl,bound⟩ := read (by simp) found
      exact ⟨b,⟨m,rfl,bound⟩,(F64.asF64_le number bound safe).1.mpr (low m found)⟩
    · obtain ⟨m,b,rfl,bound⟩ := read (by simp) found
      exact ⟨b,⟨m,rfl,bound⟩,(F64.asF64_le number bound safe).2.mpr (high m found)⟩

/-- The checks one level down say what they should. -/
def Exact (room : Nat) : Prop := ∀ schema value, validateWithin room schema value = .ok () ↔
  shapeWithin room schema = .ok () ∧ Conforms schema value

theorem validateEntries_ok {room : Nat} {schema : Value} {properties entries : List (String × Value)}
    (closed : ClosedProperties schema properties)
    (below : ∀ property ∈ properties.map Prod.snd, shapeWithin room property = .ok ())
    (exact_ : Exact room) :
    validateEntries (shapeWithin room) (validateWithin room) schema entries = .ok () ↔
      (∀ names, schema.get "required" = some (.array names) →
        ∀ name ∈ names, ∃ key, name = .string key ∧ (Value.find key entries).isSome) ∧
      ConformEntries (schema.index "properties") entries := by
  have given : schema.index "properties" = .object properties :=
    (Value.index_eq (by simp)).mpr closed.given
  have denied : schema.index "additionalProperties" = .bool false :=
    (Value.index_eq (by simp)).mpr closed.closed
  have entry : ∀ name value, (∃ property, Value.find name properties = some property ∧
      validateWithin room property value = .ok ()) ↔
      ∃ property, (Value.object properties).get name = some property ∧ Conforms property value := by
    intro name value
    refine exists_congr fun property => and_congr_right fun found => ?_
    rw [exact_ property value,and_iff_right (below property (Value.mem_of_find found))]
  rw [validateEntries,given,conformEntries_iff]
  simp only [okOr_bind_ok,Value.asObject_object,Option.some.injEq,exists_eq_left',Except.then_ok,
    ensure_ok,denied,true_and,ifSome_ok,checkEach_ok,Value.asArray_eq_some,Option.any_eq_true,
    Value.asStr_eq_some]
  constructor
  · rintro ⟨required,valid,-⟩
    refine ⟨fun names found => ?_,fun e member => (entry e.1 e.2).mp (valid e member)⟩
    obtain ⟨_,same,present⟩ := required _ found
    cases same
    exact present
  · rintro ⟨required,valid⟩
    refine ⟨fun v found => ?_,fun e member => (entry e.1 e.2).mpr (valid e member),below⟩
    obtain ⟨names,rfl,-⟩ := closed.required v found
    exact ⟨_,rfl,required _ found⟩

theorem validateItems_ok {room : Nat} {schema : Value} {items : List Value} (shape : Shape schema)
    (below : shapeWithin room (schema.index "items") = .ok ()) (exact_ : Exact room) :
    validateItems (shapeWithin room) (validateWithin room) schema items = .ok () ↔
      items.length ≤ 1024 ∧ Sized schema "minItems" "maxItems" items.length ∧
        ConformItems (schema.index "items") items := by
  have each : (∀ item ∈ items, validateWithin room (schema.index "items") item = .ok ()) ↔
      ConformItems (schema.index "items") items := by
    rw [conformItems_iff]
    exact forall₂_congr fun item _ => by rw [exact_ _ item,and_iff_right below]
  simp only [validateItems,Except.then_ok,ensure_ok,checkEach_ok,below,true_and,each,
    checkSize_ok shape.counts]
  exact and_congr_right fun _ => and_comm

theorem admits_iff {schema value : Value} {kind : String} (shape : Shape schema)
    (declared : Declares schema kind) : Admits schema value ↔
      hasKind kind value = true ∧ validateChoice schema value = .ok () := by
  rw [hasKind_iff,validateChoice_ok]
  constructor
  · rintro ⟨⟨other,member,again⟩,const,enum⟩
    cases declared.unique again
    refine ⟨member,const,fun v found => ?_⟩
    obtain ⟨choices,rfl,-⟩ := shape.choices v found
    exact ⟨choices,rfl,enum choices found⟩
  · rintro ⟨member,const,enum⟩
    refine ⟨⟨kind,member,declared⟩,const,fun choices found => ?_⟩
    obtain ⟨_,same,chosen⟩ := enum _ found
    cases same
    exact chosen

theorem Conforms.admits {schema value : Value} (valid : Conforms schema value) :
    Admits schema value := by
  cases value <;> simp only [Conforms] at valid
  case null | bool => exact valid
  all_goals exact valid.1

theorem validateWithin_exact (room : Nat) : Exact room := by
  induction room with
  | zero => exact fun schema value => ⟨nofun,fun both => nomatch both.1⟩
  | succ room ih =>
    intro schema value
    rw [validateWithin,Except.then_ok]
    refine and_congr_right fun passed => ?_
    obtain ⟨shape,below⟩ := shapeWithin_succ.mp passed
    obtain ⟨object,same,keys⟩ := shape.keywords
    obtain ⟨kind,-,declared⟩ := shape.kind
    have taken : schema.asObject = some object := Value.asObject_eq_some.mpr same
    have typed : (schema.index "type").asStr = some kind := by
      rw [index_type.mpr declared,Value.asStr_string]
    have admits : Admits schema value ↔ _ := admits_iff shape declared
    simp only [okOr_bind_ok,taken,typed,Option.some.injEq,exists_eq_left',Except.then_ok,ensure_ok]
    rw [and_iff_right keys,← and_assoc,← admits]
    by_cases admitted : Admits schema value
    swap
    · exact ⟨fun both => absurd both.1 admitted,fun valid => absurd valid.admits admitted⟩
    rw [and_iff_right admitted]
    have member := hasKind_iff.mp (admits.mp admitted).1
    cases value with
    | null =>
      obtain rfl := List.mem_singleton.mp member
      simp only [Conforms]
      exact iff_of_true rfl admitted
    | bool b =>
      obtain rfl := List.mem_singleton.mp member
      simp only [Conforms]
      exact iff_of_true rfl admitted
    | number n =>
      have numeric : kind = "integer" ∨ kind = "number" := by
        cases n <;> simp only [kinds,List.mem_cons,List.not_mem_nil,or_false] at member
        · exact member
        · exact member
        · exact .inr member
      rw [Conforms,and_iff_right admitted]
      rcases numeric with rfl | rfl
      · exact validateNumber_ok shape
      · exact validateNumber_ok shape
    | string text =>
      obtain rfl := List.mem_singleton.mp member
      rw [Conforms,and_iff_right admitted]
      exact checkSize_ok shape.lengths
    | array items =>
      obtain rfl := List.mem_singleton.mp member
      rw [Conforms,and_iff_right admitted]
      obtain ⟨inner,given⟩ := shape.array declared
      refine validateItems_ok shape (below _ ?_) ih
      rw [Value.index,given,children,given]
      exact List.mem_append_right _ List.mem_cons_self
    | object entries =>
      obtain rfl := List.mem_singleton.mp member
      rw [Conforms,and_iff_right admitted]
      obtain ⟨properties,closed⟩ := shape.object declared
      refine validateEntries_ok closed (fun property member => below property ?_) ih
      rw [children,closed.given]
      exact List.mem_append_left _ member

/-- Exactly the valid inputs of a supported schema are accepted; a schema is supported if every
schema nested in it, down to depth 16, is one of the subset. -/
theorem validate_input_iff (schema value : Value) :
    (validateInput schema value 0 = .ok () ↔
      validateSchemaShape schema 0 = .ok () ∧ Conforms schema value) ∧
    (validateSchemaShape schema 0 = .ok () ↔
      ∀ depth inner, Nested schema depth inner → depth ≤ 16 ∧ Shape inner) := by
  refine ⟨validateWithin_exact 17 schema value,shapeWithin_iff.trans ?_⟩
  simp only [Nat.lt_succ_iff,Nat.sub_zero]

end GaugeMesh.Inputs
