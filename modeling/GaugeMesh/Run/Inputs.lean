import GaugeMesh.Json.Double
import GaugeMesh.Run.Plan
import Mathlib.Data.Finset.Card

/-! `runs.rs`: inputs of a step against the schema of its tool. Both checks go down the schema to
depth 16; here they are given how many levels are left of these. -/
namespace Json.Value

def asF64 : Value → Option F64
  | .number n => n.asF64
  | _ => none

def isInteger : Value → Bool
  | .number (.posInt _) | .number (.negInt _) => true
  | _ => false

def isNumber : Value → Bool
  | .number _ => true
  | _ => false

def isBoolean : Value → Bool
  | .bool _ => true
  | _ => false

end Json.Value

namespace GaugeMesh.Inputs
open Json

def supportedKeywords : List String := ["type","properties","required","additionalProperties",
  "items","enum","const","minimum","maximum","minLength","maxLength","minItems","maxItems",
  "$schema","title","description"]

def supportedKinds : List String :=
  ["object","array","string","integer","number","boolean","null"]

def dialectUri : String := "https://json-schema.org/draft/2020-12/schema"

def schemaUnsupported : String := "GM_RUN_INPUT_SCHEMA_UNSUPPORTED"
def schemaInvalid : String := "GM_RUN_INPUT_SCHEMA_INVALID"

def maxU32 : Nat := 2^32 - 1

def checkKeywords (schema : Value) : Except String Unit := do
  let object ← okOr schema.asObject schemaUnsupported
  ensure ((∀ key ∈ object.map Prod.fst, key ∈ supportedKeywords) ∧
    ∃ kind ∈ supportedKinds, schema.index "type" = .string kind) schemaUnsupported

def checkAnnotations (schema : Value) : Except String Unit := do
  ifSome (schema.get "$schema") fun dialect =>
    ensure (dialect = .string dialectUri) "GM_RUN_INPUT_SCHEMA_DIALECT_UNSUPPORTED"
  checkEach (fun name => ifSome (schema.get name) fun text =>
    ensure (text.asStr.isSome) schemaInvalid) ["title","description"]

def checkChoices (schema : Value) : Except String Unit :=
  ifSome (schema.get "enum") fun choices =>
    ensure (choices.asArray.any fun choices => !choices.isEmpty && choices.length ≤ 64) schemaInvalid

/-- A double is always finite here. -/
def checkNumericBounds (schema : Value) : Except String Unit :=
  checkEach (fun name => ifSome (schema.get name) fun bound =>
    ensure (schema.index "type" ∈ [Value.string "integer",.string "number"] ∧ bound.asF64.isSome)
      schemaInvalid) ["minimum","maximum"]

def checkSizeBounds (schema : Value) (minimum maximum kind : String) : Except String Unit := do
  checkEach (fun name => ifSome (schema.get name) fun bound =>
    ensure (schema.index "type" = .string kind ∧ bound.asU64.any (· ≤ maxU32)) schemaInvalid)
    [minimum,maximum]
  match (schema.index minimum).asU64, (schema.index maximum).asU64 with
  | some least, some most => ensure (least ≤ most) schemaInvalid
  | _, _ => .ok ()

def checkOrder (schema : Value) : Except String Unit :=
  match (schema.index "minimum").asF64, (schema.index "maximum").asF64 with
  | some least, some most => ensure (least.le most) schemaInvalid
  | _, _ => .ok ()

def checkRequired (properties : List (String × Value)) (required : Value) : Except String Unit := do
  let names ← okOr required.asArray schemaInvalid
  ensure ((∀ name ∈ names, name.asStr.any fun name => (Value.find name properties).isSome) ∧
    (names.filterMap Value.asStr).toFinset.card = names.length) schemaInvalid

/-- `nested` checks a schema one level further down. -/
def checkProperties (nested : Value → Except String Unit) (schema : Value) : Except String Unit :=
  if schema.index "type" = .string "object" then do
    ensure (schema.index "additionalProperties" = .bool false) schemaUnsupported
    let properties ← okOr (schema.index "properties").asObject schemaUnsupported
    ifSome (schema.get "required") (checkRequired properties)
    checkEach nested (properties.map Prod.snd)
  else .ok ()

def checkItems (nested : Value → Except String Unit) (schema : Value) : Except String Unit :=
  if schema.index "type" = .string "array" then nested (schema.index "items") else .ok ()

def checkPlacement (schema : Value) : Except String Unit := do
  ensure (schema.index "type" = .string "object" ∨
    ∀ key ∈ ["properties","required","additionalProperties"], schema.get key = none) schemaInvalid
  ensure (schema.index "type" = .string "array" ∨ schema.get "items" = none) schemaInvalid

def shapeWithin : Nat → Value → Except String Unit
  | 0, _ => .error "GM_RUN_INPUT_SCHEMA_BOUND"
  | room + 1, schema => do
    checkKeywords schema
    checkAnnotations schema
    checkChoices schema
    checkNumericBounds schema
    checkSizeBounds schema "minLength" "maxLength" "string"
    checkSizeBounds schema "minItems" "maxItems" "array"
    checkOrder schema
    checkProperties (shapeWithin room) schema
    checkItems (shapeWithin room) schema
    checkPlacement schema

def validateSchemaShape (schema : Value) (depth : Nat) : Except String Unit :=
  shapeWithin (17 - depth) schema

def hasKind (kind : String) (value : Value) : Bool :=
  match kind with
  | "object" => value.isObject
  | "array" => value.asArray.isSome
  | "integer" => value.isInteger
  | "number" => value.isNumber
  | "string" => value.asStr.isSome
  | "boolean" => value.isBoolean
  | "null" => value = .null
  | _ => false

def inputBound : String := "GM_RUN_INPUT_BOUND"
def numberBound : String := "GM_RUN_INPUT_NUMBER_BOUND"

def checkSize (schema : Value) (size : Nat) (minimum maximum : String) : Except String Unit := do
  ifSome (schema.get minimum) fun bound => do
    let least ← okOr bound.asU64 schemaUnsupported
    ensure (least ≤ size) inputBound
  ifSome (schema.get maximum) fun bound => do
    let most ← okOr bound.asU64 schemaUnsupported
    ensure (size ≤ most) inputBound

def validateChoice (schema value : Value) : Except String Unit := do
  ifSome (schema.get "const") fun expected =>
    ensure (expected.same value) "GM_RUN_INPUT_CONST_INVALID"
  ifSome (schema.get "enum") fun choices =>
    ensure (choices.asArray.any fun choices => choices.any (·.same value)) "GM_RUN_INPUT_ENUM_INVALID"

/-- `shape` and `nested` check a schema, and a value against one, one level further down. -/
def validateEntries (shape : Value → Except String Unit) (nested : Value → Value → Except String Unit)
    (schema : Value) (map : List (String × Value)) : Except String Unit := do
  let properties ← okOr (schema.index "properties").asObject schemaUnsupported
  ensure (schema.index "additionalProperties" = .bool false) schemaUnsupported
  ifSome (schema.get "required") fun required => do
    let required ← okOr required.asArray schemaUnsupported
    ensure (∀ name ∈ required, name.asStr.any fun name => (Value.find name map).isSome)
      "GM_RUN_INPUT_REQUIRED"
  checkEach (fun entry => do
    let property ← okOr (Value.find entry.1 properties) "GM_RUN_INPUT_UNKNOWN_PROPERTY"
    nested property entry.2) map
  checkEach shape (properties.map Prod.snd)

def validateItems (shape : Value → Except String Unit) (nested : Value → Value → Except String Unit)
    (schema : Value) (items : List Value) : Except String Unit := do
  ensure (items.length ≤ 1024) inputBound
  checkEach (nested (schema.index "items")) items
  shape (schema.index "items")
  checkSize schema items.length "minItems" "maxItems"

def validateNumber (schema value : Value) : Except String Unit := do
  let number ← okOr value.asF64 "GM_RUN_INPUT_NUMBER_INVALID"
  ensure (number.abs.le .maxSafe) numberBound
  ifSome (schema.get "minimum") fun bound => do
    let bound ← okOr bound.asF64 schemaUnsupported
    ensure (bound.le number) numberBound
  ifSome (schema.get "maximum") fun bound => do
    let bound ← okOr bound.asF64 schemaUnsupported
    ensure (number.le bound) numberBound

def validateWithin : Nat → Value → Value → Except String Unit
  | 0, schema, _ => shapeWithin 0 schema
  | room + 1, schema, value => do
    shapeWithin (room + 1) schema
    let object ← okOr schema.asObject schemaUnsupported
    ensure (∀ key ∈ object.map Prod.fst, key ∈ supportedKeywords) schemaUnsupported
    let kind ← okOr (schema.index "type").asStr schemaUnsupported
    ensure (hasKind kind value) "GM_RUN_INPUT_TYPE_INVALID"
    validateChoice schema value
    -- the value has the declared kind, so that each branch finds what it takes apart
    match kind, value with
    | "object", .object map => validateEntries (shapeWithin room) (validateWithin room) schema map
    | "array", .array items => validateItems (shapeWithin room) (validateWithin room) schema items
    | "string", .string text => checkSize schema text.length "minLength" "maxLength"
    | "number", value => validateNumber schema value
    | "integer", value => validateNumber schema value
    | _, _ => .ok ()

def validateInput (schema value : Value) (depth : Nat) : Except String Unit :=
  validateWithin (17 - depth) schema value

end GaugeMesh.Inputs
