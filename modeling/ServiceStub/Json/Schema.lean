import ServiceStub.Decimal.Binary
import ServiceStub.Json.Basic
import ServiceStub.Regex.Matcher
import ServiceStub.Total

/-!
JSON schemas: checking them, and counting how often a document breaks them.  A keyword that is
absent, or not of its own kind, asks nothing.
-/

namespace ServiceStub

theorem Assoc.sizeOf_lt_of_mem {entry : String × Json} {entries : List (String × Json)}
    (member : entry ∈ entries) : sizeOf entry.2 < sizeOf entries := by
  have smaller := List.sizeOf_lt_of_mem member
  obtain ⟨key, value⟩ := entry
  rw [Prod.mk.sizeOf_spec] at smaller
  dsimp only
  omega

theorem Assoc.sizeOf_lt_of_find? {key : String} {value : Json} {entries : List (String × Json)}
    (found : Assoc.find? key entries = some value) : sizeOf value < sizeOf entries :=
  sizeOf_lt_of_mem (mem_of_find? found)

namespace Json

inductive SchemaError where
  | neitherObjectNorBoolean (location : String)
  | patternNoString (location : String)
  | badPattern (location : String) (error : Regex.Error)
  | notAnArray (location keyword : String)
  deriving Repr, DecidableEq

def SchemaError.message : SchemaError → String
  | .neitherObjectNorBoolean location =>
      location ++ ": a schema must be an object or a boolean"
  | .patternNoString location => location ++ "/pattern: must be a string"
  | .badPattern location error => location ++ "/pattern: " ++ error.message
  | .notAnArray location keyword => location ++ "/" ++ keyword ++ ": must be an array"

namespace Schema

def checkPattern (location : String) : Option Json → Except SchemaError Unit
  | none => .ok ()
  | some (.string text) =>
      match Regex.ofString text with
      | .ok _ => .ok ()
      | .error error => .error (.badPattern location error)
  | some _ => .error (.patternNoString location)

mutual

def check (location : String) (schema : Json) : Except SchemaError Unit :=
  match schema with
  | .bool _ => .ok ()
  | .object members => do
      checkPattern location (Assoc.find? "pattern" members)
      (match _found : Assoc.find? "properties" members with
        | some (.object properties) => checkMembers (location ++ "/properties/") properties
        | _ => .ok ())
      ["items", "additionalProperties", "not"].forM fun keyword =>
        match _found : Assoc.find? keyword members with
        | some schema => check (location ++ "/" ++ keyword) schema
        | none => .ok ()
      ["allOf", "anyOf", "oneOf"].forM fun keyword =>
        match _found : Assoc.find? keyword members with
        | some (.array schemas) => checkEach (location ++ "/" ++ keyword ++ "/") 0 schemas
        | some _ => .error (.notAnArray location keyword)
        | none => .ok ()
  | _ => .error (.neitherObjectNorBoolean location)
termination_by sizeOf schema
decreasing_by
  all_goals
    have := Assoc.sizeOf_lt_of_find? _found
    simp_all
    try omega

def checkMembers (location : String) (members : List (String × Json)) :
    Except SchemaError Unit :=
  match members with
  | [] => .ok ()
  | (name, schema) :: members => do
      check (location ++ name) schema
      checkMembers location members
termination_by sizeOf members

def checkEach (location : String) (index : Nat) (schemas : List Json) :
    Except SchemaError Unit :=
  match schemas with
  | [] => .ok ()
  | schema :: schemas => do
      check (location ++ toString index) schema
      checkEach location (index + 1) schemas
termination_by sizeOf schemas

end

section Keywords

variable (members : List (String × Json))

def count? (keyword : String) : Option Nat := (Assoc.find? keyword members).bind Json.asNat?

def bound? (keyword : String) : Option Float := (Assoc.find? keyword members).bind Json.asFloat?

def listed? (keyword : String) : Option (List Json) :=
  (Assoc.find? keyword members).bind Json.asArray?

def pattern? : Option String := (Assoc.find? "pattern" members).bind Json.asString?

/-- The names of the types among which a schema leaves a choice. -/
def types : List String :=
  match Assoc.find? "type" members with
  | some (.string name) => [name]
  | some (.array names) => names.filterMap Json.asString?
  | _ => []

def required : List String := ((listed? members "required").getD []).filterMap Json.asString?

/-- The schema for the member of a name: its own, or the one for all names that have none. -/
def propertySchema? (name : String) : Option Json :=
  ((Assoc.find? "properties" members).bind (Json.member? name)).or
    (Assoc.find? "additionalProperties" members)

/-- The schemas that a value and its parts have to satisfy one by one. -/
def demands (value : Json) : List (Json × Json) :=
  (match value with
    | .object fields =>
        fields.filterMap fun (name, part) => (propertySchema? members name).map (·, part)
    | .array items =>
        (Assoc.find? "items" members).elim [] fun schema => items.map (schema, ·)
    | _ => []) ++
  ((listed? members "allOf").getD []).map (·, value)

end Keywords

section Size

variable {members : List (String × Json)}

theorem sizeOf_lt_of_listed? {keyword : String} {schemas : List Json}
    (found : listed? members keyword = some schemas) : sizeOf schemas < sizeOf members := by
  obtain ⟨document, foundDocument, isArray⟩ := Option.bind_eq_some_iff.mp found
  have smaller := Assoc.sizeOf_lt_of_find? foundDocument
  cases document with
  | array items =>
      cases isArray
      rw [Json.array.sizeOf_spec] at smaller
      omega
  | _ => cases isArray

theorem sizeOf_lt_of_propertySchema? {name : String} {schema : Json}
    (found : propertySchema? members name = some schema) : sizeOf schema < sizeOf members := by
  rcases Option.or_eq_some_iff.mp found with own | ⟨-, additional⟩
  · obtain ⟨properties, foundProperties, foundOwn⟩ := Option.bind_eq_some_iff.mp own
    have smaller := Assoc.sizeOf_lt_of_find? foundProperties
    cases properties with
    | object properties =>
        have inner := Assoc.sizeOf_lt_of_find? (show Assoc.find? name properties = _ from foundOwn)
        rw [Json.object.sizeOf_spec] at smaller
        omega
    | _ => cases foundOwn
  · exact Assoc.sizeOf_lt_of_find? additional

theorem sizeOf_lt_of_mem_demands {value : Json} {demand : Json × Json}
    (demanded : demand ∈ demands members value) : sizeOf demand.1 < sizeOf members := by
  rcases List.mem_append.mp demanded with part | whole
  · cases value with
    | object fields =>
        obtain ⟨field, -, found⟩ := List.mem_filterMap.mp part
        obtain ⟨schema, foundSchema, rfl⟩ := Option.map_eq_some_iff.mp found
        exact sizeOf_lt_of_propertySchema? foundSchema
    | array items =>
        cases found : Assoc.find? "items" members with
        | none => simp [found] at part
        | some schema =>
            simp only [found, Option.elim_some, List.mem_map] at part
            obtain ⟨item, -, rfl⟩ := part
            exact Assoc.sizeOf_lt_of_find? found
    | _ => cases part
  · obtain ⟨schema, listed, rfl⟩ := List.mem_map.mp whole
    cases found : listed? members "allOf" with
    | none => simp [found] at listed
    | some schemas =>
        rw [found, Option.getD_some] at listed
        exact Nat.lt_trans (List.sizeOf_lt_of_mem listed) (sizeOf_lt_of_listed? found)

end Size

/-- Whether a value is of a named type; an integer is a number without a fraction. -/
def hasType (value : Json) (type : String) : Bool :=
  match value with
  | .null => type == "null"
  | .bool _ => type == "boolean"
  | .string _ => type == "string"
  | .array _ => type == "array"
  | .object _ => type == "object"
  | .number (.integer _) => type == "number" || type == "integer"
  | .number (.double value) =>
      type == "number" ||
        (type == "integer" && value.isFinite && (Decimal.Binary.ofFloat value).isWhole)

def hasListedType (members : List (String × Json)) (value : Json) : Bool :=
  (types members).isEmpty || (types members).any (hasType value)

def count (broken : Bool) : Nat := if broken then 1 else 0

/-- A pattern that is none is passed over. -/
def breaksPattern (text pattern : String) : Bool :=
  match Regex.ofString pattern with
  | .ok regex => !regex.isMatch text
  | .error _ => false

/-- How many of the rules for a value's own kind it breaks, its parts apart. -/
def ownViolations (members : List (String × Json)) (value : Json) : Nat :=
  count ((listed? members "enum").any fun options => !options.any fun option => option == value) +
  count ((Assoc.find? "const" members).any fun expected => !(expected == value)) +
  match value with
  | .object fields =>
      ((required members).filter fun name => (Assoc.find? name fields).isNone).length
  | .array items =>
      count ((count? members "minItems").any fun least => items.length < least) +
      count ((count? members "maxItems").any fun most => most < items.length)
  | .string text =>
      count ((count? members "minLength").any fun least => text.length < least) +
      count ((count? members "maxLength").any fun most => most < text.length) +
      count ((pattern? members).any (breaksPattern text))
  | .number amount =>
      let value := amount.toFloat
      count ((bound? members "minimum").any fun bound => value < bound) +
      count ((bound? members "maximum").any fun bound => bound < value) +
      count ((bound? members "exclusiveMinimum").any fun bound => value ≤ bound) +
      count ((bound? members "exclusiveMaximum").any fun bound => bound ≤ value)
  | .null => 0
  | .bool _ => 0

/-- How often a value breaks a schema.  A value of the wrong type breaks it once, and what is no
schema is passed over. -/
def violations (schema value : Json) : Nat :=
  match schema with
  | .bool holds => count (!holds)
  | .object members =>
      if hasListedType members value then
        ownViolations members value +
        total (fun ⟨demand, _⟩ => violations demand.1 demand.2) (demands members value).attach +
        (match _found : listed? members "anyOf" with
          | some schemas =>
              count (!schemas.attach.any fun ⟨schema, _⟩ => violations schema value == 0)
          | none => 0) +
        (match _found : listed? members "oneOf" with
          | some schemas =>
              count ((schemas.attach.countP fun ⟨schema, _⟩ => violations schema value == 0) != 1)
          | none => 0) +
        (match _found : Assoc.find? "not" members with
          | some schema => count (violations schema value == 0)
          | none => 0)
      else 1
  | _ => 0
termination_by sizeOf schema
decreasing_by
  · have := sizeOf_lt_of_mem_demands ‹_›
    simp_all
    omega
  · have := sizeOf_lt_of_listed? _found
    have := List.sizeOf_lt_of_mem ‹_›
    simp_all
    omega
  · have := sizeOf_lt_of_listed? _found
    have := List.sizeOf_lt_of_mem ‹_›
    simp_all
    omega
  · have := Assoc.sizeOf_lt_of_find? _found
    simp_all
    omega

end Schema

end Json

end ServiceStub
