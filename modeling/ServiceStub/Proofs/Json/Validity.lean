import ServiceStub.Proofs.Decimal.Whole
import ServiceStub.Proofs.Json.Equality
import ServiceStub.Proofs.Json.Subschema

/-!
When a value is valid under a schema.  A keyword asks something of values of its own kind only, and
nothing at all where it is not written as it should be.  Counting violations finds none just for
valid values, however deep schemas stand inside one another.
-/

namespace ServiceStub

def JsonNumber.IsWhole (number : JsonNumber) : Prop :=
  ∃ whole : Int, number.value? = some (whole : Rat)

namespace Json.Schema

def IsOfType (name : String) : Json → Prop
  | .null => name = "null"
  | .bool _ => name = "boolean"
  | .string _ => name = "string"
  | .array _ => name = "array"
  | .object _ => name = "object"
  | .number amount => name = "number" ∨ (name = "integer" ∧ amount.IsWhole)

section Rules

variable (valid : Json → Json → Prop) (members : List (String × Json))

structure Within (least most : String) (size : Nat) : Prop where
  least : ∀ bound, Assoc.find? least members = some (.ofNat bound) → bound ≤ size
  most : ∀ bound, Assoc.find? most members = some (.ofNat bound) → size ≤ bound

/-- A number is within the bounds that are set to it, all compared as doubles. -/
structure NumberRules (amount : JsonNumber) : Prop where
  minimum : ∀ bound, Assoc.find? "minimum" members = some (.number bound) →
    ¬amount.toFloat < bound.toFloat
  maximum : ∀ bound, Assoc.find? "maximum" members = some (.number bound) →
    ¬bound.toFloat < amount.toFloat
  exclusiveMinimum : ∀ bound, Assoc.find? "exclusiveMinimum" members = some (.number bound) →
    ¬amount.toFloat ≤ bound.toFloat
  exclusiveMaximum : ∀ bound, Assoc.find? "exclusiveMaximum" members = some (.number bound) →
    ¬bound.toFloat ≤ amount.toFloat

structure StringRules (text : String) : Prop where
  length : Within members "minLength" "maxLength" text.length
  pattern : ∀ pattern regex, Assoc.find? "pattern" members = some (.string pattern) →
    Regex.ofString pattern = .ok regex → regex.isMatch text = true

def KindRules : Json → Prop
  | .object fields => ∀ names, Assoc.find? "required" members = some (.array names) →
      ∀ name, .string name ∈ names → name ∈ Assoc.keys fields
  | .array items => Within members "minItems" "maxItems" items.length
  | .string text => StringRules members text
  | .number amount => NumberRules members amount
  | .null => True
  | .bool _ => True

/-- The rules for the parts of a value, if `valid` tells what is valid under the inner schemas. -/
structure PartRules (value : Json) : Prop where
  properties : ∀ fields properties, value = .object fields →
    Assoc.find? "properties" members = some (.object properties) → ∀ name inner part,
      Assoc.find? name properties = some inner → (name, part) ∈ fields → valid inner part
  additionalProperties : ∀ fields inner, value = .object fields →
    Assoc.find? "additionalProperties" members = some inner → ∀ name part,
      (name, part) ∈ fields → name ∉ declaredNames members → valid inner part
  items : ∀ items inner, value = .array items → Assoc.find? "items" members = some inner →
    ∀ item ∈ items, valid inner item

structure Combinations (value : Json) : Prop where
  allOf : ∀ schemas, Assoc.find? "allOf" members = some (.array schemas) →
    ∀ inner ∈ schemas, valid inner value
  anyOf : ∀ schemas, Assoc.find? "anyOf" members = some (.array schemas) →
    ∃ inner ∈ schemas, valid inner value
  oneOf : ∀ schemas, Assoc.find? "oneOf" members = some (.array schemas) →
    ∃! index : Fin schemas.length, valid (schemas.get index) value
  not : ∀ inner, Assoc.find? "not" members = some inner → ¬valid inner value

structure Rules (value : Json) : Prop where
  type : types members = [] ∨ ∃ name ∈ types members, IsOfType name value
  enum : ∀ options, Assoc.find? "enum" members = some (.array options) →
    ∃ option ∈ options, Agrees .strict option value
  const : ∀ expected, Assoc.find? "const" members = some expected → Agrees .strict expected value
  kind : KindRules members value
  parts : PartRules valid members value
  combined : Combinations valid members value

end Rules

/-- The value is valid under the schema; nothing is under what is no schema. -/
def Valid (schema value : Json) : Prop :=
  match schema with
  | .bool holds => holds = true
  | .object members =>
      -- Rules ask for inner schemas only, which are smaller: see `valid_object`.
      Rules (fun inner part => ∃ _smaller : sizeOf inner < sizeOf members, Valid inner part)
        members value
  | _ => False
termination_by sizeOf schema
decreasing_by
  rw [Json.object.sizeOf_spec]
  omega

variable {valid other : Json → Json → Prop} {members : List (String × Json)}
  {value inner part : Json}

private theorem Rules.of_same (rules : Rules valid members value)
    (same : ∀ inner part, Leads members value inner part → (valid inner part ↔ other inner part)) :
    Rules other members value where
  type := rules.type
  enum := rules.enum
  const := rules.const
  kind := rules.kind
  parts := by
    refine ⟨?_, ?_, ?_⟩
    · rintro fields properties rfl given name inner part own field
      exact (same _ _ (.property field given own)).mp
        (rules.parts.properties _ _ rfl given _ _ _ own field)
    · rintro fields inner rfl given name part field undeclared
      exact (same _ _ (.additional field undeclared given)).mp
        (rules.parts.additionalProperties _ _ rfl given _ _ field undeclared)
    · rintro items inner rfl given item listed
      exact (same _ _ (.item listed given)).mp (rules.parts.items _ _ rfl given _ listed)
  combined := by
    refine ⟨?_, ?_, ?_, ?_⟩
    · intro schemas given inner listed
      exact (same _ _ (.combined (by decide) given listed)).mp
        (rules.combined.allOf _ given _ listed)
    · intro schemas given
      obtain ⟨inner, listed, holds⟩ := rules.combined.anyOf schemas given
      exact ⟨inner, listed, (same _ _ (.combined (by decide) given listed)).mp holds⟩
    · intro schemas given
      refine (existsUnique_congr fun index => ?_).mp (rules.combined.oneOf schemas given)
      exact same _ _ (.combined (by decide) given (List.get_mem schemas index))
    · intro inner given holds
      exact rules.combined.not inner given ((same _ _ (.negated given)).mpr holds)

private theorem rules_congr
    (same : ∀ inner part, Leads members value inner part → (valid inner part ↔ other inner part)) :
    Rules valid members value ↔ Rules other members value :=
  ⟨fun rules => rules.of_same same,
    fun rules => rules.of_same fun inner part leads => (same inner part leads).symm⟩

private theorem valid_bool (holds : Bool) (value : Json) :
    Valid (.bool holds) value ↔ holds = true := by
  rw [Valid]

private theorem valid_object (members : List (String × Json)) (value : Json) :
    Valid (.object members) value ↔ Rules Valid members value := by
  rw [Valid]
  refine rules_congr fun inner part leads => ?_
  exact ⟨fun ⟨_, holds⟩ => holds, fun holds => ⟨leads.sizeOf_lt, holds⟩⟩

private theorem hasType_iff {name : String} : hasType value name = true ↔ IsOfType name value := by
  cases value with
  | number amount =>
      cases amount with
      | integer whole =>
          have isWhole : JsonNumber.IsWhole (.integer whole) := ⟨whole, rfl⟩
          simp [hasType, IsOfType, isWhole]
      | double double =>
          have isWhole : (double.isFinite && (Decimal.Binary.ofFloat double).isWhole) = true ↔
              JsonNumber.IsWhole (.double double) := Double.isWhole_iff
          rw [IsOfType, ← isWhole]
          simp [hasType, and_assoc]
  | _ => exact beq_iff_eq

private theorem hasListedType_iff : hasListedType members value = true ↔
    types members = [] ∨ ∃ name ∈ types members, IsOfType name value := by
  simp only [hasListedType, Bool.or_eq_true, List.isEmpty_iff, List.any_eq_true, hasType_iff]

private theorem count_eq_zero_iff {broken : Bool} : count broken = 0 ↔ broken = false := by
  cases broken <;> simp [count]

private theorem count_any_eq_zero_iff {α : Type} {keyword : Option α} {breaks : α → Bool} :
    count (keyword.any breaks) = 0 ↔ ∀ given, keyword = some given → breaks given = false := by
  cases keyword <;> simp [count]

private theorem count?_eq_some_iff {keyword : String} {bound : Nat} :
    count? members keyword = some bound ↔ Assoc.find? keyword members = some (.ofNat bound) := by
  rw [count?, Option.bind_eq_some_iff]
  constructor
  · rintro ⟨document, found, isNat⟩
    cases document with
    | number amount =>
        cases amount with
        | integer whole =>
            obtain ⟨nonneg, same⟩ := Option.ite_none_right_eq_some.mp isNat
            rw [found, ← Option.some.inj same, ofNat, Int.toNat_of_nonneg nonneg]
        | double double => cases isNat
    | _ => cases isNat
  · exact fun found => ⟨_, found, by simp [ofNat, asNat?]⟩

private theorem count_bound_eq_zero_iff {keyword : String} {breaks : Float → Bool} :
    count ((bound? members keyword).any breaks) = 0 ↔
      ∀ bound, Assoc.find? keyword members = some (.number bound) →
        breaks bound.toFloat = false := by
  rw [count_any_eq_zero_iff]
  constructor
  · exact fun kept bound given => kept _ (Option.bind_eq_some_iff.mpr ⟨_, given, rfl⟩)
  · intro kept bound given
    obtain ⟨document, found, isFloat⟩ := Option.bind_eq_some_iff.mp given
    cases document with
    | number amount =>
        cases Option.some.inj isFloat
        exact kept amount found
    | _ => cases isFloat

private theorem pattern?_eq_some_iff {pattern : String} :
    pattern? members = some pattern ↔ Assoc.find? "pattern" members = some (.string pattern) := by
  rw [pattern?, Option.bind_eq_some_iff]
  constructor
  · rintro ⟨document, found, isString⟩
    cases document with
    | string text => rwa [← Option.some.inj isString]
    | _ => cases isString
  · exact fun found => ⟨_, found, rfl⟩

private theorem within_iff {least most : String} {size : Nat} :
    Within members least most size ↔
      count ((count? members least).any fun bound => size < bound) = 0 ∧
        count ((count? members most).any fun bound => bound < size) = 0 := by
  simp only [count_any_eq_zero_iff, count?_eq_some_iff, decide_eq_false_iff_not, Nat.not_lt]
  exact ⟨fun within => ⟨within.least, within.most⟩, fun bounds => ⟨bounds.1, bounds.2⟩⟩

private theorem breaksPattern_eq_false_iff {text pattern : String} :
    breaksPattern text pattern = false ↔
      ∀ regex, Regex.ofString pattern = .ok regex → regex.isMatch text = true := by
  rw [breaksPattern]
  cases Regex.ofString pattern <;> simp

private theorem stringRules_iff {text : String} : StringRules members text ↔
    count ((count? members "minLength").any fun least => text.length < least) +
      count ((count? members "maxLength").any fun most => most < text.length) +
      count ((pattern? members).any (breaksPattern text)) = 0 := by
  rw [Nat.add_eq_zero_iff, Nat.add_eq_zero_iff, ← within_iff]
  simp only [count_any_eq_zero_iff, pattern?_eq_some_iff, breaksPattern_eq_false_iff]
  exact ⟨fun rules => ⟨rules.length, fun pattern given regex => rules.pattern pattern regex given⟩,
    fun rules => ⟨rules.1, fun pattern regex given => rules.2 pattern given regex⟩⟩

private theorem numberRules_iff {amount : JsonNumber} : NumberRules members amount ↔
    count ((bound? members "minimum").any fun bound => amount.toFloat < bound) +
      count ((bound? members "maximum").any fun bound => bound < amount.toFloat) +
      count ((bound? members "exclusiveMinimum").any fun bound => amount.toFloat ≤ bound) +
      count ((bound? members "exclusiveMaximum").any fun bound => bound ≤ amount.toFloat) = 0 := by
  simp only [Nat.add_eq_zero_iff, count_bound_eq_zero_iff, decide_eq_false_iff_not]
  constructor
  · exact fun rules => ⟨⟨⟨rules.minimum, rules.maximum⟩, rules.exclusiveMinimum⟩,
      rules.exclusiveMaximum⟩
  · rintro ⟨⟨⟨minimum, maximum⟩, exclusiveMinimum⟩, exclusiveMaximum⟩
    exact ⟨minimum, maximum, exclusiveMinimum, exclusiveMaximum⟩

private theorem required_iff {fields : List (String × Json)} :
    KindRules members (.object fields) ↔
      ((required members).filter fun name => (Assoc.find? name fields).isNone).length = 0 := by
  have listed (name : String) : name ∈ required members ↔
      ∃ names, Assoc.find? "required" members = some (.array names) ∧ .string name ∈ names := by
    rw [required, List.mem_filterMap]
    simp only [← listed?_eq_some_iff]
    have isString (document : Json) : document.asString? = some name ↔ document = .string name := by
      cases document <;> simp [asString?]
    cases listed? members "required" <;> simp [isString]
  rw [List.length_eq_zero_iff, List.filter_eq_nil_iff]
  simp only [listed, KindRules, Option.isNone_iff_eq_none, Assoc.find?_eq_none_iff, not_not]
  constructor
  · rintro rules name ⟨names, given, known⟩
    exact rules names given name known
  · exact fun rules names given name known => rules name ⟨names, given, known⟩

private theorem enum_iff (canonical : (object members).IsCanonical)
    (valueCanonical : value.IsCanonical) :
    (∀ options, Assoc.find? "enum" members = some (.array options) →
      ∃ option ∈ options, Agrees .strict option value) ↔
      count ((listed? members "enum").any fun options =>
        !options.any fun option => option == value) = 0 := by
  rw [count_any_eq_zero_iff]
  simp only [listed?_eq_some_iff, Bool.not_eq_false', List.any_eq_true]
  refine forall₂_congr fun options given =>
    exists_congr fun option => and_congr_right fun known => ?_
  have listCanonical := canonical.values _ (Assoc.mem_of_find? given)
  rw [beq_iff_agrees (listCanonical.items option known) valueCanonical]

private theorem const_iff (canonical : (object members).IsCanonical)
    (valueCanonical : value.IsCanonical) :
    (∀ expected, Assoc.find? "const" members = some expected → Agrees .strict expected value) ↔
      count ((Assoc.find? "const" members).any fun expected => !(expected == value)) = 0 := by
  rw [count_any_eq_zero_iff]
  simp only [Bool.not_eq_false']
  refine forall₂_congr fun expected given => ?_
  rw [beq_iff_agrees (canonical.values _ (Assoc.mem_of_find? given)) valueCanonical]

private theorem ownViolations_eq_zero_iff (canonical : (object members).IsCanonical)
    (valueCanonical : value.IsCanonical) :
    ownViolations members value = 0 ↔
      (∀ options, Assoc.find? "enum" members = some (.array options) →
        ∃ option ∈ options, Agrees .strict option value) ∧
      (∀ expected, Assoc.find? "const" members = some expected → Agrees .strict expected value) ∧
      KindRules members value := by
  unfold ownViolations
  rw [enum_iff canonical valueCanonical, const_iff canonical valueCanonical, ← and_assoc,
    Nat.add_eq_zero_iff, Nat.add_eq_zero_iff]
  refine and_congr_right fun _ => ?_
  cases value with
  | object fields => exact required_iff.symm
  | array items =>
      rw [KindRules, within_iff, Nat.add_eq_zero_iff]
  | string text => exact stringRules_iff.symm
  | number amount => exact numberRules_iff.symm
  | null => exact iff_of_true rfl trivial
  | bool => exact iff_of_true rfl trivial

/-- The demands on a value and its parts are met just if the rules for its parts are, and all of
the schemas that have to hold together. -/
theorem forall_mem_demands_iff : (∀ demand ∈ demands members value, valid demand.1 demand.2) ↔
    PartRules valid members value ∧
      ∀ schemas, Assoc.find? "allOf" members = some (.array schemas) →
        ∀ inner ∈ schemas, valid inner value := by
  simp only [Prod.forall, mem_demands_iff, propertySchema?_eq_some_iff]
  constructor
  · intro met
    refine ⟨⟨?_, ?_, ?_⟩, fun schemas given inner listed => ?_⟩
    · intro fields properties same given name inner part own field
      exact met _ _ (.inl ⟨fields, name, same, field, .inl ⟨properties, given, own⟩⟩)
    · intro fields inner same given name part field undeclared
      exact met _ _ (.inl ⟨fields, name, same, field, .inr ⟨undeclared, given⟩⟩)
    · intro items inner same given item listed
      exact met _ _ (.inr (.inl ⟨items, same, listed, given⟩))
    · exact met _ _ (.inr (.inr ⟨rfl, schemas, given, listed⟩))
  · rintro ⟨parts, allOf⟩ inner part (⟨fields, name, same, field,
      ⟨properties, given, own⟩ | ⟨undeclared, given⟩⟩ | ⟨items, same, listed, given⟩ |
      ⟨rfl, schemas, given, listed⟩)
    · exact parts.properties _ _ same given _ _ _ own field
    · exact parts.additionalProperties _ _ same given _ _ field undeclared
    · exact parts.items _ _ same given _ listed
    · exact allOf _ given _ listed

private theorem countP_eq_one_iff {α : Type} {holds : α → Bool} {items : List α} :
    items.countP holds = 1 ↔ ∃! index : Fin items.length, holds (items.get index) = true := by
  have counted := (List.nodup_finRange items.length).card_eq_countP
    (P := fun index => holds (items.get index) = true)
  rw [Fintype.existsUnique_iff_card_one, ← List.toFinset_finRange, counted]
  conv_lhs => rw [← List.map_get_finRange items, List.countP_map]
  simp [Function.comp_def]

private theorem elim_eq_zero_iff {α : Type} {keyword : Option α} {measure : α → Nat} :
    keyword.elim 0 measure = 0 ↔ ∀ given, keyword = some given → measure given = 0 := by
  cases keyword <;> simp

private theorem combinations_iff {violations : Json → Json → Nat} :
    Combinations (fun inner part => violations inner part = 0) members value ↔
      (∀ schemas, Assoc.find? "allOf" members = some (.array schemas) →
        ∀ inner ∈ schemas, violations inner value = 0) ∧
      tallyAlternatives violations members value = 0 := by
  simp only [tallyAlternatives, Nat.add_eq_zero_iff, elim_eq_zero_iff, count_eq_zero_iff,
    listed?_eq_some_iff, Bool.not_eq_false', List.any_eq_true, bne_eq_false_iff_eq,
    countP_eq_one_iff, beq_iff_eq, beq_eq_false_iff_ne]
  constructor
  · exact fun rules => ⟨rules.allOf, ⟨rules.anyOf, rules.oneOf⟩, rules.not⟩
  · rintro ⟨allOf, ⟨anyOf, oneOf⟩, not⟩
    exact ⟨allOf, anyOf, oneOf, not⟩

private theorem tally_eq_zero_iff {violations : Json → Json → Nat}
    (canonical : (object members).IsCanonical) (valueCanonical : value.IsCanonical) :
    tally violations members value = 0 ↔
      Rules (fun inner part => violations inner part = 0) members value := by
  rw [tally]
  split
  · next typed =>
      have met := @forall_mem_demands_iff (fun inner part => violations inner part = 0)
        members value
      rw [Nat.add_eq_zero_iff, Nat.add_eq_zero_iff,
        ownViolations_eq_zero_iff canonical valueCanonical, total_eq_zero_iff, met]
      constructor
      · rintro ⟨⟨⟨enum, const, kind⟩, parts, allOf⟩, alternatives⟩
        exact ⟨hasListedType_iff.mp typed, enum, const, kind, parts,
          combinations_iff.mpr ⟨allOf, alternatives⟩⟩
      · rintro ⟨-, enum, const, kind, parts, combined⟩
        obtain ⟨allOf, alternatives⟩ := combinations_iff.mp combined
        exact ⟨⟨⟨enum, const, kind⟩, parts, allOf⟩, alternatives⟩
  · next untyped =>
      exact iff_of_false Nat.one_ne_zero fun rules => untyped (hasListedType_iff.mpr rules.type)

private theorem Leads.isCanonical (leads : Leads members value inner part)
    (canonical : (object members).IsCanonical) (valueCanonical : value.IsCanonical) :
    inner.IsCanonical ∧ part.IsCanonical := by
  have values {keyword : String} {document : Json}
      (given : Assoc.find? keyword members = some document) : document.IsCanonical :=
    canonical.values _ (Assoc.mem_of_find? given)
  cases leads with
  | property field given own =>
      exact ⟨(values given).values _ (Assoc.mem_of_find? own), valueCanonical.values _ field⟩
  | additional field undeclared given => exact ⟨values given, valueCanonical.values _ field⟩
  | item listed given => exact ⟨values given, valueCanonical.items _ listed⟩
  | combined combines given listed => exact ⟨(values given).items _ listed, valueCanonical⟩
  | negated given => exact ⟨values given, valueCanonical⟩

theorem violations_eq_zero_iff {schema : Json} (checked : Checked schema)
    (canonical : schema.IsCanonical) (valueCanonical : value.IsCanonical) :
    violations schema value = 0 ↔ Valid schema value := by
  -- Alternatives judge the same value again, so it is the schema that gets smaller.
  induction size : sizeOf schema using Nat.strongRecOn generalizing schema value with
  | ind size induction =>
      cases checked.isSchema with
      | bool holds =>
          rw [violations, valid_bool, count_eq_zero_iff, Bool.not_eq_false']
      | @object members compiles =>
          rw [violations_object, tally_eq_zero_iff canonical valueCanonical, valid_object]
          refine rules_congr fun inner part leads => ?_
          obtain ⟨innerCanonical, partCanonical⟩ := leads.isCanonical canonical valueCanonical
          refine induction (sizeOf inner) ?_ (checked.leads leads) innerCanonical partCanonical rfl
          have smaller := leads.sizeOf_lt
          rw [Json.object.sizeOf_spec] at size
          omega

end Json.Schema

end ServiceStub
