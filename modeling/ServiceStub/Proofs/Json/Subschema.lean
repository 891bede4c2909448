import ServiceStub.Json.Schema
import ServiceStub.Proofs.Assoc
import ServiceStub.Proofs.Outcome

/-!
The schemas inside a schema that judging a value comes to.  All of them are checked together with
the schema, so whatever is passed over in what is no schema is never come to.
-/

namespace ServiceStub

private theorem total_congr {α : Type} {measure other : α → Nat} {items : List α}
    (same : ∀ item ∈ items, measure item = other item) :
    total measure items = total other items := by
  induction items with
  | nil => rfl
  | cons item rest induction =>
      obtain ⟨first, others⟩ := List.forall_mem_cons.mp same
      rw [total, total, first, induction others]

private theorem total_map {α β : Type} (change : α → β) (measure : β → Nat) (items : List α) :
    total measure (items.map change) = total (measure ∘ change) items := by
  induction items with
  | nil => rfl
  | cons item rest induction => rw [List.map_cons, total, total, induction, Function.comp]

private theorem total_attach {α : Type} (measure : α → Nat) (items : List α) :
    total (fun item => measure item.1) items.attach = total measure items := by
  conv_rhs => rw [← List.attach_map_subtype_val items, total_map]
  rfl

theorem total_eq_zero_iff {α : Type} {measure : α → Nat} {items : List α} :
    total measure items = 0 ↔ ∀ item ∈ items, measure item = 0 := by
  induction items with
  | nil => simp [total]
  | cons item rest induction => rw [total, Nat.add_eq_zero_iff, induction, List.forall_mem_cons]

namespace Json.Schema

variable {members : List (String × Json)} {value inner part : Json}

theorem listed?_eq_some_iff {keyword : String} {schemas : List Json} :
    listed? members keyword = some schemas ↔
      Assoc.find? keyword members = some (.array schemas) := by
  rw [listed?, Option.bind_eq_some_iff]
  constructor
  · rintro ⟨document, found, isArray⟩
    cases document with
    | array items => rwa [← Option.some.inj isArray]
    | _ => cases isArray
  · exact fun found => ⟨_, found, rfl⟩

def declaredNames (members : List (String × Json)) : List String :=
  match Assoc.find? "properties" members with
  | some (.object properties) => Assoc.keys properties
  | _ => []

/-- A schema with these members judges a value by an inner schema, or a part of it. -/
inductive Leads (members : List (String × Json)) : Json → Json → Json → Prop where
  | property {fields properties : List (String × Json)} {name : String} {inner part : Json}
      (field : (name, part) ∈ fields)
      (given : Assoc.find? "properties" members = some (.object properties))
      (own : Assoc.find? name properties = some inner) :
      Leads members (.object fields) inner part
  | additional {fields : List (String × Json)} {name : String} {inner part : Json}
      (field : (name, part) ∈ fields) (undeclared : name ∉ declaredNames members)
      (given : Assoc.find? "additionalProperties" members = some inner) :
      Leads members (.object fields) inner part
  | item {items : List Json} {inner part : Json} (listed : part ∈ items)
      (given : Assoc.find? "items" members = some inner) : Leads members (.array items) inner part
  | combined {keyword : String} {schemas : List Json} {value inner : Json}
      (combines : keyword ∈ ["allOf", "anyOf", "oneOf"])
      (given : Assoc.find? keyword members = some (.array schemas)) (listed : inner ∈ schemas) :
      Leads members value inner value
  | negated {value inner : Json} (given : Assoc.find? "not" members = some inner) :
      Leads members value inner value

theorem propertySchema?_eq_some_iff {name : String} :
    propertySchema? members name = some inner ↔
      (∃ properties, Assoc.find? "properties" members = some (.object properties) ∧
        Assoc.find? name properties = some inner) ∨
      (name ∉ declaredNames members ∧
        Assoc.find? "additionalProperties" members = some inner) := by
  rw [propertySchema?, declaredNames, Option.or_eq_some_iff]
  cases given : Assoc.find? "properties" members with
  | none => simp
  | some document =>
      cases document with
      | object properties =>
          simp [Json.member?, Assoc.find?_eq_none_iff]
      | _ => simp [Json.member?]

theorem mem_demands_iff : (inner, part) ∈ demands members value ↔
    (∃ fields name, value = .object fields ∧ (name, part) ∈ fields ∧
      propertySchema? members name = some inner) ∨
    (∃ items, value = .array items ∧ part ∈ items ∧ Assoc.find? "items" members = some inner) ∨
    (part = value ∧ ∃ schemas, Assoc.find? "allOf" members = some (.array schemas) ∧
      inner ∈ schemas) := by
  have whole : (inner, part) ∈ ((listed? members "allOf").getD []).map (·, value) ↔
      part = value ∧ ∃ schemas, Assoc.find? "allOf" members = some (.array schemas) ∧
        inner ∈ schemas := by
    simp only [← listed?_eq_some_iff]
    cases listed? members "allOf" with
    | none => simp
    | some schemas => simp [and_comm, eq_comm]
  unfold demands
  rw [List.mem_append, whole, ← or_assoc]
  refine or_congr_left ?_
  cases value with
  | object fields =>
      simp only [List.mem_filterMap, Option.map_eq_some_iff, Prod.exists, Prod.mk.injEq,
        Json.object.injEq, reduceCtorEq, false_and, exists_false, or_false]
      constructor
      · rintro ⟨name, part, field, inner, found, rfl, rfl⟩
        exact ⟨fields, name, rfl, field, found⟩
      · rintro ⟨_, name, rfl, field, found⟩
        exact ⟨name, part, field, inner, found, rfl, rfl⟩
  | array items =>
      cases Assoc.find? "items" members with
      | none => simp
      | some schema =>
          simp only [Option.elim_some, List.mem_map, Prod.mk.injEq, Json.array.injEq, reduceCtorEq,
            false_and, exists_false, false_or, Option.some.injEq]
          constructor
          · rintro ⟨part, listed, rfl, rfl⟩
            exact ⟨items, rfl, listed, rfl⟩
          · rintro ⟨_, rfl, listed, rfl⟩
            exact ⟨part, listed, rfl, rfl⟩
  | null => simp
  | bool => simp
  | number => simp
  | string => simp

private theorem leads_of_mem_demands (demanded : (inner, part) ∈ demands members value) :
    Leads members value inner part := by
  rcases mem_demands_iff.mp demanded with
    ⟨fields, name, rfl, field, found⟩ | ⟨items, rfl, listed, found⟩ | ⟨rfl, schemas, given, listed⟩
  · rcases propertySchema?_eq_some_iff.mp found with ⟨properties, given, own⟩ | ⟨undeclared, given⟩
    · exact .property field given own
    · exact .additional field undeclared given
  · exact .item listed found
  · exact .combined List.mem_cons_self given listed

theorem Leads.sizeOf_lt (leads : Leads members value inner part) :
    sizeOf inner < sizeOf members := by
  cases leads with
  | property field given own =>
      have outer := Assoc.sizeOf_lt_of_find? given
      have inner := Assoc.sizeOf_lt_of_find? own
      rw [Json.object.sizeOf_spec] at outer
      omega
  | additional field undeclared given => exact Assoc.sizeOf_lt_of_find? given
  | item listed given => exact Assoc.sizeOf_lt_of_find? given
  | combined combines given listed =>
      have outer := Assoc.sizeOf_lt_of_find? given
      have inner := List.sizeOf_lt_of_mem listed
      rw [Json.array.sizeOf_spec] at outer
      omega
  | negated given => exact Assoc.sizeOf_lt_of_find? given

/-- How many of the lists of alternatives and the negation fail, if `inner` counts how often a
value breaks the schemas in them. -/
def tallyAlternatives (inner : Json → Json → Nat) (members : List (String × Json)) (value : Json) :
    Nat :=
  ((listed? members "anyOf").elim 0 fun schemas =>
    count (!schemas.any fun schema => inner schema value == 0)) +
  ((listed? members "oneOf").elim 0 fun schemas =>
    count (schemas.countP (fun schema => inner schema value == 0) != 1)) +
  ((Assoc.find? "not" members).elim 0 fun schema => count (inner schema value == 0))

def tally (inner : Json → Json → Nat) (members : List (String × Json)) (value : Json) : Nat :=
  if hasListedType members value then
    ownViolations members value +
    total (fun demand => inner demand.1 demand.2) (demands members value) +
    tallyAlternatives inner members value
  else 1

theorem violations_object (members : List (String × Json)) (value : Json) :
    violations (.object members) value = tally violations members value := by
  have demanded := total_attach (fun demand => violations demand.1 demand.2) (demands members value)
  rw [violations, tally, tallyAlternatives, ← Nat.add_assoc, ← Nat.add_assoc]
  refine if_congr Iff.rfl ?_ rfl
  refine congrArg₂ _ (congrArg₂ _ (congrArg₂ _ (congrArg₂ _ rfl demanded) ?_) ?_) ?_
  · split
    · next schemas found =>
        rw [found, Option.elim_some]
        simp
    · next found => rw [found, Option.elim_none]
  · split
    · next schemas found =>
        have counted := @List.countP_attach _ schemas fun schema => violations schema value == 0
        rw [found, Option.elim_some, ← counted]
    · next found => rw [found, Option.elim_none]
  · split
    · next schema found => rw [found, Option.elim_some]
    · next found => rw [found, Option.elim_none]

private theorem tallyAlternatives_congr {violations other : Json → Json → Nat}
    (same : ∀ inner, Leads members value inner value →
      violations inner value = other inner value) :
    tallyAlternatives violations members value = tallyAlternatives other members value := by
  have listed {keyword : String} (combines : keyword ∈ ["allOf", "anyOf", "oneOf"])
      {schemas : List Json} (given : listed? members keyword = some schemas) :
      ∀ schema ∈ schemas, violations schema value = other schema value := fun schema listed =>
    same schema (.combined combines (listed?_eq_some_iff.mp given) listed)
  refine congrArg₂ _ (congrArg₂ _ ?_ ?_) ?_
  · cases given : listed? members "anyOf" with
    | none => rfl
    | some schemas =>
        have alike : (schemas.any fun schema => violations schema value == 0) =
            schemas.any fun schema => other schema value == 0 := by
          rw [Bool.eq_iff_iff, List.any_eq_true, List.any_eq_true]
          exact exists_congr fun schema => and_congr_right fun member => by
            rw [listed (by decide) given schema member]
        rw [Option.elim_some, Option.elim_some, alike]
  · cases given : listed? members "oneOf" with
    | none => rfl
    | some schemas =>
        rw [Option.elim_some, Option.elim_some, List.countP_congr fun schema member =>
          (by rw [listed (by decide) given schema member])]
  · cases given : Assoc.find? "not" members with
    | none => rfl
    | some schema => rw [Option.elim_some, Option.elim_some, same schema (.negated given)]

/-- What a count for inner schemas says matters only where the members lead to, and nowhere for a
value of another type. -/
theorem tally_congr {violations other : Json → Json → Nat}
    (same : hasListedType members value = true → ∀ inner part, Leads members value inner part →
      violations inner part = other inner part) :
    tally violations members value = tally other members value := by
  refine ite_congr rfl (fun typed => ?_) fun _ => rfl
  have demanded : total (fun demand => violations demand.1 demand.2) (demands members value) =
      total (fun demand => other demand.1 demand.2) (demands members value) :=
    total_congr fun _ demanded => same typed _ _ (leads_of_mem_demands demanded)
  rw [demanded, tallyAlternatives_congr fun inner leads => same typed inner value leads]

def tallySchema (inner : Json → Json → Nat) (schema value : Json) : Nat :=
  match schema with
  | .bool holds => count (!holds)
  | .object members => tally inner members value
  | _ => 0

private theorem violations_eq_tallySchema (schema value : Json) :
    violations schema value = tallySchema violations schema value := by
  cases schema with
  | object members => exact violations_object members value
  | bool holds => rw [violations, tallySchema]
  | _ =>
      unfold violations
      rfl

def Checked (schema : Json) : Prop := ∃ location, check location schema = .ok ()

/-- The pattern in a schema with these members, if there is one, is a text that can be compiled. -/
def PatternCompiles (members : List (String × Json)) : Prop :=
  ∀ pattern, Assoc.find? "pattern" members = some pattern →
    ∃ text regex, pattern = .string text ∧ Regex.ofString text = .ok regex

/-- What counting violations does not pass over. -/
inductive IsSchema : Json → Prop where
  | bool (holds : Bool) : IsSchema (.bool holds)
  | object {members : List (String × Json)} (compiles : PatternCompiles members) :
      IsSchema (.object members)

variable {location : String}

private theorem patternCompiles_of_checkPattern
    (checked : checkPattern location (Assoc.find? "pattern" members) = .ok ()) :
    PatternCompiles members := by
  intro pattern found
  rw [found] at checked
  cases pattern with
  | string text =>
      rw [checkPattern] at checked
      split at checked
      · next regex compiled => exact ⟨text, regex, rfl, compiled⟩
      · cases checked
  | _ => cases checked

private theorem checked_of_checkMembers {properties : List (String × Json)}
    (checked : checkMembers location properties = .ok ()) :
    ∀ property ∈ properties, Checked property.2 := by
  induction properties with
  | nil => nofun
  | cons property properties induction =>
      obtain ⟨name, schema⟩ := property
      rw [checkMembers, bind_eq_ok] at checked
      obtain ⟨_, first, others⟩ := checked
      exact List.forall_mem_cons.mpr ⟨⟨_, first⟩, induction others⟩

private theorem checked_of_checkEach {index : Nat} {schemas : List Json}
    (checked : checkEach location index schemas = .ok ()) :
    ∀ schema ∈ schemas, Checked schema := by
  induction schemas generalizing index with
  | nil => nofun
  | cons schema schemas induction =>
      rw [checkEach, bind_eq_ok] at checked
      obtain ⟨_, first, others⟩ := checked
      exact List.forall_mem_cons.mpr ⟨⟨_, first⟩, induction others⟩

structure ChecksMembers (members : List (String × Json)) : Prop where
  pattern : PatternCompiles members
  properties : ∀ properties, Assoc.find? "properties" members = some (.object properties) →
    ∀ property ∈ properties, Checked property.2
  single : ∀ keyword ∈ ["items", "additionalProperties", "not"], ∀ schema,
    Assoc.find? keyword members = some schema → Checked schema
  listed : ∀ keyword ∈ ["allOf", "anyOf", "oneOf"], ∀ schemas,
    Assoc.find? keyword members = some (.array schemas) → ∀ schema ∈ schemas, Checked schema

private theorem Checked.checksMembers (checked : Checked (.object members)) :
    ChecksMembers members := by
  obtain ⟨location, checked⟩ := checked
  rw [check] at checked
  obtain ⟨_, pattern, checked⟩ := bind_eq_ok.mp checked
  obtain ⟨_, properties, checked⟩ := bind_eq_ok.mp checked
  obtain ⟨_, single, listed⟩ := bind_eq_ok.mp checked
  refine ⟨patternCompiles_of_checkPattern pattern, fun inners found => ?_,
    fun keyword known schema found => ?_, fun keyword known schemas found => ?_⟩
  · split at properties
    · next others otherFound =>
        rw [found] at otherFound
        cases otherFound
        exact checked_of_checkMembers properties
    · next none => exact absurd found (none inners)
  · have each := forM_eq_ok_iff.mp single keyword known
    split at each
    · next other otherFound =>
        rw [found] at otherFound
        cases otherFound
        exact ⟨_, each⟩
    · next none => rw [found] at none; cases none
  · have each := forM_eq_ok_iff.mp listed keyword known
    split at each
    · next others otherFound =>
        rw [found] at otherFound
        cases otherFound
        exact checked_of_checkEach each
    · cases each
    · next none => rw [found] at none; cases none

theorem Checked.isSchema {schema : Json} (checked : Checked schema) : IsSchema schema := by
  cases schema with
  | bool holds => exact .bool holds
  | object members => exact .object checked.checksMembers.pattern
  | _ =>
      obtain ⟨location, checked⟩ := checked
      unfold check at checked
      cases checked

/-- Wherever judging a value comes to in one step has been checked as well. -/
theorem Checked.leads (checked : Checked (.object members))
    (leads : Leads members value inner part) : Checked inner := by
  have checks := checked.checksMembers
  cases leads with
  | property field given own => exact checks.properties _ given _ (Assoc.mem_of_find? own)
  | additional field undeclared given => exact checks.single _ (by decide) _ given
  | item listed given => exact checks.single _ (by decide) _ given
  | combined combines given listed => exact checks.listed _ combines _ given _ listed
  | negated given => exact checks.single _ (by decide) _ given

/-- Judging the value by the schema comes to judging the part by the inner schema. -/
inductive Reaches (schema value : Json) : Json → Json → Prop where
  | start : Reaches schema value schema value
  | step {members : List (String × Json)} {middle inner part : Json}
      (reached : Reaches schema value (.object members) middle)
      (typed : hasListedType members middle = true) (leads : Leads members middle inner part) :
      Reaches schema value inner part

theorem Checked.reaches {schema : Json} (checked : Checked schema)
    (reaches : Reaches schema value inner part) : Checked inner := by
  induction reaches with
  | start => exact checked
  | step reached typed leads induction => exact induction.leads leads

/-- A count agrees with the violations as soon as it is made step by step for the schemas that are
come to, whatever it makes of anything else. -/
theorem Checked.count_eq_violations {schema : Json} (checked : Checked schema)
    {violationsOf : Json → Json → Nat}
    (steps : ∀ inner part, Reaches schema value inner part → IsSchema inner →
      violationsOf inner part = tallySchema violationsOf inner part)
    (reaches : Reaches schema value inner part) :
    violationsOf inner part = violations inner part := by
  -- Reaching grows at its end: what is reached from here is smaller than the schema here.
  induction size : sizeOf inner using Nat.strongRecOn generalizing inner part with
  | ind size induction =>
      rw [steps inner part reaches (checked.reaches reaches).isSchema, violations_eq_tallySchema]
      cases inner with
      | object members =>
          refine tally_congr fun typed inner part leads => ?_
          refine induction (sizeOf inner) ?_ (reaches.step typed leads) rfl
          have smaller := leads.sizeOf_lt
          rw [Json.object.sizeOf_spec] at size
          omega
      | _ => rfl

end Json.Schema

end ServiceStub
