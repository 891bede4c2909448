import Mathlib.Data.List.Forall2
import ServiceStub.Proofs.Json.Record
import ServiceStub.Stub.File

/-!
Which definitions a stub file holds that lists them under the name `mappings`.  They are those of
the list if it is well formed.  Otherwise the list is passed over like any undeclared member, and
the members beside it are read as a single definition.
-/

namespace ServiceStub

private theorem Record.ofJson_erase {names : List String} {name : String}
    (undeclared : name ∉ names) (members : List (String × Json)) :
    Record.ofJson names (.object (Assoc.erase name members)) =
      Record.ofJson names (.object members) := by
  have declared (member : String × Json) :
      (decide (name ≠ member.1) && names.contains member.1) = names.contains member.1 := by
    cases listed : names.contains member.1 with
    | false => simp
    | true =>
        have different : name ≠ member.1 := by
          rintro rfl
          exact undeclared (List.contains_iff_mem.mp listed)
        simp [different]
  simp only [Record.ofJson, Assoc.erase, List.filter_filter, declared, Bool.and_comm]

private theorem HttpStubDefinition.ofJson_erase {name : String}
    (undeclared : name ∉ HttpStubDefinition.fieldNames) (members : List (String × Json)) :
    HttpStubDefinition.ofJson (.object (Assoc.erase name members)) =
      HttpStubDefinition.ofJson (.object members) := by
  rw [ofJson, Record.ofJson_erase undeclared, ofJson]

namespace Json

variable {α : Type} {read : Json → Option α} {values : List α}

private theorem mapM_eq_some_iff {items : List Json} :
    items.mapM read = some values ↔
      List.Forall₂ (fun item value => read item = some value) items values := by
  induction items generalizing values with
  | nil => simp [eq_comm]
  | cons item rest induction =>
      simp only [List.mapM_cons, Option.bind_eq_bind, Option.bind_eq_some_iff, Option.pure_def,
        Option.some.injEq, List.forall₂_cons_left_iff, induction]
      constructor
      · rintro ⟨first, given, others, othersGiven, rfl⟩
        exact ⟨first, others, given, othersGiven, rfl⟩
      · rintro ⟨first, others, given, othersGiven, rfl⟩
        exact ⟨first, given, others, othersGiven, rfl⟩

private theorem listOf?_eq_some_iff {document : Json} :
    listOf? read document = some values ↔
      ∃ items, document = .array items ∧
        List.Forall₂ (fun item value => read item = some value) items values := by
  cases document with
  | array items => simp [listOf?, mapM_eq_some_iff]
  | _ => simp [listOf?]

end Json

namespace StubFile

variable {members : List (String × Json)} {definitions : List HttpStubDefinition}

/-- The only member with the name `mappings` is a list, and its items read as the definitions. -/
def Lists (members : List (String × Json)) (definitions : List HttpStubDefinition) : Prop :=
  ∃ items, (members.filter fun member => member.1 = "mappings") = [("mappings", .array items)] ∧
    List.Forall₂ (fun item definition => HttpStubDefinition.ofJson item = some definition)
      items definitions

/-- The members beside the list read as a definition. -/
def Leaves (members : List (String × Json)) (definition : HttpStubDefinition) : Prop :=
  HttpStubDefinition.ofJson (.object (Assoc.erase "mappings" members)) = some definition

private theorem readMappings_eq_some_iff :
    readMappings (.object members) = some definitions ↔ Lists members definitions := by
  have declared : (members.filter fun member => ["mappings"].contains member.1) =
      members.filter fun member => member.1 = "mappings" :=
    List.filter_congr fun member _ => by simp
  have names : ∀ member ∈ members.filter fun member => member.1 = "mappings",
      member.1 = "mappings" := fun member listed => by simpa using (List.mem_filter.mp listed).2
  simp only [readMappings, Record.ofMembers, Record.ofJson, Lists, declared]
  generalize (members.filter fun member => member.1 = "mappings") = named at names ⊢
  -- a second member with the name is refused like a missing one
  cases named with
  | nil => simp [Record.required, Record.get?]
  | cons first rest =>
      obtain ⟨name, document⟩ := first
      obtain rfl : name = "mappings" := names _ List.mem_cons_self
      cases rest with
      | nil => simp [Record.required, Record.get?, Json.listOf?_eq_some_iff]
      | cons second others =>
          obtain ⟨name, document⟩ := second
          obtain rfl : name = "mappings" := names _ (List.mem_cons_of_mem _ List.mem_cons_self)
          simp

private theorem readMappings_eq_none_iff :
    readMappings (.object members) = none ↔ ∀ definitions, ¬ Lists members definitions := by
  rw [Option.eq_none_iff_forall_ne_some]
  exact forall_congr' fun definitions => not_congr readMappings_eq_some_iff

private theorem definitionsOfJson_object (members : List (String × Json)) :
    definitionsOfJson (.object members) =
      (readMappings (.object members)).or
        ((HttpStubDefinition.ofJson (.object (Assoc.erase "mappings" members))).map ([·])) := by
  rw [HttpStubDefinition.ofJson_erase (by decide), definitionsOfJson]
  cases readMappings (.object members) <;> rfl

private theorem definitionsOfJson_eq_some_iff :
    definitionsOfJson (.object members) = some definitions ↔
      Lists members definitions ∨
        (∀ others, ¬ Lists members others) ∧
          ∃ definition, Leaves members definition ∧ definitions = [definition] := by
  rw [definitionsOfJson_object, Option.or_eq_some_iff, readMappings_eq_some_iff,
    readMappings_eq_none_iff, Option.map_eq_some_iff]
  simp only [Leaves, eq_comm]

private theorem definitionsOfJson_eq_none_iff :
    definitionsOfJson (.object members) = none ↔
      (∀ definitions, ¬ Lists members definitions) ∧ ∀ definition, ¬ Leaves members definition := by
  rw [definitionsOfJson_object, Option.or_eq_none_iff, readMappings_eq_none_iff,
    Option.map_eq_none_iff, Option.eq_none_iff_forall_ne_some]
  rfl

section

variable {file : StubFile} {text : String} (decoded : Text.ofBytes? file.content = some text)
  (parsed : Json.parseWritten text = some (.object members))

include decoded parsed

private theorem definitions_eq_ok_iff :
    file.definitions = .ok definitions ↔
      Lists members definitions ∨
        (∀ others, ¬ Lists members others) ∧
          ∃ definition, Leaves members definition ∧ definitions = [definition] := by
  rw [← definitionsOfJson_eq_some_iff, StubFile.definitions, decoded]
  simp only [definitionsOfText, parsed, Option.bind_some]
  cases definitionsOfJson (.object members) <;> simp

private theorem definitions_eq_error_iff {error : StubFileError} :
    file.definitions = .error error ↔
      error = .notDefinitions file.name ∧ (∀ definitions, ¬ Lists members definitions) ∧
        ∀ definition, ¬ Leaves members definition := by
  rw [← definitionsOfJson_eq_none_iff, StubFile.definitions, decoded]
  simp only [definitionsOfText, parsed, Option.bind_some]
  cases definitionsOfJson (.object members) <;> simp [eq_comm]

end

/-- A file whose document is an object holds the definitions it lists, or else the one that the
members beside the list describe.  It is refused only if there is neither, so that a malformed list
goes unnoticed just where those members read as a definition. -/
theorem holds_list_or_rest (file : StubFile) {text : String}
    (decoded : Text.ofBytes? file.content = some text)
    (parsed : Json.parseWritten text = some (.object members)) :
    (∀ definitions, file.definitions = .ok definitions ↔
      Lists members definitions ∨
        (∀ others, ¬ Lists members others) ∧
          ∃ definition, Leaves members definition ∧ definitions = [definition]) ∧
      (∀ error, file.definitions = .error error ↔
        error = .notDefinitions file.name ∧ (∀ definitions, ¬ Lists members definitions) ∧
          ∀ definition, ¬ Leaves members definition) ∧
      ((∀ definitions, file.definitions = .ok definitions ↔ Lists members definitions) ↔
        (∃ definitions, Lists members definitions) ∨
          ∀ definition, ¬ Leaves members definition) := by
  refine ⟨fun definitions => definitions_eq_ok_iff decoded parsed,
    fun error => definitions_eq_error_iff decoded parsed, ?_⟩
  simp only [definitions_eq_ok_iff decoded parsed]
  constructor
  · intro listsOnly
    by_contra neither
    obtain ⟨unlisted, definition, leaves⟩ :
        (∀ definitions, ¬ Lists members definitions) ∧ ∃ definition, Leaves members definition := by
      simpa using neither
    exact unlisted _ ((listsOnly [definition]).mp (.inr ⟨unlisted, definition, leaves, rfl⟩))
  · rintro (⟨listed, lists⟩ | nothing) definitions
    · exact or_iff_left fun rest => rest.1 listed lists
    · exact or_iff_left fun rest => rest.2.elim fun definition leaves => nothing _ leaves.1

def malformedListing : StubFile :=
  ⟨"a.json", Text.toBytes "\x7b\"mappings\":[\x7b\"priority\":\"high\"\x7d]\x7d"⟩

def malformedMembers : List (String × Json) :=
  [("mappings", .array [.object [("priority", .string "high")]])]

private theorem decode_malformedListing :
    Text.ofBytes? malformedListing.content =
      some "\x7b\"mappings\":[\x7b\"priority\":\"high\"\x7d]\x7d" := by decide +kernel

private theorem parse_malformedListing :
    Json.parseWritten "\x7b\"mappings\":[\x7b\"priority\":\"high\"\x7d]\x7d" =
      some (.object malformedMembers) := by cbv

private theorem not_lists_malformedMembers (definitions : List HttpStubDefinition) :
    ¬ Lists malformedMembers definitions :=
  readMappings_eq_none_iff.mp rfl definitions

private theorem leaves_malformedMembers : Leaves malformedMembers {} := by
  have nothing : Assoc.erase "mappings" malformedMembers = [] := by
    simp [Assoc.erase, malformedMembers]
  rw [Leaves, nothing]
  rfl

/-- Nothing is left beside the list, which reads as the stub that answers every request. -/
theorem malformedListing_holds_one :
    Text.ofBytes? malformedListing.content =
        some "\x7b\"mappings\":[\x7b\"priority\":\"high\"\x7d]\x7d" ∧
      Json.parseWritten "\x7b\"mappings\":[\x7b\"priority\":\"high\"\x7d]\x7d" =
        some (.object malformedMembers) ∧
      malformedListing.definitions = .ok [{}] := by
  refine ⟨decode_malformedListing, parse_malformedListing, ?_⟩
  obtain ⟨holds, -, -⟩ :=
    holds_list_or_rest malformedListing decode_malformedListing parse_malformedListing
  exact (holds [{}]).mpr (.inr ⟨not_lists_malformedMembers, {}, leaves_malformedMembers, rfl⟩)

/-- A malformed list of definitions is not always refused. -/
theorem malformed_list_not_refused :
    ¬ ∀ (file : StubFile) (text : String) (members : List (String × Json)),
      Text.ofBytes? file.content = some text →
      Json.parseWritten text = some (.object members) → "mappings" ∈ Assoc.keys members →
      ∀ definitions, file.definitions = .ok definitions ↔ Lists members definitions := by
  intro listsOnly
  have accepted : malformedListing.definitions = .ok [{}] :=
    (definitions_eq_ok_iff decode_malformedListing parse_malformedListing).mpr
      (.inr ⟨not_lists_malformedMembers, {}, leaves_malformedMembers, rfl⟩)
  exact not_lists_malformedMembers [{}]
    ((listsOnly malformedListing _ malformedMembers decode_malformedListing parse_malformedListing
      (by decide) [{}]).mp accepted)

end StubFile

end ServiceStub
