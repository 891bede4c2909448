import ServiceStub.Pattern.Multipart
import ServiceStub.Proofs.Pattern.Building

/-!
Patterns over several values and over the parts of a request are declared by their definitions:
these are read back from the documents they are written as, and build the patterns again.
-/

namespace ServiceStub

open PatternDefinition (within_eq_ok)

/-- What is built from a declaration: how the declaration is read, written and compiled, how the
built value is declared, and the documents that values are compared with. -/
class Declaration (α : Type) (δ : outParam Type) where
  read : Json → Option δ
  write : δ → Json
  compile : δ → Except PatternError α
  define : α → δ
  jsonOperands : α → List Json

namespace Declaration

variable {α δ : Type} [Declaration α δ]

def Plain (value : α) : Prop := ∀ operand ∈ jsonOperands value, operand.isPlain

/-- A value is declared by its definition, which is read back and builds the value again. -/
structure Declared (value : α) : Prop where
  read_write : read α (write α (define value)) = some (define value)
  compile_define : compile (define value) = .ok value

def Sound (α : Type) {δ : Type} [Declaration α δ] : Prop :=
  ∀ document definition (value : α), read α document = some definition →
    compile definition = .ok value → Plain value → Declared value

structure TableDeclared (table : List (String × α)) : Prop where
  ascending : Assoc.Ascending table
  each : ∀ entry ∈ table, Declared entry.2

variable {record : Record} {name field : String} {values : List α} {definitions : List δ}
  {table : List (String × α)}

theorem Sound.each (sound : Sound α)
    (given : ∀ definition ∈ definitions, ∃ document, read α document = some definition)
    (built : ∀ value ∈ values, ∃ definition ∈ definitions, compile definition = .ok value)
    (plain : ∀ value ∈ values, Plain value) : ∀ value ∈ values, Declared value := by
  intro value member
  obtain ⟨definition, listed, compiled⟩ := built value member
  obtain ⟨document, back⟩ := given definition listed
  exact sound document definition value back compiled (plain value member)

theorem list_read (each : ∀ value ∈ values, Declared value)
    (found : record.get? name = Json.listOption (write α) (values.map define)) :
    record.withDefault name [] (Json.listOf? (read α)) = some (values.map define) := by
  refine Record.list_eq found fun definition member => ?_
  obtain ⟨value, listed, rfl⟩ := List.mem_map.mp member
  exact (each value listed).read_write

theorem TableDeclared.read (declared : TableDeclared table)
    (found : record.get? name = Json.tableOption (write α) (Assoc.mapValues define table)) :
    record.withDefault name [] (Json.tableOf? (Declaration.read α)) =
      some (Assoc.mapValues define table) := by
  refine Record.table_eq found (declared.ascending.mapValues define) fun entry member => ?_
  obtain ⟨source, listed, rfl⟩ := List.mem_map.mp member
  exact (declared.each source listed).read_write

open MultipartDefinition (compileTable)

theorem TableDeclared.compileTable (declared : TableDeclared table) :
    compileTable field compile (Assoc.mapValues define table) = .ok table := by
  rw [MultipartDefinition.compileTable, mapM_eq_ok_iff, Assoc.mapValues,
    List.forall₂_map_left_iff, List.forall₂_same]
  intro entry member
  dsimp only
  rw [(declared.each entry member).compile_define]
  rfl

theorem exists_of_compileTable {definitions : List (String × δ)}
    (compiled : compileTable field compile definitions = .ok table) :
    Assoc.keys table = Assoc.keys definitions ∧
      ∀ entry ∈ table, ∃ definition ∈ definitions, compile definition.2 = .ok entry.2 := by
  rw [compileTable, mapM_eq_ok_iff] at compiled
  induction compiled with
  | nil => exact ⟨rfl, nofun⟩
  | @cons definition entry definitions table given _ induction =>
      obtain ⟨keys, each⟩ := induction
      obtain ⟨value, inner, same⟩ := bind_eq_ok.mp given
      cases same
      refine ⟨congrArg (definition.1 :: ·) keys, List.forall_mem_cons.mpr ⟨?_, ?_⟩⟩
      · exact ⟨definition, List.mem_cons_self, within_eq_ok.mp (within_eq_ok.mp inner)⟩
      · intro entry member
        obtain ⟨source, listed, compiled⟩ := each entry member
        exact ⟨source, List.mem_cons_of_mem definition listed, compiled⟩

theorem Sound.tableDeclared (sound : Sound α) {definitions : List (String × δ)}
    (given : record.withDefault name [] (Json.tableOf? (read α)) = some definitions)
    (compiled : compileTable field compile definitions = .ok table)
    (plain : ∀ entry ∈ table, Plain entry.2) : TableDeclared table := by
  obtain ⟨ascending, documents⟩ := Record.ascending_of_table given
  obtain ⟨keys, each⟩ := exists_of_compileTable compiled
  constructor
  · rw [Assoc.Ascending, ← List.pairwise_map] at ascending ⊢
    rwa [← Assoc.keys, keys]
  · intro entry member
    obtain ⟨definition, listed, compiled⟩ := each entry member
    obtain ⟨document, back⟩ := documents definition listed
    exact sound document definition.2 entry.2 back compiled (plain entry member)

end Declaration

open Declaration

instance : Declaration Pattern PatternDefinition where
  read := PatternDefinition.ofJson
  write := PatternDefinition.toJson
  compile := PatternDefinition.compile
  define := Pattern.definition
  jsonOperands := Pattern.jsonOperands

theorem Pattern.Built.declared {pattern : Pattern} (built : pattern.Built) : Declared pattern :=
  ⟨built.ofJson_toJson, built.compile_definition⟩

theorem Pattern.sound : Sound Pattern := fun _ _ pattern given compiled plain =>
  (PatternDefinition.sound_of_ofJson given pattern compiled plain).declared

def MultiValuePattern.jsonOperands : MultiValuePattern → List Json
  | .single pattern => pattern.jsonOperands
  | .hasExactly patterns => patterns.flatMap Pattern.jsonOperands
  | .includes patterns => patterns.flatMap Pattern.jsonOperands

instance : Declaration MultiValuePattern MultiValueDefinition where
  read := MultiValueDefinition.ofJson
  write := MultiValueDefinition.toJson
  compile := MultiValueDefinition.compile
  define := MultiValuePattern.definition
  jsonOperands := MultiValuePattern.jsonOperands

namespace MultiValueDefinition

private theorem readList_record {fields : List (String × Option Json)} {name : String}
    (distinct : (Assoc.keys (Json.present fields)).Nodup) :
    readList name (Json.record fields) =
      (Assoc.find? name (Json.present fields)).bind (Json.listOf? PatternDefinition.ofJson) := by
  obtain ⟨record, given, found⟩ := Record.ofJson_record [name] distinct
  have members : Record.ofMembers [name] (Json.record fields) = some record := given
  rw [readList, members, Option.bind_eq_bind, Option.bind_some, Record.required,
    found name List.mem_cons_self]

private theorem readList_pattern {pattern : Pattern} {name : String} (built : pattern.Built)
    (undeclared : name ∉ PatternDefinition.fieldNames) :
    readList name pattern.toJson = none := by
  have missing : Assoc.find? name (Json.present pattern.definition.members) = none :=
    Assoc.find?_eq_none_iff.mpr (Pattern.not_mem_keys_of_undeclared undeclared)
  rw [Pattern.toJson, PatternDefinition.toJson, readList_record built.keys_nodup, missing,
    Option.bind_none]

private theorem exists_of_readList {document : Json} {name : String}
    {definitions : List PatternDefinition} (given : readList name document = some definitions) :
    ∀ definition ∈ definitions,
      ∃ document, PatternDefinition.ofJson document = some definition := by
  obtain ⟨record, -, required⟩ := Option.bind_eq_some_iff.mp given
  obtain ⟨value, -, back⟩ := Option.bind_eq_some_iff.mp required
  exact Json.exists_of_listOf? back

private theorem compileList_definitions {operator : String} {patterns : List Pattern}
    (filled : patterns ≠ []) (each : ∀ pattern ∈ patterns, Declared pattern) :
    compileList operator (patterns.map Pattern.definition) = .ok patterns := by
  have compiled := Pattern.compileEach_definitions operator 0
    fun pattern member => (each pattern member).compile_define
  cases patterns with
  | nil => exact absurd rfl filled
  | cons first rest => exact compiled

private theorem of_compileList {operator : String} {definitions : List PatternDefinition}
    {patterns : List Pattern} (compiled : compileList operator definitions = .ok patterns) :
    patterns ≠ [] ∧
      ∀ pattern ∈ patterns, ∃ definition ∈ definitions, definition.compile = .ok pattern := by
  cases definitions with
  | nil => cases compiled
  | cons first rest =>
      exact ⟨PatternDefinition.ne_nil_of_compileEach compiled,
        (PatternDefinition.exists_of_compileEach compiled).2⟩

private theorem listOf?_definitions {patterns : List Pattern}
    (each : ∀ pattern ∈ patterns, Declared pattern) :
    Json.listOf? PatternDefinition.ofJson
        (.array ((patterns.map Pattern.definition).map PatternDefinition.toJson)) =
      some (patterns.map Pattern.definition) := by
  refine Json.listOf?_map fun definition member => ?_
  obtain ⟨pattern, listed, rfl⟩ := List.mem_map.mp member
  exact (each pattern listed).read_write

private theorem keys_singleton_nodup (name : String) (value : Json) :
    (Assoc.keys (Json.present [(name, some value)])).Nodup :=
  List.nodup_singleton name

private theorem readList_own {patterns : List Pattern}
    (each : ∀ pattern ∈ patterns, Declared pattern) (name : String) :
    readList name (Json.record [(name, some (.array
      ((patterns.map Pattern.definition).map PatternDefinition.toJson)))]) =
      some (patterns.map Pattern.definition) := by
  rw [readList_record (keys_singleton_nodup name _)]
  simp only [Json.present, List.filterMap_cons, List.filterMap_nil, Option.map_some,
    Assoc.find?, if_true, Option.bind_some, listOf?_definitions each]

private theorem readList_other {name other : String} {value : Json} (different : name ≠ other) :
    readList name (Json.record [(other, some value)]) = none := by
  rw [readList_record (keys_singleton_nodup other value)]
  simp [Json.present, Assoc.find?, different]

end MultiValueDefinition

namespace MultiValuePattern

private theorem declared_single {pattern : Pattern} (built : pattern.Built) :
    Declared (single pattern) := by
  constructor
  · change MultiValueDefinition.ofJson pattern.toJson = _
    rw [MultiValueDefinition.ofJson, MultiValueDefinition.readList_pattern built (by decide),
      MultiValueDefinition.readList_pattern built (by decide), built.ofJson_toJson]
    rfl
  · change MultiValueDefinition.compile (.single pattern.definition) = _
    rw [MultiValueDefinition.compile, built.compile_definition]
    rfl

variable {patterns : List Pattern}

private theorem declared_hasExactly (filled : patterns ≠ [])
    (each : ∀ pattern ∈ patterns, Declared pattern) : Declared (hasExactly patterns) := by
  constructor
  · change MultiValueDefinition.ofJson (MultiValueDefinition.toJson (.hasExactly _)) = _
    rw [MultiValueDefinition.toJson, MultiValueDefinition.ofJson,
      MultiValueDefinition.readList_own each]
    rfl
  · change MultiValueDefinition.compile (.hasExactly (patterns.map Pattern.definition)) = _
    rw [MultiValueDefinition.compile, MultiValueDefinition.compileList_definitions filled each]
    rfl

theorem declared_includes (filled : patterns ≠ [])
    (each : ∀ pattern ∈ patterns, Declared pattern) : Declared (includes patterns) := by
  constructor
  · change MultiValueDefinition.ofJson (MultiValueDefinition.toJson (.includes _)) = _
    rw [MultiValueDefinition.toJson, MultiValueDefinition.ofJson,
      MultiValueDefinition.readList_other (by decide), MultiValueDefinition.readList_own each]
    rfl
  · change MultiValueDefinition.compile (.includes (patterns.map Pattern.definition)) = _
    rw [MultiValueDefinition.compile, MultiValueDefinition.compileList_definitions filled each]
    rfl

theorem sound : Sound MultiValuePattern := by
  intro document definition pattern given compiled plain
  have listed {definitions : List PatternDefinition} {patterns : List Pattern} {name : String}
      (read : MultiValueDefinition.readList name document = some definitions)
      (built : ∀ pattern ∈ patterns, ∃ definition ∈ definitions,
        definition.compile = .ok pattern)
      (plain : ∀ operand ∈ patterns.flatMap Pattern.jsonOperands, operand.isPlain) :
      ∀ pattern ∈ patterns, Declared pattern := by
    refine Pattern.sound.each (MultiValueDefinition.exists_of_readList read) built ?_
    exact fun pattern member operand inner =>
      plain operand (List.mem_flatMap.mpr ⟨pattern, member, inner⟩)
  change MultiValueDefinition.ofJson document = some definition at given
  rw [MultiValueDefinition.ofJson] at given
  split at given
  · next definitions read =>
      cases given
      obtain ⟨patterns, compiledList, same⟩ := bind_eq_ok.mp compiled
      cases same
      obtain ⟨filled, built⟩ := MultiValueDefinition.of_compileList compiledList
      exact declared_hasExactly filled (listed read built plain)
  · split at given
    · next definitions read =>
        cases given
        obtain ⟨patterns, compiledList, same⟩ := bind_eq_ok.mp compiled
        cases same
        obtain ⟨filled, built⟩ := MultiValueDefinition.of_compileList compiledList
        exact declared_includes filled (listed read built plain)
    · obtain ⟨inner, back, rfl⟩ := Option.map_eq_some_iff.mp given
      obtain ⟨pattern, innerCompiled, same⟩ := bind_eq_ok.mp compiled
      cases same
      exact declared_single (PatternDefinition.sound_of_ofJson back pattern innerCompiled plain)

end MultiValuePattern

def MultipartPattern.jsonOperands (pattern : MultipartPattern) : List Json :=
  pattern.headers.flatMap (fun header => header.2.jsonOperands) ++
    pattern.bodies.flatMap Pattern.jsonOperands

instance : Declaration MultipartPattern MultipartDefinition where
  read := MultipartDefinition.ofJson
  write := MultipartDefinition.toJson
  compile := MultipartDefinition.compile
  define := MultipartPattern.definition
  jsonOperands := MultipartPattern.jsonOperands

theorem PartQuantifier.ofText?_name (quantifier : PartQuantifier) :
    ofText? quantifier.name = some quantifier := by
  cases quantifier <;> decide +kernel

theorem plain_of_table {α δ : Type} [Declaration α δ] {table : List (String × α)}
    (plain : ∀ operand ∈ table.flatMap fun entry => Declaration.jsonOperands entry.2,
      operand.isPlain) : ∀ entry ∈ table, Plain entry.2 :=
  fun entry member operand listed => plain operand (List.mem_flatMap.mpr ⟨entry, member, listed⟩)

theorem plain_of_list {α δ : Type} [Declaration α δ] {values : List α}
    (plain : ∀ operand ∈ values.flatMap Declaration.jsonOperands, operand.isPlain) :
    ∀ value ∈ values, Plain value :=
  fun value member operand listed => plain operand (List.mem_flatMap.mpr ⟨value, member, listed⟩)

namespace MultipartDefinition

def fieldNames : List String := ["name", "matchingType", "headers", "bodyPatterns"]

def members (definition : MultipartDefinition) : List (String × Option Json) :=
  [("name", definition.name.map .string),
    ("matchingType", definition.matchingType.map .string),
    ("headers", Json.tableOption MultiValueDefinition.toJson definition.headers),
    ("bodyPatterns", Json.listOption PatternDefinition.toJson definition.bodies)]

theorem keys_members (definition : MultipartDefinition) :
    definition.members.map Prod.fst = fieldNames := rfl

theorem nodup_members (definition : MultipartDefinition) :
    (definition.members.map Prod.fst).Nodup := by
  rw [keys_members]
  decide

end MultipartDefinition

namespace MultipartPattern

variable {pattern : MultipartPattern}

theorem ofJson_toJson (headers : TableDeclared pattern.headers)
    (bodies : ∀ body ∈ pattern.bodies, Declared body) :
    MultipartDefinition.ofJson pattern.toJson = some pattern.definition := by
  obtain ⟨record, given, found, -⟩ := Record.ofJson_record_of_distinct
    MultipartDefinition.fieldNames (MultipartDefinition.nodup_members pattern.definition)
  have name := Record.optional_text (found "name" (pattern.name.map .string)
    (by simp [MultipartDefinition.members, definition]) (by decide))
  have matchingType := Record.optional_text
    (found "matchingType" ((some pattern.quantifier.name).map .string)
      (by simp [MultipartDefinition.members, definition]) (by decide))
  have headersRead : record.withDefault "headers" [] (Json.tableOf? MultiValueDefinition.ofJson) =
      some pattern.definition.headers :=
    headers.read (found "headers" _ (by simp [MultipartDefinition.members, definition]; rfl)
      (by decide))
  have bodiesRead : record.withDefault "bodyPatterns" [] (Json.listOf? PatternDefinition.ofJson) =
      some pattern.definition.bodies :=
    list_read bodies (found "bodyPatterns" _
      (by simp [MultipartDefinition.members, definition]; rfl) (by decide))
  have shape : Record.ofJson ["name", "matchingType", "headers", "bodyPatterns"] pattern.toJson =
      some record := given
  rw [MultipartDefinition.ofJson, shape]
  simp only [Option.bind_eq_bind, Option.bind_some, name, matchingType, headersRead, bodiesRead]
  rfl

theorem compile_definition (headers : TableDeclared pattern.headers)
    (bodies : ∀ body ∈ pattern.bodies, Declared body) :
    pattern.definition.compile = .ok pattern := by
  have compiledHeaders : MultipartDefinition.compileTable "headers" MultiValueDefinition.compile
      pattern.definition.headers = .ok pattern.headers := headers.compileTable
  have compiledBodies : PatternDefinition.compileEach "bodyPatterns" 0 pattern.definition.bodies =
      .ok pattern.bodies :=
    Pattern.compileEach_definitions "bodyPatterns" 0
      fun body member => (bodies body member).compile_define
  have quantifier : pattern.definition.matchingType = some pattern.quantifier.name := rfl
  rw [MultipartDefinition.compile, quantifier]
  simp only [PartQuantifier.ofText?_name, compiledHeaders, compiledBodies]
  rfl

theorem parts_of_compile {definition : MultipartDefinition}
    (compiled : definition.compile = .ok pattern) :
    MultipartDefinition.compileTable "headers" MultiValueDefinition.compile definition.headers =
        .ok pattern.headers ∧
      PatternDefinition.compileEach "bodyPatterns" 0 definition.bodies = .ok pattern.bodies := by
  have parts {quantifier : Except PatternError PartQuantifier}
      (compiled : (do
        let quantifier ← quantifier
        let headers ← MultipartDefinition.compileTable "headers" MultiValueDefinition.compile
          definition.headers
        let bodies ← PatternDefinition.compileEach "bodyPatterns" 0 definition.bodies
        return ({ name := definition.name, quantifier, headers, bodies } : MultipartPattern)) =
          .ok pattern) :
      MultipartDefinition.compileTable "headers" MultiValueDefinition.compile
          definition.headers = .ok pattern.headers ∧
        PatternDefinition.compileEach "bodyPatterns" 0 definition.bodies = .ok pattern.bodies := by
    obtain ⟨_, -, compiled⟩ := bind_eq_ok.mp compiled
    obtain ⟨_, headers, compiled⟩ := bind_eq_ok.mp compiled
    obtain ⟨_, bodies, same⟩ := bind_eq_ok.mp compiled
    cases same
    exact ⟨headers, bodies⟩
  unfold MultipartDefinition.compile at compiled
  split at compiled
  · exact parts compiled
  · split at compiled
    · exact parts compiled
    · exact parts compiled

theorem sound : Sound MultipartPattern := by
  intro document definition pattern given compiled plain
  obtain ⟨record, -, fields⟩ := Option.bind_eq_some_iff.mp given
  simp only [Option.bind_eq_bind, Option.bind_eq_some_iff, pure, Option.some.injEq] at fields
  obtain ⟨name, -, matchingType, -, headers, headersRead, bodies, bodiesRead, rfl⟩ := fields
  obtain ⟨headersCompiled, bodiesCompiled⟩ := parts_of_compile compiled
  obtain ⟨plainHeaders, plainBodies⟩ := List.forall_mem_append.mp plain
  have headersDeclared : TableDeclared pattern.headers :=
    MultiValuePattern.sound.tableDeclared headersRead headersCompiled (plain_of_table plainHeaders)
  have bodiesDeclared : ∀ body ∈ pattern.bodies, Declared body :=
    Pattern.sound.each (Record.exists_of_list bodiesRead)
      (PatternDefinition.exists_of_compileEach bodiesCompiled).2 (plain_of_list plainBodies)
  exact ⟨ofJson_toJson headersDeclared bodiesDeclared,
    compile_definition headersDeclared bodiesDeclared⟩

end MultipartPattern

end ServiceStub
