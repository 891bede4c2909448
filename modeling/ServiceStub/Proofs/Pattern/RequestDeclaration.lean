import ServiceStub.Pattern.Request
import ServiceStub.Proofs.Pattern.FieldDeclaration
import ServiceStub.Proofs.Text.Casing

/-!
Patterns over requests are declared by their definitions.  A method and a scheme are declared in
the case they are kept in, and a URL in the one way that the kind of its pattern stands for.
-/

namespace ServiceStub

open Declaration
open PatternDefinition (within_eq_ok)

theorem PathTemplate.source_of_ofString {source : String} {template : PathTemplate}
    (compiled : PathTemplate.ofString source = .ok template) : template.source = source := by
  unfold PathTemplate.ofString at compiled
  dsimp only at compiled
  split at compiled
  · cases compiled
    rfl
  · cases compiled

namespace UrlPattern

private theorem ofDeclared_declared {urls : List (String × String)} {url : UrlPattern}
    (compiled : ofDeclared urls = .ok url) : ofDeclared url.declared = .ok url := by
  rcases urls with _ | ⟨⟨name, expected⟩, _ | ⟨second, rest⟩⟩
  · cases compiled
    rfl
  · simp only [ofDeclared] at compiled
    split at compiled
    · cases compiled
      rfl
    · cases compiled
      rfl
    · obtain ⟨template, given, same⟩ := bind_eq_ok.mp compiled
      cases same
      simp only [declared, operator, UrlPattern.expected, ofDeclared]
      rw [PathTemplate.source_of_ofString given, given]
      rfl
    · obtain ⟨regex, given, same⟩ := bind_eq_ok.mp compiled
      cases same
      simp only [declared, operator, UrlPattern.expected, ofDeclared]
      rw [WholeRegex.source_of_ofString given, given]
      rfl
    · obtain ⟨regex, given, same⟩ := bind_eq_ok.mp compiled
      cases same
      simp only [declared, operator, UrlPattern.expected, ofDeclared]
      rw [WholeRegex.source_of_ofString given, given]
      rfl
  · cases compiled

end UrlPattern

namespace RequestDefinition

def readUrl (record : Record) (name : String) : Option (List (String × String)) := do
  let expected ← record.optional name Json.asString?
  return expected.toList.map fun expected => (name, expected)

private theorem flatten_declared (url : UrlPattern) :
    (urlNames.map fun name => (url.declared.lookup name).toList.map fun expected =>
      (name, expected)).flatten = url.declared := by
  cases url <;> rfl

private theorem mapM_readUrl {record : Record} {url : UrlPattern}
    (found : ∀ name ∈ urlNames, record.get? name = (url.declared.lookup name).map .string) :
    urlNames.mapM (readUrl record) = some (urlNames.map fun name =>
      (url.declared.lookup name).toList.map fun expected => (name, expected)) := by
  have each : ∀ name ∈ urlNames, readUrl record name =
      some ((url.declared.lookup name).toList.map fun expected => (name, expected)) := by
    intro name known
    rw [readUrl, Record.optional_eq (found name known) fun _ _ => ⟨nofun, rfl⟩]
    rfl
  generalize urlNames = names at each
  induction names with
  | nil => rfl
  | cons name rest induction =>
      obtain ⟨first, others⟩ := List.forall_mem_cons.mp each
      simp [List.mapM_cons, first, induction others]

def fixedNames : List String :=
  ["method", "host", "port", "scheme", "headers", "queryParameters", "formParameters", "cookies",
    "pathParameters", "bodyPatterns", "multipartPatterns"]

def fixedMembers (definition : RequestDefinition) : List (String × Option Json) :=
  [("method", definition.method.map .string),
    ("host", definition.host.map PatternDefinition.toJson),
    ("port", definition.port.map .ofNat),
    ("scheme", definition.scheme.map .string),
    ("headers", Json.tableOption MultiValueDefinition.toJson definition.headers),
    ("queryParameters",
      Json.tableOption MultiValueDefinition.toJson definition.queryParameters),
    ("formParameters", Json.tableOption MultiValueDefinition.toJson definition.formParameters),
    ("cookies", Json.tableOption PatternDefinition.toJson definition.cookies),
    ("pathParameters", Json.tableOption PatternDefinition.toJson definition.pathParameters),
    ("bodyPatterns", Json.listOption PatternDefinition.toJson definition.bodies),
    ("multipartPatterns", Json.listOption MultipartDefinition.toJson definition.multiparts)]

def members (definition : RequestDefinition) : List (String × Option Json) :=
  definition.fixedMembers ++ definition.urls.map fun url => (url.1, some (.string url.2))

theorem keys_members (definition : RequestDefinition) :
    definition.members.map Prod.fst = fixedNames ++ definition.urls.map Prod.fst := by
  rw [members, List.map_append, List.map_map]
  rfl

private theorem compileMultiparts_definitions {multiparts : List MultipartPattern} (index : Nat)
    (each : ∀ multipart ∈ multiparts, Declared multipart) :
    compileMultiparts index (multiparts.map MultipartPattern.definition) = .ok multiparts := by
  induction multiparts generalizing index with
  | nil => rfl
  | cons multipart rest induction =>
      obtain ⟨first, others⟩ := List.forall_mem_cons.mp each
      have compiled : multipart.definition.compile = .ok multipart := first.compile_define
      rw [List.map_cons, compileMultiparts, compiled, induction (index + 1) others]
      rfl

private theorem exists_of_compileMultiparts {index : Nat} {definitions : List MultipartDefinition}
    {multiparts : List MultipartPattern}
    (compiled : compileMultiparts index definitions = .ok multiparts) :
    ∀ multipart ∈ multiparts, ∃ definition ∈ definitions, definition.compile = .ok multipart := by
  induction definitions generalizing index multiparts with
  | nil =>
      cases compiled
      exact nofun
  | cons definition rest induction =>
      obtain ⟨first, firstCompiled, compiled⟩ := bind_eq_ok.mp compiled
      obtain ⟨others, othersCompiled, same⟩ := bind_eq_ok.mp compiled
      cases same
      refine List.forall_mem_cons.mpr ⟨?_, fun multipart member => ?_⟩
      · exact ⟨definition, List.mem_cons_self, within_eq_ok.mp firstCompiled⟩
      · obtain ⟨source, listed, given⟩ := induction othersCompiled multipart member
        exact ⟨source, List.mem_cons_of_mem definition listed, given⟩

private theorem compileHost_definition {host : Option Pattern}
    (each : ∀ pattern ∈ host, Declared pattern) :
    compileHost (host.map Pattern.definition) = .ok host := by
  cases host with
  | none => rfl
  | some pattern =>
      have compiled : pattern.definition.compile = .ok pattern := (each pattern rfl).compile_define
      rw [Option.map_some, compileHost, compiled]
      rfl

private theorem exists_of_compileHost {definition : Option PatternDefinition}
    {host : Option Pattern} (compiled : compileHost definition = .ok host) :
    ∀ pattern ∈ host, ∃ inner ∈ definition, inner.compile = .ok pattern := by
  rintro pattern rfl
  cases definition with
  | none => cases compiled
  | some inner =>
      obtain ⟨value, given, same⟩ := bind_eq_ok.mp compiled
      cases same
      exact ⟨inner, rfl, within_eq_ok.mp given⟩

end RequestDefinition

/-- A pattern that a document may declare: all its parts are, and what it keeps in one case is in
that case. -/
structure RequestPattern.Built (pattern : RequestPattern) : Prop where
  method : ∀ method ∈ pattern.method, Text.upper method = method ∧ method ≠ "ANY"
  url : UrlPattern.ofDeclared pattern.url.declared = .ok pattern.url
  parameters :
    RequestDefinition.checkParameters pattern.url (Assoc.keys pattern.pathParameters) = .ok ()
  host : ∀ host ∈ pattern.host, Declared host
  port : ∀ port ∈ pattern.port, port ≤ 65535
  scheme : ∀ scheme ∈ pattern.scheme, Text.lower scheme = scheme
  headers : TableDeclared pattern.headers
  queryParameters : TableDeclared pattern.queryParameters
  formParameters : TableDeclared pattern.formParameters
  cookies : TableDeclared pattern.cookies
  pathParameters : TableDeclared pattern.pathParameters
  bodies : ∀ body ∈ pattern.bodies, Declared body
  multiparts : ∀ multipart ∈ pattern.multiparts, Declared multipart

namespace RequestPattern

variable {pattern : RequestPattern}

theorem nodup_members (pattern : RequestPattern) :
    (pattern.definition.members.map Prod.fst).Nodup := by
  rw [RequestDefinition.keys_members]
  change (RequestDefinition.fixedNames ++ pattern.url.declared.map Prod.fst).Nodup
  cases pattern.url <;>
    simp [UrlPattern.declared, UrlPattern.operator, RequestDefinition.fixedNames]

private theorem urlNames_fresh :
    ∀ name ∈ RequestDefinition.urlNames, name ∉ RequestDefinition.fixedNames := by
  decide

private theorem urlNames_subset : RequestDefinition.urlNames ⊆ RequestDefinition.fieldNames := by
  decide

private theorem get?_url {record : Record}
    (found : ∀ name value, (name, value) ∈ pattern.definition.members →
      name ∈ RequestDefinition.fieldNames → record.get? name = value)
    (missing : ∀ name ∈ RequestDefinition.fieldNames,
      name ∉ pattern.definition.members.map Prod.fst → record.get? name = none) :
    ∀ name ∈ RequestDefinition.urlNames,
      record.get? name = (pattern.url.declared.lookup name).map .string := by
  intro name known
  cases declared : pattern.url.declared.lookup name with
  | some expected =>
      obtain ⟨before, after, split, -⟩ := List.lookup_eq_some_iff.mp declared
      have listed : (name, expected) ∈ pattern.url.declared := by
        rw [split]
        exact List.mem_append_right before List.mem_cons_self
      exact found name _ (List.mem_append_right _
        (List.mem_map.mpr ⟨(name, expected), listed, rfl⟩)) (urlNames_subset known)
  | none =>
      refine missing name (urlNames_subset known) ?_
      rw [RequestDefinition.keys_members, List.mem_append, not_or]
      refine ⟨urlNames_fresh name known, fun listed => ?_⟩
      obtain ⟨entry, member, rfl⟩ := List.mem_map.mp listed
      simpa using List.lookup_eq_none_iff.mp declared entry member

theorem Built.ofJson_toJson (built : Built pattern) :
    RequestDefinition.ofJson pattern.toJson = some pattern.definition := by
  obtain ⟨record, given, found, missing⟩ := Record.ofJson_record_of_distinct
    RequestDefinition.fieldNames pattern.nodup_members
  have fixed (name : String) (value : Option Json)
      (member : (name, value) ∈ pattern.definition.fixedMembers)
      (known : name ∈ RequestDefinition.fieldNames) : record.get? name = value :=
    found name value (List.mem_append_left _ member) known
  have urls := RequestDefinition.mapM_readUrl (get?_url found missing)
  have method := Record.optional_text
    (fixed "method" ((some (pattern.method.getD "ANY")).map .string)
      (by simp [RequestDefinition.fixedMembers, definition]) (by decide))
  have scheme := Record.optional_text (fixed "scheme" (pattern.scheme.map .string)
    (by simp [RequestDefinition.fixedMembers, definition]) (by decide))
  have host : record.optional "host" PatternDefinition.ofJson = some pattern.definition.host := by
    refine Record.optional_eq (fixed "host" _ (by simp [RequestDefinition.fixedMembers]; rfl)
      (by decide)) fun definition given => ?_
    obtain ⟨inner, declared, rfl⟩ := Option.map_eq_some_iff.mp given
    exact ⟨nofun, (built.host inner declared).read_write⟩
  have port : record.optional "port" Json.asPort? = some pattern.port := by
    refine Record.optional_eq (fixed "port" _ (by simp [RequestDefinition.fixedMembers]; rfl)
      (by decide)) fun number given => ?_
    refine ⟨nofun, ?_⟩
    simp [Json.asPort?, Json.asNatUpTo?, Json.asNat?, Json.ofNat, built.port number given]
  have several (name : String) (table : List (String × MultiValuePattern))
      (declared : TableDeclared table)
      (member : (name, Json.tableOption MultiValueDefinition.toJson
        (Assoc.mapValues MultiValuePattern.definition table)) ∈ pattern.definition.fixedMembers)
      (known : name ∈ RequestDefinition.fieldNames) :
      record.withDefault name [] (Json.tableOf? MultiValueDefinition.ofJson) =
        some (Assoc.mapValues MultiValuePattern.definition table) :=
    declared.read (fixed name _ member known)
  have single (name : String) (table : List (String × Pattern)) (declared : TableDeclared table)
      (member : (name, Json.tableOption PatternDefinition.toJson
        (Assoc.mapValues Pattern.definition table)) ∈ pattern.definition.fixedMembers)
      (known : name ∈ RequestDefinition.fieldNames) :
      record.withDefault name [] (Json.tableOf? PatternDefinition.ofJson) =
        some (Assoc.mapValues Pattern.definition table) :=
    declared.read (fixed name _ member known)
  have headers := several "headers" _ built.headers
    (by simp [RequestDefinition.fixedMembers, definition]) (by decide)
  have queryParameters := several "queryParameters" _ built.queryParameters
    (by simp [RequestDefinition.fixedMembers, definition]) (by decide)
  have formParameters := several "formParameters" _ built.formParameters
    (by simp [RequestDefinition.fixedMembers, definition]) (by decide)
  have cookies := single "cookies" _ built.cookies
    (by simp [RequestDefinition.fixedMembers, definition]) (by decide)
  have pathParameters := single "pathParameters" _ built.pathParameters
    (by simp [RequestDefinition.fixedMembers, definition]) (by decide)
  have bodies : record.withDefault "bodyPatterns" [] (Json.listOf? PatternDefinition.ofJson) =
      some pattern.definition.bodies :=
    list_read built.bodies
      (fixed "bodyPatterns" _ (by simp [RequestDefinition.fixedMembers]; rfl) (by decide))
  have multiparts : record.withDefault "multipartPatterns" []
      (Json.listOf? MultipartDefinition.ofJson) = some pattern.definition.multiparts :=
    list_read built.multiparts
      (fixed "multipartPatterns" _ (by simp [RequestDefinition.fixedMembers]; rfl) (by decide))
  have shape : Record.ofJson RequestDefinition.fieldNames pattern.toJson = some record := given
  rw [RequestDefinition.ofJson, shape]
  change (RequestDefinition.urlNames.mapM (RequestDefinition.readUrl record)).bind _ = _
  rw [urls]
  simp only [Option.bind_eq_bind, Option.bind_some, method, host, port, scheme, headers,
    queryParameters, formParameters, cookies, pathParameters, bodies, multiparts,
    RequestDefinition.flatten_declared]
  rfl

private theorem withMethod_getD (pattern : RequestPattern) {method : Option String}
    (kept : ∀ name ∈ method, Text.upper name = name ∧ name ≠ "ANY") :
    pattern.withMethod (method.getD "ANY") = { pattern with method } := by
  cases method with
  | none =>
      have any : Text.upper "ANY" = "ANY" := by decide +kernel
      simp [withMethod, any]
  | some name =>
      obtain ⟨upper, different⟩ := kept name rfl
      simp [withMethod, upper, different]

theorem Built.compile_definition (built : Built pattern) :
    pattern.definition.compile = .ok pattern := by
  have url : UrlPattern.ofDeclared pattern.definition.urls = .ok pattern.url := built.url
  have pathParameters : MultipartDefinition.compileTable "pathParameters"
      PatternDefinition.compile pattern.definition.pathParameters = .ok pattern.pathParameters :=
    built.pathParameters.compileTable
  have host : RequestDefinition.compileHost pattern.definition.host = .ok pattern.host :=
    RequestDefinition.compileHost_definition built.host
  have bodies : PatternDefinition.compileEach "bodyPatterns" 0 pattern.definition.bodies =
      .ok pattern.bodies :=
    Pattern.compileEach_definitions "bodyPatterns" 0
      fun body member => (built.bodies body member).compile_define
  have multiparts : RequestDefinition.compileMultiparts 0 pattern.definition.multiparts =
      .ok pattern.multiparts :=
    RequestDefinition.compileMultiparts_definitions 0 built.multiparts
  have headers : MultipartDefinition.compileTable "headers" MultiValueDefinition.compile
      pattern.definition.headers = .ok pattern.headers := built.headers.compileTable
  have queryParameters : MultipartDefinition.compileTable "queryParameters"
      MultiValueDefinition.compile pattern.definition.queryParameters =
        .ok pattern.queryParameters := built.queryParameters.compileTable
  have formParameters : MultipartDefinition.compileTable "formParameters"
      MultiValueDefinition.compile pattern.definition.formParameters =
        .ok pattern.formParameters := built.formParameters.compileTable
  have cookies : MultipartDefinition.compileTable "cookies" PatternDefinition.compile
      pattern.definition.cookies = .ok pattern.cookies := built.cookies.compileTable
  rw [RequestDefinition.compile, url, ok_bind, pathParameters, ok_bind, built.parameters, ok_bind,
    host, ok_bind, bodies, ok_bind, multiparts, ok_bind]
  dsimp only
  rw [headers, ok_bind, queryParameters, ok_bind, formParameters, ok_bind, cookies, ok_bind]
  rw [show pattern.definition.method = some (pattern.method.getD "ANY") from rfl,
    show pattern.definition.scheme = pattern.scheme from rfl]
  dsimp only
  rw [withMethod_getD _ built.method]
  rcases pattern with ⟨_, _, _, _, scheme, _, _, _, _, _, _, _⟩
  cases scheme with
  | none => rfl
  | some name =>
      dsimp only
      rw [withScheme, built.scheme name rfl]
      rfl

def jsonOperands (pattern : RequestPattern) : List Json :=
  pattern.host.toList.flatMap Pattern.jsonOperands ++
    (pattern.headers.flatMap (fun entry => entry.2.jsonOperands) ++
    (pattern.queryParameters.flatMap (fun entry => entry.2.jsonOperands) ++
    (pattern.formParameters.flatMap (fun entry => entry.2.jsonOperands) ++
    (pattern.cookies.flatMap (fun entry => entry.2.jsonOperands) ++
    (pattern.pathParameters.flatMap (fun entry => entry.2.jsonOperands) ++
    (pattern.bodies.flatMap Pattern.jsonOperands ++
      pattern.multiparts.flatMap MultipartPattern.jsonOperands))))))

end RequestPattern

/-- What a definition and the pattern that it builds have in common. -/
structure RequestDefinition.Compiles (definition : RequestDefinition) (pattern : RequestPattern) :
    Prop where
  method : ∀ method ∈ pattern.method, Text.upper method = method ∧ method ≠ "ANY"
  scheme : ∀ scheme ∈ pattern.scheme, Text.lower scheme = scheme
  port : pattern.port = definition.port
  url : UrlPattern.ofDeclared definition.urls = .ok pattern.url
  parameters : checkParameters pattern.url (Assoc.keys pattern.pathParameters) = .ok ()
  host : compileHost definition.host = .ok pattern.host
  headers : MultipartDefinition.compileTable "headers" MultiValueDefinition.compile
    definition.headers = .ok pattern.headers
  queryParameters : MultipartDefinition.compileTable "queryParameters"
    MultiValueDefinition.compile definition.queryParameters = .ok pattern.queryParameters
  formParameters : MultipartDefinition.compileTable "formParameters"
    MultiValueDefinition.compile definition.formParameters = .ok pattern.formParameters
  cookies : MultipartDefinition.compileTable "cookies" PatternDefinition.compile
    definition.cookies = .ok pattern.cookies
  pathParameters : MultipartDefinition.compileTable "pathParameters" PatternDefinition.compile
    definition.pathParameters = .ok pattern.pathParameters
  bodies : PatternDefinition.compileEach "bodyPatterns" 0 definition.bodies = .ok pattern.bodies
  multiparts : compileMultiparts 0 definition.multiparts = .ok pattern.multiparts

namespace RequestPattern

private theorem withMethod_eq (pattern : RequestPattern) (method : String) :
    ∃ kept, (∀ name ∈ kept, Text.upper name = name ∧ name ≠ "ANY") ∧
      pattern.withMethod method = { pattern with method := kept } := by
  refine ⟨_, ?_, rfl⟩
  intro name given
  rw [Option.mem_ite_none_left] at given
  obtain ⟨different, same⟩ := given
  cases same
  exact ⟨Text.upper_upper method, by simpa using different⟩

theorem compiles_of_compile {definition : RequestDefinition}
    (compiled : definition.compile = .ok pattern) : definition.Compiles pattern := by
  obtain ⟨url, urlCompiled, compiled⟩ := bind_eq_ok.mp compiled
  obtain ⟨pathParameters, pathCompiled, compiled⟩ := bind_eq_ok.mp compiled
  obtain ⟨_, checked, compiled⟩ := bind_eq_ok.mp compiled
  obtain ⟨host, hostCompiled, compiled⟩ := bind_eq_ok.mp compiled
  obtain ⟨bodies, bodiesCompiled, compiled⟩ := bind_eq_ok.mp compiled
  obtain ⟨multiparts, multipartsCompiled, compiled⟩ := bind_eq_ok.mp compiled
  obtain ⟨headers, headersCompiled, compiled⟩ := bind_eq_ok.mp compiled
  obtain ⟨queryParameters, queryCompiled, compiled⟩ := bind_eq_ok.mp compiled
  obtain ⟨formParameters, formCompiled, compiled⟩ := bind_eq_ok.mp compiled
  obtain ⟨cookies, cookiesCompiled, compiled⟩ := bind_eq_ok.mp compiled
  have same := (Except.ok.inj compiled).symm
  -- What remains is the case of the method and of the scheme, where these are declared.
  have compiles {method scheme : Option String}
      (upper : ∀ name ∈ method, Text.upper name = name ∧ name ≠ "ANY")
      (lower : ∀ name ∈ scheme, Text.lower name = name)
      (same : pattern = ⟨method, url, host, definition.port, scheme, headers, queryParameters,
        formParameters, cookies, pathParameters, bodies, multiparts⟩) :
      definition.Compiles pattern := by
    subst same
    exact ⟨upper, lower, rfl, urlCompiled, checked, hostCompiled, headersCompiled, queryCompiled,
      formCompiled, cookiesCompiled, pathCompiled, bodiesCompiled, multipartsCompiled⟩
  have lowered (scheme : String) : ∀ name ∈ some (Text.lower scheme), Text.lower name = name := by
    rintro name ⟨⟩
    exact Text.lower_lower scheme
  have undeclared {property : String → Prop} : ∀ name ∈ (none : Option String), property name :=
    nofun
  split at same
  · split at same
    · exact compiles undeclared undeclared same
    · next method _ =>
        obtain ⟨kept, upper, given⟩ := withMethod_eq _ method
        exact compiles upper undeclared (same.trans given)
  · next scheme _ =>
      split at same
      · exact compiles undeclared (lowered scheme) same
      · next method _ =>
          obtain ⟨kept, upper, given⟩ := withMethod_eq _ method
          rw [given] at same
          exact compiles upper (lowered scheme) same

theorem built_of_ofJson {document : Json} {definition : RequestDefinition}
    (given : RequestDefinition.ofJson document = some definition)
    (compiled : definition.compile = .ok pattern)
    (plain : ∀ operand ∈ pattern.jsonOperands, operand.isPlain) : Built pattern := by
  obtain ⟨record, -, fields⟩ := Option.bind_eq_some_iff.mp given
  obtain ⟨urls, -, fields⟩ := Option.bind_eq_some_iff.mp fields
  obtain ⟨method, -, fields⟩ := Option.bind_eq_some_iff.mp fields
  obtain ⟨host, hostRead, fields⟩ := Option.bind_eq_some_iff.mp fields
  obtain ⟨port, portRead, fields⟩ := Option.bind_eq_some_iff.mp fields
  obtain ⟨scheme, -, fields⟩ := Option.bind_eq_some_iff.mp fields
  obtain ⟨headers, headersRead, fields⟩ := Option.bind_eq_some_iff.mp fields
  obtain ⟨queryParameters, queryRead, fields⟩ := Option.bind_eq_some_iff.mp fields
  obtain ⟨formParameters, formRead, fields⟩ := Option.bind_eq_some_iff.mp fields
  obtain ⟨cookies, cookiesRead, fields⟩ := Option.bind_eq_some_iff.mp fields
  obtain ⟨pathParameters, pathRead, fields⟩ := Option.bind_eq_some_iff.mp fields
  obtain ⟨bodies, bodiesRead, fields⟩ := Option.bind_eq_some_iff.mp fields
  obtain ⟨multiparts, multipartsRead, fields⟩ := Option.bind_eq_some_iff.mp fields
  cases fields
  have parts := compiles_of_compile compiled
  simp only [jsonOperands, List.forall_mem_append] at plain
  obtain ⟨plainHost, plainHeaders, plainQuery, plainForm, plainCookies, plainPath, plainBodies,
    plainMultiparts⟩ := plain
  exact {
    method := parts.method
    url := UrlPattern.ofDeclared_declared parts.url
    parameters := parts.parameters
    host := by
      intro pattern declared
      obtain ⟨inner, rfl, hostCompiled⟩ :=
        RequestDefinition.exists_of_compileHost parts.host pattern declared
      obtain ⟨document, -, back⟩ := Record.of_optional hostRead
      refine Pattern.sound document inner pattern back hostCompiled fun operand listed => ?_
      exact plainHost operand
        (List.mem_flatMap.mpr ⟨pattern, Option.mem_toList.mpr declared, listed⟩)
    port := by
      intro number declared
      rw [parts.port] at declared
      cases declared
      obtain ⟨document, -, back⟩ := Record.of_optional portRead
      exact of_decide_eq_true (Option.filter_eq_some_iff.mp back).2
    scheme := parts.scheme
    headers := MultiValuePattern.sound.tableDeclared headersRead parts.headers
      (plain_of_table plainHeaders)
    queryParameters := MultiValuePattern.sound.tableDeclared queryRead parts.queryParameters
      (plain_of_table plainQuery)
    formParameters := MultiValuePattern.sound.tableDeclared formRead parts.formParameters
      (plain_of_table plainForm)
    cookies := Pattern.sound.tableDeclared cookiesRead parts.cookies (plain_of_table plainCookies)
    pathParameters := Pattern.sound.tableDeclared pathRead parts.pathParameters
      (plain_of_table plainPath)
    bodies := Pattern.sound.each (Record.exists_of_list bodiesRead)
      (PatternDefinition.exists_of_compileEach parts.bodies).2 (plain_of_list plainBodies)
    multiparts := MultipartPattern.sound.each (Record.exists_of_list multipartsRead)
      (RequestDefinition.exists_of_compileMultiparts parts.multiparts)
      (plain_of_list plainMultiparts) }

end RequestPattern

end ServiceStub
