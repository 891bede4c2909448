import ServiceStub.Proofs.Pattern.Fault
import ServiceStub.Proofs.Pattern.RequestDeclaration
import ServiceStub.Stub.Http

/-!
Where the declaration of a request pattern is at fault.  An error tells the place in the
declaration, unless it is the URL that is at fault: then nothing but the fault is told.
-/

namespace ServiceStub

open PatternDefinition (OwnFaults ownFaults_ofFault ownFaults_ok ownFaults_regex)

private theorem PathTemplate.ownFaults (template : String) :
    OwnFaults (PathTemplate.ofString template) := by
  unfold PathTemplate.ofString
  dsimp only
  split
  · exact ownFaults_ok _
  · exact ownFaults_ofFault _

private theorem UrlPattern.ownFaults (urls : List (String × String)) :
    OwnFaults (UrlPattern.ofDeclared urls) := by
  unfold ofDeclared
  split
  · exact ownFaults_ok _
  · next expected =>
      split
      · exact ownFaults_ok _
      · exact ownFaults_ok _
      · exact (PathTemplate.ownFaults expected).bind fun _ => ownFaults_ok _
      · exact (ownFaults_regex expected).bind fun _ => ownFaults_ok _
      · exact (ownFaults_regex expected).bind fun _ => ownFaults_ok _
  · exact ownFaults_ofFault _

namespace RequestDefinition

open MultipartDefinition (compileTable compileTable_eq_error compiled_of_compileTable)
open PatternDefinition (compileEach compileEach_eq_error compiled_of_compileEach place
  within_eq_error)

variable {definition : RequestDefinition} {error : PatternError}

def severalTables (definition : RequestDefinition) :
    List (String × List (String × MultiValueDefinition)) :=
  [("headers", definition.headers), ("queryParameters", definition.queryParameters),
    ("formParameters", definition.formParameters)]

def singleTables (definition : RequestDefinition) :
    List (String × List (String × PatternDefinition)) :=
  [("cookies", definition.cookies), ("pathParameters", definition.pathParameters)]

/-- The path leads to a part that is rejected when it is built alone, or to path parameters for
which the URL has no place. -/
inductive FaultAt (definition : RequestDefinition) : List String → PatternFault → Prop
  | url {name expected : String} {fault : PatternFault}
      (declared : definition.urls = [(name, expected)])
      (rejected : UrlPattern.ofDeclared [(name, expected)] = .error (.ofFault fault)) :
      FaultAt definition [name] fault
  | host {host : PatternDefinition} {path : List String} {fault : PatternFault}
      (declared : definition.host = some host) (inner : host.FaultAt path fault) :
      FaultAt definition ("host" :: path) fault
  | several {group name : String} {table : List (String × MultiValueDefinition)}
      {values : MultiValueDefinition} {path : List String} {fault : PatternFault}
      (listed : (group, table) ∈ definition.severalTables) (declared : (name, values) ∈ table)
      (inner : values.FaultAt path fault) : FaultAt definition (group :: name :: path) fault
  | single {group name : String} {table : List (String × PatternDefinition)}
      {value : PatternDefinition} {path : List String} {fault : PatternFault}
      (listed : (group, table) ∈ definition.singleTables) (declared : (name, value) ∈ table)
      (inner : value.FaultAt path fault) : FaultAt definition (group :: name :: path) fault
  | body {index : Nat} {body : PatternDefinition} {path : List String} {fault : PatternFault}
      (declared : definition.bodies[index]? = some body) (inner : body.FaultAt path fault) :
      FaultAt definition (place "bodyPatterns" index :: path) fault
  | multipart {index : Nat} {multipart : MultipartDefinition} {path : List String}
      {fault : PatternFault} (declared : definition.multiparts[index]? = some multipart)
      (inner : multipart.FaultAt path fault) :
      FaultAt definition (place "multipartPatterns" index :: path) fault
  | untemplated {url : UrlPattern} (declared : definition.pathParameters ≠ [])
      (compiled : UrlPattern.ofDeclared definition.urls = .ok url)
      (other : ∀ template, url ≠ .template template) :
      FaultAt definition ["pathParameters"] .parametersWithoutTemplate
  | unknownParameter {template : PathTemplate} {name : String}
      (declared : name ∈ Assoc.keys definition.pathParameters)
      (compiled : UrlPattern.ofDeclared definition.urls = .ok (.template template))
      (unknown : name ∉ template.parameterNames) :
      FaultAt definition ["pathParameters", name] (.unknownParameter name template.source)

private theorem compileHost_eq_error {host : Option PatternDefinition}
    (rejected : compileHost host = .error error) :
    ∃ declared inner, host = some declared ∧ declared.compile = .error inner ∧
      error = inner.within "host" := by
  cases host with
  | none => cases rejected
  | some declared =>
      rcases bind_eq_error.mp rejected with rejected | ⟨pattern, -, rejected⟩
      · obtain ⟨inner, alone, same⟩ := within_eq_error.mp rejected
        exact ⟨declared, inner, rfl, alone, same⟩
      · cases rejected

private theorem compileMultiparts_eq_error {index : Nat} {multiparts : List MultipartDefinition}
    (rejected : compileMultiparts index multiparts = .error error) :
    ∃ (offset : Nat) (multipart : MultipartDefinition) (inner : PatternError),
      multiparts[offset]? = some multipart ∧ multipart.compile = .error inner ∧
        error = inner.within (place "multipartPatterns" (index + offset)) := by
  induction multiparts generalizing index with
  | nil => cases rejected
  | cons multipart rest induction =>
      rcases bind_eq_error.mp rejected with first | ⟨pattern, -, rejected⟩
      · obtain ⟨inner, alone, same⟩ := within_eq_error.mp first
        exact ⟨0, multipart, inner, rfl, alone, same⟩
      · rcases bind_eq_error.mp rejected with later | ⟨others, -, rejected⟩
        · obtain ⟨offset, found, inner, listed, alone, same⟩ := induction later
          refine ⟨offset + 1, found, inner, listed, alone, ?_⟩
          rw [same, Nat.add_right_comm, Nat.add_assoc]
        · cases rejected

private theorem checkParameters_eq_error {url : UrlPattern} {names : List String}
    (rejected : checkParameters url names = .error error) :
    (names ≠ [] ∧ (∀ template, url ≠ .template template) ∧
        error = ⟨["pathParameters"], .parametersWithoutTemplate⟩) ∨
      ∃ template name, url = .template template ∧ name ∈ names ∧
        name ∉ template.parameterNames ∧
          error = ⟨["pathParameters", name], .unknownParameter name template.source⟩ := by
  unfold checkParameters at rejected
  split at rejected
  · cases rejected
  · next filled =>
      split at rejected
      · next template =>
          split at rejected
          · cases rejected
          · next name found =>
              cases rejected
              refine .inr ⟨template, name, rfl, List.mem_of_find?_eq_some found, ?_, rfl⟩
              simpa using List.find?_some found
      · next other =>
          cases rejected
          exact .inl ⟨filled, other, rfl⟩

private theorem parameters_of_checkParameters {url : UrlPattern} {names : List String}
    (checked : checkParameters url names = .ok ()) (filled : names ≠ []) :
    ∃ template, url = .template template ∧ ∀ name ∈ names, name ∈ template.parameterNames := by
  unfold checkParameters at checked
  split at checked
  · exact absurd rfl filled
  · split at checked
    · next template =>
        split at checked
        · next known =>
            refine ⟨template, rfl, fun name listed => ?_⟩
            simpa using List.find?_eq_none.mp known name listed
        · cases checked
    · cases checked

private theorem compiled_of_compileMultiparts {index : Nat} {definitions : List MultipartDefinition}
    {multiparts : List MultipartPattern}
    (compiled : compileMultiparts index definitions = .ok multiparts) :
    ∀ definition ∈ definitions, ∃ multipart, definition.compile = .ok multipart := by
  induction definitions generalizing index multiparts with
  | nil => exact nofun
  | cons definition rest induction =>
      obtain ⟨first, firstCompiled, compiled⟩ := bind_eq_ok.mp compiled
      obtain ⟨others, othersCompiled, -⟩ := bind_eq_ok.mp compiled
      exact List.forall_mem_cons.mpr
        ⟨⟨first, PatternDefinition.within_eq_ok.mp firstCompiled⟩, induction othersCompiled⟩

private theorem keys_of_pathParameters {definitions : List (String × PatternDefinition)}
    {table : List (String × Pattern)}
    (compiled : compileTable "pathParameters" PatternDefinition.compile definitions = .ok table) :
    Assoc.keys table = Assoc.keys definitions :=
  (Declaration.exists_of_compileTable compiled).1

private theorem faultAt_of_severalTable {group : String}
    {table : List (String × MultiValueDefinition)}
    (listed : (group, table) ∈ definition.severalTables)
    (rejected : compileTable group MultiValueDefinition.compile table = .error error) :
    definition.FaultAt error.path error.fault ∧ error.path ≠ [] := by
  obtain ⟨name, values, inner, declared, alone, rfl⟩ := compileTable_eq_error rejected
  exact ⟨.several listed declared (MultiValueDefinition.faultAt_of_compile alone), nofun⟩

private theorem faultAt_of_singleTable {group : String} {table : List (String × PatternDefinition)}
    (listed : (group, table) ∈ definition.singleTables)
    (rejected : compileTable group PatternDefinition.compile table = .error error) :
    definition.FaultAt error.path error.fault ∧ error.path ≠ [] := by
  obtain ⟨name, value, inner, declared, alone, rfl⟩ := compileTable_eq_error rejected
  exact ⟨.single listed declared (PatternDefinition.faultAt_of_compile alone), nofun⟩

/-- What is rejected is the URL, or a part that the path of the error leads to. -/
theorem compile_eq_error (rejected : definition.compile = .error error) :
    UrlPattern.ofDeclared definition.urls = .error error ∨
      (∃ url, UrlPattern.ofDeclared definition.urls = .ok url) ∧
        definition.FaultAt error.path error.fault ∧ error.path ≠ [] := by
  rcases bind_eq_error.mp rejected with rejected | ⟨url, compiled, rejected⟩
  · exact .inl rejected
  refine .inr ⟨⟨url, compiled⟩, ?_⟩
  rcases bind_eq_error.mp rejected with rejected | ⟨pathParameters, pathCompiled, rejected⟩
  · exact faultAt_of_singleTable (by simp [singleTables]) rejected
  rcases bind_eq_error.mp rejected with rejected | ⟨_, -, rejected⟩
  · rw [keys_of_pathParameters pathCompiled] at rejected
    rcases checkParameters_eq_error rejected with ⟨declared, other, rfl⟩ |
      ⟨template, name, rfl, declared, unknown, rfl⟩
    · have filled : definition.pathParameters ≠ [] := by simpa [Assoc.keys] using declared
      exact ⟨.untemplated filled compiled other, List.cons_ne_nil _ _⟩
    · exact ⟨.unknownParameter declared compiled unknown, List.cons_ne_nil _ _⟩
  rcases bind_eq_error.mp rejected with rejected | ⟨_, -, rejected⟩
  · obtain ⟨host, inner, declared, alone, rfl⟩ := compileHost_eq_error rejected
    exact ⟨.host declared (PatternDefinition.faultAt_of_compile alone), List.cons_ne_nil _ _⟩
  rcases bind_eq_error.mp rejected with rejected | ⟨_, -, rejected⟩
  · obtain ⟨index, body, inner, declared, alone, rfl⟩ := compileEach_eq_error rejected
    rw [Nat.zero_add]
    exact ⟨.body declared (PatternDefinition.faultAt_of_compile alone), List.cons_ne_nil _ _⟩
  rcases bind_eq_error.mp rejected with rejected | ⟨_, -, rejected⟩
  · obtain ⟨index, multipart, inner, declared, alone, rfl⟩ := compileMultiparts_eq_error rejected
    rw [Nat.zero_add]
    exact ⟨.multipart declared (MultipartDefinition.faultAt_of_compile alone), List.cons_ne_nil _ _⟩
  rcases bind_eq_error.mp rejected with rejected | ⟨_, -, rejected⟩
  · exact faultAt_of_severalTable (by simp [severalTables]) rejected
  rcases bind_eq_error.mp rejected with rejected | ⟨_, -, rejected⟩
  · exact faultAt_of_severalTable (by simp [severalTables]) rejected
  rcases bind_eq_error.mp rejected with rejected | ⟨_, -, rejected⟩
  · exact faultAt_of_severalTable (by simp [severalTables]) rejected
  rcases bind_eq_error.mp rejected with rejected | ⟨_, -, rejected⟩
  · exact faultAt_of_singleTable (by simp [singleTables]) rejected
  · cases rejected

theorem FaultAt.not_compiled {path : List String} {fault : PatternFault}
    (faulty : definition.FaultAt path fault) (pattern : RequestPattern) :
    definition.compile ≠ .ok pattern := by
  intro compiled
  have parts := RequestPattern.compiles_of_compile compiled
  have keys := keys_of_pathParameters parts.pathParameters
  cases faulty with
  | url declared rejected =>
      have url := parts.url
      rw [declared, rejected] at url
      cases url
  | @host host path fault declared inner =>
      have compiledHost := parts.host
      rw [declared] at compiledHost
      obtain ⟨value, alone, -⟩ := bind_eq_ok.mp compiledHost
      exact inner.not_compiled value (PatternDefinition.within_eq_ok.mp alone)
  | several listed declared inner =>
      simp only [severalTables, List.mem_cons, Prod.mk.injEq, List.not_mem_nil, or_false] at listed
      rcases listed with ⟨rfl, rfl⟩ | ⟨rfl, rfl⟩ | ⟨rfl, rfl⟩
      · obtain ⟨value, alone⟩ := compiled_of_compileTable parts.headers _ declared
        exact inner.not_compiled value alone
      · obtain ⟨value, alone⟩ := compiled_of_compileTable parts.queryParameters _ declared
        exact inner.not_compiled value alone
      · obtain ⟨value, alone⟩ := compiled_of_compileTable parts.formParameters _ declared
        exact inner.not_compiled value alone
  | single listed declared inner =>
      simp only [singleTables, List.mem_cons, Prod.mk.injEq, List.not_mem_nil, or_false] at listed
      rcases listed with ⟨rfl, rfl⟩ | ⟨rfl, rfl⟩
      · obtain ⟨value, alone⟩ := compiled_of_compileTable parts.cookies _ declared
        exact inner.not_compiled value alone
      · obtain ⟨value, alone⟩ := compiled_of_compileTable parts.pathParameters _ declared
        exact inner.not_compiled value alone
  | body declared inner =>
      obtain ⟨value, alone⟩ :=
        compiled_of_compileEach parts.bodies _ (List.mem_of_getElem? declared)
      exact inner.not_compiled value alone
  | multipart declared inner =>
      obtain ⟨value, alone⟩ :=
        compiled_of_compileMultiparts parts.multiparts _ (List.mem_of_getElem? declared)
      exact inner.not_compiled value alone
  | untemplated declared given other =>
      have checked := parts.parameters
      rw [keys] at checked
      obtain ⟨template, same, -⟩ := parameters_of_checkParameters checked (by simpa [Assoc.keys])
      exact other template ((Except.ok.inj (given.symm.trans parts.url)).trans same)
  | unknownParameter declared given unknown =>
      have checked := parts.parameters
      rw [keys] at checked
      obtain ⟨template, same, known⟩ :=
        parameters_of_checkParameters checked (List.ne_nil_of_mem declared)
      have sameUrl := (Except.ok.inj (given.symm.trans parts.url)).trans same
      cases sameUrl
      exact unknown (known _ declared)

private theorem faultAt_of_ofDeclared
    (rejected : UrlPattern.ofDeclared definition.urls = .error error) :
    (∃ name expected, definition.urls = [(name, expected)] ∧
        definition.FaultAt [name] error.fault) ∨
      1 < definition.urls.length ∧ ∃ names, error.fault = .severalUrls names := by
  match urls : definition.urls with
  | [] =>
      rw [urls] at rejected
      cases rejected
  | [(name, expected)] =>
      have own : error = .ofFault error.fault :=
        congrArg (PatternError.mk · error.fault) (UrlPattern.ownFaults _ error rejected)
      rw [urls, own] at rejected
      exact .inl ⟨name, expected, rfl, .url urls rejected⟩
  | _ :: _ :: _ =>
      rw [urls] at rejected
      cases rejected
      exact .inr ⟨by simp, _, rfl⟩

/-- A declaration is rejected if it has several URLs or a part at fault. -/
theorem rejected_iff (definition : RequestDefinition) :
    (∃ error, definition.compile = .error error) ↔
      1 < definition.urls.length ∨ ∃ path fault, definition.FaultAt path fault := by
  constructor
  · rintro ⟨error, rejected⟩
    rcases compile_eq_error rejected with rejectedUrl | ⟨-, faulty, -⟩
    · rcases faultAt_of_ofDeclared rejectedUrl with ⟨name, expected, -, faulty⟩ | ⟨several, -⟩
      · exact .inr ⟨[name], error.fault, faulty⟩
      · exact .inl several
    · exact .inr ⟨error.path, error.fault, faulty⟩
  · intro invalid
    cases compiled : definition.compile with
    | error error => exact ⟨error, rfl⟩
    | ok pattern =>
        rcases invalid with several | ⟨path, fault, faulty⟩
        · have url := (RequestPattern.compiles_of_compile compiled).url
          match urls : definition.urls with
          | [] => simp [urls] at several
          | [_] => simp [urls] at several
          | _ :: _ :: _ =>
              rw [urls] at url
              cases url
        · exact absurd compiled (faulty.not_compiled pattern)

end RequestDefinition

private theorem PatternError.field?_eq_some {error : PatternError} (located : error.path ≠ []) :
    error.field? = some (String.intercalate "." error.path) := by
  rw [field?, List.isEmpty_eq_false_iff.mpr located]
  rfl

private theorem HttpStubDefinition.compile_eq_error {stub : HttpStubDefinition}
    {error : PatternError} (rejected : stub.request.compile = .error error)
    (single : ∀ names, error.fault ≠ .severalUrls names) (fresh : Uuid) :
    stub.compile fresh = .error (.invalidPattern (error.within "request")) := by
  have invalid : StateError.ofPattern (error.within "request") =
      .invalidPattern (error.within "request") := by
    unfold StateError.ofPattern
    split
    · next names several => exact absurd several (single names)
    · rfl
  rw [compile, rejected, StateError.ofPatternResult, invalid]
  rfl

namespace RequestDefinition

/-- An error tells the place of a part that is rejected when it is built alone, and a stub tells the
same place within its request.  But if it is the URL that is rejected, no place is told. -/
theorem error_tells_place {definition : RequestDefinition} {error : PatternError}
    (rejected : definition.compile = .error error)
    (single : ∀ names, error.fault ≠ .severalUrls names) :
    ((∃ url, UrlPattern.ofDeclared definition.urls = .ok url) →
        definition.FaultAt error.path error.fault ∧
          error.field? = some (String.intercalate "." error.path)) ∧
      (∀ urlError, UrlPattern.ofDeclared definition.urls = .error urlError →
        error = urlError ∧ error.field? = none ∧
          ∃ name expected, definition.urls = [(name, expected)] ∧
            definition.FaultAt [name] error.fault) ∧
      ∀ (stub : HttpStubDefinition) (fresh : Uuid), stub.request = definition →
        stub.compile fresh = .error (.invalidPattern (error.within "request")) ∧
          (error.within "request").field? =
            some (String.intercalate "." ("request" :: error.path)) := by
  refine ⟨fun ⟨url, compiled⟩ => ?_, fun urlError rejectedUrl => ?_, ?_⟩
  · rcases compile_eq_error rejected with rejectedUrl | ⟨-, faulty, located⟩
    · rw [compiled] at rejectedUrl
      cases rejectedUrl
    · exact ⟨faulty, PatternError.field?_eq_some located⟩
  · have same : error = urlError := by
      rcases compile_eq_error rejected with rejectedUrl' | ⟨⟨url, compiled⟩, -⟩
      · exact Except.error.inj (rejectedUrl'.symm.trans rejectedUrl)
      · rw [compiled] at rejectedUrl
        cases rejectedUrl
    subst same
    refine ⟨rfl, ?_, ?_⟩
    · rw [PatternError.field?, UrlPattern.ownFaults _ error rejectedUrl]
      rfl
    · rcases faultAt_of_ofDeclared rejectedUrl with faulty | ⟨-, names, several⟩
      · exact faulty
      · exact absurd several (single names)
  · rintro stub fresh rfl
    exact ⟨HttpStubDefinition.compile_eq_error rejected single fresh, rfl⟩

def nestedFault : RequestDefinition where
  urls := [("url", "/")]
  headers :=
    [("X-Id", .hasExactly
      [.mk [.equalTo "1"] {}, .mk [.not (.mk [.and []] {})] {}])]

theorem error_tells_place_nested :
    nestedFault.compile =
        .error ⟨["headers", "X-Id", "hasExactly[1]", "not"], .emptyList "and"⟩ ∧
      nestedFault.FaultAt ["headers", "X-Id", "hasExactly[1]", "not"] (.emptyList "and") ∧
      HttpStubDefinition.compile ⟨0⟩ { request := nestedFault } =
        .error (.invalidPattern
          ⟨["request", "headers", "X-Id", "hasExactly[1]", "not"], .emptyList "and"⟩) := by
  have rejected : nestedFault.compile =
      .error ⟨["headers", "X-Id", "hasExactly[1]", "not"], .emptyList "and"⟩ := by rfl
  obtain ⟨located, -, stubs⟩ := error_tells_place rejected nofun
  exact ⟨rejected, (located ⟨.url "/", rfl⟩).1, (stubs { request := nestedFault } ⟨0⟩ rfl).1⟩

/-- A template without a leading slash is rejected, and the error does not say where it is. -/
theorem url_error_without_place :
    ¬ ∀ (definition : RequestDefinition) (error : PatternError),
      definition.compile = .error error → (∀ names, error.fault ≠ .severalUrls names) →
        ∃ field, error.field? = some field := by
  intro located
  obtain ⟨field, told⟩ := located { urls := [("urlPathTemplate", "no-slash")] }
    ⟨[], .badTemplate "no-slash" .noLeadingSlash⟩ rfl nofun
  cases told

end RequestDefinition

end ServiceStub
