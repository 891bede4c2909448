import ServiceStub.Proofs.Json.Parser
import ServiceStub.Proofs.Pattern.Building

/-!
What is read back of a pattern that expects a document.  As an operand the document stands for
itself, but for a string, which is read as the text of a document, and null, which declares
nothing.
-/

namespace ServiceStub

namespace PatternDefinition

variable {options : PatternOptions}

private theorem exists_of_compileOperator {operator : OperatorDefinition} {equality : JsonEquality}
    (compiled : compileOperator options operator = .ok (.equalToJson equality)) :
    ∃ expected, operator = .equalToJson expected ∧
      jsonEquality options expected = .ok (.equalToJson equality) := by
  cases operator with
  | equalToJson expected => exact ⟨expected, rfl, compiled⟩
  | equalTo _ | contains _ | doesNotContain _ | absent => cases compiled
  | matchesRegex _ | doesNotMatch _ | matchesJsonSchema _ | not _ =>
      obtain ⟨_, -, same⟩ := bind_eq_ok.mp compiled
      cases same
  | matchesJsonPath _ _ | matchesXPath _ _ =>
      obtain ⟨_, -, compiled⟩ := bind_eq_ok.mp compiled
      obtain ⟨_, -, same⟩ := bind_eq_ok.mp compiled
      cases same
  | dateTime _ _ =>
      obtain ⟨_, -, compiled⟩ := bind_eq_ok.mp compiled
      obtain ⟨_, -, compiled⟩ := bind_eq_ok.mp compiled
      obtain ⟨_, -, compiled⟩ := bind_eq_ok.mp compiled
      obtain ⟨_, -, same⟩ := bind_eq_ok.mp compiled
      cases same
  | binaryEqualTo _ =>
      rw [compileOperator, binary] at compiled
      split at compiled <;> cases compiled
  | and definitions | or definitions =>
      cases definitions with
      | nil => cases compiled
      | cons _ _ =>
          obtain ⟨_, -, same⟩ := bind_eq_ok.mp compiled
          cases same

end PatternDefinition

namespace Pattern

open PatternDefinition (Declares jsonEquality)

/-- The documents that patterns expect are canonical, whichever way they are given. -/
theorem isCanonical_of_ofJson {document : Json} {equality : JsonEquality}
    (compiled : ofJson document = some (.ok (.equalToJson equality))) :
    equality.expected.IsCanonical := by
  obtain ⟨⟨operators, options⟩, read, compiled⟩ := Option.map_eq_some_iff.mp compiled
  have sound := PatternDefinition.operators_sound_of_ofJson read
  rcases operators with _ | ⟨operator, _ | ⟨second, rest⟩⟩
  · cases compiled
  · rw [PatternDefinition.compile] at compiled
    obtain ⟨expected, rfl, compiled⟩ := PatternDefinition.exists_of_compileOperator compiled
    obtain ⟨_, same, canonical⟩ :=
      PatternDefinition.exists_of_jsonEquality (sound _ List.mem_cons_self) compiled
    cases same
    exact canonical
  · cases compiled

variable {equality : JsonEquality}

def flagOptions (equality : JsonEquality) : PatternOptions where
  ignoreArrayOrder := flagOption equality.ignoreArrayOrder
  ignoreExtraElements := flagOption equality.ignoreExtraElements

private theorem readable_flagOptions (equality : JsonEquality) : (flagOptions equality).Readable :=
  ⟨⟨nofun, nofun⟩, rfl⟩

private theorem definition_equalToJson (equality : JsonEquality) :
    (equalToJson equality).definition =
      .mk [.equalToJson equality.expected] (flagOptions equality) := by
  rw [definition, flagOptions]

private theorem exists_record (equality : JsonEquality) :
    ∃ record, Record.ofJson PatternDefinition.fieldNames (equalToJson equality).toJson =
        some record ∧
      Declares record (.mk [.equalToJson equality.expected] (flagOptions equality)) := by
  rw [toJson, definition_equalToJson]
  exact Record.ofJson_record PatternDefinition.fieldNames
    (PatternDefinition.keys_single_nodup (readable_flagOptions equality))

private theorem ofJson_toJson_of_ne_null (canonical : equality.expected.IsCanonical)
    (notNull : equality.expected ≠ .null) :
    ofJson (equalToJson equality).toJson =
      some (jsonEquality (flagOptions equality) equality.expected) := by
  obtain ⟨record, given, declares⟩ := exists_record equality
  rw [ofJson, PatternDefinition.ofJson_eq given,
    declares.readFields_eq (readable_flagOptions equality) notNull (documentOperand_eq canonical),
    Option.map_some, PatternDefinition.compile, PatternDefinition.compileOperator]

private theorem ofJson_toJson_of_null (null : equality.expected = .null) :
    ofJson (equalToJson equality).toJson = some (.error (.ofFault .noOperator)) := by
  obtain ⟨record, given, declares⟩ := exists_record equality
  have readable := readable_flagOptions equality
  have missing : ∀ name ∈ PatternDefinition.operatorNames,
      record.get? name = none ∨ record.get? name = some .null := by
    intro name known
    by_cases same : name = "equalToJson"
    · right
      rw [same, ← null]
      exact declares.operand
    · exact .inl (declares.noOther readable known same)
  obtain ⟨operators, operatorsRead, empty⟩ :=
    PatternDefinition.mapM_readOperator_of_none (PatternDefinition.keys_operandReaders _ ▸ missing)
  have optionsRead := PatternDefinition.readOptions_eq readable (declares.absence readable)
    fun name value listed => declares.option listed
  rw [ofJson, PatternDefinition.ofJson_eq given, PatternDefinition.readFields_eq, operatorsRead,
    optionsRead]
  simp [empty, PatternDefinition.compile, PatternDefinition.fail]

def rebuilt (equality : JsonEquality) : Except PatternError Pattern :=
  match equality.expected with
  | .null => .error (.ofFault .noOperator)
  | .string text =>
      match Json.parse text with
      | some document => .ok (.equalToJson { equality with expected := document })
      | none => .error (.ofFault .expectedNotJson)
  | _ => .ok (.equalToJson equality)

private theorem jsonEquality_flagOptions (equality : JsonEquality) (text : String) :
    jsonEquality (flagOptions equality) (.string text) =
      rebuilt { equality with expected := .string text } := by
  obtain ⟨expected, order, extra⟩ := equality
  unfold jsonEquality rebuilt
  dsimp only [flagOptions]
  rw [flagOption_getD, flagOption_getD]
  cases Json.parse text <;> rfl

private theorem ofJson_toJson_equalToJson (canonical : equality.expected.IsCanonical) :
    ofJson (equalToJson equality).toJson = some (rebuilt equality) := by
  obtain ⟨expected, order, extra⟩ := equality
  cases expected with
  | null => exact ofJson_toJson_of_null rfl
  | string text =>
      rw [ofJson_toJson_of_ne_null canonical nofun, jsonEquality_flagOptions]
  | _ =>
      rw [ofJson_toJson_of_ne_null canonical nofun, jsonEquality_of_isPlain rfl, flagOptions,
        flagOption_getD, flagOption_getD]
      rfl

private theorem ofJson_text (text : String) :
    ofJson (.object [("equalToJson", .string text)]) =
      some (rebuilt ⟨.string text, false, false⟩) :=
  @ofJson_toJson_equalToJson ⟨.string text, false, false⟩ rfl

private theorem rebuilt_eq_self_iff :
    rebuilt equality = .ok (.equalToJson equality) ↔ equality.expected.isPlain := by
  obtain ⟨expected, order, extra⟩ := equality
  cases expected with
  | null => simp [rebuilt, Json.isPlain]
  | string text =>
      refine ⟨fun same => ?_, nofun⟩
      cases parsed : Json.parse text with
      | none => simp [rebuilt, parsed] at same
      | some document =>
          have self : document = .string text := by simpa [rebuilt, parsed] using same
          exact absurd (self ▸ parsed) (Json.parse_ne_string text)
  | _ => exact ⟨fun _ => rfl, fun _ => rfl⟩

/-- A pattern that expects a document is read back as itself just if the document is neither null
nor a string; null leaves no operator, and a string the document that its text holds. -/
theorem equalToJson_read_back {document : Json}
    (compiled : ofJson document = some (.ok (.equalToJson equality))) :
    ofJson (equalToJson equality).toJson = some (rebuilt equality) ∧
      (ofJson (equalToJson equality).toJson = some (.ok (.equalToJson equality)) ↔
        equality.expected.isPlain) := by
  rw [ofJson_toJson_equalToJson (isCanonical_of_ofJson compiled)]
  exact ⟨rfl, (Option.some.injEq ..).to_iff.trans rebuilt_eq_self_iff⟩

theorem equalToJson_read_back_number :
    ofJson (.object [("equalToJson", .string "1")]) =
        some (.ok (.equalToJson ⟨.ofInt 1, false, false⟩)) ∧
      ofJson (equalToJson ⟨.ofInt 1, false, false⟩).toJson =
        some (.ok (.equalToJson ⟨.ofInt 1, false, false⟩)) := by
  have parsed : Json.parse "1" = some (.ofInt 1) := rfl
  have compiled : ofJson (.object [("equalToJson", .string "1")]) =
      some (.ok (.equalToJson ⟨.ofInt 1, false, false⟩)) := by
    rw [ofJson_text, rebuilt]
    simp only [parsed]
  exact ⟨compiled, (equalToJson_read_back compiled).2.mpr rfl⟩

/-- A string of one digit is expected, and of the pattern as it is written the number is. -/
theorem string_not_read_back :
    ofJson (.object [("equalToJson", .string "\"1\"")]) =
        some (.ok (.equalToJson ⟨.string "1", false, false⟩)) ∧
      ofJson (equalToJson ⟨.string "1", false, false⟩).toJson =
        some (.ok (.equalToJson ⟨.ofInt 1, false, false⟩)) ∧
      ofJson (equalToJson ⟨.string "1", false, false⟩).toJson ≠
        some (.ok (.equalToJson ⟨.string "1", false, false⟩)) := by
  have quoted : Json.parse "\"1\"" = some (.string "1") := rfl
  have parsed : Json.parse "1" = some (.ofInt 1) := rfl
  have reread : ofJson (equalToJson ⟨.string "1", false, false⟩).toJson =
      some (.ok (.equalToJson ⟨.ofInt 1, false, false⟩)) := by
    rw [@ofJson_toJson_equalToJson ⟨.string "1", false, false⟩ rfl, rebuilt]
    simp only [parsed]
  refine ⟨?_, reread, ?_⟩
  · rw [ofJson_text, rebuilt]
    simp only [quoted]
  · rw [reread]
    simp [Json.ofInt]

end Pattern

end ServiceStub
