import ServiceStub.Pattern.Url
import ServiceStub.Proofs.Assoc
import ServiceStub.Proofs.MatchResult
import ServiceStub.Proofs.Outcome
import ServiceStub.Proofs.Text.Chars

/-!
The paths that a template stands for.  They are what replacing its parameters by texts without
slashes gives, and such a path tells by what they were replaced.
-/

namespace ServiceStub

def nameInBraces? (segment : List Char) : Option String :=
  ((Text.stripStart? ['\x7b'] segment).bind (Text.stripEnd? ['\x7d'])).map String.ofList

def substituteSegment (assignment : String → String) (segment : List Char) : List Char :=
  (nameInBraces? segment).elim segment fun name => (assignment name).toList

/-- The text with every segment in braces replaced by what is assigned to the name in it. -/
def substitute (assignment : String → String) (template : String) : String :=
  String.ofList
    (['/'].intercalate ((template.toList.splitOn '/').map (substituteSegment assignment)))

namespace TemplateSegment

def written : TemplateSegment → List Char
  | .literal text => text
  | .parameter name => '\x7b' :: (name ++ ['\x7d'])

def name? : TemplateSegment → Option String
  | .literal _ => none
  | .parameter name => some (String.ofList name)

def fill (assignment : String → String) : TemplateSegment → List Char
  | .literal text => text
  | .parameter name => (assignment (String.ofList name)).toList

def IsPlain : TemplateSegment → Prop
  | .literal text => ∀ c ∈ text, PathTemplate.isBrace c = false
  | .parameter _ => True

private theorem substituteSegment_written {segment : TemplateSegment} (plain : segment.IsPlain)
    (assignment : String → String) :
    substituteSegment assignment segment.written = segment.fill assignment := by
  cases segment with
  | literal text =>
      cases text with
      | nil => rfl
      | cons first rest =>
          have notBrace : ('\x7b' == first) = false := by
            have := plain first List.mem_cons_self
            simp only [PathTemplate.isBrace, Bool.or_eq_false_iff, beq_eq_false_iff_ne] at this
            exact beq_false_of_ne this.1.symm
          simp [substituteSegment, nameInBraces?, written, fill, Text.stripStart?, notBrace]
  | parameter name =>
      have opened : Text.stripStart? ['\x7b'] ('\x7b' :: (name ++ ['\x7d'])) =
          some (name ++ ['\x7d']) := Text.stripStart?_append ['\x7b'] (name ++ ['\x7d'])
      simp [substituteSegment, nameInBraces?, written, fill, opened, Text.stripEnd?_append]

section Names

variable {segments : List TemplateSegment} {text name : List Char}

def names (segments : List TemplateSegment) : List String := segments.filterMap name?

@[simp] theorem names_literal : names (.literal text :: segments) = names segments := rfl

@[simp] theorem names_parameter :
    names (.parameter name :: segments) = String.ofList name :: names segments := rfl

/-- Segments are filled alike exactly by what agrees on their names. -/
theorem map_fill_eq_iff {assignment other : String → String} :
    segments.map (fill assignment) = segments.map (fill other) ↔
      ∀ name ∈ names segments, assignment name = other name := by
  induction segments with
  | nil => simp [names]
  | cons segment segments induction =>
      cases segment with
      | literal text => simp only [List.map_cons, fill, names_literal, List.cons.injEq, true_and,
          induction]
      | parameter name => simp only [List.map_cons, fill, names_parameter, List.cons.injEq,
          String.toList_inj, List.forall_mem_cons, induction]

theorem mem_names_iff : String.ofList name ∈ names segments ↔ .parameter name ∈ segments := by
  rw [names, List.mem_filterMap]
  constructor
  · rintro ⟨segment, listed, named⟩
    cases segment with
    | literal text => cases named
    | parameter other => rwa [← String.ofList_injective (Option.some.inj named)]
  · exact fun listed => ⟨_, listed, rfl⟩

end Names

end TemplateSegment

open TemplateSegment (fill names)

namespace PathTemplate

variable {segments known : List TemplateSegment} {pieces : List (List Char)}

private theorem eq_of_parameterName? {segment name : List Char}
    (read : parameterName? segment = some name) : segment = '\x7b' :: (name ++ ['\x7d']) := by
  obtain ⟨rest, opened, read⟩ := Option.bind_eq_some_iff.mp read
  obtain ⟨inner, closed, read⟩ := Option.bind_eq_some_iff.mp read
  obtain ⟨_, -, same⟩ := Option.bind_eq_some_iff.mp read
  cases Option.some.inj same
  rw [Text.eq_append_of_stripStart? opened, Text.eq_append_of_stripEnd? closed]
  rfl

/-- The segments are those of the text, and no name is given to two of them. -/
structure IsReading (known : List TemplateSegment) (pieces : List (List Char))
    (segments : List TemplateSegment) : Prop where
  written : pieces = segments.map TemplateSegment.written
  plain : ∀ segment ∈ segments, segment.IsPlain
  distinct : (names segments).Nodup
  fresh : ∀ name, .parameter name ∈ segments → .parameter name ∉ known

theorem IsReading.literal {piece : List Char} (plain : ¬piece.any isBrace)
    (reading : IsReading known pieces segments) :
    IsReading known (piece :: pieces) (.literal piece :: segments) where
  written := by rw [reading.written, List.map_cons, TemplateSegment.written]
  plain := List.forall_mem_cons.mpr ⟨by simpa [TemplateSegment.IsPlain] using plain, reading.plain⟩
  distinct := reading.distinct
  fresh name listed := by
    rcases List.mem_cons.mp listed with same | listed
    · cases same
    · exact reading.fresh name listed

theorem IsReading.parameter {piece name : List Char} (read : parameterName? piece = some name)
    (new : .parameter name ∉ known)
    (reading : IsReading (.parameter name :: known) pieces segments) :
    IsReading known (piece :: pieces) (.parameter name :: segments) where
  written := by
    rw [reading.written, eq_of_parameterName? read, List.map_cons, TemplateSegment.written]
  plain := List.forall_mem_cons.mpr ⟨trivial, reading.plain⟩
  distinct := by
    rw [TemplateSegment.names_parameter, List.nodup_cons, TemplateSegment.mem_names_iff]
    exact ⟨fun listed => reading.fresh name listed List.mem_cons_self, reading.distinct⟩
  fresh other listed := by
    rcases List.mem_cons.mp listed with same | listed
    · rwa [same]
    · exact fun old => reading.fresh other listed (List.mem_cons_of_mem _ old)

private theorem isReading_of_readSegments (read : readSegments known pieces = .ok segments) :
    IsReading known pieces segments := by
  induction pieces generalizing known segments with
  | nil =>
      cases read
      exact ⟨rfl, nofun, List.nodup_nil, nofun⟩
  | cons piece pieces induction =>
      rw [readSegments] at read
      split at read
      · split at read
        · cases read
        · next name named =>
            split at read
            · cases read
            · next new =>
                obtain ⟨others, readOthers, same⟩ := bind_eq_ok.mp read
                cases Except.ok.inj same
                exact (induction readOthers).parameter named (by simpa using new)
      · next plain =>
          obtain ⟨others, readOthers, same⟩ := bind_eq_ok.mp read
          cases Except.ok.inj same
          exact (induction readOthers).literal plain

def assigned (parameters : List (String × String)) (name : String) : String :=
  (Assoc.find? name parameters).getD ""

variable {parameters : List (String × String)}

structure Binds (segments : List TemplateSegment) (pieces : List (List Char))
    (parameters : List (String × String)) : Prop where
  ascending : Assoc.Ascending parameters
  mem_keys : ∀ name, name ∈ Assoc.keys parameters ↔ name ∈ names segments
  present : ∀ entry ∈ parameters, entry.2 ≠ "" ∧ entry.2.toList ∈ pieces
  filled : segments.map (fill (assigned parameters)) = pieces

theorem Binds.literal {text : List Char} (binds : Binds segments pieces parameters) :
    Binds (.literal text :: segments) (text :: pieces) parameters where
  ascending := binds.ascending
  mem_keys := binds.mem_keys
  present entry listed :=
    ⟨(binds.present entry listed).1, List.mem_cons_of_mem _ (binds.present entry listed).2⟩
  filled := by rw [List.map_cons, binds.filled, fill]

theorem Binds.parameter {name piece : List Char} (nonempty : piece ≠ [])
    (new : String.ofList name ∉ names segments)
    (binds : Binds segments pieces parameters) :
    Binds (.parameter name :: segments) (piece :: pieces)
      (Assoc.insert (String.ofList name) (String.ofList piece) parameters) where
  ascending := binds.ascending.insert _ _
  mem_keys other := by
    rw [Assoc.mem_keys_insert, binds.mem_keys, TemplateSegment.names_parameter, List.mem_cons]
  present entry listed := by
    rcases Assoc.mem_insert listed with rfl | listed
    · simp [nonempty]
    · exact ⟨(binds.present entry listed).1, List.mem_cons_of_mem _ (binds.present entry listed).2⟩
  filled := by
    have same : segments.map (fill (assigned
        (Assoc.insert (String.ofList name) (String.ofList piece) parameters))) =
          segments.map (fill (assigned parameters)) := by
      refine TemplateSegment.map_fill_eq_iff.mpr fun other listed => ?_
      rw [assigned, assigned, Assoc.find?_insert_of_ne (ne_of_mem_of_not_mem listed new)]
    rw [List.map_cons, same, binds.filled, fill, assigned, Assoc.find?_insert_self,
      Option.getD_some, String.toList_ofList]

private theorem binds_of_bind (distinct : (names segments).Nodup)
    (bound : bind segments pieces = some parameters) : Binds segments pieces parameters := by
  -- As no name comes twice, what is put in for the first one leaves the others as they are.
  induction segments generalizing pieces parameters with
  | nil =>
      cases pieces with
      | nil =>
          cases bound
          exact ⟨Assoc.ascending_nil, fun _ => Iff.rfl, nofun, rfl⟩
      | cons piece pieces => cases bound
  | cons segment segments induction =>
      cases pieces with
      | nil => cases segment <;> cases bound
      | cons piece pieces =>
          cases segment with
          | literal text =>
              rw [bind] at bound
              split at bound
              · next same =>
                  rw [← same]
                  exact (induction distinct bound).literal
              · cases bound
          | parameter name =>
              rw [bind] at bound
              rw [TemplateSegment.names_parameter, List.nodup_cons] at distinct
              split at bound
              · cases bound
              · next nonempty =>
                  obtain ⟨others, boundOthers, rfl⟩ := Option.map_eq_some_iff.mp bound
                  exact (induction distinct.2 boundOthers).parameter
                    (by simpa using nonempty) distinct.1

private theorem exists_bind_map_fill {assignment : String → String}
    (present : ∀ name ∈ names segments, assignment name ≠ "") :
    ∃ parameters, bind segments (segments.map (fill assignment)) = some parameters := by
  induction segments with
  | nil => exact ⟨[], rfl⟩
  | cons segment segments induction =>
      cases segment with
      | literal text =>
          obtain ⟨parameters, bound⟩ := induction present
          exact ⟨parameters, by simpa [bind, fill] using bound⟩
      | parameter name =>
          rw [TemplateSegment.names_parameter, List.forall_mem_cons] at present
          obtain ⟨parameters, bound⟩ := induction present.2
          exact ⟨Assoc.insert (String.ofList name) (assignment (String.ofList name)) parameters,
            by simp [bind, fill, present.1, bound]⟩

/-- The entries assign to each parameter, and to nothing else, a text that is not empty and
has no slash. -/
structure IsAssignment (template : PathTemplate) (parameters : List (String × String)) : Prop where
  ascending : Assoc.Ascending parameters
  mem_keys : ∀ name, name ∈ Assoc.keys parameters ↔ name ∈ template.parameterNames
  nonempty : ∀ entry ∈ parameters, entry.2 ≠ ""
  noSlash : ∀ entry ∈ parameters, '/' ∉ entry.2.toList

variable {template : PathTemplate}

private theorem parameterNames_eq (template : PathTemplate) :
    template.parameterNames = names template.segments := by
  refine List.filterMap_congr fun segment _ => ?_
  cases segment <;> rfl

private theorem IsAssignment.find?_eq_some (isAssignment : template.IsAssignment parameters)
    {name : String} (listed : name ∈ template.parameterNames) :
    ∃ value, Assoc.find? name parameters = some value ∧ (name, value) ∈ parameters := by
  obtain ⟨value, found⟩ := Assoc.mem_keys_iff.mp ((isAssignment.mem_keys name).mpr listed)
  exact ⟨value, found, Assoc.mem_of_find? found⟩

theorem IsAssignment.ext {others : List (String × String)}
    (isAssignment : template.IsAssignment parameters) (otherIs : template.IsAssignment others)
    (same : ∀ name ∈ template.parameterNames, assigned parameters name = assigned others name) :
    parameters = others := by
  have included {left right : List (String × String)} (leftIs : template.IsAssignment left)
      (rightIs : template.IsAssignment right)
      (same : ∀ name ∈ template.parameterNames, assigned left name = assigned right name)
      (entry : String × String) (listed : entry ∈ left) : entry ∈ right := by
    have known : entry.1 ∈ template.parameterNames :=
      (leftIs.mem_keys entry.1).mp (List.mem_map_of_mem listed)
    obtain ⟨value, found, member⟩ := rightIs.find?_eq_some known
    have agree := same entry.1 known
    rw [assigned, assigned, leftIs.ascending.find?_of_mem listed, found] at agree
    cases agree
    exact member
  exact Assoc.Ascending.ext isAssignment.ascending otherIs.ascending fun entry =>
    ⟨included isAssignment otherIs same entry,
      included otherIs isAssignment (fun name listed => (same name listed).symm) entry⟩

structure Reads (source : String) (template : PathTemplate) : Prop where
  rooted : source.toList = '/' :: ['/'].intercalate (template.segments.map TemplateSegment.written)
  plain : ∀ segment ∈ template.segments, segment.IsPlain
  distinct : (names template.segments).Nodup
  inhabited : template.segments ≠ []
  noSlash : ∀ segment ∈ template.segments, '/' ∉ segment.written

private theorem reads_of_ofString {source : String} (accepted : ofString source = .ok template) :
    Reads source template := by
  rw [ofString] at accepted
  split at accepted
  · next segments read =>
      cases accepted
      split at read
      · next path start =>
          have reading := isReading_of_readSegments read
          refine ⟨?_, reading.plain, reading.distinct, ?_, ?_⟩
          · rw [start, ← reading.written, Text.intercalate_splitAt]
          · rintro rfl
            exact Text.splitAt_ne_nil path reading.written
          · intro segment listed slash
            have free := @Text.free_of_mem_splitAt _ _ segment.written _
              (reading.written ▸ List.mem_map_of_mem listed) _ slash
            simp at free
      · cases read
  · cases accepted

private theorem parameters_eq_some_iff {path : String} :
    template.parameters path = some parameters ↔
      ∃ rest, path.toList = '/' :: rest ∧
        bind template.segments (Text.splitAt (· == '/') rest) = some parameters := by
  rw [PathTemplate.parameters]
  split
  · next rest start => simp [start]
  · next other => exact iff_of_false nofun fun ⟨rest, start, _⟩ => other rest start

namespace Reads

variable {source : String}

private theorem free_fill (reads : Reads source template)
    (isAssignment : template.IsAssignment parameters) :
    ∀ piece ∈ template.segments.map (fill (assigned parameters)), '/' ∉ piece := by
  rw [List.forall_mem_map]
  intro segment listed
  cases segment with
  | literal text => exact reads.noSlash _ listed
  | parameter name =>
      have known : String.ofList name ∈ template.parameterNames := by
        rw [parameterNames_eq]
        exact TemplateSegment.mem_names_iff.mpr listed
      obtain ⟨value, found, member⟩ := isAssignment.find?_eq_some known
      rw [fill, assigned, found]
      exact isAssignment.noSlash _ member

private theorem toList_substitute (reads : Reads source template) (assignment : String → String) :
    (substitute assignment source).toList =
      '/' :: ['/'].intercalate (template.segments.map (fill assignment)) := by
  have filled : (template.segments.map TemplateSegment.written).map (substituteSegment assignment) =
      template.segments.map (fill assignment) := by
    rw [List.map_map]
    exact List.map_congr_left fun segment listed =>
      TemplateSegment.substituteSegment_written (reads.plain segment listed) assignment
  have cut : source.toList.splitOn '/' = [] :: template.segments.map TemplateSegment.written := by
    have rooted : source.toList =
        ['/'].intercalate ([] :: template.segments.map TemplateSegment.written) := by
      rw [reads.rooted, List.intercalate_cons_of_ne_nil (by simpa using reads.inhabited)]
      rfl
    rw [rooted]
    refine List.splitOn_intercalate '/' ?_ (List.cons_ne_nil _ _)
    simpa using reads.noSlash
  rw [substitute, String.toList_ofList, cut, List.map_cons, filled,
    List.intercalate_cons_of_ne_nil (by simpa using reads.inhabited)]
  rfl

private theorem isAssignment_of_parameters (reads : Reads source template) {path : String}
    (given : template.parameters path = some parameters) :
    template.IsAssignment parameters ∧ substitute (assigned parameters) source = path := by
  obtain ⟨rest, start, bound⟩ := parameters_eq_some_iff.mp given
  have binds := binds_of_bind reads.distinct bound
  constructor
  · refine ⟨binds.ascending, fun name => ?_, fun entry listed => (binds.present entry listed).1,
      fun entry listed slash => ?_⟩
    · rw [binds.mem_keys, parameterNames_eq]
    · have free := Text.free_of_mem_splitAt (binds.present entry listed).2 _ slash
      cases free
  · rw [← String.toList_inj, reads.toList_substitute, binds.filled, Text.intercalate_splitAt, start]

private theorem parameters_substitute (reads : Reads source template)
    (isAssignment : template.IsAssignment parameters) :
    template.parameters (substitute (assigned parameters) source) = some parameters := by
  have present (name : String) (listed : name ∈ names template.segments) :
      assigned parameters name ≠ "" := by
    rw [← parameterNames_eq] at listed
    obtain ⟨value, found, member⟩ := isAssignment.find?_eq_some listed
    rw [assigned, found]
    exact isAssignment.nonempty _ member
  obtain ⟨others, bound⟩ := exists_bind_map_fill present
  have given : template.parameters (substitute (assigned parameters) source) = some others := by
    refine parameters_eq_some_iff.mpr ⟨_, reads.toList_substitute _, ?_⟩
    rwa [Text.splitAt_intercalate '/' (reads.free_fill isAssignment)
      (by simpa using reads.inhabited)]
  have same := TemplateSegment.map_fill_eq_iff.mp (binds_of_bind reads.distinct bound).filled
  rw [given, isAssignment.ext (reads.isAssignment_of_parameters given).1 fun name listed =>
    (same name (parameterNames_eq template ▸ listed)).symm]

end Reads

/-- A path has the parameters that make it of an accepted template when they are put in place of
their names, and it is an exact match exactly if there are such, which then are the only ones. -/
theorem parameters_iff_substitute {R : Type} [Scalar R] [MatchResult.DecidesExactness R]
    {source : String} (accepted : ofString source = .ok template) :
    (∀ path parameters, template.parameters path = some parameters ↔
      template.IsAssignment parameters ∧ substitute (assigned parameters) source = path) ∧
    ∀ path, (template.evaluate path : MatchResult R).isExact ↔
      ∃! parameters, template.IsAssignment parameters ∧
        substitute (assigned parameters) source = path := by
  have reads := reads_of_ofString accepted
  have characterized (path : String) (parameters : List (String × String)) :
      template.parameters path = some parameters ↔
        template.IsAssignment parameters ∧ substitute (assigned parameters) source = path := by
    constructor
    · exact reads.isAssignment_of_parameters
    · rintro ⟨isAssignment, rfl⟩
      exact reads.parameters_substitute isAssignment
  refine ⟨characterized, fun path => ?_⟩
  simp only [← characterized, evaluate]
  cases template.parameters path with
  | none =>
      rw [Option.isSome_none, if_neg Bool.false_ne_true,
        MatchResult.DecidesExactness.isExact_mismatch]
      simp [ExistsUnique]
  | some parameters =>
      rw [Option.isSome_some, if_pos rfl]
      exact iff_of_true MatchResult.DecidesExactness.isExact_exact
        ⟨parameters, rfl, fun _ same => (Option.some.inj same).symm⟩

def items : PathTemplate where
  source := "/users/\x7bid\x7d/items"
  segments := [.literal "users".toList, .parameter "id".toList, .literal "items".toList]

theorem parameters_iff_substitute_items :
    ofString items.source = .ok items ∧ items.IsAssignment [("id", "7")] ∧
      items.parameters "/users/7/items" = some [("id", "7")] ∧
      (items.evaluate "/users/7/items" : MatchResult Rat).isExact ∧
      ¬∃ parameters, items.IsAssignment parameters ∧
        substitute (assigned parameters) items.source = "/users//items" := by
  have accepted : ofString items.source = .ok items := by decide +kernel
  have isAssignment : items.IsAssignment [("id", "7")] := by
    refine ⟨List.pairwise_singleton _ _, fun name => ?_, ?_, ?_⟩
    · simp [Assoc.keys, parameterNames, items, List.filterMap]
    · simp
    · simp
  have written : substitute (assigned [("id", "7")]) items.source = "/users/7/items" := by
    decide +kernel
  obtain ⟨characterized, exactly⟩ := parameters_iff_substitute (R := Rat) accepted
  have given := (characterized _ _).mpr ⟨isAssignment, written⟩
  refine ⟨accepted, isAssignment, given, (exactly _).mpr ⟨_, ⟨isAssignment, written⟩, ?_⟩, ?_⟩
  · intro others other
    exact Option.some.inj ((characterized _ _).mpr other ▸ given)
  · rintro ⟨parameters, other⟩
    have absurdly := (characterized _ _).mpr other
    rw [show items.parameters "/users//items" = none by decide +kernel] at absurdly
    cases absurdly

end PathTemplate

end ServiceStub
