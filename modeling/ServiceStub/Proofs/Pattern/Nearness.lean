import ServiceStub.Proofs.Pattern.Request
import Mathlib.Algebra.Order.BigOperators.Group.List

/-!
Requests compared field by field.  Which fields are evaluated and what they weigh is declared by the
pattern alone, so a request that is nearer in each of them is nearer as a whole.
-/

namespace ServiceStub

/-- What a row says of the pattern and not of the request. -/
structure FieldLabel (R : Type) where
  field : String
  operator : String
  expected : String
  weight : R

def FieldMatch.label {R : Type} (row : FieldMatch R) : FieldLabel R :=
  ⟨row.field, row.operator, row.expected, row.weight⟩

namespace RequestPattern

variable {R : Type} [Scalar R]

def severalLabels (group : String) (patterns : List (String × MultiValuePattern)) :
    List (FieldLabel R) :=
  patterns.map fun entry =>
    ⟨group ++ "." ++ entry.1, entry.2.operator, entry.2.expected, Scalar.one⟩

def namedLabels (group : String) (patterns : List (String × Pattern)) : List (FieldLabel R) :=
  patterns.map fun entry =>
    ⟨group ++ "." ++ entry.1, entry.2.operator, entry.2.expected, Scalar.one⟩

def labels (pattern : RequestPattern) : List (FieldLabel R) :=
  (pattern.method.toList.map fun method => ⟨"method", "equalTo", method, methodWeight⟩) ++
    (if pattern.url.isAny then []
      else [⟨"url", pattern.url.operator, pattern.url.expected, urlWeight⟩]) ++
    (pattern.scheme.toList.map fun scheme => ⟨"scheme", "equalTo", scheme, Scalar.one⟩) ++
    (pattern.host.toList.map fun host => ⟨"host", host.operator, host.expected, Scalar.one⟩) ++
    (pattern.port.toList.map fun port => ⟨"port", "equalTo", toString port, Scalar.one⟩) ++
    severalLabels "headers" pattern.headers ++
    severalLabels "queryParameters" pattern.queryParameters ++
    severalLabels "formParameters" pattern.formParameters ++
    namedLabels "cookies" pattern.cookies ++
    namedLabels "pathParameters" pattern.pathParameters ++
    (pattern.bodies.map fun body => ⟨"body", body.operator, body.expected, Scalar.one⟩) ++
    pattern.multiparts.map fun multipart =>
      ⟨"multipart", "multipart", multipart.describe, Scalar.one⟩

private theorem label_severalRows (now : Calendar.Instant) (group : String)
    (patterns : List (String × MultiValuePattern)) (values : String → List String) :
    (severalRows now group patterns values).map FieldMatch.label =
      (severalLabels group patterns : List (FieldLabel R)) := by
  rw [severalRows, List.map_map]
  rfl

private theorem label_namedRows (now : Calendar.Instant) (group : String)
    (patterns : List (String × Pattern)) (value : String → Option String) :
    (namedRows now group patterns value).map FieldMatch.label =
      (namedLabels group patterns : List (FieldLabel R)) := by
  rw [namedRows, List.map_map]
  rfl

private theorem label_urlRows (pattern : RequestPattern) (request : Http.Request) :
    (urlRows pattern request).map FieldMatch.label =
      (if pattern.url.isAny then []
        else [⟨"url", pattern.url.operator, pattern.url.expected, urlWeight⟩] :
        List (FieldLabel R)) := by
  unfold urlRows
  split
  · rfl
  · rfl

private theorem labels_evaluate (now : Calendar.Instant) (pattern : RequestPattern)
    (request : Http.Request) :
    (pattern.evaluate now request : MatchReport R).rows.map FieldMatch.label =
      pattern.labels := by
  simp only [evaluate, List.map_append, label_severalRows, label_namedRows, label_urlRows,
    methodRows, schemeRows, hostRows, portRows, bodyRows, multipartRows, List.map_map]
  rfl

private theorem labels_weight_pos (pattern : RequestPattern) :
    ∀ label ∈ (pattern.labels : List (FieldLabel Rat)), 0 < label.weight := by
  -- The weights are those of the rows of any request whatever.
  have rows := pattern.decide_rows ⟨0, 0⟩ { method := "", url := "" }
  rw [← pattern.labels_evaluate ⟨0, 0⟩ { method := "", url := "" }, List.forall_mem_map]
  exact rows.weight_pos

end RequestPattern

/-- Two reports over the same fields, the first of which is at most as far away in each. -/
structure MatchReport.Nearer (near far : MatchReport Rat) : Prop where
  labels : near.rows.map FieldMatch.label = far.rows.map FieldMatch.label
  distance_le : ∀ pair ∈ near.rows.zip far.rows,
    pair.1.result.distance ≤ pair.2.result.distance

namespace MatchReport.Nearer

variable {near far : MatchReport Rat} {holds other : Prop}

theorem length_eq (nearer : near.Nearer far) : near.rows.length = far.rows.length := by
  simpa using congrArg List.length nearer.labels

private theorem weight_eq (nearer : near.Nearer far) {pair : FieldMatch Rat × FieldMatch Rat}
    (member : pair ∈ near.rows.zip far.rows) : pair.1.weight = pair.2.weight := by
  have labels := nearer.labels
  rw [← List.forall₂_eq_eq_eq, List.forall₂_map_left_iff, List.forall₂_map_right_iff,
    List.forall₂_iff_zip] at labels
  exact congrArg FieldLabel.weight (labels.2 member)

private theorem sum_near (nearer : near.Nearer far) (measure : FieldMatch Rat → Rat) :
    (near.rows.map measure).sum =
      ((near.rows.zip far.rows).map fun pair => measure pair.1).sum := by
  conv_lhs => rw [← List.map_fst_zip nearer.length_eq.le, List.map_map]
  rfl

private theorem sum_far (nearer : near.Nearer far) (measure : FieldMatch Rat → Rat) :
    (far.rows.map measure).sum =
      ((near.rows.zip far.rows).map fun pair => measure pair.2).sum := by
  conv_lhs => rw [← List.map_snd_zip nearer.length_eq.ge, List.map_map]
  rfl

private theorem total_weight_eq (nearer : near.Nearer far) :
    (near.rows.map FieldMatch.weight).sum = (far.rows.map FieldMatch.weight).sum := by
  rw [nearer.sum_near, nearer.sum_far]
  exact congrArg List.sum (List.map_congr_left fun pair member => nearer.weight_eq member)

private theorem weighted_le (nearer : near.Nearer far) (rows : FieldMatch.Decide near.rows holds)
    {pair : FieldMatch Rat × FieldMatch Rat} (member : pair ∈ near.rows.zip far.rows) :
    pair.1.result.distance * pair.1.weight ≤ pair.2.result.distance * pair.2.weight := by
  have weight_pos := rows.weight_pos pair.1 (List.of_mem_zip member).1
  rw [← nearer.weight_eq member]
  exact mul_le_mul_of_nonneg_right (nearer.distance_le pair member) weight_pos.le

private theorem report_le (nearer : near.Nearer far) (nearRows : FieldMatch.Decide near.rows holds)
    (farRows : FieldMatch.Decide far.rows other) : near.distance ≤ far.distance := by
  have weights_nonneg : 0 ≤ (far.rows.map FieldMatch.weight).sum :=
    List.sum_nonneg (List.forall_mem_map.mpr fun row member => (farRows.weight_pos row member).le)
  have sum_le : (near.rows.map fun row => row.result.distance * row.weight).sum ≤
      (far.rows.map fun row => row.result.distance * row.weight).sum := by
    rw [nearer.sum_near, nearer.sum_far]
    exact List.sum_le_sum fun pair member => nearer.weighted_le nearRows member
  calc near.distance
      _ = near.mean := nearRows.distance_eq_mean
      _ ≤ far.mean := by
        rw [mean, mean, nearer.total_weight_eq]
        exact div_le_div_of_nonneg_right sum_le weights_nonneg
      _ = far.distance := farRows.distance_eq_mean.symm

private theorem report_lt (nearer : near.Nearer far) (nearRows : FieldMatch.Decide near.rows holds)
    (farRows : FieldMatch.Decide far.rows other)
    (smaller : ∃ pair ∈ near.rows.zip far.rows,
      pair.1.result.distance < pair.2.result.distance) : near.distance < far.distance := by
  obtain ⟨pair, member, less⟩ := smaller
  have weights_pos : 0 < (far.rows.map FieldMatch.weight).sum := by
    refine List.sum_pos _ (List.forall_mem_map.mpr farRows.weight_pos) ?_
    rw [ne_eq, List.map_eq_nil_iff]
    exact List.ne_nil_of_mem (List.of_mem_zip member).2
  have weighted_lt :
      pair.1.result.distance * pair.1.weight < pair.2.result.distance * pair.2.weight := by
    have weight_pos := nearRows.weight_pos pair.1 (List.of_mem_zip member).1
    rw [← nearer.weight_eq member]
    exact mul_lt_mul_of_pos_right less weight_pos
  have sum_lt : (near.rows.map fun row => row.result.distance * row.weight).sum <
      (far.rows.map fun row => row.result.distance * row.weight).sum := by
    rw [nearer.sum_near, nearer.sum_far]
    exact List.sum_lt_sum _ _ (fun pair member => nearer.weighted_le nearRows member)
      ⟨pair, member, weighted_lt⟩
  calc near.distance
      _ = near.mean := nearRows.distance_eq_mean
      _ < far.mean := by
        rw [mean, mean, nearer.total_weight_eq]
        exact div_lt_div_of_pos_right sum_lt weights_pos
      _ = far.distance := farRows.distance_eq_mean.symm

private theorem exists_pair_of_near (nearer : near.Nearer far) {row : FieldMatch Rat}
    (member : row ∈ near.rows) : ∃ pair ∈ near.rows.zip far.rows, pair.1 = row := by
  rw [← List.map_fst_zip nearer.length_eq.le] at member
  exact List.mem_map.mp member

private theorem exists_pair_of_far (nearer : near.Nearer far) {row : FieldMatch Rat}
    (member : row ∈ far.rows) : ∃ pair ∈ near.rows.zip far.rows, pair.2 = row := by
  rw [← List.map_snd_zip nearer.length_eq.ge] at member
  exact List.mem_map.mp member

end MatchReport.Nearer

namespace RequestPattern

open MatchReport (Nearer)

variable {pattern : RequestPattern} {now later : Calendar.Instant} {request other : Http.Request}

private theorem nearer_of_distance_le
    (distance_le : ∀ pair ∈ (pattern.evaluate now request : MatchReport Rat).rows.zip
      (pattern.evaluate later other : MatchReport Rat).rows,
      pair.1.result.distance ≤ pair.2.result.distance) :
    Nearer (pattern.evaluate now request) (pattern.evaluate later other) where
  labels := by rw [labels_evaluate, labels_evaluate]
  distance_le := distance_le

/-- A request is farther away than those that match as soon as one of its fields is. -/
theorem lt_of_isExact
    (exact : (pattern.evaluate later other : MatchReport Rat).isExact)
    (missed : ∃ row ∈ (pattern.evaluate now request : MatchReport Rat).rows,
      0 < row.result.distance) :
    (pattern.evaluate later other : MatchReport Rat).distance <
      (pattern.evaluate now request : MatchReport Rat).distance := by
  have rows := pattern.decide_rows now request
  have exactRows := pattern.decide_rows later other
  have zero : ∀ row ∈ (pattern.evaluate later other : MatchReport Rat).rows,
      row.result.distance = 0 := fun row member =>
    MatchResult.isExact_iff.mp
      (exactRows.isExact_iff.mpr (exactRows.report.isExact_iff.mp exact) row member)
  have nearer : Nearer (pattern.evaluate later other) (pattern.evaluate now request) :=
    nearer_of_distance_le fun pair member => by
      rw [zero pair.1 (List.of_mem_zip member).1]
      exact (rows.inRange pair.2 (List.of_mem_zip member).2).nonneg
  obtain ⟨row, member, positive⟩ := missed
  obtain ⟨pair, paired, rfl⟩ := nearer.exists_pair_of_far member
  refine nearer.report_lt exactRows rows ⟨pair, paired, ?_⟩
  rw [zero pair.1 (List.of_mem_zip paired).1]
  exact positive

private theorem lt_of_missing_all
    (far : ∀ row ∈ (pattern.evaluate later other : MatchReport Rat).rows,
      row.result.distance = 1)
    (near : ∃ row ∈ (pattern.evaluate now request : MatchReport Rat).rows,
      row.result.distance < 1) :
    (pattern.evaluate now request : MatchReport Rat).distance <
      (pattern.evaluate later other : MatchReport Rat).distance := by
  have rows := pattern.decide_rows now request
  have nearer : Nearer (pattern.evaluate now request) (pattern.evaluate later other) :=
    nearer_of_distance_le fun pair member => by
      rw [far pair.2 (List.of_mem_zip member).2]
      exact (rows.inRange pair.1 (List.of_mem_zip member).1).le_one
  obtain ⟨row, member, less⟩ := near
  obtain ⟨pair, paired, rfl⟩ := nearer.exists_pair_of_near member
  refine nearer.report_lt rows (pattern.decide_rows later other) ⟨pair, paired, ?_⟩
  rw [far pair.2 (List.of_mem_zip paired).2]
  exact less

/-- All requests are measured by the fields that the pattern declares, with the same positive
weights.  So a request that is at most as far away as another one in every field is so as a whole,
and nearer as a whole if it is nearer in one of them; and one that neither meets nor misses all
fields ranks strictly between the requests that match and those that miss all. -/
theorem distance_by_fields (pattern : RequestPattern) (now later : Calendar.Instant)
    (request other : Http.Request) :
    let near : MatchReport Rat := pattern.evaluate now request
    let far : MatchReport Rat := pattern.evaluate later other
    near.rows.map FieldMatch.label = pattern.labels ∧
    far.rows.map FieldMatch.label = pattern.labels ∧
    (∀ label ∈ (pattern.labels : List (FieldLabel Rat)), 0 < label.weight) ∧
    ((∀ pair ∈ near.rows.zip far.rows, pair.1.result.distance ≤ pair.2.result.distance) →
      near.distance ≤ far.distance ∧
      ((∃ pair ∈ near.rows.zip far.rows, pair.1.result.distance < pair.2.result.distance) →
        near.distance < far.distance)) ∧
    ((∃ row ∈ near.rows, row.result.distance < 1) →
      (∃ row ∈ near.rows, 0 < row.result.distance) →
      (far.isExact → far.distance < near.distance) ∧
      ((∀ row ∈ far.rows, row.result.distance = 1) → near.distance < far.distance)) := by
  intro near far
  refine ⟨pattern.labels_evaluate now request, pattern.labels_evaluate later other,
    pattern.labels_weight_pos, fun distance_le => ?_, fun met missed => ?_⟩
  · have nearer : near.Nearer far := nearer_of_distance_le distance_le
    have nearRows := pattern.decide_rows now request
    have farRows := pattern.decide_rows later other
    exact ⟨nearer.report_le nearRows farRows, nearer.report_lt nearRows farRows⟩
  · exact ⟨fun exact => lt_of_isExact exact missed, fun far => lt_of_missing_all far met⟩

theorem distance_by_fields_orders :
    let now : Calendar.Instant := ⟨0, 0⟩
    let pattern : RequestPattern :=
      { method := some "GET", url := .path "/orders", scheme := some "https" }
    let same : MatchReport Rat :=
      pattern.evaluate now { method := "GET", url := "/orders", scheme := "https" }
    let near : MatchReport Rat := pattern.evaluate now { method := "GET", url := "/order" }
    let far : MatchReport Rat := pattern.evaluate now { method := "OPTIONS", url := "*" }
    (∀ pair ∈ near.rows.zip far.rows, pair.1.result.distance ≤ pair.2.result.distance) ∧
      (∃ pair ∈ near.rows.zip far.rows, pair.1.result.distance < pair.2.result.distance) ∧
      (∃ row ∈ near.rows, row.result.distance < 1) ∧
      (∃ row ∈ near.rows, 0 < row.result.distance) ∧
      same.isExact ∧ (∀ row ∈ far.rows, row.result.distance = 1) ∧
      near.distance ≤ far.distance ∧ near.distance < far.distance ∧
      same.distance < near.distance := by
  intro now pattern same near far
  have le : ∀ pair ∈ near.rows.zip far.rows,
      pair.1.result.distance ≤ pair.2.result.distance := by decide +kernel
  have lt : ∃ pair ∈ near.rows.zip far.rows,
      pair.1.result.distance < pair.2.result.distance := by decide +kernel
  have met : ∃ row ∈ near.rows, row.result.distance < 1 := by decide +kernel
  have missed : ∃ row ∈ near.rows, 0 < row.result.distance := by decide +kernel
  have exact : same.isExact := by decide +kernel
  have missesAll : ∀ row ∈ far.rows, row.result.distance = 1 := by decide +kernel
  obtain ⟨-, -, -, byFields, -⟩ := distance_by_fields pattern now now
    { method := "GET", url := "/order" } { method := "OPTIONS", url := "*" }
  obtain ⟨-, -, -, -, between⟩ := distance_by_fields pattern now now
    { method := "GET", url := "/order" } { method := "GET", url := "/orders", scheme := "https" }
  exact ⟨le, lt, met, missed, exact, missesAll, (byFields le).1, (byFields le).2 lt,
    (between met missed).1 exact⟩

end RequestPattern

end ServiceStub
