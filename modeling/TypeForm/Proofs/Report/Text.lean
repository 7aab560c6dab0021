import TypeForm.Proofs.Json.Depth
import TypeForm.Proofs.Json.Record
import TypeForm.Report

/-!
# Reports are read back

## Main result

`Report.read?_text`: the text of a report gives the report back, for any strings and any parts that
are absent, as long as the limit of the reader covers it; only metadata that is null comes back as
absent.

## Proof strategy

Each part of a report is decoded from what it is encoded as, once a text has brought the members of
its objects into order. The fields that are omitted where they are absent and those that are written
as null there are told apart in the part that has them.
-/
namespace TypeForm

/-! ### The parts of a report -/

theorem Version.ofJson?_sorted {version : Version} (major : version.major < pow2 32)
    (minor : version.minor < pow2 32) : ofJson? version.toJson.sorted = some version := by
  simp [toJson, ofJson?, Json.record?, Json.count?_natCast major, Json.count?_natCast minor]

theorem Code.ofJson?_name (code : Code) : ofJson? (.string code.name) = some code := by
  cases code <;> rfl

theorem Severity.ofJson?_name (severity : Severity) :
    ofJson? (.string severity.name) = some severity := by
  cases severity <;> rfl

theorem Location.ofJson?_sorted (location : Location) :
    ofJson? location.toJson.sorted = some location := by
  obtain ⟨file, instancePath, schemaPath⟩ := location
  cases file with
  | none => simp [toJson, ofJson?, Json.record?, Json.memberUnlessNone, Json.string?]
  | some file =>
    simp [toJson, ofJson?, Json.record?, Json.memberUnlessNone, Json.nullable, Json.string?]

/-- A location that is absent is written as null. -/
theorem Location.nullable_sorted (location : Option Location) :
    Json.nullable ofJson? ((location.map toJson).getD .null).sorted = some location := by
  cases location with
  | none => rfl
  | some location =>
    have present : location.toJson.sorted ≠ .null := by simp [toJson]
    exact Json.nullable_eq_some present (ofJson?_sorted location)

theorem Diagnostic.ofJson?_sorted (diagnostic : Diagnostic) :
    ofJson? diagnostic.toJson.sorted = some diagnostic := by
  have code := Code.ofJson?_name diagnostic.code
  have severity := Severity.ofJson?_name diagnostic.severity
  have location := Location.nullable_sorted diagnostic.location
  have expected := Json.nullable_ofOption diagnostic.expected
  have actual := Json.nullable_ofOption diagnostic.actual
  simp [toJson, ofJson?, Json.record?, Json.string?, code, severity, location, expected, actual]

/-- The counts of a summary fit into 64 bits. -/
structure Summary.Fits (summary : Summary) : Prop where
  total : summary.total < pow2 64
  errors : summary.errors < pow2 64
  warnings : summary.warnings < pow2 64
  info : summary.info < pow2 64
  documentsChecked : summary.documentsChecked < pow2 64
  documentsValid : summary.documentsValid < pow2 64

theorem Summary.ofJson?_sorted {summary : Summary} (fits : summary.Fits) :
    ofJson? summary.toJson.sorted = some summary := by
  simp [toJson, ofJson?, Json.record?, Json.count?_natCast fits.total,
    Json.count?_natCast fits.errors, Json.count?_natCast fits.warnings,
    Json.count?_natCast fits.info, Json.count?_natCast fits.documentsChecked,
    Json.count?_natCast fits.documentsValid]

namespace Report

/-- The numbers of a report fit into their types, and its metadata is a JSON value without floats,
which lists members by ascending key as any value that is kept. -/
structure Fits (report : Report) : Prop where
  major : report.version.major < pow2 32
  minor : report.version.minor < pow2 32
  summary : report.summary.Fits
  metadata : ∀ value ∈ report.metadata, value.Integral ∧ value.sorted = value

/-- The report without metadata that is null. -/
def withoutNull (report : Report) : Report :=
  { report with metadata := report.metadata.filter (· ≠ .null) }

theorem ofJson?_sorted {report : Report} (fits : report.Fits) :
    ofJson? report.toJson.sorted = some report.withoutNull := by
  obtain ⟨version, timestamp, summary, diagnostics, metadata⟩ := report
  have version' := Version.ofJson?_sorted fits.major fits.minor
  have summary' := Summary.ofJson?_sorted fits.summary
  have diagnostics' : Json.list? Diagnostic.ofJson?
      (Json.array (diagnostics.map Diagnostic.toJson)).sorted = some diagnostics :=
    Json.list?_sorted Diagnostic.ofJson?_sorted diagnostics
  -- Without metadata its member is missing, and the field that may be missing is then absent.
  cases metadata with
  | none =>
    simp [toJson, ofJson?, Json.record?, Json.memberUnlessNone, Json.string?, version', summary',
      diagnostics', withoutNull]
  | some value =>
    obtain ⟨-, same⟩ := fits.metadata value rfl
    simp [toJson, ofJson?, Json.record?, Json.memberUnlessNone, Json.string?, version', summary',
      diagnostics', withoutNull, same, Json.nullable_some]

end Report

/-! ### Numbers and keys of a report -/

theorem Json.integral_natCast {n : Nat} (fits : n < pow2 64) : Integral (.number (.int n)) := by
  refine .integer ?_ (Int.ofNat_lt.mpr fits)
  exact Int.le_trans (Int.neg_nonpos_of_nonneg (Int.natCast_nonneg _)) (Int.natCast_nonneg n)

theorem Json.integral_ofOption (text : Option String) : (ofOption text).Integral := by
  cases text with
  | none => exact .null
  | some text => exact .string text

theorem Version.integral_toJson {version : Version} (major : version.major < pow2 32)
    (minor : version.minor < pow2 32) : version.toJson.Integral := by
  have wide {n : Nat} (fits : n < pow2 32) : n < pow2 64 := Nat.lt_trans fits (by decide)
  have major := Json.integral_natCast (wide major)
  have minor := Json.integral_natCast (wide minor)
  exact .object (by simp) (by simp [major, minor])

theorem Summary.integral_toJson {summary : Summary} (fits : summary.Fits) :
    summary.toJson.Integral := by
  have total := Json.integral_natCast fits.total
  have errors := Json.integral_natCast fits.errors
  have warnings := Json.integral_natCast fits.warnings
  have info := Json.integral_natCast fits.info
  have checked := Json.integral_natCast fits.documentsChecked
  have valid := Json.integral_natCast fits.documentsValid
  exact .object (by simp) (by simp [total, errors, warnings, info, checked, valid])

theorem Location.integral_toJson (location : Location) : location.toJson.Integral := by
  obtain ⟨file, instancePath, schemaPath⟩ := location
  cases file with
  | none =>
    exact .object (by simp [Json.memberUnlessNone])
      (by simp [Json.memberUnlessNone, Json.Integral.string])
  | some file =>
    exact .object (by simp [Json.memberUnlessNone])
      (by simp [Json.memberUnlessNone, Json.Integral.string])

theorem Diagnostic.integral_toJson (diagnostic : Diagnostic) : diagnostic.toJson.Integral := by
  have location : ((diagnostic.location.map Location.toJson).getD .null).Integral := by
    cases diagnostic.location with
    | none => exact .null
    | some location => exact location.integral_toJson
  have expected := Json.integral_ofOption diagnostic.expected
  have actual := Json.integral_ofOption diagnostic.actual
  exact .object (by simp) (by simp [Json.Integral.string, location, expected, actual])

namespace Report

theorem integral_toJson {report : Report} (fits : report.Fits) : report.toJson.Integral := by
  obtain ⟨version, timestamp, summary, diagnostics, metadata⟩ := report
  have version' := Version.integral_toJson fits.major fits.minor
  have summary' := Summary.integral_toJson fits.summary
  have diagnostics' : (Json.array (diagnostics.map Diagnostic.toJson)).Integral := by
    refine .array (List.forall_mem_map.mpr ?_)
    intro diagnostic _
    exact diagnostic.integral_toJson
  cases metadata with
  | none =>
    exact .object (by simp [Json.memberUnlessNone])
      (by simp [Json.memberUnlessNone, version', Json.Integral.string, summary', diagnostics'])
  | some value =>
    obtain ⟨integral, -⟩ := fits.metadata value rfl
    exact .object (by simp [Json.memberUnlessNone])
      (by simp [Json.memberUnlessNone, version', Json.Integral.string, summary', diagnostics',
        integral])

end Report

/-! ### How deeply reports are nested -/

theorem Diagnostic.nesting_toJson_le (diagnostic : Diagnostic) : diagnostic.toJson.nesting ≤ 2 := by
  have location : ((diagnostic.location.map Location.toJson).getD .null).nesting ≤ 1 := by
    rcases diagnostic.location with _ | ⟨_ | file, instancePath, schemaPath⟩
    · exact Nat.zero_le 1
    · exact Nat.le_refl 1
    · exact Nat.le_refl 1
  have text (text : Option String) : (Json.ofOption text).nesting = 0 := by cases text <;> rfl
  refine Nat.succ_le_succ (Json.nestingMembers_le_iff.mpr ?_)
  simp [Json.nesting, location, text]

/-- Only metadata can nest a report more than four deep. -/
theorem Report.nesting_toJson_le {report : Report} {depth : Nat} (four : 4 ≤ depth)
    (metadata : ∀ value ∈ report.metadata, value.nesting < depth) :
    report.toJson.nesting ≤ depth := by
  obtain ⟨depth, rfl⟩ := Nat.exists_eq_succ_of_ne_zero (Nat.ne_zero_of_lt four)
  have version : report.version.toJson.nesting = 1 := rfl
  have summary : report.summary.toJson.nesting = 1 := rfl
  have diagnostics : (Json.array (report.diagnostics.map Diagnostic.toJson)).nesting ≤ 3 := by
    refine Nat.succ_le_succ (Json.nestingItems_le_iff.mpr (List.forall_mem_map.mpr ?_))
    intro diagnostic _
    exact diagnostic.nesting_toJson_le
  refine Nat.succ_le_succ (Json.nestingMembers_le_iff.mpr ?_)
  intro member inside
  -- The first four members are always there, and only the last is as deep as it likes.
  rcases List.mem_append.mp inside with fixed | extra
  · simp only [List.mem_cons, List.not_mem_nil, or_false] at fixed
    rcases fixed with rfl | rfl | rfl | rfl
    · exact Nat.le_trans version.le (by omega)
    · exact Nat.zero_le depth
    · exact Nat.le_trans summary.le (by omega)
    · exact Nat.le_trans diagnostics (by omega)
  · cases present : report.metadata with
    | none =>
      rw [present] at extra
      cases extra
    | some value =>
      rw [present] at extra
      obtain rfl := List.mem_singleton.mp extra
      exact Nat.le_of_lt_succ (metadata value present)

/-! ### Texts of reports -/

namespace Report

/-- The report that a text spells, for a reader with a limit of nesting. -/
def read? (depth : Nat) (text : String) : Option Report :=
  (Json.Read.text depth text.toList).toOption.bind ofJson?

/-- The text of a report gives the report back, as far as the limit of nesting covers it; only
metadata that is null comes back as absent. -/
theorem read?_text {report : Report} (fits : report.Fits) (depth : Nat) :
    read? depth report.text =
      if report.toJson.nesting ≤ depth then some report.withoutNull else none := by
  have integral := integral_toJson fits
  rw [read?, text]
  split
  · next within =>
    rw [Json.Read.text_pretty integral within]
    exact ofJson?_sorted fits
  · next beyond =>
    -- Whatever would be read were nested within the limit, and so would be the report.
    cases spelled : Json.Read.text depth report.toJson.pretty.toList with
    | ok value => exact absurd ((Json.Read.text_pretty_eq_ok_iff integral).mp spelled).1 beyond
    | error defect => rfl

/-- The text of a report with metadata is read back by a reader with the usual limit. -/
theorem read?_text_metadata :
    let report : Report := ⟨.current, "2024-05-01T12:00:00Z", ⟨1, 0, 1, 0, 0, 0⟩,
      [⟨.warning, .warn, "check \"me\"\n", some ⟨some "a.json", "", "/type"⟩, none, some "1"⟩],
      some (.object [("note", .null), ("runs", .array [.number (.int (-1)), .string "é"])])⟩
    report.Fits ∧ read? Json.Read.maxDepth report.text = some report := by
  intro report
  have integral : ∀ value ∈ report.metadata, value.Integral ∧ value.sorted = value := by
    intro value same
    cases same
    refine ⟨.object (by simp) ?_, by decide +kernel⟩
    have number : (Json.number (.int (-1))).Integral := .integer (by decide) (by decide)
    have runs : (Json.array [.number (.int (-1)), .string "é"]).Integral :=
      .array (by simp [number, Json.Integral.string])
    simp [Json.Integral.null, runs]
  have fits : report.Fits :=
    ⟨by decide, by decide, ⟨by decide, by decide, by decide, by decide, by decide, by decide⟩,
      integral⟩
  have back := read?_text fits Json.Read.maxDepth
  rw [if_pos (by decide +kernel)] at back
  exact ⟨fits, back⟩

/-- Reports whose metadata is nested less deeply than texts may be are read back. -/
theorem parse_text {report : Report} (fits : report.Fits)
    (shallow : ∀ value ∈ report.metadata, value.nesting < Json.Read.maxDepth) :
    (Json.parse report.text).toOption.bind ofJson? = some report.withoutNull := by
  have within : report.toJson.nesting ≤ Json.Read.maxDepth :=
    nesting_toJson_le (by decide) shallow
  have spelled := Json.Read.text_pretty (integral_toJson fits) within
  rw [Json.parse, text, spelled]
  exact ofJson?_sorted fits

end Report
end TypeForm
