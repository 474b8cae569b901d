import DesignLint.Proofs.Json.Reading
import DesignLint.Proofs.Json.Rendering
import DesignLint.Report.Document
import Mathlib.Data.List.Basic

/-! # The report for programs

The document about a run holds all that there is to say about it, and its text, if there is one, is
a document of nothing else:

* `Report.document_injective`: two results with one document are the same;
* `Report.distinct_document`: no object of the document names a member twice;
* `Report.integers_document`: the integers that it shows, none of which may have too many digits;
* `Report.parse?_json`: what is read from the report. -/

namespace DesignLint

namespace Json

/-- No object in a value names a member twice. -/
inductive Distinct : Json → Prop
  /-- A value without members. -/
  | atom {value : Json} {s : Text} (h : Atom value s) : Distinct value
  /-- An array of such values. -/
  | array {items : List Json} (h : ∀ item ∈ items, Distinct item) : Distinct (.array items)
  /-- An object of such values with names that differ. -/
  | object {fields : List (Text × Json)} (hnames : (fields.map (·.1)).Nodup)
      (h : ∀ field ∈ fields, Distinct field.2) : Distinct (.object fields)

/-- A string names no member. -/
theorem distinct_text (s : Text) : Distinct (.text s) := .atom (.text (quoted_quotedText s))

/-- Neither does a number. -/
theorem distinct_int (n : Int) : Distinct (.int n) := .atom (atom_ofInt n)

end Json

/-- A kind is found by its word. -/
theorem FindingKind.ofName?_name (kind : FindingKind) : ofName? kind.name = some kind := by
  cases kind <;> decide

/-- Kinds have different words. -/
theorem FindingKind.name_injective : Function.Injective FindingKind.name := by
  intro a b h
  have hfound := ofName?_name a
  rw [h, ofName?_name] at hfound
  exact (Option.some_inj.1 hfound).symm

namespace Report

variable {f g : Finding} {page other : PageResult}

/-- The document about a finding holds all its fields. -/
theorem findingDocument_injective : Function.Injective findingDocument := by
  rintro ⟨file, line, kind, value, message⟩ ⟨file', line', kind', value', message'⟩ h
  simp only [findingDocument, Json.object.injEq, List.cons.injEq, Prod.mk.injEq, Json.text.injEq,
    Json.int.injEq, true_and, and_true] at h
  obtain ⟨rfl, rfl, hname, rfl, rfl⟩ := h
  obtain rfl := FindingKind.name_injective hname
  rfl

/-- The document about a page holds all its fields. A reason that is not there is no empty one. -/
theorem pageDocument_injective : Function.Injective pageDocument := by
  rintro ⟨name, findings, reason?⟩ ⟨name', findings', reason?'⟩ h
  simp only [pageDocument, Json.object.injEq, List.cons.injEq, Prod.mk.injEq, Json.text.injEq,
    Json.array.injEq, true_and, and_true] at h
  obtain ⟨rfl, hreason, hfindings⟩ := h
  obtain rfl := findingDocument_injective.list_map hfindings
  obtain rfl : reason? = reason?' := by
    cases reason? with
    | none =>
      cases reason?' with
      | none => rfl
      | some reason' => exact nomatch hreason
    | some reason =>
      cases reason?' with
      | none => exact nomatch hreason
      | some reason' => rw [Json.text.inj hreason]
  rfl

/-- **Two results with one document are the same.** -/
theorem document_injective : Function.Injective document := by
  rintro ⟨size, pages⟩ ⟨size', pages'⟩ h
  simp only [document, Json.object.injEq, List.cons.injEq, Prod.mk.injEq, Json.int.injEq,
    Json.array.injEq, true_and] at h
  obtain ⟨rfl, hpages, -⟩ := h
  obtain rfl := pageDocument_injective.list_map hpages
  rfl

/-- The document about a finding names no member twice. -/
theorem distinct_findingDocument (f : Finding) : (findingDocument f).Distinct := by
  have hnames : ["file".toList, "line".toList, "type".toList, "value".toList,
      "message".toList].Nodup := by decide
  refine .object hnames fun field hfield => ?_
  simp only [List.mem_cons, List.not_mem_nil, or_false] at hfield
  rcases hfield with rfl | rfl | rfl | rfl | rfl
  · exact Json.distinct_text f.file
  · exact Json.distinct_int f.line
  · exact Json.distinct_text f.kind.name
  · exact Json.distinct_text f.value
  · exact Json.distinct_text f.message

/-- The document about a page names no member twice. -/
theorem distinct_pageDocument (page : PageResult) : (pageDocument page).Distinct := by
  have hnames : ["file".toList, "exempt_reason".toList, "violations".toList].Nodup := by decide
  refine .object hnames fun field hfield => ?_
  simp only [List.mem_cons, List.not_mem_nil, or_false] at hfield
  rcases hfield with rfl | rfl | rfl
  · exact Json.distinct_text page.name
  · cases page.exemptReason with
    | none => exact .atom .null
    | some reason => exact Json.distinct_text reason
  · refine .array fun item hitem => ?_
    obtain ⟨f, -, rfl⟩ := List.mem_map.1 hitem
    exact distinct_findingDocument f

/-- **No object of the document about a run names a member twice.** -/
theorem distinct_document (result : RunResult) : (document result).Distinct := by
  have hnames : ["palette_size".toList, "files".toList, "total_violations".toList,
      "failing_files".toList, "passed".toList].Nodup := by decide
  refine .object hnames fun field hfield => ?_
  simp only [List.mem_cons, List.not_mem_nil, or_false] at hfield
  rcases hfield with rfl | rfl | rfl | rfl | rfl
  · exact Json.distinct_int result.paletteSize
  · refine .array fun item hitem => ?_
    obtain ⟨page, -, rfl⟩ := List.mem_map.1 hitem
    exact distinct_pageDocument page
  · exact Json.distinct_int result.totalFindings
  · exact Json.distinct_int result.failing.length
  · exact .atom (.bool result.passed)

/-! ## Integers -/

/-- The integers that the document about a run shows. -/
def integers (result : RunResult) : List Int :=
  result.paletteSize :: (result.pages.flatMap (·.findings)).map (·.line) ++
    [(result.totalFindings : Int), (result.failing.length : Int)]

/-- The document about a finding shows its line. -/
theorem integers_findingDocument (f : Finding) : (findingDocument f).integers = [f.line] := rfl

/-- The document about a page shows the lines of its findings. -/
theorem integers_pageDocument (page : PageResult) :
    (pageDocument page).integers = page.findings.map (·.line) := by
  obtain ⟨name, findings, reason?⟩ := page
  have hfindings : Json.itemIntegers (findings.map findingDocument) = findings.map (·.line) := by
    rw [Json.itemIntegers_eq_flatMap, List.flatMap_map, List.map_eq_flatMap]
    exact List.flatMap_congr fun f _ => integers_findingDocument f
  -- A reason is a text, and so holds no integer either.
  cases reason? with
  | none => simp [pageDocument, Json.integers, Json.fieldIntegers, hfindings]
  | some reason => simp [pageDocument, Json.integers, Json.fieldIntegers, hfindings]

/-- **The integers in the document about a run.** -/
theorem integers_document (result : RunResult) : (document result).integers = integers result := by
  simp only [document, Json.integers, Json.fieldIntegers, Json.itemIntegers_eq_flatMap,
    List.flatMap_map, integers_pageDocument, integers, List.map_flatMap, List.append_nil,
    List.nil_append, List.cons_append]

/-! ## The report -/

/-- **What is read from the report** is the document about the run. The reader reads just the JSON
documents; if no integer of the report has too many digits, then the report is one, it stands for
nothing else and names no member twice, and so another result has another report. If one has, there
is no report. -/
theorem parse?_json (result : RunResult) :
    (∀ s value, Json.parse? s = some value ↔ Json.Document value s) ∧
    ((∀ n ∈ integers result, Numeral.Writable n) → ∃ s, json result = .ok s ∧
      Json.parse? s = some (document result) ∧
      (∀ value, Json.Document value s ↔ value = document result) ∧
      ∀ other, json other = .ok s → other = result) ∧
    (document result).Distinct ∧
    ((∃ n ∈ integers result, ¬ Numeral.Writable n) → json result = .error .tooLong) := by
  refine ⟨fun s value => Json.parse?_eq_some_iff, fun hwritable => ?_, distinct_document result,
    fun hlong => ?_⟩
  · rw [← integers_document] at hwritable
    obtain ⟨s, hs⟩ := Json.exists_render_iff.2 hwritable
    have hdocument : Json.Document (document result) s := Json.document_render hs
    refine ⟨s, hs, Json.parse?_eq_some_iff.2 hdocument, ?_, ?_⟩
    · intro value
      constructor
      · exact hdocument.unique
      · rintro rfl
        exact hdocument
    · intro other hother
      exact document_injective (hdocument.unique (Json.document_render hother))
  · rw [← integers_document] at hlong
    exact Json.render_eq_error_iff.2 hlong

/-- What is read from a report about a text that has to be escaped and a reason without words. -/
theorem parse?_json_two_pages :
    let f : Finding := ⟨['a'], 3, .rgbColor, ['"', '\n'], ['é']⟩
    let result : RunResult := ⟨7, [⟨['a'], [f], none⟩, ⟨['b'], [], some []⟩]⟩
    ∃ s, json result = .ok s ∧ Json.parse? s = some (document result) := by
  intro f result
  have hwritable : ∀ n ∈ integers result, Numeral.Writable n := by
    have hsmall : ∀ n ∈ integers result, n.natAbs ≤ Numeral.maxDigits := by decide
    exact fun n hn => Numeral.writable_of_natAbs_le (hsmall n hn)
  obtain ⟨s, hs, hread, -⟩ := (parse?_json result).2.1 hwritable
  exact ⟨s, hs, hread⟩

/-- A palette whose size has too many digits leaves no report to be read. -/
theorem not_exists_json_of_overlong_palette :
    let result : RunResult := ⟨tenTo Numeral.maxDigits, []⟩
    json result = .error .tooLong ∧
      ¬ ∃ s, json result = .ok s ∧ Json.parse? s = some (document result) := by
  intro result
  have hlong : ∃ n ∈ (document result).integers, ¬ Numeral.Writable n := by
    rw [integers_document]
    exact ⟨_, List.mem_cons_self, Numeral.not_writable_tenTo⟩
  have hjson : json result = .error .tooLong := Json.render_eq_error_iff.2 hlong
  refine ⟨hjson, ?_⟩
  rintro ⟨s, hs, -⟩
  rw [hjson] at hs
  exact nomatch hs

end Report

end DesignLint
