import DesignLint.Proofs.RequiredAsset
import DesignLint.Proofs.Scan
import DesignLint.Proofs.StyleBlock.LineNumbers

/-! # Where findings are listed and where they stand

A scan with the built-in checks lists the findings in four segments, one for each check. What the
two colour checks find stands in the text, in the order of the list:

* `Ascending`: findings on lines that never go down, between a first line and a last one;
* `Ascending.flatMap_placed`: what is found about the occurrences of a split ascends, if what is
  found about each one does;
* `InlineStyle.ascending_findings`, `StyleBlock.ascending_findings`: the findings of the two checks
  ascend through the lines of the page;
* `InlineStyle.exists_of_mem_findings`, `StyleBlock.exists_of_mem_findings`: they are about parts of
  the text;
* `Finding.BelongsTo`, `Page.belongsTo_of_mem_findings`: the name and the line of every finding;
* `scan_builtin_segments`: the four segments of a scan. -/

namespace DesignLint

open Text

/-! ## Findings in the order of their lines -/

/-- The lines of some findings never go down, and they lie between `first` and `last`. -/
structure Ascending (first last : Nat) (found : List Finding) : Prop where
  /-- No finding is reported above one that is listed before it. -/
  ordered : found.Pairwise fun f g => f.line ≤ g.line
  /-- The first line is a lower bound. -/
  first_le : ∀ f ∈ found, first ≤ f.line
  /-- The last line is an upper bound. -/
  le_last : ∀ f ∈ found, f.line ≤ last

namespace Ascending

variable {first last : Nat} {found : List Finding}

/-- There is nothing to compare in an empty list. -/
theorem nil : Ascending first last [] where
  ordered := .nil
  first_le := by simp
  le_last := by simp

/-- Findings on one line ascend. -/
theorem of_line_eq {line : Nat} (h : ∀ f ∈ found, f.line = line) : Ascending line line found where
  ordered := List.pairwise_of_forall_mem_list fun f hf g hg =>
    Int.le_of_eq ((h f hf).trans (h g hg).symm)
  first_le f hf := Int.le_of_eq (h f hf).symm
  le_last f hf := Int.le_of_eq (h f hf)

/-- The bounds may be wider. -/
theorem mono (h : Ascending first last found) {first' last' : Nat} (hfirst : first' ≤ first)
    (hlast : last ≤ last') : Ascending first' last' found where
  ordered := h.ordered
  first_le f hf := by
    have hle := h.first_le f hf
    omega
  le_last f hf := by
    have hle := h.le_last f hf
    omega

/-- Findings that end where others begin ascend together with them. -/
theorem append {middle : Nat} {more : List Finding} (h : Ascending first middle found)
    (hmore : Ascending middle last more) (hfirst : first ≤ middle) (hlast : middle ≤ last) :
    Ascending first last (found ++ more) where
  ordered := by
    refine List.pairwise_append.2 ⟨h.ordered, hmore.ordered, fun f hf g hg => ?_⟩
    exact Int.le_trans (h.le_last f hf) (hmore.first_le g hg)
  first_le := List.forall_mem_append.2 ⟨h.first_le, (hmore.mono hfirst le_rfl).first_le⟩
  le_last := List.forall_mem_append.2 ⟨(h.mono le_rfl hlast).le_last, hmore.le_last⟩

/-- **Findings about the occurrences of a split ascend**, if those about each occurrence ascend
between the line where it begins and the line where it ends. -/
theorem flatMap_placed {α : Type} {G : Grammar α} {s : Text} {split : Split α}
    (hs : Splits G s split) {report : Text × Piece α → List Finding} (before : Text)
    (h : ∀ front piece, (front, piece) ∈ placed before split.pieces →
      Ascending (front.count '\n' + 1) ((front ++ piece.body).count '\n' + 1)
        (report (front, piece))) :
    Ascending (before.count '\n' + 1) ((before ++ s).count '\n' + 1)
      ((placed before split.pieces).flatMap report) := by
  induction hs generalizing before with
  | tail => exact nil
  | @piece rest piece split _ _ _ ih =>
    rw [placed, List.flatMap_cons]
    have hpiece := h _ _ List.mem_cons_self
    have hrest := ih (before ++ piece.gap ++ piece.body) fun front later hlater =>
      h front later (List.mem_cons_of_mem _ hlater)
    -- The occurrence ends on the line where the rest of the text begins.
    simp only [← List.append_assoc, List.count_append] at hpiece hrest ⊢
    exact (hpiece.append hrest (by omega) (by omega)).mono (by omega) le_rfl

end Ascending

/-! ## Style attributes -/

namespace InlineStyle

open HexColor

/-- The kinds of findings about style attributes. -/
def kinds : List FindingKind :=
  [.unknownColor, .rgbColor, .hardcodedFont, .hardcodedShadow, .hardcodedRadius]

/-- A finding about a style value reports a part of it. -/
theorem exists_of_mem_valueFindings {page : Page} {style : Text} {line : Int} {f : Finding}
    (hf : f ∈ valueFindings page style line) :
    ∃ kind value message, kind ∈ kinds ∧ value <:+: style ∧
      f = page.finding line kind value message := by
  rw [valueFindings_eq, List.mem_append] at hf
  rcases hf with hcolor | hother
  · obtain ⟨color, hmem, rfl⟩ := List.mem_map.1 hcolor
    refine ⟨.unknownColor, color, _, List.mem_cons_self, ?_, rfl⟩
    have hliteral := List.mem_of_mem_filter hmem
    rw [literals_eq] at hliteral
    obtain ⟨run, hrun, rfl⟩ := List.mem_map.1 hliteral
    -- The literal may be cut short, but it begins the run of digits behind its `#`.
    have hcut : '#' :: run.take 8 <+: '#' :: run :=
      (List.prefix_cons_inj _).2 (List.take_prefix 8 run)
    exact hcut.isInfix.trans (isInfix_of_mem_digitRuns (List.mem_of_mem_filter hrun))
  · obtain ⟨kind, value, message, hkind, hvalue, rfl⟩ := exists_of_mem_otherFindings hother
    exact ⟨kind, value, message, List.mem_cons_of_mem _ hkind, hvalue, rfl⟩

/-- The value of an attribute is part of it. -/
theorem Attribute.isInfix {body value rest : Text} (h : Attribute body value rest) :
    value <:+: body := by
  obtain ⟨name, before, after, -, -, -, -, rfl⟩ := h
  refine ⟨name ++ before ++ '=' :: (after ++ ['"']), ['"'], ?_⟩
  simp only [List.append_assoc, List.cons_append, List.nil_append]

/-- **A finding about style attributes** reports a part of the text. -/
theorem exists_of_mem_findings {page : Page} {f : Finding} (hf : f ∈ findings page) :
    ∃ line kind value message, kind ∈ kinds ∧ value <:+: page.text ∧
      f = page.finding line kind value message := by
  obtain ⟨split, hsplit⟩ := reads_styleAttribute.exists_splits page.text
  rw [findings_eq_of_splits hsplit] at hf
  obtain ⟨⟨front, piece⟩, hpiece, hmem⟩ := List.mem_flatMap.1 hf
  obtain ⟨hbody, rest, hoccurs⟩ := hsplit.isInfix_of_mem_placed hpiece
  obtain ⟨kind, value, message, hkind, hvalue, rfl⟩ := exists_of_mem_valueFindings hmem
  exact ⟨_, kind, value, message, hkind, (hvalue.trans hoccurs.isInfix).trans hbody, rfl⟩

/-- **The findings about style attributes ascend** through the lines of the page. -/
theorem ascending_findings (page : Page) :
    Ascending 1 (lines page.text).length (findings page) := by
  obtain ⟨split, hsplit⟩ := reads_styleAttribute.exists_splits page.text
  rw [findings_eq_of_splits hsplit, length_lines]
  refine Ascending.flatMap_placed hsplit [] fun front piece _ => ?_
  have hline : Ascending (front.count '\n' + 1) (front.count '\n' + 1)
      (valueFindings page piece.value (front.count '\n' + 1 : Nat)) :=
    .of_line_eq fun f hf => line_of_mem_valueFindings hf
  refine hline.mono le_rfl ?_
  rw [List.count_append]
  omega

end InlineStyle

/-! ## Style blocks -/

namespace StyleBlock

/-- The findings about a line are on that line. -/
theorem ascending_lineFindings (page : Page) (number : Nat) (line : Text) :
    Ascending number number (lineFindings page number line) := by
  rw [lineFindings_eq_colorFindings]
  refine .of_line_eq fun f hf => ?_
  obtain ⟨color, message, -, rfl⟩ := exists_of_mem_colorFindings hf
  rfl

/-- The findings about the lines of a body ascend from its first line to its last one. -/
theorem ascending_bodyFindings (page : Page) (number : Nat) (line : Text) (below : List Text) :
    Ascending number (number + below.length) (bodyFindings page number (line :: below)) := by
  induction below generalizing number line with
  | nil => exact (ascending_lineFindings page number line).append .nil le_rfl le_rfl
  | cons next below ih =>
    have hbelow := (ih (number + 1) next).mono (Nat.le_succ number) le_rfl
    rw [bodyFindings, List.length_cons, ← Nat.add_assoc, Nat.add_right_comm]
    exact (ascending_lineFindings page number line).append hbelow le_rfl (by omega)

/-- The findings about a body ascend from the line where it begins, as many lines as the body has
line feeds. -/
theorem ascending_blockFindings (page : Page) (first : Nat) (body : Text) :
    Ascending first (first + body.count '\n') (blockFindings page first body) := by
  obtain ⟨line, below, hlines⟩ := List.exists_cons_of_ne_nil (lines_ne_nil body)
  have hlength := length_lines body
  rw [hlines, List.length_cons, Nat.add_right_cancel_iff] at hlength
  rw [← bodyFindings_eq_blockFindings, hlines, ← hlength]
  exact ascending_bodyFindings page first line below

/-- The body of an element is part of it. -/
theorem Block.isInfix {element body rest : Text} (h : Block element body rest) :
    body <:+: element := by
  obtain ⟨name, attributes, close, -, -, -, -, rfl⟩ := h
  refine ⟨name ++ attributes ++ ['>'], close, ?_⟩
  simp only [List.append_assoc, List.cons_append, List.nil_append]

/-- **A finding about style blocks** reports a part of the text. -/
theorem exists_of_mem_findings {page : Page} {f : Finding} (hf : f ∈ findings page) :
    ∃ line value message, value <:+: page.text ∧
      f = page.finding line .unknownColorInStyle value message := by
  obtain ⟨split, hsplit⟩ := reads_block.exists_splits page.text
  rw [findings_eq_of_splits hsplit] at hf
  obtain ⟨⟨front, piece⟩, hpiece, hmem⟩ := List.mem_flatMap.1 hf
  obtain ⟨hbody, rest, hoccurs⟩ := hsplit.isInfix_of_mem_placed hpiece
  obtain ⟨⟨line, number⟩, hline, hcolor⟩ := List.mem_flatMap.1 hmem
  obtain ⟨color, message, hvalue, rfl⟩ := exists_of_mem_colorFindings hcolor
  have hpart := isInfix_of_mem_lines (List.fst_mem_of_mem_zipIdx hline)
  exact ⟨_, color, message, ((hvalue.trans hpart).trans hoccurs.isInfix).trans hbody, rfl⟩

/-- **The findings about style blocks ascend** through the lines of the page. -/
theorem ascending_findings (page : Page) :
    Ascending 1 (lines page.text).length (findings page) := by
  obtain ⟨split, hsplit⟩ := reads_block.exists_splits page.text
  rw [findings_eq_of_splits hsplit, length_lines]
  refine Ascending.flatMap_placed hsplit [] fun front piece hpiece => ?_
  obtain ⟨rest, -, hoccurs⟩ := hsplit.mem_placed hpiece
  -- The element has the line feeds of its body, and more in its tag.
  have hcount := hoccurs.isInfix.sublist.count_le '\n'
  refine (ascending_blockFindings page _ piece.value).mono le_rfl ?_
  rw [List.count_append]
  omega

end StyleBlock

/-! ## The segments of a scan -/

/-- A finding belongs to a page: it has its name, and the number of one of its lines, unless it is
about the page as a whole. -/
structure Finding.BelongsTo (f : Finding) (page : Page) : Prop where
  /-- The finding is reported under the name of the page. -/
  file_eq : f.file = page.name
  /-- Just what is missing in the whole page is reported without a line. -/
  line_eq_zero_iff : f.line = 0 ↔ f.kind = .missingStylesheet ∨ f.kind = .missingFont
  /-- All other lines are lines of the page. -/
  line_bounds : f.line ≠ 0 → 1 ≤ f.line ∧ f.line ≤ (lines page.text).length

/-- What is missing in a page belongs to it. -/
theorem Page.finding_zero_belongsTo {page : Page} {kind : FindingKind} (value message : Text)
    (hkind : kind = .missingStylesheet ∨ kind = .missingFont) :
    (page.finding 0 kind value message).BelongsTo page where
  file_eq := rfl
  line_eq_zero_iff := iff_of_true rfl hkind
  line_bounds h := absurd rfl h

/-- What is reported on a line of a page belongs to the page. -/
theorem Page.finding_belongsTo {page : Page} {line : Int} {kind : FindingKind}
    {value message : Text} (hkind : kind ≠ .missingStylesheet ∧ kind ≠ .missingFont)
    (hfirst : 1 ≤ line) (hlast : line ≤ (lines page.text).length) :
    (page.finding line kind value message).BelongsTo page where
  file_eq := rfl
  line_eq_zero_iff := iff_of_false (show ¬ line = 0 by omega) (not_or.2 hkind)
  line_bounds _ := ⟨hfirst, hlast⟩

/-- **Every finding of the built-in checks belongs to the page.** -/
theorem Page.belongsTo_of_mem_findings {page : Page} {f : Finding} (hf : f ∈ page.findings) :
    f.BelongsTo page := by
  rw [findings, List.mem_append, List.mem_append, List.mem_append] at hf
  rcases hf with hinline | hblock | hsheet | hfont
  · have hfirst := (InlineStyle.ascending_findings page).first_le f hinline
    have hlast := (InlineStyle.ascending_findings page).le_last f hinline
    obtain ⟨line, kind, value, message, hkind, -, rfl⟩ := InlineStyle.exists_of_mem_findings hinline
    exact finding_belongsTo ⟨ne_of_mem_of_not_mem hkind (by decide),
      ne_of_mem_of_not_mem hkind (by decide)⟩ hfirst hlast
  · have hfirst := (StyleBlock.ascending_findings page).first_le f hblock
    have hlast := (StyleBlock.ascending_findings page).le_last f hblock
    obtain ⟨line, value, message, -, rfl⟩ := StyleBlock.exists_of_mem_findings hblock
    exact finding_belongsTo (by decide) hfirst hlast
  · obtain ⟨sheet, -, rfl⟩ := List.mem_map.1 hsheet
    exact finding_zero_belongsTo _ _ (.inl rfl)
  · obtain ⟨message, rfl⟩ := RequiredAsset.eq_finding_of_mem_fontFindings hfont
    exact finding_zero_belongsTo _ _ (.inr rfl)

/-- **The findings of a scan with the built-in checks**, check by check: those about style
attributes, those about style blocks, one for each required stylesheet that is no part of the text,
and at most one about the brand font. Each finding belongs to the page. Those about attributes and
those about blocks come in the order of their lines, and report parts of the text. -/
theorem scan_builtin_segments (page : Page) :
    ∃ inline blocks sheets fonts,
      scan page Registry.builtin.checks = .ok (inline ++ (blocks ++ (sheets ++ fonts))) ∧
      List.Forall₂ (fun check part => check.inspect page = .ok part) Registry.builtin.checks
        [inline, blocks, sheets, fonts] ∧
      (∀ f ∈ inline, f.kind ∈ [FindingKind.unknownColor, .rgbColor, .hardcodedFont,
        .hardcodedShadow, .hardcodedRadius]) ∧
      (∀ f ∈ blocks, f.kind = .unknownColorInStyle) ∧
      sheets = (page.config.requiredSheets.filter fun sheet => ¬ sheet.name <:+: page.text).map
        (fun sheet => page.finding 0 .missingStylesheet sheet.name sheet.message) ∧
      ((fonts = [] ∧ ∃ spelling ∈ page.config.fontSpellings, spelling <:+: page.text) ∨
        ∃ message, fonts = [page.finding 0 .missingFont page.config.requiredFont message] ∧
          ∀ spelling ∈ page.config.fontSpellings, ¬ spelling <:+: page.text) ∧
      (∀ f ∈ inline ++ (blocks ++ (sheets ++ fonts)), f.BelongsTo page) ∧
      inline.Pairwise (fun f g => f.line ≤ g.line) ∧
      blocks.Pairwise (fun f g => f.line ≤ g.line) ∧
      ∀ f ∈ inline ++ blocks, f.value <:+: page.text := by
  have hchecks : List.Forall₂ (fun check part => check.inspect page = .ok part)
      Registry.builtin.checks [InlineStyle.findings page, StyleBlock.findings page,
        RequiredAsset.sheetFindings page, RequiredAsset.fontFindings page] :=
    .cons rfl (.cons rfl (.cons rfl (.cons rfl .nil)))
  refine ⟨_, _, _, _, scan_builtin page, hchecks, fun f hf => ?_, fun f hf => ?_,
    RequiredAsset.sheetFindings_eq page, RequiredAsset.fontFindings_cases page,
    fun f => Page.belongsTo_of_mem_findings, (InlineStyle.ascending_findings page).ordered,
    (StyleBlock.ascending_findings page).ordered,
    List.forall_mem_append.2 ⟨fun f hf => ?_, fun f hf => ?_⟩⟩
  · obtain ⟨line, kind, value, message, hkind, -, rfl⟩ := InlineStyle.exists_of_mem_findings hf
    exact hkind
  · obtain ⟨line, value, message, -, rfl⟩ := StyleBlock.exists_of_mem_findings hf
    rfl
  · obtain ⟨line, kind, value, message, -, hvalue, rfl⟩ := InlineStyle.exists_of_mem_findings hf
    exact hvalue
  · obtain ⟨line, value, message, hvalue, rfl⟩ := StyleBlock.exists_of_mem_findings hf
    exact hvalue

end DesignLint
