import DesignLint.Check.InlineStyle
import DesignLint.Proofs.Text.Lines
import DesignLint.Proofs.Text.Reading

/-! # Which style attributes are checked

The check of inline styles inspects the attributes of a page and nothing else. `Attribute` says what
an attribute is; the text of a page has one split into attributes and gaps, and the findings are
those about the values of its attributes, in order (`inspect_eq_valueFindings`). -/

namespace DesignLint.InlineStyle

open Text

/-- A style attribute with its value: the name `style` in any letter case, an equals sign between
blanks, and the value in double quotes. -/
def Attribute : Grammar Text := fun body value _ =>
  ∃ name before after, Spells "style".toList name ∧ (∀ c ∈ before, isBlank c = true) ∧
    (∀ c ∈ after, isBlank c = true) ∧ '"' ∉ value ∧
    body = name ++ before ++ '=' :: (after ++ '"' :: (value ++ ['"']))

/-- The pattern of attributes reads just these. -/
theorem reads_styleAttribute : Reads styleAttribute Attribute where
  eq_some_iff s value rest := by
    have hequals : isBlank '=' = false := by decide
    have hquote : isBlank '"' = false := by decide
    simp only [styleAttribute, Option.bind_eq_bind, Option.bind_eq_some_iff, dropBlanks,
      after?_anyCase_eq_some_iff, after?_dropWhile_eq_some_iff hequals,
      after?_dropWhile_eq_some_iff hquote, after?_dropWhile_ne_eq_some_iff, Option.pure_def,
      Option.some_inj, Prod.mk.injEq]
    constructor
    · rintro ⟨_, ⟨name, hname, rfl⟩, _, ⟨before, hbefore, rfl⟩, _, ⟨after, hafter, rfl⟩, _,
        ⟨value, hvalue, rfl⟩, rfl, rfl⟩
      rw [takeWhile_ne_append_cons hvalue]
      refine ⟨_, ?_, name, before, after, hname, hbefore, hafter, hvalue, rfl⟩
      simp only [List.append_assoc, List.cons_append, List.nil_append]
    · rintro ⟨_, rfl, name, before, after, hname, hbefore, hafter, hvalue, rfl⟩
      refine ⟨_, ⟨name, hname, ?_⟩, _, ⟨before, hbefore, rfl⟩, _, ⟨after, hafter, rfl⟩, rest,
        ⟨value, hvalue, rfl⟩, takeWhile_ne_append_cons hvalue, rfl⟩
      simp only [List.append_assoc, List.cons_append, List.nil_append]
  body_ne_nil body value rest h := by
    obtain ⟨name, before, after, -, -, -, -, rfl⟩ := h
    simp

/-- The findings of the rules that do not ask for the palette. -/
def otherFindings (page : Page) (style : Text) (line : Int) : List Finding :=
  rgbFindings page style line ++
    if usesToken style then []
    else fontFindings page style line ++ shadowFindings page style line ++
      radiusFindings page style line

/-- The findings of the colour rule come first. -/
theorem valueFindings_eq (page : Page) (style : Text) (line : Int) :
    valueFindings page style line
      = colorFindings page style line ++ otherFindings page style line :=
  List.append_assoc _ _ _

/-- A call is read off the head of a text. -/
theorem isPrefix_of_rgbCall {s call rest : Text} (h : rgbCall s = some (call, rest)) :
    call <+: s := by
  simp only [rgbCall, Option.bind_eq_bind, Option.bind_eq_some_iff] at h
  obtain ⟨afterName, -, arguments, -, h⟩ := h
  split at h
  · exact nomatch h
  · obtain ⟨behind, -, h⟩ := Option.bind_eq_some_iff.1 h
    obtain ⟨rfl, -⟩ := Prod.mk.inj (Option.some_inj.1 h)
    exact List.take_prefix _ _

/-- A declaration is read off the head of a text. -/
theorem isPrefix_of_declaration {property s rest : Text} {found : Declaration}
    (h : declaration property s = some (found, rest)) : found.whole <+: s := by
  simp only [declaration, Option.bind_eq_bind, Option.bind_eq_some_iff] at h
  obtain ⟨afterName, -, afterColon, -, h⟩ := h
  split at h
  · exact nomatch h
  · obtain ⟨rfl, -⟩ := Prod.mk.inj (Option.some_inj.1 h)
    exact List.take_prefix _ _

/-- **A finding of the other rules** is about a part of the style value, and about something else
than a colour outside the palette. -/
theorem exists_of_mem_otherFindings {page : Page} {style : Text} {line : Int} {f : Finding}
    (hf : f ∈ otherFindings page style line) :
    ∃ kind value message,
      kind ∈ [FindingKind.rgbColor, .hardcodedFont, .hardcodedShadow, .hardcodedRadius] ∧
      value <:+: style ∧ f = page.finding line kind value message := by
  have hdeclared {property : Text} {found : Declaration}
      (h : find? (declaration property) style = some found) : found.whole <:+: style :=
    isInfix_of_find?_eq_some (fun _ _ _ => isPrefix_of_declaration) h
  rcases List.mem_append.1 hf with hrgb | hrest
  · obtain ⟨call, hcall, rfl⟩ := Option.map_eq_some_iff.1 (Option.mem_toList.1 hrgb)
    have hpart : call <:+: style :=
      isInfix_of_find?_eq_some (fun _ _ _ => isPrefix_of_rgbCall) hcall
    exact ⟨.rgbColor, _, _, by decide, hpart, rfl⟩
  · split at hrest
    · exact absurd hrest List.not_mem_nil
    · rw [List.mem_append, List.mem_append] at hrest
      rcases hrest with (hfont | hshadow) | hradius
      · obtain ⟨font, hfound, rfl⟩ := Option.map_eq_some_iff.1 (Option.mem_toList.1 hfont)
        exact ⟨.hardcodedFont, _, _, by decide, hdeclared hfound, rfl⟩
      · obtain ⟨shadow, hfound, rfl⟩ := Option.map_eq_some_iff.1 (Option.mem_toList.1 hshadow)
        exact ⟨.hardcodedShadow, _, _, by decide, hdeclared hfound, rfl⟩
      · rw [radiusFindings] at hradius
        split at hradius
        · exact absurd hradius List.not_mem_nil
        · rename_i radius hfound
          split at hradius
          · exact absurd hradius List.not_mem_nil
          · rw [List.mem_singleton.1 hradius]
            exact ⟨.hardcodedRadius, _, _, by decide, hdeclared hfound, rfl⟩

/-- A finding about a style value is one of the colour rule, or it is about something else than a
colour outside the palette. -/
theorem mem_valueFindings_cases {page : Page} {style : Text} {line : Int} {f : Finding}
    (hf : f ∈ valueFindings page style line) :
    f ∈ colorFindings page style line ∨ ∃ kind value message, kind ≠ FindingKind.unknownColor ∧
      f = page.finding line kind value message := by
  rw [valueFindings_eq, List.mem_append] at hf
  rcases hf with hcolor | hother
  · exact .inl hcolor
  · obtain ⟨kind, value, message, hkind, -, rfl⟩ := exists_of_mem_otherFindings hother
    exact .inr ⟨kind, value, message, ne_of_mem_of_not_mem hkind (by decide), rfl⟩

/-- Every finding about a style value is reported on the line of its attribute. -/
theorem line_of_mem_valueFindings {page : Page} {style : Text} {line : Int} {f : Finding}
    (hf : f ∈ valueFindings page style line) : f.line = line := by
  rcases mem_valueFindings_cases hf with hcolor | ⟨kind, value, message, -, rfl⟩
  · obtain ⟨color, -, rfl⟩ := List.mem_map.1 hcolor
    rfl
  · rfl

/-- A split into attributes gives the findings. -/
theorem findings_eq_of_splits {page : Page} {split : Split Text}
    (hsplit : Splits Attribute page.text split) :
    findings page = (placed [] split.pieces).flatMap fun (front, piece) =>
      valueFindings page piece.value (front.count '\n' + 1 : Nat) := by
  rw [findings, reads_styleAttribute.findAll_eq hsplit, List.flatMap_map]
  refine List.flatMap_congr fun ⟨front, piece⟩ hmem => ?_
  obtain ⟨rest, htext, -⟩ := hsplit.mem_placed hmem
  rw [List.nil_append] at htext
  show valueFindings page piece.value (lineAt page.text front.length) = _
  rw [htext, lineAt_length]

/-- **The check inspects the attributes of a page and nothing else.** The text of a page has exactly
one split into gaps and attributes where no attribute begins in a gap. The findings are those about
the values of its attributes, in order, and those about an attribute behind `front` are all reported
on the line where it begins. -/
theorem inspect_eq_valueFindings (page : Page) :
    ∃ split : Split Text, Splits Attribute page.text split ∧
      (∀ other, Splits Attribute page.text other → other = split) ∧
      check.inspect page = .ok ((placed [] split.pieces).flatMap fun (front, piece) =>
        valueFindings page piece.value (front.count '\n' + 1 : Nat)) ∧
      ∀ front piece, (front, piece) ∈ placed [] split.pieces →
        (∃ rest, page.text = front ++ (piece.body ++ rest)) ∧
        ∀ f ∈ valueFindings page piece.value (front.count '\n' + 1 : Nat),
          f.line = front.count '\n' + 1 := by
  obtain ⟨split, hsplit⟩ := reads_styleAttribute.exists_splits page.text
  refine ⟨split, hsplit, fun other hother => reads_styleAttribute.splits_unique hother hsplit,
    congrArg Except.ok (findings_eq_of_splits hsplit), fun front piece hmem => ⟨?_, ?_⟩⟩
  · obtain ⟨rest, htext, -⟩ := hsplit.mem_placed hmem
    rw [List.nil_append] at htext
    exact ⟨rest, htext⟩
  · intro f hf
    rw [line_of_mem_valueFindings hf, Int.natCast_add, Int.natCast_one]

end DesignLint.InlineStyle
