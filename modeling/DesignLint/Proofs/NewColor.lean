import DesignLint.Proofs.Palette
import DesignLint.Proofs.Scan

/-! # Declaring a colour that was reported

A colour that a check reports can be declared in the `:root` block of the stylesheet, right behind
the opening brace. This allows the colour and no other one:

* `Palette.FirstBlock.replace_body`: the block stays the first one, whatever its body;
* `Palette.declared_declaration`: its colours are those from before and the new one;
* `Page.reported_of_isColor`: what a finding about a colour reports;
* `scan_of_declared`: the next scan withdraws the findings about this colour. -/

namespace DesignLint

open Text HexColor

/-! ## One more declaration -/

namespace Palette

/-- A declaration of a custom property with a colour as its value. -/
def declaration (color : Text) : Text := "--x: ".toList ++ (color ++ [';'])

/-- A declaration is some text. -/
theorem declaration_ne_nil (color : Text) : declaration color ≠ [] :=
  List.append_ne_nil_of_right_ne_nil _ (List.append_ne_nil_of_right_ne_nil _ (List.cons_ne_nil _ _))

/-- A declaration does not end a block. -/
theorem not_mem_declaration {color : Text} (h : IsLiteral color) : '}' ∉ declaration color := by
  obtain ⟨run, rfl, hdigits, -, -⟩ := h
  have hrun : '}' ∉ run := fun hmem => absurd (hdigits _ hmem) (by decide)
  show '}' ∉ "--x: ".toList ++ ('#' :: (run ++ [';']))
  rw [List.mem_append, List.mem_cons, List.mem_append]
  rintro (hfront | hhash | hmem | hend)
  · exact absurd hfront (by decide)
  · exact absurd hhash (by decide)
  · exact hrun hmem
  · exact absurd hend (by decide)

/-- A declaration in front of some text declares one more colour. -/
theorem hexColors_declaration {color : Text} (h : IsLiteral color) (rest : Text) :
    hexColors (declaration color ++ rest) = upper color :: hexColors rest := by
  have happend : declaration color ++ rest = "--x: ".toList ++ (color ++ ';' :: rest) :=
    calc declaration color ++ rest
      _ = "--x: ".toList ++ (color ++ [';'] ++ rest) := List.append_assoc _ _ _
      _ = "--x: ".toList ++ (color ++ ';' :: rest) :=
        congrArg _ (List.append_assoc color [';'] rest)
  rw [hexColors, happend, literals_append_cons (by decide) h (by decide) (by decide),
    List.map_cons, hexColors]

/-- **Whether a block begins in front of a body** does not depend on the body, as long as it is not
empty and holds no closing brace. -/
theorem begins_rootBlock_replace {front body rest body' : Text} (hne : body' ≠ [])
    (hclose : '}' ∉ body') (rest' : Text)
    (h : Begins RootBlock (front ++ '{' :: (body ++ '}' :: rest))) :
    Begins RootBlock (front ++ '{' :: (body' ++ '}' :: rest')) := by
  obtain ⟨_, inner, behind, htext, blanks, hblanks, hinner, hclosed, rfl⟩ := h
  have hopen : '{' ∉ ":root".toList ++ blanks := by
    rw [List.mem_append, not_or]
    exact ⟨by decide, fun hmem => absurd (hblanks _ hmem) (by decide)⟩
  have hhead : front ++ '{' :: (body ++ '}' :: rest)
      = (":root".toList ++ blanks) ++ '{' :: (inner ++ '}' :: behind) := by
    rw [htext]
    simp only [List.append_assoc, List.cons_append, List.nil_append]
  by_cases hfront : '{' ∈ front
  · -- The block that begins has its brace in `front`, so its body begins there.
    obtain ⟨head, between, rfl, hbrace⟩ := List.eq_append_cons_of_mem hfront
    rw [List.append_assoc, List.cons_append, append_cons_inj hbrace hopen] at hhead
    obtain ⟨rfl, hbody⟩ := hhead
    by_cases hbetween : '}' ∈ between
    · -- It ends in `front` as well.
      obtain ⟨inner', more, rfl, hbrace'⟩ := List.eq_append_cons_of_mem hbetween
      rw [List.append_assoc, List.cons_append, append_cons_inj hbrace' hclosed] at hbody
      obtain ⟨rfl, -⟩ := hbody
      refine ⟨_, inner', more ++ '{' :: (body' ++ '}' :: rest'), ?_, blanks, hblanks, hinner,
        hclosed, rfl⟩
      simp only [List.append_assoc, List.cons_append, List.nil_append]
    · -- It goes on to the closing brace behind the body.
      refine ⟨_, between ++ '{' :: body', rest', ?_, blanks, hblanks, ?_, ?_, rfl⟩
      · simp only [List.append_assoc, List.cons_append, List.nil_append]
      · exact List.append_ne_nil_of_right_ne_nil _ (List.cons_ne_nil _ _)
      · rw [List.mem_append, List.mem_cons]
        rintro (hmem | hmem | hmem)
        · exact hbetween hmem
        · exact absurd hmem (by decide)
        · exact hclose hmem
  · -- The block that begins is the one with the body.
    rw [append_cons_inj hfront hopen] at hhead
    obtain ⟨rfl, -⟩ := hhead
    refine ⟨_, body', rest', ?_, blanks, hblanks, hne, hclose, rfl⟩
    simp only [List.append_assoc, List.cons_append, List.nil_append]

/-- **A block whose body is replaced** stays the first one. -/
theorem FirstBlock.replace_body {css gap blanks body rest body' : Text}
    (hblanks : ∀ c ∈ blanks, isBlank c = true)
    (h : FirstBlock css gap (":root".toList ++ (blanks ++ '{' :: (body ++ ['}']))) body rest)
    (hne : body' ≠ []) (hclose : '}' ∉ body') :
    FirstBlock (gap ++ (":root".toList ++ (blanks ++ '{' :: (body' ++ '}' :: rest)))) gap
      (":root".toList ++ (blanks ++ '{' :: (body' ++ ['}']))) body' rest where
  text := by simp only [List.append_assoc, List.cons_append, List.nil_append]
  occurs := ⟨blanks, hblanks, hne, hclose, rfl⟩
  free front back hgap hback begins := by
    -- A block that begins in the gap would begin there with the old body too.
    have hnew : Begins RootBlock
        ((back ++ (":root".toList ++ blanks)) ++ '{' :: (body' ++ '}' :: rest)) := by
      simpa only [List.append_assoc, List.cons_append, List.nil_append] using begins
    obtain ⟨_, -, hne', hclose', -⟩ := h.occurs
    have hold := begins_rootBlock_replace hne' hclose' rest hnew
    refine h.free front back hgap hback ?_
    simpa only [List.append_assoc, List.cons_append, List.nil_append] using hold

/-- A stylesheet with a declaration behind the opening brace of its first block declares one more
colour. -/
theorem declared_declaration {css gap blanks body rest color : Text}
    (hblanks : ∀ c ∈ blanks, isBlank c = true)
    (h : FirstBlock css gap (":root".toList ++ (blanks ++ '{' :: (body ++ ['}']))) body rest)
    (hcolor : IsLiteral color) :
    declared (gap ++ (":root".toList ++
        (blanks ++ '{' :: (declaration color ++ body ++ '}' :: rest))))
      = upper color :: declared css := by
  have hclosed : '}' ∉ declaration color ++ body := by
    obtain ⟨_, -, -, hclose, -⟩ := h.occurs
    rw [List.mem_append, not_or]
    exact ⟨not_mem_declaration hcolor, hclose⟩
  have hne : declaration color ++ body ≠ [] :=
    List.append_ne_nil_of_left_ne_nil (declaration_ne_nil color) body
  have hnew := rootBlock?_eq_some_iff.2 ⟨_, _, _, h.replace_body hblanks hne hclosed⟩
  have hold := rootBlock?_eq_some_iff.2 ⟨_, _, _, h⟩
  rw [declared, declared, hnew, hold]
  exact hexColors_declaration hcolor body

end Palette

/-! ## What is reported -/

/-- The colours that a palette does not allow are those whose upper-case form it lacks. -/
theorem Palette.mem_filter_not_allows {p : Palette} {colors : List Text} {color : Text} :
    color ∈ colors.filter (!p.allows ·) ↔ color ∈ colors ∧ upper color ∉ p.colors := by
  rw [List.mem_filter, Bool.not_eq_true', ← Bool.not_eq_true, Palette.allows_iff]

/-- A colour of a style attribute is reported as a literal that the palette lacks. -/
theorem InlineStyle.reported_of_isColor {page : Page} {f : Finding} (hf : f ∈ findings page)
    (hcolor : f.IsColor) : IsLiteral f.value ∧ upper f.value ∉ page.palette.colors := by
  obtain ⟨found, -, hvalue⟩ := List.mem_flatMap.1 hf
  rw [valueFindings_eq, List.mem_append] at hvalue
  rcases hvalue with hrule | hother
  · obtain ⟨color, hmem, rfl⟩ := List.mem_map.1 hrule
    obtain ⟨hliteral, hlacks⟩ := Palette.mem_filter_not_allows.1 hmem
    exact ⟨isLiteral_of_mem_literals hliteral, hlacks⟩
  · exact absurd hcolor (not_isColor_of_mem_otherFindings hother)

/-- So is a colour of a style block. -/
theorem StyleBlock.reported_of_mem_findings {page : Page} {f : Finding} (hf : f ∈ findings page) :
    IsLiteral f.value ∧ upper f.value ∉ page.palette.colors := by
  obtain ⟨found, -, hbody⟩ := List.mem_flatMap.1 hf
  rw [bodyFindings_eq_blockFindings] at hbody
  obtain ⟨⟨line, number⟩, -, hcolor⟩ := List.mem_flatMap.1 hbody
  have hline : f ∈ lineFindings page number line := by
    rw [lineFindings_eq_colorFindings]
    exact hcolor
  rw [lineFindings] at hline
  split at hline
  · exact absurd hline List.not_mem_nil
  · obtain ⟨color, hmem, rfl⟩ := List.mem_map.1 hline
    obtain ⟨hliteral, hlacks⟩ := Palette.mem_filter_not_allows.1 hmem
    exact ⟨isLiteral_of_mem_wholeLiterals hliteral, hlacks⟩

/-- **A finding about a colour** reports a literal that the palette lacks. -/
theorem Page.reported_of_isColor {page : Page} {f : Finding} (hf : f ∈ page.findings)
    (hcolor : f.IsColor) : IsLiteral f.value ∧ upper f.value ∉ page.palette.colors := by
  rw [findings, List.mem_append, List.mem_append, List.mem_append] at hf
  rcases hf with hinline | hblock | hsheet | hfont
  · exact InlineStyle.reported_of_isColor hinline hcolor
  · exact StyleBlock.reported_of_mem_findings hblock
  · exact absurd hcolor (RequiredAsset.not_isColor_of_mem_sheetFindings hsheet)
  · exact absurd hcolor (RequiredAsset.not_isColor_of_mem_fontFindings hfont)

/-! ## The next scan -/

/-- A palette with one more colour settles, of the findings under the old one, those about this
colour. -/
theorem Page.findings_of_new_color {page : Page} {q : Palette} {new : Text}
    (hq : ∀ color, color ∈ q.colors ↔ color ∈ page.palette.colors ∨ color = new) :
    (page.withPalette q).findings
      = page.findings.filter (fun f => ¬ (f.IsColor ∧ upper f.value = new)) := by
  have hsubset : page.palette.colors ⊆ q.colors := fun color hmem => (hq color).2 (.inl hmem)
  have hlarger : (page.withPalette q).findings = page.findings.filter (¬ q.Settles ·) :=
    page.findings_withPalette hsubset
  rw [hlarger]
  refine List.filter_congr fun f hf => decide_eq_decide.2 (not_congr ?_)
  refine and_congr_right fun hcolor => ?_
  -- The old palette lacks every colour that is reported under it.
  obtain ⟨-, hlacks⟩ := Page.reported_of_isColor hf hcolor
  rw [hq, or_iff_right hlacks]

/-- **Declaring a reported colour settles the findings about it** and nothing else. A stylesheet
with a `:root` block is given a declaration of the colour, right behind the opening brace of that
block. This adds just the upper-case form of the colour to the palette, which lacked it, and the
scan of the page has the same findings as before, without those about this colour. -/
theorem scan_of_declared {css body : Text} (hbody : Palette.rootBlock? css = some body)
    (always : List Text) (name text : Text) (config : Config) :
    ∃ gap blanks rest,
      Palette.FirstBlock css gap (":root".toList ++ (blanks ++ '{' :: (body ++ ['}']))) body rest ∧
      ∃ found, scan ⟨name, text, .ofStylesheet css always, config⟩ Registry.builtin.checks
          = .ok found ∧
        ∀ v ∈ found, v.IsColor →
          let edited := gap ++ (":root".toList ++ (blanks ++ '{' ::
            ("--x: ".toList ++ (v.value ++ [';']) ++ body ++ '}' :: rest)))
          upper v.value ∉ (Palette.ofStylesheet css always).colors ∧
          (∀ color, color ∈ (Palette.ofStylesheet edited always).colors ↔
            color ∈ (Palette.ofStylesheet css always).colors ∨ color = upper v.value) ∧
          scan ⟨name, text, .ofStylesheet edited always, config⟩ Registry.builtin.checks
            = .ok (found.filter fun f => ¬ (f.IsColor ∧ upper f.value = upper v.value)) := by
  obtain ⟨gap, block, rest, hfirst⟩ := Palette.rootBlock?_eq_some_iff.1 hbody
  obtain ⟨blanks, hblanks, -, -, rfl⟩ := hfirst.occurs
  refine ⟨gap, blanks, rest, hfirst, _, scan_builtin _, fun v hv hcolor => ?_⟩
  obtain ⟨hliteral, hlacks⟩ := Page.reported_of_isColor hv hcolor
  intro edited
  have hdeclared : Palette.declared edited = upper v.value :: Palette.declared css :=
    Palette.declared_declaration hblanks hfirst hliteral
  have hcolors (color : Text) : color ∈ (Palette.ofStylesheet edited always).colors ↔
      color ∈ (Palette.ofStylesheet css always).colors ∨ color = upper v.value := by
    rw [Palette.mem_ofStylesheet, Palette.mem_ofStylesheet, hdeclared, List.mem_cons,
      or_comm (a := color = _), or_assoc]
  refine ⟨hlacks, hcolors, ?_⟩
  rw [← Page.findings_of_new_color hcolors]
  exact scan_builtin _

/-- A colour that is reported in two spellings, and a stylesheet whose first `:root` has no body. -/
theorem scan_of_declared_two_spellings :
    let css := ":root \x7b\x7d :root \x7ba: #FFF\x7d".toList
    let body := "a: #FFF".toList
    let text := "<p style=\"fill: #abc\"><style>a #ABC\nb #ABCD</style>".toList
    let config : Config := { requiredSheets := [], fontSpellings := [[]] }
    Palette.rootBlock? css = some body ∧ ∃ gap blanks rest,
      Palette.FirstBlock css gap (":root".toList ++ (blanks ++ '{' :: (body ++ ['}']))) body rest ∧
      let edited := gap ++ (":root".toList ++ (blanks ++ '{' ::
        ("--x: ".toList ++ ("#abc".toList ++ [';']) ++ body ++ '}' :: rest)))
      ∃ found left,
        scan ⟨[], text, .ofStylesheet css [], config⟩ Registry.builtin.checks = .ok found ∧
        found.map (·.value) = ["#abc", "#ABC", "#ABCD"].map String.toList ∧
        scan ⟨[], text, .ofStylesheet edited [], config⟩ Registry.builtin.checks = .ok left ∧
        left.map (·.value) = ["#ABCD".toList] := by
  intro css body text config
  have hbody : Palette.rootBlock? css = some body := by decide
  obtain ⟨gap, blanks, rest, hfirst, found, hfound, hnext⟩ :=
    scan_of_declared hbody [] [] text config
  have hpage : (⟨[], text, .ofStylesheet css [], config⟩ : Page).findings = found := by
    rw [scan_builtin, Except.ok.injEq] at hfound
    exact hfound
  have hreported : ∃ v ∈ found, v.IsColor ∧ v.value = "#abc".toList := by
    rw [← hpage]
    decide +kernel
  obtain ⟨v, hv, hcolor, hvalue⟩ := hreported
  obtain ⟨-, -, hleft⟩ := hnext v hv hcolor
  rw [hvalue] at hleft
  refine ⟨hbody, gap, blanks, rest, hfirst, found, _, hfound, ?_, hleft, ?_⟩
  · rw [← hpage]
    decide +kernel
  · rw [← hpage]
    decide +kernel

end DesignLint
