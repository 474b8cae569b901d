import DesignLint.Proofs.InlineStyle.Rules

/-! # Which declarations are reported

A finding about a font family, a shadow or a radius is about the first declaration of the property.
That declaration decides alone: it is reported even if its value is blank, and if it is a radius
that needs no token, no other radius of the style value is reported:

* `exists_mem_iff_first`: the findings about a property, told by its first declaration;
* `first_append_semicolon`: the first declaration stays the first whatever is declared behind it;
* `blank_finding_iff`: a value of blanks is reported just when the first declaration has one;
* `hardcodedRadius_iff_first`: a radius is reported just when the first one needs a token. -/

namespace DesignLint.InlineStyle

open Text

/-- The property that findings of a kind are about. -/
def property? : FindingKind → Option Text
  | .hardcodedFont => some "font-family".toList
  | .hardcodedShadow => some "box-shadow".toList
  | .hardcodedRadius => some "border-radius".toList
  | _ => none

/-- What stands behind the first colon of a text. -/
def behindColon (s : Text) : Text := (s.dropWhile (· != ':')).drop 1

/-- A style value declares a property somewhere. -/
def Declares (property style : Text) (d : Declaration) : Prop :=
  ∃ front body rest, style = front ++ (body ++ rest) ∧ Declared property body d rest

/-! ## The declaration that is reported -/

section

variable {page : Page} {style : Text} {line : Int} {f : Finding}

/-- The findings about a style value, rule by rule. -/
theorem mem_valueFindings_iff :
    f ∈ valueFindings page style line ↔ f ∈ colorFindings page style line ∨
      f ∈ rgbFindings page style line ∨ ¬ "var(".toList <:+: style ∧
        (f ∈ fontFindings page style line ∨ f ∈ shadowFindings page style line ∨
          f ∈ radiusFindings page style line) := by
  have huses : usesToken style = true ↔ "var(".toList <:+: style := occurs_iff_isInfix
  rw [valueFindings, List.mem_append, List.mem_append, or_assoc, List.mem_ite_nil_left, huses,
    List.mem_append, List.mem_append, or_assoc]

/-- The findings of a rule that reports the first occurrence in one finding. -/
theorem mem_toList_map_iff {α : Type} {p : Pattern α} {G : Grammar α} (h : Reads p G)
    {report : α → Finding} :
    f ∈ ((find? p style).map report).toList ↔ ∃ value, First G style value ∧ report value = f := by
  rw [Option.mem_toList, Option.map_eq_some_iff]
  constructor
  · rintro ⟨value, hfind, hreport⟩
    exact ⟨value, h.find?_eq_some_iff.1 hfind, hreport⟩
  · rintro ⟨value, hfirst, hreport⟩
    exact ⟨value, h.find?_eq_some_iff.2 hfirst, hreport⟩

/-- The findings of the rule of font families. -/
theorem mem_fontFindings_iff :
    f ∈ fontFindings page style line ↔
      ∃ d, First (Declared "font-family".toList) style d ∧
        page.finding line .hardcodedFont d.whole
          "Font should come from styles.css, not inline".toList = f :=
  mem_toList_map_iff (reads_declaration _)

/-- The findings of the rule of shadows. -/
theorem mem_shadowFindings_iff :
    f ∈ shadowFindings page style line ↔
      ∃ d, First (Declared "box-shadow".toList) style d ∧
        page.finding line .hardcodedShadow d.whole
          "Use var(--shadow-sm/md/lg) instead of hardcoded shadow".toList = f :=
  mem_toList_map_iff (reads_declaration _)

/-- The findings of the rule of radii. -/
theorem mem_radiusFindings_iff :
    f ∈ radiusFindings page style line ↔
      ∃ d, First (Declared "border-radius".toList) style d ∧ strip d.value ∉ allowedRadii ∧
        page.finding line .hardcodedRadius d.whole
          "Use var(--radius-sm/md/lg/xl/full) instead".toList = f := by
  have hreads := reads_declaration "border-radius".toList
  rw [radiusFindings]
  constructor
  · intro hf
    split at hf
    · exact absurd hf List.not_mem_nil
    · rename_i d hfind
      split at hf
      · exact absurd hf List.not_mem_nil
      · rename_i hallowed
        exact ⟨d, hreads.find?_eq_some_iff.1 hfind, hallowed, (List.mem_singleton.1 hf).symm⟩
  · rintro ⟨d, hfirst, hallowed, rfl⟩
    rw [hreads.find?_eq_some_iff.2 hfirst]
    simp [hallowed]

end

/-- **The findings about a property** are told by its first declaration. -/
theorem exists_mem_iff_first {kind : FindingKind} {property : Text}
    (hkind : property? kind = some property) (page : Page) (style : Text) (line : Int)
    (value : Text) :
    (∃ f ∈ valueFindings page style line, f.kind = kind ∧ f.value = value) ↔
      ¬ "var(".toList <:+: style ∧ ∃ d, First (Declared property) style d ∧ d.whole = value ∧
        (kind = .hardcodedRadius → strip d.value ∉ allowedRadii) := by
  constructor
  · rintro ⟨f, hf, rfl, rfl⟩
    rcases mem_valueFindings_iff.1 hf with hcolor | hcall | ⟨hvar, hdeclared⟩
    · obtain ⟨color, -, rfl⟩ := List.mem_map.1 hcolor
      exact nomatch hkind
    · obtain ⟨call, -, rfl⟩ := (mem_toList_map_iff reads_rgbCall).1 hcall
      exact nomatch hkind
    · refine ⟨hvar, ?_⟩
      rcases hdeclared with hfont | hshadow | hradius
      · obtain ⟨d, hfirst, rfl⟩ := mem_fontFindings_iff.1 hfont
        obtain rfl := Option.some_inj.1 hkind
        exact ⟨d, hfirst, rfl, nofun⟩
      · obtain ⟨d, hfirst, rfl⟩ := mem_shadowFindings_iff.1 hshadow
        obtain rfl := Option.some_inj.1 hkind
        exact ⟨d, hfirst, rfl, nofun⟩
      · obtain ⟨d, hfirst, hallowed, rfl⟩ := mem_radiusFindings_iff.1 hradius
        obtain rfl := Option.some_inj.1 hkind
        exact ⟨d, hfirst, rfl, fun _ => hallowed⟩
  · rintro ⟨hvar, d, hfirst, rfl, hallowed⟩
    have hreported {f : Finding} (hf : f ∈ fontFindings page style line ∨
        f ∈ shadowFindings page style line ∨ f ∈ radiusFindings page style line)
        (htold : f.kind = kind ∧ f.value = d.whole) :
        ∃ f ∈ valueFindings page style line, f.kind = kind ∧ f.value = d.whole :=
      ⟨f, mem_valueFindings_iff.2 (.inr (.inr ⟨hvar, hf⟩)), htold⟩
    cases kind with
    | hardcodedFont =>
      obtain rfl := Option.some_inj.1 hkind
      exact hreported (.inl (mem_fontFindings_iff.2 ⟨d, hfirst, rfl⟩)) ⟨rfl, rfl⟩
    | hardcodedShadow =>
      obtain rfl := Option.some_inj.1 hkind
      exact hreported (.inr (.inl (mem_shadowFindings_iff.2 ⟨d, hfirst, rfl⟩))) ⟨rfl, rfl⟩
    | hardcodedRadius =>
      obtain rfl := Option.some_inj.1 hkind
      exact hreported (.inr (.inr (mem_radiusFindings_iff.2 ⟨d, hfirst, hallowed rfl, rfl⟩)))
        ⟨rfl, rfl⟩
    | unknownColor | rgbColor | unknownColorInStyle | missingStylesheet | missingFont =>
      exact nomatch hkind

/-! ## Blank values -/

/-- The name of a property that findings are about holds neither a colon nor a semicolon. -/
theorem not_mem_of_property? {kind : FindingKind} {property : Text}
    (hkind : property? kind = some property) : ':' ∉ property ∧ ';' ∉ property := by
  cases kind with
  | hardcodedFont | hardcodedShadow | hardcodedRadius =>
    obtain rfl := Option.some_inj.1 hkind
    decide
  | unknownColor | rgbColor | unknownColorInStyle | missingStylesheet | missingFont =>
    exact nomatch hkind

/-- **What stands behind the first colon** of a declaration is its value. -/
theorem Declared.behindColon {property body rest : Text} {d : Declaration}
    (h : Declared property body d rest) (hproperty : ':' ∉ property) :
    behindColon d.whole = d.value := by
  obtain ⟨hwhole, blanks, hblanks, -, -, -, rfl⟩ := h
  have hnone : ':' ∉ property ++ blanks := by
    rw [List.mem_append]
    rintro (hmem | hmem)
    · exact hproperty hmem
    · exact absurd (hblanks ':' hmem) (by decide)
  have hdrop : (property ++ blanks ++ ':' :: d.value).dropWhile (· != ':') = ':' :: d.value :=
    dropWhile_append_cons (fun c hc => bne_iff_ne.2 fun h => hnone (h ▸ hc)) (by simp)
  rw [InlineStyle.behindColon, hwhole, ← List.append_assoc, hdrop, List.drop_succ_cons,
    List.drop_zero]

/-- **A value of blanks is reported just when the first declaration has one.** Every finding about a
font family, a shadow or a radius is about the first declaration of the property. What stands behind
the first colon of the text at fault is the value of this declaration, which has a character at
least. All its characters may be blanks: such a finding is reported just when the style value holds
no `var(` and the value of the first declaration is blank. -/
theorem blank_finding_iff (page : Page) (style : Text) (line : Int) :
    (∀ f ∈ valueFindings page style line, ∀ property, property? f.kind = some property →
      ∃ d, First (Declared property) style d ∧ f.value = d.whole ∧ behindColon f.value = d.value ∧
        d.value ≠ []) ∧
    ∀ kind property, property? kind = some property →
      ((∃ f ∈ valueFindings page style line, f.kind = kind ∧
          ∀ c ∈ behindColon f.value, isBlank c = true) ↔
        ¬ "var(".toList <:+: style ∧
          ∃ d, First (Declared property) style d ∧ ∀ c ∈ d.value, isBlank c = true) := by
  have hbehind {kind : FindingKind} {property : Text} (hkind : property? kind = some property)
      {d : Declaration} (hfirst : First (Declared property) style d) :
      behindColon d.whole = d.value ∧ d.value ≠ [] := by
    obtain ⟨gap, body, rest, -, hdeclared, -⟩ := hfirst
    refine ⟨hdeclared.behindColon (not_mem_of_property? hkind).1, ?_⟩
    obtain ⟨-, blanks, -, hne, -⟩ := hdeclared
    exact hne
  refine ⟨fun f hf property hkind => ?_, fun kind property hkind => ⟨?_, ?_⟩⟩
  · obtain ⟨-, d, hfirst, hwhole, -⟩ :=
      (exists_mem_iff_first hkind page style line _).1 ⟨f, hf, rfl, rfl⟩
    obtain ⟨hcolon, hne⟩ := hbehind hkind hfirst
    exact ⟨d, hfirst, hwhole.symm, hwhole ▸ hcolon, hne⟩
  · rintro ⟨f, hf, hfkind, hblank⟩
    obtain ⟨hvar, d, hfirst, hwhole, -⟩ :=
      (exists_mem_iff_first hkind page style line _).1 ⟨f, hf, hfkind, rfl⟩
    rw [← hwhole, (hbehind hkind hfirst).1] at hblank
    exact ⟨hvar, d, hfirst, hblank⟩
  · rintro ⟨hvar, d, hfirst, hblank⟩
    -- A blank radius is none of those that need no token, since nothing is left of it.
    have hallowed : kind = .hardcodedRadius → strip d.value ∉ allowedRadii := by
      intro _
      rw [strip_eq_nil hblank]
      decide
    obtain ⟨f, hf, hfkind, hvalue⟩ := (exists_mem_iff_first hkind page style line _).2
      ⟨hvar, d, hfirst, rfl, hallowed⟩
    refine ⟨f, hf, hfkind, ?_⟩
    rw [hvalue, (hbehind hkind hfirst).1]
    exact hblank

/-- **A declaration without a value may be reported**: here a font family, a shadow and a radius
with nothing but a blank behind the colon. -/
theorem exists_blank_findings :
    ∃ page : Page, ∃ style : Text, ∀ kind ∈ [FindingKind.hardcodedFont, .hardcodedShadow,
      .hardcodedRadius], ∃ f ∈ valueFindings page style 1, f.kind = kind ∧
        ¬ ∃ c ∈ behindColon f.value, isBlank c = false := by
  let page : Page := ⟨"page.html".toList, [], .empty, {}⟩
  let style : Text := "font-family: ;box-shadow: ;border-radius: ".toList
  have hkinds : ∀ kind ∈ [FindingKind.hardcodedFont, .hardcodedShadow, .hardcodedRadius],
      ∃ f ∈ valueFindings page style 1, f.kind = kind := by decide +kernel
  have hblank : ∀ f ∈ valueFindings page style 1, (behindColon f.value).all isBlank = true := by
    decide +kernel
  refine ⟨page, style, fun kind hkind => ?_⟩
  obtain ⟨f, hf, hfkind⟩ := hkinds kind hkind
  refine ⟨f, hf, hfkind, ?_⟩
  rintro ⟨c, hc, hsolid⟩
  rw [List.all_eq_true.1 (hblank f hf) c hc] at hsolid
  exact absurd hsolid (by decide)

/-! ## Radii that need a token -/

/-- What begins a style value that goes on with a semicolon begins it without the rest, too. -/
theorem begins_of_begins_append_semicolon {property s : Text} (hproperty : ';' ∉ property)
    (more : Text) (h : Begins (Declared property) (s ++ ';' :: more)) :
    Begins (Declared property) s := by
  obtain ⟨body, d, rest, htext, hdeclared⟩ := h
  obtain ⟨hwhole, blanks, hblanks, hne, hclose, hrest, hbody⟩ := hdeclared
  have hnone : ';' ∉ body := by
    rw [hbody]
    simp only [List.mem_append, List.mem_cons, not_or]
    exact ⟨hproperty, fun hmem => absurd (hblanks ';' hmem) (by decide), by decide, hclose⟩
  rcases List.append_eq_append_iff.1 htext with ⟨cut, rfl, hcut⟩ | ⟨behind, rfl, rfl⟩
  · -- The declaration holds no semicolon, so it ends with the text in front of it.
    cases cut with
    | nil =>
      rw [List.append_nil] at hwhole hbody
      exact ⟨s, d, [], (List.append_nil s).symm, hwhole, blanks, hblanks, hne, hclose, nofun, hbody⟩
    | cons c cut =>
      obtain ⟨rfl, -⟩ := List.cons.inj hcut
      exact absurd (List.mem_append_right s List.mem_cons_self) hnone
  · refine ⟨body, d, behind, rfl, hwhole, blanks, hblanks, hne, hclose, ?_, hbody⟩
    cases behind with
    | nil => exact nofun
    | cons c behind => exact hrest

/-- **The first declaration stays the first** whatever stands behind a further semicolon. -/
theorem first_append_semicolon {property style : Text} (hproperty : ';' ∉ property)
    {d : Declaration} (h : First (Declared property) style d) (more : Text) :
    First (Declared property) (style ++ ';' :: more) d := by
  obtain ⟨gap, body, rest, rfl, ⟨hwhole, blanks, hblanks, hne, hclose, hrest, hbody⟩, free⟩ := h
  have hsemicolon : ∀ c ∈ (rest ++ ';' :: more).head?, c = ';' := by
    cases rest with
    | nil =>
      intro c hc
      exact (Option.some_inj.1 hc).symm
    | cons c rest => exact hrest
  refine ⟨gap, body, rest ++ ';' :: more, ?_,
    ⟨hwhole, blanks, hblanks, hne, hclose, hsemicolon, hbody⟩, ?_⟩
  · simp only [List.append_assoc]
  · intro front back hgap hback hbegins
    refine free front back hgap hback (begins_of_begins_append_semicolon hproperty more ?_)
    simpa only [List.append_assoc] using hbegins

/-- **The first radius decides alone.** A radius is reported just when the style value holds no
`var(` and the first radius is none of those that need no token; then one is also reported whatever
stands behind a further semicolon, as long as no `var(` comes with it. So a style value without
`var(` that declares a radius, be it one that needs a token, goes without a finding about radii just
when the first one needs none. -/
theorem hardcodedRadius_iff_first (page : Page) (style : Text) (line : Int) :
    ((∃ f ∈ valueFindings page style line, f.kind = .hardcodedRadius) ↔
      ¬ "var(".toList <:+: style ∧ ∃ d, First (Declared "border-radius".toList) style d ∧
        strip d.value ∉ allowedRadii) ∧
    (∀ more, (∃ f ∈ valueFindings page style line, f.kind = .hardcodedRadius) →
      ¬ "var(".toList <:+: style ++ ';' :: more →
        ∃ f ∈ valueFindings page (style ++ ';' :: more) line, f.kind = .hardcodedRadius) ∧
    ∀ d, Declares "border-radius".toList style d → ¬ "var(".toList <:+: style →
      ((∀ f ∈ valueFindings page style line, f.kind ≠ .hardcodedRadius) ↔
        ∃ first, First (Declared "border-radius".toList) style first ∧
          strip first.value ∈ allowedRadii) := by
  have hreads := reads_declaration "border-radius".toList
  have hreported (style : Text) :
      (∃ f ∈ valueFindings page style line, f.kind = .hardcodedRadius) ↔
        ¬ "var(".toList <:+: style ∧ ∃ d, First (Declared "border-radius".toList) style d ∧
          strip d.value ∉ allowedRadii := by
    have hkind : property? .hardcodedRadius = some "border-radius".toList := rfl
    constructor
    · rintro ⟨f, hf, hfkind⟩
      obtain ⟨hvar, d, hfirst, -, hallowed⟩ :=
        (exists_mem_iff_first hkind page style line _).1 ⟨f, hf, hfkind, rfl⟩
      exact ⟨hvar, d, hfirst, hallowed rfl⟩
    · rintro ⟨hvar, d, hfirst, hallowed⟩
      obtain ⟨f, hf, hfkind, -⟩ := (exists_mem_iff_first hkind page style line _).2
        ⟨hvar, d, hfirst, rfl, fun _ => hallowed⟩
      exact ⟨f, hf, hfkind⟩
  refine ⟨hreported style, fun more hfound hvar => ?_, fun d hdeclares hvar => ?_⟩
  · obtain ⟨-, d, hfirst, hallowed⟩ := (hreported style).1 hfound
    exact (hreported _).2 ⟨hvar, d, first_append_semicolon (by decide) hfirst more, hallowed⟩
  · obtain ⟨front, body, rest, hstyle, hdeclared⟩ := hdeclares
    have hoccurs : Occurs (Declared "border-radius".toList) style :=
      ⟨front, body ++ rest, hstyle, body, d, rest, rfl, hdeclared⟩
    obtain ⟨first, hfirst⟩ := hoccurs.exists_first
    constructor
    · intro hmissed
      refine ⟨first, hfirst, ?_⟩
      by_contra hallowed
      obtain ⟨f, hf, hfkind⟩ := (hreported style).2 ⟨hvar, first, hfirst, hallowed⟩
      exact hmissed f hf hfkind
    · rintro ⟨first', hfirst', hallowed⟩ f hf hfkind
      obtain ⟨-, found, hfound, hneeds⟩ := (hreported style).1 ⟨f, hf, hfkind⟩
      exact hneeds (hreads.first_unique hfirst' hfound ▸ hallowed)

/-- **A radius that needs a token may go without a finding**: here behind one that needs none. -/
theorem exists_hidden_radius :
    ∃ page : Page, ∃ style d, Declares "border-radius".toList style d ∧
      strip d.value ≠ [] ∧ strip d.value ∉ allowedRadii ∧ ¬ "var(".toList <:+: style ∧
        ∀ f ∈ valueFindings page style 1, f.kind ≠ .hardcodedRadius := by
  refine ⟨⟨"page.html".toList, [], .empty, {}⟩, "border-radius: 0; border-radius: 4px".toList,
    ⟨"border-radius: 4px".toList, " 4px".toList⟩, ?_, by decide, by decide, ?_, ?_⟩
  · exact ⟨"border-radius: 0; ".toList, "border-radius: 4px".toList, [], by decide, rfl, [],
      nofun, by decide, by decide, nofun, by decide⟩
  · decide +kernel
  · decide +kernel

end DesignLint.InlineStyle
