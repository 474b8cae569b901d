import DesignLint.Proofs.HexColor
import DesignLint.Proofs.InlineStyle

/-! # What the rules say about a style value

The five rules of a style value in words that do not search. `RgbCall` says what a call is and
`Declared` what a declaration is; a rule that reports the first of them is told by `ReportsFirst`:

* `reads_rgbCall`, `reads_declaration`: the patterns of calls and declarations read just these;
* `ReportsFirst.of_reads`: a search for one occurrence reports the first one;
* `guardedFindings_eq`: it does not matter whether a rule asks first if something opens there;
* `valueFindings_eq_reports`: the findings about a style value are what the rules report. -/

namespace DesignLint.InlineStyle

open Text HexColor

/-! ## Calls and declarations -/

/-- A call of `rgb` or `rgba` with at least one character in its parentheses, which stands for
itself. -/
def RgbCall : Grammar Text := fun body call _ =>
  call = body ∧ ∃ name blanks arguments, (name = "rgb".toList ∨ name = "rgba".toList) ∧
    (∀ c ∈ blanks, isBlank c = true) ∧ arguments ≠ [] ∧ ')' ∉ arguments ∧
    body = name ++ (blanks ++ '(' :: (arguments ++ [')']))

/-- A declaration of a property: the name, blanks, a colon, and a value that is not empty and goes
on to the next semicolon or to the end of the text. -/
def Declared (property : Text) : Grammar Declaration := fun body found rest =>
  found.whole = body ∧ ∃ blanks, (∀ c ∈ blanks, isBlank c = true) ∧ found.value ≠ [] ∧
    ';' ∉ found.value ∧ (∀ c ∈ rest.head?, c = ';') ∧
    body = property ++ (blanks ++ ':' :: found.value)

/-- What stands in front of a suffix. -/
theorem upTo_append (body rest : Text) : upTo (body ++ rest) rest = body := by
  simp [upTo]

/-- **Reading a parenthesis** behind blanks and an optional `a`. -/
theorem after?_parenthesis_eq_some_iff {s rest : Text} :
    after? exactly ['('] (dropBlanks ((after? exactly ['a'] s).getD s)) = some rest ↔
      ∃ letter blanks, (letter = [] ∨ letter = ['a']) ∧ (∀ c ∈ blanks, isBlank c = true) ∧
        s = letter ++ (blanks ++ '(' :: rest) := by
  have hopen : isBlank '(' = false := by decide
  cases hletter : after? exactly ['a'] s with
  | some behind =>
    obtain rfl := after?_exactly_eq_some_iff.1 hletter
    rw [Option.getD_some, dropBlanks, after?_dropWhile_eq_some_iff hopen]
    constructor
    · rintro ⟨blanks, hblanks, rfl⟩
      exact ⟨['a'], blanks, .inr rfl, hblanks, rfl⟩
    · rintro ⟨letter, blanks, rfl | rfl, hblanks, htext⟩
      · -- The letter is neither a blank nor a parenthesis.
        cases blanks with
        | nil => simp at htext
        | cons c blanks =>
          obtain ⟨rfl, -⟩ := List.cons.inj htext
          exact absurd (hblanks 'a' List.mem_cons_self) (by decide)
      · exact ⟨blanks, hblanks, (List.cons.inj htext).2⟩
  | none =>
    rw [Option.getD_none, dropBlanks, after?_dropWhile_eq_some_iff hopen]
    constructor
    · rintro ⟨blanks, hblanks, rfl⟩
      exact ⟨[], blanks, .inl rfl, hblanks, rfl⟩
    · rintro ⟨letter, blanks, rfl | rfl, hblanks, rfl⟩
      · exact ⟨blanks, hblanks, rfl⟩
      · rw [after?_exactly_eq_some_iff.2 rfl] at hletter
        exact absurd hletter (Option.some_ne_none _)

/-- **The pattern of calls** reads just these. -/
theorem reads_rgbCall : Reads rgbCall RgbCall where
  eq_some_iff s call rest := by
    simp only [rgbCall, Option.bind_eq_bind, Option.bind_eq_some_iff,
      after?_parenthesis_eq_some_iff]
    simp only [after?_exactly_eq_some_iff]
    constructor
    · rintro ⟨_, rfl, arguments, ⟨letter, blanks, hletter, hblanks, rfl⟩, hcall⟩
      split at hcall
      · exact absurd hcall.symm (Option.some_ne_none _)
      · rename_i hne
        simp only [Option.bind_eq_some_iff, after?_dropWhile_ne_eq_some_iff, Option.pure_def,
          Option.some_inj, Prod.mk.injEq] at hcall
        obtain ⟨behind, ⟨arguments, hclose, rfl⟩, hwhole, rfl⟩ := hcall
        rw [takeWhile_ne_append_cons hclose] at hne
        have htext : "rgb".toList ++ (letter ++ (blanks ++ '(' :: (arguments ++ ')' :: behind)))
            = "rgb".toList ++ letter ++ (blanks ++ '(' :: (arguments ++ [')'])) ++ behind := by
          simp only [List.append_assoc, List.cons_append, List.nil_append]
        rw [htext, upTo_append] at hwhole
        refine ⟨_, htext, hwhole.symm, "rgb".toList ++ letter, blanks, arguments, ?_, hblanks,
          List.isEmpty_iff.not.1 hne, hclose, rfl⟩
        rcases hletter with rfl | rfl
        · exact .inl rfl
        · exact .inr rfl
    · rintro ⟨_, rfl, rfl, name, blanks, arguments, hname, hblanks, hne, hclose, rfl⟩
      obtain ⟨letter, hletter, rfl⟩ :
          ∃ letter, (letter = [] ∨ letter = ['a']) ∧ name = "rgb".toList ++ letter := by
        rcases hname with rfl | rfl
        · exact ⟨[], .inl rfl, rfl⟩
        · exact ⟨['a'], .inr rfl, rfl⟩
      have htext : "rgb".toList ++ letter ++ (blanks ++ '(' :: (arguments ++ [')'])) ++ rest
          = "rgb".toList ++ (letter ++ (blanks ++ '(' :: (arguments ++ ')' :: rest))) := by
        simp only [List.append_assoc, List.cons_append, List.nil_append]
      refine ⟨_, htext, arguments ++ ')' :: rest, ⟨letter, blanks, hletter, hblanks, rfl⟩, ?_⟩
      have hread :
          after? exactly [')'] ((arguments ++ ')' :: rest).dropWhile (· != ')')) = some rest :=
        after?_dropWhile_ne_eq_some_iff.2 ⟨arguments, hclose, rfl⟩
      rw [takeWhile_ne_append_cons hclose, if_neg (List.isEmpty_iff.not.2 hne), hread]
      simp only [Option.bind_some, Option.pure_def, upTo_append]
  body_ne_nil body call rest h := by
    obtain ⟨-, name, blanks, arguments, -, -, -, -, rfl⟩ := h
    simp

/-- **The pattern of declarations** reads just these. -/
theorem reads_declaration (property : Text) : Reads (declaration property) (Declared property) where
  eq_some_iff s found rest := by
    have hcolon : isBlank ':' = false := by decide
    simp only [declaration, Option.bind_eq_bind, Option.bind_eq_some_iff, dropBlanks,
      after?_dropWhile_eq_some_iff hcolon]
    simp only [after?_exactly_eq_some_iff]
    constructor
    · rintro ⟨_, rfl, behind, ⟨blanks, hblanks, rfl⟩, hfound⟩
      split at hfound
      · exact absurd hfound.symm (Option.some_ne_none _)
      · rename_i hne
        rw [Option.pure_def, Option.some_inj, Prod.mk.injEq] at hfound
        obtain ⟨rfl, rfl⟩ := hfound
        have htext : property ++ (blanks ++ ':' :: behind)
            = property ++ (blanks ++ ':' :: behind.takeWhile (· != ';'))
              ++ behind.dropWhile (· != ';') := by
          simp only [List.append_assoc, List.cons_append, List.takeWhile_append_dropWhile]
        refine ⟨_, htext, ?_, blanks, hblanks, List.isEmpty_iff.not.1 hne, ?_, ?_, rfl⟩
        · rw [htext, upTo_append]
        · intro hmem
          exact absurd (List.mem_takeWhile_imp hmem) (by decide)
        · intro c hc
          have hstop := eq_false_of_mem_head?_dropWhile c hc
          simpa using hstop
    · rintro ⟨body, rfl, hwhole, blanks, hblanks, hne, hclose, hrest, hbody⟩
      obtain ⟨whole, value⟩ := found
      dsimp only at hwhole hne hclose hbody
      subst hwhole hbody
      have hrun : (value ++ rest).takeWhile (· != ';') = value ∧
          (value ++ rest).dropWhile (· != ';') = rest :=
        span_append_of_head? (fun c hc => bne_iff_ne.2 fun h => hclose (h ▸ hc))
          fun c hc => by simp [hrest c hc]
      have htext : property ++ (blanks ++ ':' :: value) ++ rest
          = property ++ (blanks ++ ':' :: (value ++ rest)) := by
        simp only [List.append_assoc, List.cons_append]
      refine ⟨_, htext, value ++ rest, ⟨blanks, hblanks, rfl⟩, ?_⟩
      rw [hrun.1, hrun.2, if_neg (List.isEmpty_iff.not.2 hne), upTo_append]
      rfl
  body_ne_nil body found rest h := by
    obtain ⟨-, blanks, -, -, -, -, rfl⟩ := h
    simp

/-! ## Rules that report the first occurrence -/

/-- What a rule reports that looks at the first occurrence of some kind: nothing where nothing
occurs, and otherwise what `report` says of the leftmost one. -/
inductive ReportsFirst {α : Type} (G : Grammar α) (style : Text) (report : α → List Finding) :
    List Finding → Prop
  /-- Nothing of the kind occurs. -/
  | nothing (none : ¬ Occurs G style) : ReportsFirst G style report []
  /-- The leftmost occurrence stands for `value`. -/
  | first {value : α} (first : First G style value) : ReportsFirst G style report (report value)

/-- **A search for one occurrence** reports the first one. -/
theorem ReportsFirst.of_reads {α : Type} {p : Pattern α} {G : Grammar α} (h : Reads p G)
    (style : Text) (report : α → List Finding) :
    ReportsFirst G style report ((find? p style).elim [] report) := by
  cases hfind : find? p style with
  | none => exact .nothing (h.find?_eq_none_iff_not_occurs.1 hfind)
  | some value => exact .first (h.find?_eq_some_iff.1 hfind)

/-- The rules of calls, font families and shadows report the first occurrence in one finding. -/
theorem ReportsFirst.of_reads_map {α : Type} {p : Pattern α} {G : Grammar α} (h : Reads p G)
    (style : Text) (report : α → Finding) :
    ReportsFirst G style (fun value => [report value]) ((find? p style).map report).toList := by
  have hreports := ReportsFirst.of_reads h style fun value => [report value]
  cases hfind : find? p style with
  | none => rwa [hfind] at hreports
  | some value => rwa [hfind] at hreports

/-- The rule of radii reports the first one that is not allowed. -/
theorem reportsFirst_radiusFindings (page : Page) (style : Text) (line : Int) :
    ReportsFirst (Declared "border-radius".toList) style
      (fun radius => if strip radius.value ∈ allowedRadii then [] else
        [page.finding line .hardcodedRadius radius.whole
          "Use var(--radius-sm/md/lg/xl/full) instead".toList])
      (radiusFindings page style line) := by
  rw [radiusFindings]
  have hreads := reads_declaration "border-radius".toList
  cases hfind : find? (declaration "border-radius".toList) style with
  | none => exact .nothing (hreads.find?_eq_none_iff_not_occurs.1 hfind)
  | some radius => exact .first (hreads.find?_eq_some_iff.1 hfind)

/-! ## Rules that ask first -/

/-- Reads `rgb` or `rgba` and an opening parenthesis, with blanks between them. -/
def rgbOpening : Pattern Unit := fun s => do
  let afterName ← after? exactly "rgb".toList s
  let afterName := (after? exactly ['a'] afterName).getD afterName
  let arguments ← after? exactly ['('] (dropBlanks afterName)
  pure ((), arguments)

/-- Reads the name of a property and a colon, with blanks between them. -/
def declarationOpening (property : Text) : Pattern Unit := fun s => do
  let afterName ← after? exactly property s
  let afterColon ← after? exactly [':'] (dropBlanks afterName)
  pure ((), afterColon)

/-- Findings that are asked for only where something opens. -/
def whereOpens (opening : Pattern Unit) (style : Text) (found : List Finding) : List Finding :=
  if (find? opening style).isSome then found else []

/-- The findings about one style value, where each rule but the one of colours asks first whether a
call or a declaration opens at all. -/
def guardedFindings (page : Page) (style : Text) (line : Int) : List Finding :=
  colorFindings page style line ++ whereOpens rgbOpening style (rgbFindings page style line) ++
    if usesToken style then []
    else
      whereOpens (declarationOpening "font-family".toList) style (fontFindings page style line) ++
      whereOpens (declarationOpening "box-shadow".toList) style (shadowFindings page style line) ++
      whereOpens (declarationOpening "border-radius".toList) style
        (radiusFindings page style line)

/-- Where a pattern succeeds at some place, so does one that asks for less. -/
theorem isSome_find?_of_imp {α β : Type} {p : Pattern α} {opening : Pattern β}
    (h : ∀ s, (p s).isSome = true → (opening s).isSome = true) {s : Text}
    (hfind : (find? p s).isSome = true) : (find? opening s).isSome = true := by
  induction s with
  | nil => exact absurd hfind (by simp [find?])
  | cons c s ih =>
    rw [find?] at hfind ⊢
    cases hopening : opening (c :: s) with
    | some found => rfl
    | none =>
      cases hread : p (c :: s) with
      | some found =>
        have hopens := h (c :: s) (by rw [hread]; rfl)
        rw [hopening] at hopens
        exact absurd hopens Bool.false_ne_true
      | none =>
        rw [hread] at hfind
        exact ih hfind

/-- Every call opens. -/
theorem isSome_rgbOpening {s : Text} (h : (rgbCall s).isSome = true) :
    (rgbOpening s).isSome = true := by
  obtain ⟨⟨call, rest⟩, hcall⟩ := Option.isSome_iff_exists.1 h
  simp only [rgbCall, Option.bind_eq_bind, Option.bind_eq_some_iff] at hcall
  obtain ⟨afterName, hname, arguments, harguments, -⟩ := hcall
  simp only [rgbOpening, Option.bind_eq_bind, hname, Option.bind_some, harguments, Option.pure_def,
    Option.isSome_some]

/-- Every declaration opens. -/
theorem isSome_declarationOpening {property s : Text}
    (h : (declaration property s).isSome = true) :
    (declarationOpening property s).isSome = true := by
  obtain ⟨⟨found, rest⟩, hfound⟩ := Option.isSome_iff_exists.1 h
  simp only [declaration, Option.bind_eq_bind, Option.bind_eq_some_iff] at hfound
  obtain ⟨afterName, hname, afterColon, hcolon, -⟩ := hfound
  simp only [declarationOpening, Option.bind_eq_bind, hname, Option.bind_some, hcolon,
    Option.pure_def, Option.isSome_some]

/-- **Asking first changes nothing** for a rule that finds nothing where its pattern does not. -/
theorem whereOpens_eq {α : Type} {p : Pattern α} {opening : Pattern Unit}
    (h : ∀ s, (p s).isSome = true → (opening s).isSome = true) {style : Text}
    {found : List Finding} (hfound : find? p style = none → found = []) :
    whereOpens opening style found = found := by
  rw [whereOpens]
  by_cases hopens : (find? opening style).isSome = true
  · rw [if_pos hopens]
  · have hnone : find? p style = none := by
      cases hfind : find? p style with
      | none => rfl
      | some value => exact absurd (isSome_find?_of_imp h (by rw [hfind]; rfl)) hopens
    rw [if_neg hopens, hfound hnone]

/-- **Asking first changes no finding.** -/
theorem guardedFindings_eq (page : Page) (style : Text) (line : Int) :
    guardedFindings page style line = valueFindings page style line := by
  have hcalls : whereOpens rgbOpening style (rgbFindings page style line)
      = rgbFindings page style line :=
    whereOpens_eq (fun _ => isSome_rgbOpening) fun hnone => by rw [rgbFindings, hnone]; rfl
  have hdeclared (property : Text) {found : List Finding}
      (hfound : find? (declaration property) style = none → found = []) :
      whereOpens (declarationOpening property) style found = found :=
    whereOpens_eq (fun _ => isSome_declarationOpening) hfound
  rw [guardedFindings, valueFindings, hcalls,
    hdeclared "font-family".toList fun hnone => by rw [fontFindings, hnone]; rfl,
    hdeclared "box-shadow".toList fun hnone => by rw [shadowFindings, hnone]; rfl,
    hdeclared "border-radius".toList fun hnone => by rw [radiusFindings, hnone]]

/-! ## All rules -/

/-- The findings of the colour rule. -/
theorem colorFindings_eq_runs (page : Page) (style : Text) (line : Int) :
    colorFindings page style line
      = ((((digitRuns style).filter (3 ≤ ·.length)).map fun run => '#' :: run.take 8).filter
          fun color => upper color ∉ page.palette.colors).map fun color =>
        page.finding line .unknownColor color
          ("Hardcoded color ".toList ++ color ++ " not in design system palette".toList) := by
  have hallows : (fun color => !page.palette.allows color)
      = fun color => decide (upper color ∉ page.palette.colors) := by
    funext color
    rw [Palette.allows, decide_not]
  rw [colorFindings, literals_eq, hallows]

/-- **The findings about a style value are what the five rules report**, in this order and all on
the given line: one for every run of at least three hex digits behind a `#`, cut to eight digits, if
the palette lacks it in upper case; one for the first call; and unless the value holds `var(`, one
for the first font family, one for the first shadow, and one for the first radius, if it is none of
those that need no token. Blanks in front of a radius do not matter, and neither does it matter
whether a rule asks first if a call or a declaration opens at all. -/
theorem valueFindings_eq_reports (page : Page) (style : Text) (line : Int) :
    ∃ colors calls fonts shadows radii : List Finding,
      colors = ((((digitRuns style).filter (3 ≤ ·.length)).map fun run => '#' :: run.take 8).filter
          fun color => upper color ∉ page.palette.colors).map (fun color =>
        page.finding line .unknownColor color
          ("Hardcoded color ".toList ++ color ++ " not in design system palette".toList)) ∧
      ReportsFirst RgbCall style (fun call => [page.finding line .rgbColor call
        "Use CSS custom properties instead of rgb/rgba".toList]) calls ∧
      ReportsFirst (Declared "font-family".toList) style (fun font =>
        [page.finding line .hardcodedFont font.whole
          "Font should come from styles.css, not inline".toList]) fonts ∧
      ReportsFirst (Declared "box-shadow".toList) style (fun shadow =>
        [page.finding line .hardcodedShadow shadow.whole
          "Use var(--shadow-sm/md/lg) instead of hardcoded shadow".toList]) shadows ∧
      ReportsFirst (Declared "border-radius".toList) style (fun radius =>
        if strip radius.value ∈ ["0".toList, "50%".toList, "0px".toList] then [] else
          [page.finding line .hardcodedRadius radius.whole
            "Use var(--radius-sm/md/lg/xl/full) instead".toList]) radii ∧
      (∀ blanks radius, (∀ c ∈ blanks, isBlank c = true) →
        strip (blanks ++ radius) = strip radius) ∧
      ("var(".toList <:+: style → valueFindings page style line = colors ++ calls) ∧
      (¬ "var(".toList <:+: style →
        valueFindings page style line = colors ++ calls ++ (fonts ++ shadows ++ radii)) ∧
      guardedFindings page style line = valueFindings page style line := by
  refine ⟨_, rgbFindings page style line, fontFindings page style line,
    shadowFindings page style line, radiusFindings page style line, rfl,
    .of_reads_map reads_rgbCall style _, .of_reads_map (reads_declaration _) style _,
    .of_reads_map (reads_declaration _) style _, reportsFirst_radiusFindings page style line,
    fun blanks radius hblanks => strip_append_of_isBlank hblanks radius, ?_, ?_,
    guardedFindings_eq page style line⟩
  · intro hvar
    have huses : usesToken style = true := occurs_iff_isInfix.2 hvar
    rw [valueFindings, if_pos huses, List.append_nil, colorFindings_eq_runs]
  · intro hvar
    have huses : ¬ usesToken style = true := fun h => hvar (occurs_iff_isInfix.1 h)
    rw [valueFindings, if_neg huses, colorFindings_eq_runs]

end DesignLint.InlineStyle
