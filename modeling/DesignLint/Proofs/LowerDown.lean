import DesignLint.Proofs.InlineStyle
import DesignLint.Proofs.StyleBlock.Blocks

/-! # Findings about a page that begins further down

Text in front of a page moves the findings that have a line down by as many lines as it has line
feeds, if no attribute and no element can begin in it. What else it holds (quotes, angle brackets,
colours) does not matter:

* `InlineStyle.valueFindings_prepend`, `StyleBlock.bodyFindings_prepend`: the findings about one
  attribute and about one element;
* `InlineStyle.findings_prepend`, `StyleBlock.findings_prepend`: those about a page;
* `inspect_prepend`: the two checks. -/

namespace DesignLint

open Text

/-- A page with more text in front of it. -/
def Page.prepend (page : Page) (front : Text) : Page := { page with text := front ++ page.text }

/-- A finding with a line that is `n` lines further down. -/
def Finding.lowered (n : Nat) (f : Finding) : Finding := { f with line := f.line + n }

/-! ## Attributes -/

namespace InlineStyle

/-- What a rule reports at most once moves with the line of the attribute. -/
theorem toList_finding_prepend {α : Type} (page : Page) (front : Text) (found : Option α)
    (line : Int) (n : Nat) (kind : FindingKind) (value : α → Text) (message : Text) :
    (found.map fun x => (page.prepend front).finding (line + n) kind (value x) message).toList
      = (found.map fun x => page.finding line kind (value x) message).toList.map
        (Finding.lowered n) := by
  cases found with
  | none => rfl
  | some x => rfl

/-- The findings about a style value move with the line of its attribute. -/
theorem valueFindings_prepend (page : Page) (front style : Text) (line : Int) (n : Nat) :
    valueFindings (page.prepend front) style (line + n)
      = (valueFindings page style line).map (Finding.lowered n) := by
  have hcolor : colorFindings (page.prepend front) style (line + n)
      = (colorFindings page style line).map (Finding.lowered n) := by
    rw [colorFindings, colorFindings, List.map_map]
    rfl
  have hrgb : rgbFindings (page.prepend front) style (line + n)
      = (rgbFindings page style line).map (Finding.lowered n) :=
    toList_finding_prepend page front _ line n _ _ _
  have hfont : fontFindings (page.prepend front) style (line + n)
      = (fontFindings page style line).map (Finding.lowered n) :=
    toList_finding_prepend page front _ line n _ _ _
  have hshadow : shadowFindings (page.prepend front) style (line + n)
      = (shadowFindings page style line).map (Finding.lowered n) :=
    toList_finding_prepend page front _ line n _ _ _
  have hradius : radiusFindings (page.prepend front) style (line + n)
      = (radiusFindings page style line).map (Finding.lowered n) := by
    rw [radiusFindings, radiusFindings]
    split
    · rfl
    · -- Whether the radius needs a token does not hang on the line.
      split
      · rfl
      · rfl
  rw [valueFindings, valueFindings, hcolor, hrgb, hfont, hshadow, hradius]
  split
  · simp only [List.map_append, List.map_nil]
  · simp only [List.map_append]

/-- No attribute begins in a text without a letter that `style` may begin with. -/
theorem freeOf_attribute {front : Text} (h : ∀ c ∈ front, c ∉ ['s', 'S', 'ſ']) (rest : Text) :
    FreeOf Attribute front rest := by
  -- An attribute begins with the first letter of its name.
  refine freeOf_of_not_mem reads_styleAttribute.body_ne_nil ?_
  rintro _ value rest ⟨name, before, after, hname, -, -, -, rfl⟩ c hc hfront
  obtain ⟨first, name, rfl, hfirst⟩ := hname.exists_cons
  obtain rfl : first = c := Option.some_inj.1 hc
  refine h _ hfront ?_
  rcases hfirst with rfl | rfl | ⟨-, rfl⟩ <;> decide

/-- **Text in which no attribute begins** moves the findings about those behind it. -/
theorem findings_prepend {page : Page} {front : Text} (h : ∀ c ∈ front, c ∉ ['s', 'S', 'ſ']) :
    findings (page.prepend front)
      = (findings page).map (Finding.lowered (front.count '\n')) := by
  have hfound : findAll styleAttribute (page.prepend front).text = _ :=
    reads_styleAttribute.findAll_append_of_freeOf (freeOf_attribute h page.text)
  rw [findings, findings, hfound, List.flatMap_map, List.map_flatMap]
  refine List.flatMap_congr fun found _ => ?_
  show valueFindings (page.prepend front) found.value
    (lineAt (front ++ page.text) (front.length + found.offset : Nat) : Nat) = _
  -- The line of an attribute behind `front` is that in the page and the line feeds of `front`.
  rw [lineAt_append, Nat.add_comm, Int.natCast_add, valueFindings_prepend]

end InlineStyle

/-! ## Elements -/

namespace StyleBlock

/-- The findings about a body move with the line of its element. -/
theorem bodyFindings_prepend (page : Page) (front : Text) (number n : Nat) (body : List Text) :
    bodyFindings (page.prepend front) (number + n) body
      = (bodyFindings page number body).map (Finding.lowered n) := by
  -- The induction is for any number, since each line of the body has the next one.
  induction body generalizing number with
  | nil => rfl
  | cons line rest ih =>
    have hline : lineFindings (page.prepend front) (number + n) line
        = (lineFindings page number line).map (Finding.lowered n) := by
      rw [lineFindings, lineFindings]
      split
      · rfl
      · rw [List.map_map]
        rfl
    rw [bodyFindings, bodyFindings, List.map_append, hline, ← ih, Nat.add_right_comm]

/-- No element begins in a text without an angle bracket that opens a tag. -/
theorem freeOf_block {front : Text} (h : '<' ∉ front) (rest : Text) :
    FreeOf Block front rest := by
  refine freeOf_of_not_mem reads_block.body_ne_nil ?_
  rintro _ body rest ⟨name, attributes, close, hname, -, -, -, rfl⟩ c hc hfront
  obtain ⟨first, name, rfl, hfirst⟩ := hname.exists_cons
  obtain rfl : first = c := Option.some_inj.1 hc
  -- The word begins with a bracket, which has no other letter case.
  rcases hfirst with rfl | rfl | ⟨hletter, -⟩
  · exact h hfront
  · exact h hfront
  · exact absurd hletter (by decide)

/-- **Text in which no element begins** moves the findings about those behind it. -/
theorem findings_prepend {page : Page} {front : Text} (h : '<' ∉ front) :
    findings (page.prepend front)
      = (findings page).map (Finding.lowered (front.count '\n')) := by
  have hfound : findAll block (page.prepend front).text = _ :=
    reads_block.findAll_append_of_freeOf (freeOf_block h page.text)
  rw [findings, findings, hfound, List.flatMap_map, List.map_flatMap]
  refine List.flatMap_congr fun found _ => ?_
  show bodyFindings (page.prepend front)
    (lineAt (front ++ page.text) (front.length + found.offset : Nat)) (lines found.value) = _
  rw [lineAt_append, Nat.add_comm, bodyFindings_prepend]

end StyleBlock

/-! ## Pages -/

/-- **Text in front of a page** in which neither an attribute nor an element can begin adds no
finding that has a line and takes none away; it moves each down by the line feeds that it holds. -/
theorem inspect_prepend (page : Page) {front : Text}
    (h : ∀ c ∈ front, c ∉ ['s', 'S', 'ſ', '<']) :
    (∃ found, InlineStyle.check.inspect page = .ok found ∧
      InlineStyle.check.inspect (page.prepend front)
        = .ok (found.map (Finding.lowered (front.count '\n')))) ∧
    ∃ found, StyleBlock.check.inspect page = .ok found ∧
      StyleBlock.check.inspect (page.prepend front)
        = .ok (found.map (Finding.lowered (front.count '\n'))) := by
  have hletter : ∀ c ∈ front, c ∉ ['s', 'S', 'ſ'] := by
    intro c hc hstyle
    exact h c hc (List.mem_append_left ['<'] hstyle)
  have hbracket : '<' ∉ front := by
    intro hc
    exact h '<' hc (by decide)
  exact ⟨⟨_, rfl, congrArg Except.ok (InlineStyle.findings_prepend hletter)⟩,
    ⟨_, rfl, congrArg Except.ok (StyleBlock.findings_prepend hbracket)⟩⟩

/-- Text in front that ends in the middle of what could be an attribute or a tag, but for the first
character. -/
theorem inspect_prepend_two_lines :
    let front := "#123456 >\n/tyle>tyle\n=\"".toList
    let page : Page := ⟨['p'], "#abc\" style=\"fill: #abcdef\"<STYLE>\n#fedcba</style>".toList,
      .empty, {}⟩
    (∀ c ∈ front, c ∉ ['s', 'S', 'ſ', '<']) ∧
    (∃ found, InlineStyle.check.inspect (page.prepend front) = .ok found ∧
      found.map (fun f => (f.line, f.value)) = [(3, "#abcdef".toList)]) ∧
    ∃ found, StyleBlock.check.inspect (page.prepend front) = .ok found ∧
      found.map (fun f => (f.line, f.value)) = [(4, "#fedcba".toList)] := by
  intro front page
  have hfront : ∀ c ∈ front, c ∉ ['s', 'S', 'ſ', '<'] := by simp [front]
  obtain ⟨⟨inline, hinline, hinline'⟩, block, hblock, hblock'⟩ :=
    inspect_prepend page hfront
  obtain rfl : InlineStyle.findings page = inline := Except.ok.inj hinline
  obtain rfl : StyleBlock.findings page = block := Except.ok.inj hblock
  refine ⟨hfront, ⟨_, hinline', ?_⟩, _, hblock', ?_⟩
  -- The findings about the page itself are on its first two lines.
  · decide +kernel
  · decide +kernel

end DesignLint
