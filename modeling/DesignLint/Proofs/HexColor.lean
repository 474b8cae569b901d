import DesignLint.HexColor
import DesignLint.Proofs.Text.Reading

/-! # Colour literals as runs of digits

The literals of a text are told by the longest run of hex digits behind each `#`. No literal hides
another one, since a `#` is no digit:

* `digitRuns s`: the longest run behind each `#`, from left to right;
* `mem_digitRuns_iff`: what these runs are;
* `digitRuns_append`, `digitRuns_subset_of_part`: the runs of a text and those of its parts;
* `hashes s`, `runBehind s offset`: where the `#` stand, and the run behind each of them;
* `findAll_literal`, `literals_eq`: the literals are the runs of at least three digits, cut to
  eight;
* `findAll_wholeLiteral`, `wholeLiterals_eq`: the whole literals are the runs of three to eight
  digits;
* `literals_append`, `wholeLiterals_append`: the literals of two texts together;
* `IsLiteral`: what both of them look like. -/

namespace DesignLint.HexColor

open Text

/-- The longest run of hex digits behind each `#` of a text, from left to right. -/
def digitRuns : Text → List Text
  | [] => []
  | c :: s => if c = '#' then s.takeWhile isHexDigit :: digitRuns s else digitRuns s

/-- A text that goes on with no hex digit. -/
def EndsRun (s : Text) : Prop := ∀ c ∈ s.head?, isHexDigit c = false

instance : DecidablePred EndsRun
  | [] => .isTrue (by simp [EndsRun])
  | c :: _ => decidable_of_iff (isHexDigit c = false) (by simp [EndsRun])

/-- Behind the longest run of hex digits stands none. -/
theorem endsRun_dropWhile (s : Text) : EndsRun (s.dropWhile isHexDigit) :=
  eq_false_of_mem_head?_dropWhile

/-- **A run of digits** stands behind a `#` of the text, and no digit follows it. -/
theorem mem_digitRuns_iff {s run : Text} :
    run ∈ digitRuns s ↔ ∃ before after, s = before ++ ('#' :: run ++ after) ∧
      (∀ c ∈ run, isHexDigit c = true) ∧ EndsRun after := by
  induction s with
  | nil => simp [digitRuns]
  | cons c s ih =>
    rw [digitRuns]
    constructor
    · intro h
      have hlater : run ∈ digitRuns s → ∃ before after, c :: s = before ++ ('#' :: run ++ after) ∧
          (∀ c ∈ run, isHexDigit c = true) ∧ EndsRun after := by
        intro hrun
        obtain ⟨before, after, hs, hdigits, hends⟩ := ih.1 hrun
        exact ⟨c :: before, after, by rw [hs]; rfl, hdigits, hends⟩
      by_cases hc : c = '#'
      · rw [if_pos hc, List.mem_cons] at h
        rcases h with rfl | hrun
        · refine ⟨[], s.dropWhile isHexDigit, ?_, fun d hd => List.mem_takeWhile_imp hd,
            endsRun_dropWhile s⟩
          rw [List.nil_append, List.cons_append, List.takeWhile_append_dropWhile, hc]
        · exact hlater hrun
      · rw [if_neg hc] at h
        exact hlater h
    · rintro ⟨before, after, hs, hdigits, hends⟩
      cases before with
      | nil =>
        -- The run begins at the head of the text.
        obtain ⟨rfl, rfl⟩ : c = '#' ∧ s = run ++ after := by simpa using hs
        rw [if_pos rfl, (span_append_of_head? hdigits hends).1]
        exact List.mem_cons_self
      | cons d before =>
        obtain ⟨-, hs⟩ := List.cons.inj hs
        have hrun : run ∈ digitRuns s := ih.2 ⟨before, after, hs, hdigits, hends⟩
        split
        · exact List.mem_cons_of_mem _ hrun
        · exact hrun

/-- A `#` with the run of digits behind it is part of the text. -/
theorem isInfix_of_mem_digitRuns {s run : Text} (h : run ∈ digitRuns s) : '#' :: run <:+: s := by
  obtain ⟨before, after, rfl, -⟩ := mem_digitRuns_iff.1 h
  exact ⟨before, after, List.append_assoc _ _ _⟩

/-- **The runs of two texts together** are those of one and those of the other, if the second one
goes on with no hex digit. -/
theorem digitRuns_append (s : Text) {rest : Text} (hrest : EndsRun rest) :
    digitRuns (s ++ rest) = digitRuns s ++ digitRuns rest := by
  induction s with
  | nil => rfl
  | cons c s ih =>
    have hrun : (s ++ rest).takeWhile isHexDigit = s.takeWhile isHexDigit := by
      have hends := endsRun_dropWhile s
      have hsplit : s ++ rest = s.takeWhile isHexDigit ++ (s.dropWhile isHexDigit ++ rest) := by
        rw [← List.append_assoc, List.takeWhile_append_dropWhile]
      rw [hsplit]
      refine (span_append_of_head? (fun d hd => List.mem_takeWhile_imp hd) ?_).1
      -- What follows the run is the rest of the first text, or the second one.
      cases hdrop : s.dropWhile isHexDigit with
      | nil => exact hrest
      | cons d more =>
        rw [hdrop] at hends
        exact fun e he => hends e he
    rw [List.cons_append, digitRuns, digitRuns, hrun, ih]
    split
    · rfl
    · rfl

/-- Text without a `#` in front of a text brings no runs to it. -/
theorem digitRuns_append_of_not_mem {front : Text} (h : '#' ∉ front) (s : Text) :
    digitRuns (front ++ s) = digitRuns s := by
  induction front with
  | nil => rfl
  | cons c front ih =>
    have hc : c ≠ '#' := (List.ne_of_not_mem_cons h).symm
    rw [List.cons_append, digitRuns, if_neg hc, ih (List.not_mem_of_not_mem_cons h)]

/-- What stands in front of a text takes none of its runs away. -/
theorem digitRuns_isSuffix_append (front s : Text) : digitRuns s <:+ digitRuns (front ++ s) := by
  induction front with
  | nil => exact List.suffix_rfl
  | cons c front ih =>
    rw [List.cons_append, digitRuns]
    split
    · exact ih.trans (List.suffix_cons _ _)
    · exact ih

/-- **The runs of a part** are runs of the text, if the part goes on with no hex digit. -/
theorem digitRuns_subset_of_part (front part : Text) {back : Text} (hback : EndsRun back) :
    digitRuns part ⊆ digitRuns (front ++ (part ++ back)) := by
  intro run hrun
  have hmem : run ∈ digitRuns (part ++ back) := by
    rw [digitRuns_append part hback]
    exact List.mem_append_left _ hrun
  exact (digitRuns_isSuffix_append front (part ++ back)).subset hmem

/-- The offsets of the `#` of a text, from left to right. -/
def hashes (s : Text) : List Nat := (List.range s.length).filter (s[·]? = some '#')

/-- The longest run of hex digits behind the character at an offset. -/
def runBehind (s : Text) (offset : Nat) : Text := (s.drop (offset + 1)).takeWhile isHexDigit

/-- A further character in front moves every `#`, and it may be one itself. -/
theorem hashes_cons (c : Char) (s : Text) :
    hashes (c :: s)
      = if c = '#' then 0 :: (hashes s).map (· + 1) else (hashes s).map (· + 1) := by
  have hlater : ((List.range s.length).map Nat.succ).filter
      (fun offset => (c :: s)[offset]? = some '#') = (hashes s).map (· + 1) := by
    rw [List.filter_map, hashes]
    rfl
  rw [hashes, List.length_cons, List.range_succ_eq_map, List.filter_cons, hlater,
    List.getElem?_cons_zero]
  simp only [Option.some_inj, decide_eq_true_eq]

/-- The runs of a text are those behind its `#`. -/
theorem digitRuns_eq_map (s : Text) : digitRuns s = (hashes s).map (runBehind s) := by
  induction s with
  | nil => rfl
  | cons c s ih =>
    have hlater : ((hashes s).map (· + 1)).map (runBehind (c :: s)) = digitRuns s := by
      rw [List.map_map, ih]
      rfl
    rw [digitRuns, hashes_cons]
    split
    · rw [List.map_cons, hlater]
      rfl
    · exact hlater.symm

/-- A pattern that looks at a `#` and at the longest run of hex digits behind it: `read` says what
it makes of the run and how many digits it takes off the text, if it reads it. -/
structure ReadsRuns (p : Pattern Text) (read : Text → Option (Text × Nat)) : Prop where
  /-- The run decides what is read. -/
  hash : ∀ s, p ('#' :: s)
    = (read (s.takeWhile isHexDigit)).map fun (value, taken) => (value, s.drop taken)
  /-- Nothing is read where there is no `#`. -/
  other : ∀ c s, c ≠ '#' → p (c :: s) = none
  /-- No more is taken off the text than the run. -/
  taken_le : ∀ run value taken, read run = some (value, taken) → taken ≤ run.length

/-- What is taken off a run consists of digits. -/
theorem isHexDigit_of_mem_take {s : Text} {taken : Nat}
    (h : taken ≤ (s.takeWhile isHexDigit).length) {c : Char} (hc : c ∈ s.take taken) :
    isHexDigit c = true := by
  rw [← List.takeWhile_append_dropWhile (p := isHexDigit) (l := s),
    List.take_append_of_le_length h] at hc
  exact List.mem_takeWhile_imp (List.mem_of_mem_take hc)

/-- **A search passes no `#`.** It reads the run behind each `#`, where the characters that it still
skips are digits. -/
theorem ReadsRuns.findFrom_eq {p : Pattern Text} {read : Text → Option (Text × Nat)}
    (h : ReadsRuns p read) (s : Text) (skip : Nat)
    (hskip : ∀ c ∈ s.take skip, isHexDigit c = true) :
    findFrom p 0 skip s = (hashes s).filterMap fun offset =>
      (read (runBehind s offset)).map fun (value, _) => ⟨offset, value⟩ := by
  induction s generalizing skip with
  | nil => simp [findFrom, hashes]
  | cons c s ih =>
    -- What is found behind the first character is found in the rest, one offset further.
    have hlater (skip : Nat) (hskip : ∀ d ∈ s.take skip, isHexDigit d = true) :
        findFrom p 1 skip s = ((hashes s).map (· + 1)).filterMap fun offset =>
          (read (runBehind (c :: s) offset)).map fun (value, _) => ⟨offset, value⟩ := by
      have hshift := findFrom_add p 1 0 skip s
      rw [hshift, ih skip hskip, List.map_filterMap, List.filterMap_map]
      congr 1
      funext offset
      simp only [Function.comp_apply, Option.map_map]
      congr 1
      funext found
      exact congrArg (Found.mk · found.1) (Nat.add_comm 1 offset)
    have hnone : ∀ d ∈ s.take 0, isHexDigit d = true := by simp
    cases skip with
    | succ skip =>
      -- What is skipped is a digit, so no run begins here.
      have hdigit := hskip c List.mem_cons_self
      have hc : c ≠ '#' := by
        rintro rfl
        exact absurd hdigit (by decide)
      rw [findFrom, hashes_cons, if_neg hc]
      exact hlater skip fun d hd => hskip d (List.mem_cons_of_mem c hd)
    | zero =>
      rw [findFrom, hashes_cons]
      by_cases hc : c = '#'
      · subst hc
        have hrun : runBehind ('#' :: s) 0 = s.takeWhile isHexDigit := rfl
        rw [if_pos rfl, h.hash, ← hrun]
        cases hread : read (runBehind ('#' :: s) 0) with
        | none =>
          rw [List.filterMap_cons_none (by rw [hread]; rfl)]
          exact hlater 0 hnone
        | some found =>
          obtain ⟨value, taken⟩ := found
          have htaken := h.taken_le _ _ _ hread
          have hlength := (List.takeWhile_prefix isHexDigit (l := s)).length_le
          have hdrop : s.length - (s.drop taken).length = taken := by
            rw [List.length_drop]
            rw [hrun] at htaken
            omega
          rw [List.filterMap_cons_some (by rw [hread]; rfl)]
          simp only [Option.map_some, hdrop]
          rw [hlater taken fun d hd => isHexDigit_of_mem_take htaken hd]
      · rw [if_neg hc, h.other c s hc]
        exact hlater 0 hnone

/-- **A search finds the runs that the pattern accepts**, each at its `#`. -/
theorem ReadsRuns.findAll_eq {p : Pattern Text} {accepts : Text → Prop} [DecidablePred accepts]
    {value : Text → Text} {taken : Text → Nat}
    (h : ReadsRuns p fun run => if accepts run then some (value run, taken run) else none)
    (s : Text) :
    findAll p s = ((hashes s).filter (accepts <| runBehind s ·)).map fun offset =>
      ⟨offset, value (runBehind s offset)⟩ := by
  have hruns := h.findFrom_eq s 0 (by simp)
  rw [findAll, hruns, ← List.filterMap_eq_map', List.filterMap_filter]
  congr 1
  funext offset
  by_cases haccepts : accepts (runBehind s offset)
  · rw [if_pos haccepts, if_pos (decide_eq_true haccepts)]
    rfl
  · rw [if_neg haccepts, if_neg (by simpa using haccepts)]
    rfl

/-- Literals are read off runs of at least three digits, of which at most eight are taken. -/
theorem readsRuns_literal :
    ReadsRuns literal fun run =>
      if 3 ≤ run.length then some ('#' :: run.take 8, min run.length 8) else none where
  hash s := by
    rw [literal]
    by_cases h : 3 ≤ (s.takeWhile isHexDigit).length
    · rw [if_pos h, if_neg (by omega)]
      rfl
    · rw [if_neg h, if_pos (by omega)]
      rfl
  other c s hc := by
    rw [literal]
    rintro rest ⟨rfl, rfl⟩
    exact hc rfl
  taken_le run value taken h := by
    split at h
    · obtain ⟨-, rfl⟩ := Prod.mk.inj (Option.some_inj.1 h)
      exact Nat.min_le_left _ _
    · exact absurd h.symm (Option.some_ne_none _)

/-- **Where the literals stand**: at each `#` with at least three digits behind it. -/
theorem findAll_literal (s : Text) :
    findAll literal s
      = ((hashes s).filter fun offset => 3 ≤ (runBehind s offset).length).map fun offset =>
        ⟨offset, '#' :: (runBehind s offset).take 8⟩ :=
  readsRuns_literal.findAll_eq s

/-- **The literals of a text** are its runs of at least three digits, each behind its `#` and cut to
eight digits. -/
theorem literals_eq (s : Text) :
    literals s = ((digitRuns s).filter (3 ≤ ·.length)).map fun run => '#' :: run.take 8 := by
  rw [literals, findAll_literal, digitRuns_eq_map, List.filter_map, List.map_map, List.map_map]
  rfl

/-- Whole literals are read off runs of three to eight digits. -/
theorem readsRuns_wholeLiteral :
    ReadsRuns wholeLiteral fun run =>
      if 3 ≤ run.length ∧ run.length ≤ 8 then some ('#' :: run, run.length) else none where
  hash s := by
    rw [wholeLiteral]
    by_cases h : 3 ≤ (s.takeWhile isHexDigit).length ∧ (s.takeWhile isHexDigit).length ≤ 8
    · rw [if_pos h, if_neg (by simpa using h)]
      rfl
    · rw [if_neg h, if_pos (by rw [Bool.or_eq_true, decide_eq_true_iff, decide_eq_true_iff]; omega)]
      rfl
  other c s hc := by
    rw [wholeLiteral]
    rintro rest ⟨rfl, rfl⟩
    exact hc rfl
  taken_le run value taken h := by
    split at h
    · obtain ⟨-, rfl⟩ := Prod.mk.inj (Option.some_inj.1 h)
      exact Nat.le_refl _
    · exact absurd h.symm (Option.some_ne_none _)

/-- **Where the whole literals stand**: at each `#` with three to eight digits behind it. -/
theorem findAll_wholeLiteral (s : Text) :
    findAll wholeLiteral s
      = ((hashes s).filter fun offset =>
          3 ≤ (runBehind s offset).length ∧ (runBehind s offset).length ≤ 8).map fun offset =>
        ⟨offset, '#' :: runBehind s offset⟩ :=
  readsRuns_wholeLiteral.findAll_eq s

/-- **The whole literals of a text** are its runs of three to eight digits, each behind its `#`. -/
theorem wholeLiterals_eq (s : Text) :
    wholeLiterals s
      = ((digitRuns s).filter fun run => 3 ≤ run.length ∧ run.length ≤ 8).map ('#' :: ·) := by
  rw [wholeLiterals, findAll_wholeLiteral, digitRuns_eq_map, List.filter_map, List.map_map,
    List.map_map]
  rfl

/-- **The literals of two texts together** are those of one and those of the other, if the second
one goes on with no hex digit. -/
theorem literals_append (s : Text) {rest : Text} (hrest : EndsRun rest) :
    literals (s ++ rest) = literals s ++ literals rest := by
  simp only [literals_eq, digitRuns_append s hrest, List.filter_append, List.map_append]

/-- So are the whole literals. -/
theorem wholeLiterals_append (s : Text) {rest : Text} (hrest : EndsRun rest) :
    wholeLiterals (s ++ rest) = wholeLiterals s ++ wholeLiterals rest := by
  simp only [wholeLiterals_eq, digitRuns_append s hrest, List.filter_append, List.map_append]

/-- A `#` with three to eight hex digits and nothing else. -/
def IsLiteral (s : Text) : Prop :=
  ∃ run, s = '#' :: run ∧ (∀ c ∈ run, isHexDigit c = true) ∧ 3 ≤ run.length ∧ run.length ≤ 8

/-- The digits of a run are hex digits. -/
theorem isHexDigit_of_mem_digitRuns {s run : Text} (h : run ∈ digitRuns s) :
    ∀ c ∈ run, isHexDigit c = true := by
  obtain ⟨before, after, -, hdigits, -⟩ := mem_digitRuns_iff.1 h
  exact hdigits

/-- A literal has three to eight digits. -/
theorem isLiteral_of_mem_literals {s color : Text} (h : color ∈ literals s) : IsLiteral color := by
  rw [literals_eq] at h
  obtain ⟨run, hrun, rfl⟩ := List.mem_map.1 h
  obtain ⟨hmem, hlength⟩ := List.mem_filter.1 hrun
  have hlow : 3 ≤ run.length := of_decide_eq_true hlength
  refine ⟨run.take 8, rfl, fun c hc => ?_, ?_, ?_⟩
  · exact isHexDigit_of_mem_digitRuns hmem c (List.mem_of_mem_take hc)
  · rw [List.length_take]
    omega
  · rw [List.length_take]
    omega

/-- So has a whole literal. -/
theorem isLiteral_of_mem_wholeLiterals {s color : Text} (h : color ∈ wholeLiterals s) :
    IsLiteral color := by
  rw [wholeLiterals_eq] at h
  obtain ⟨run, hrun, rfl⟩ := List.mem_map.1 h
  obtain ⟨hmem, hlength⟩ := List.mem_filter.1 hrun
  obtain ⟨hlow, hhigh⟩ := of_decide_eq_true hlength
  exact ⟨run, rfl, isHexDigit_of_mem_digitRuns hmem, hlow, hhigh⟩

/-- **A literal between text without a `#` and a character that is no hex digit** is the first
literal. -/
theorem literals_append_cons {front color : Text} {c : Char} (hfront : '#' ∉ front)
    (hcolor : IsLiteral color) (hc : c ≠ '#') (hends : isHexDigit c = false) (rest : Text) :
    literals (front ++ (color ++ c :: rest)) = color :: literals rest := by
  obtain ⟨run, rfl, hdigits, hlow, hhigh⟩ := hcolor
  have hrun : (run ++ c :: rest).takeWhile isHexDigit = run := by
    refine (span_append_of_head? hdigits fun d hd => ?_).1
    obtain rfl : c = d := Option.some_inj.1 hd
    exact hends
  have hnone : '#' ∉ run ++ [c] := by
    rw [List.mem_append, List.mem_singleton]
    rintro (hmem | rfl)
    · exact absurd (hdigits _ hmem) (by decide)
    · exact hc rfl
  have hruns : digitRuns (front ++ ('#' :: run ++ c :: rest)) = run :: digitRuns rest := by
    rw [digitRuns_append_of_not_mem hfront, List.cons_append, digitRuns, if_pos rfl, hrun,
      List.append_cons, digitRuns_append_of_not_mem hnone]
  have hlong : decide (3 ≤ run.length) = true := decide_eq_true hlow
  rw [literals_eq, literals_eq, hruns, List.filter_cons, if_pos hlong, List.map_cons,
    List.take_of_length_le hhigh]

end DesignLint.HexColor
