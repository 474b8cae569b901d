import DesignLint.Check.InlineStyle
import DesignLint.Check.StyleBlock
import DesignLint.Proofs.HexColor

/-! # The readings of colour literals compared

Colours are read off a text in three places: off a `:root` block, off a style attribute and off a
line of a style block. A reader tries eight digits first and gives back one at a time:

* `greedy tries least most`: the most that succeeds, from `most` down to `least`;
* `attempt follow n`: a `#` with just `n` hex digits, if `follow` holds of the text behind them;
* `literal_eq_greedy`, `wholeLiteral_eq_greedy`: what the two patterns read is what is tried first
  with success, where no digit may follow a whole literal;
* `attempt_endsRun_eq_none`: in a run of more than eight digits it is in vain to give digits back;
* `readings_agree`: what is found in the three places, `#` by `#`. -/

namespace DesignLint.HexColor

open Text

/-! ## Trying the most first -/

section Greedy

variable {α : Type}

/-- The first success of `tries` with `most`, then one less each time, down to `least`. -/
def greedy (tries : Nat → Option α) (least : Nat) : (most : Nat) → Option α
  | 0 => if least = 0 then tries 0 else none
  | most + 1 =>
    if least ≤ most + 1 then (tries (most + 1)).or (greedy tries least most) else none

variable {tries : Nat → Option α} {least most : Nat}

/-- Nothing is read if every attempt fails. -/
theorem greedy_eq_none (h : ∀ n, least ≤ n → n ≤ most → tries n = none) :
    greedy tries least most = none := by
  induction most with
  | zero =>
    rw [greedy]
    split
    · exact h 0 (by omega) (by omega)
    · rfl
  | succ most ih =>
    rw [greedy]
    split
    · rename_i hleast
      have hlater := ih fun n hn hmost => h n hn (by omega)
      rw [h (most + 1) hleast (by omega), hlater]
      rfl
    · rfl

/-- **The longest attempt that succeeds** is the one that counts. -/
theorem greedy_eq_some {n : Nat} {found : α} (hleast : least ≤ n) (hmost : n ≤ most)
    (hfound : tries n = some found) (hmore : ∀ m, n < m → m ≤ most → tries m = none) :
    greedy tries least most = some found := by
  induction most with
  | zero =>
    obtain rfl : n = 0 := by omega
    rw [greedy, if_pos (by omega), hfound]
  | succ most ih =>
    rw [greedy, if_pos (by omega)]
    by_cases hn : n = most + 1
    · rw [← hn, hfound]
      rfl
    · -- The attempt with one more fails, so one is given back.
      have hlater := ih (by omega) fun m hm hmost => hmore m hm (by omega)
      rw [hmore (most + 1) (by omega) (by omega), hlater]
      rfl

end Greedy

/-! ## Attempts at a literal -/

/-- One attempt at a literal: a `#` and just `n` hex digits, if `follow` holds of the text behind
them. -/
def attempt (follow : Text → Prop) [DecidablePred follow] (n : Nat) : Pattern Text
  | '#' :: s =>
    if n ≤ s.length ∧ (s.take n).all isHexDigit = true ∧ follow (s.drop n) then
      some ('#' :: s.take n, s.drop n)
    else none
  | _ => none

/-- Digits that begin a text begin its run of digits. -/
theorem take_run_of_all {n : Nat} {s : Text} (h : (s.take n).all isHexDigit = true) :
    (s.takeWhile isHexDigit).take n = s.take n := by
  rw [List.take_takeWhile, List.takeWhile_eq_self_iff]
  exact List.all_eq_true.1 h

/-- A text begins with `n` digits if its run of digits is that long. -/
theorem le_length_run_iff {n : Nat} {s : Text} :
    n ≤ (s.takeWhile isHexDigit).length ↔
      n ≤ s.length ∧ (s.take n).all isHexDigit = true := by
  constructor
  · intro hn
    have hlength := (List.takeWhile_prefix isHexDigit (l := s)).length_le
    refine ⟨Nat.le_trans hn hlength, List.all_eq_true.2 fun c hc => ?_⟩
    exact isHexDigit_of_mem_take hn hc
  · rintro ⟨hn, hdigits⟩
    have hlengths := congrArg List.length (take_run_of_all hdigits)
    rw [List.length_take, List.length_take] at hlengths
    omega

/-- Of the digits of a run, all have to be taken so that no digit follows. -/
theorem endsRun_drop_iff {n : Nat} {s : Text} (hn : n ≤ (s.takeWhile isHexDigit).length) :
    EndsRun (s.drop n) ↔ n = (s.takeWhile isHexDigit).length := by
  have hdrop : s.drop n = (s.takeWhile isHexDigit).drop n ++ s.dropWhile isHexDigit := by
    rw [← List.drop_append_of_le_length hn, List.takeWhile_append_dropWhile]
  rw [hdrop]
  constructor
  · intro hends
    by_contra hne
    -- Digits are left of the run, and the first of them follows.
    have hleft : (s.takeWhile isHexDigit).drop n ≠ [] := by
      rw [Ne, List.drop_eq_nil_iff]
      omega
    obtain ⟨c, left, hc⟩ := List.exists_cons_of_ne_nil hleft
    have hdigit : isHexDigit c = true := by
      have hmem : c ∈ (s.takeWhile isHexDigit).drop n := hc ▸ List.mem_cons_self
      exact List.mem_takeWhile_imp (List.mem_of_mem_drop hmem)
    rw [hc] at hends
    have hnot : isHexDigit c = false := hends c rfl
    exact Bool.noConfusion (hdigit.symm.trans hnot)
  · rintro rfl
    rw [List.drop_length, List.nil_append]
    exact endsRun_dropWhile s

/-- **An attempt at a literal** succeeds as long as the run has the digits for it. -/
theorem attempt_hash (n : Nat) (s : Text) :
    attempt (fun _ => True) n ('#' :: s)
      = if n ≤ (s.takeWhile isHexDigit).length then some ('#' :: s.take n, s.drop n)
        else none := by
  simp only [attempt, le_length_run_iff, and_true]

/-- **An attempt at a whole literal** succeeds with all the digits of the run, and only so. -/
theorem attempt_endsRun_hash (n : Nat) (s : Text) :
    attempt EndsRun n ('#' :: s)
      = if n = (s.takeWhile isHexDigit).length then some ('#' :: s.take n, s.drop n)
        else none := by
  have hiff : (n ≤ s.length ∧ (s.take n).all isHexDigit = true ∧ EndsRun (s.drop n)) ↔
      n = (s.takeWhile isHexDigit).length := by
    rw [← and_assoc, ← le_length_run_iff]
    constructor
    · rintro ⟨hn, hends⟩
      exact (endsRun_drop_iff hn).1 hends
    · intro hn
      exact ⟨Nat.le_of_eq hn, (endsRun_drop_iff (Nat.le_of_eq hn)).2 hn⟩
  simp only [attempt, hiff]

/-- No attempt succeeds where no `#` stands. -/
theorem attempt_eq_none {follow : Text → Prop} [DecidablePred follow] {s : Text}
    (hs : s.head? ≠ some '#') (n : Nat) : attempt follow n s = none := by
  rw [attempt]
  rintro rest rfl
  exact hs rfl

/-- **A pattern that looks at runs is read greedily** if it is so at a `#`: elsewhere neither the
pattern nor any attempt succeeds. -/
theorem ReadsRuns.eq_greedy {p : Pattern Text} {read : Text → Option (Text × Nat)}
    (h : ReadsRuns p read) (hnil : p [] = none) {follow : Text → Prop} [DecidablePred follow]
    {least most : Nat}
    (hhash : ∀ s, p ('#' :: s) = greedy (attempt follow · ('#' :: s)) least most) (s : Text) :
    p s = greedy (attempt follow · s) least most := by
  cases s with
  | nil =>
    rw [hnil]
    exact (greedy_eq_none fun n _ _ => attempt_eq_none (by simp) n).symm
  | cons c s =>
    by_cases hc : c = '#'
    · subst hc
      exact hhash s
    · rw [h.other c s hc]
      exact (greedy_eq_none fun n _ _ => attempt_eq_none (by simpa using hc) n).symm

/-- **A literal is read greedily**: the most digits from eight down to three. -/
theorem literal_eq_greedy (s : Text) :
    literal s = greedy (attempt (fun _ => True) · s) 3 8 := by
  refine readsRuns_literal.eq_greedy rfl (fun s => ?_) s
  rw [readsRuns_literal.hash]
  by_cases hlow : 3 ≤ (s.takeWhile isHexDigit).length
  · -- All digits up to eight can be taken, and no attempt with more of them succeeds.
    have htaken : min (s.takeWhile isHexDigit).length 8 ≤ (s.takeWhile isHexDigit).length :=
      Nat.min_le_left _ _
    have hdigits : (s.takeWhile isHexDigit).take 8
        = s.take (min (s.takeWhile isHexDigit).length 8) := by
      rw [← take_run_of_all (le_length_run_iff.1 htaken).2, Nat.min_comm,
        ← List.take_eq_take_min]
    rw [if_pos hlow, Option.map_some, hdigits]
    refine (greedy_eq_some (Nat.le_min.2 ⟨hlow, by omega⟩) (Nat.min_le_right _ _) ?_ ?_).symm
    · rw [attempt_hash, if_pos htaken]
    · intro m hm hmost
      rw [attempt_hash, if_neg (by omega)]
  · rw [if_neg hlow]
    refine (greedy_eq_none fun n hn _ => ?_).symm
    rw [attempt_hash, if_neg (by omega)]

/-- **A whole literal is read greedily** too, where no digit may follow. -/
theorem wholeLiteral_eq_greedy (s : Text) :
    wholeLiteral s = greedy (attempt EndsRun · s) 3 8 := by
  refine readsRuns_wholeLiteral.eq_greedy rfl (fun s => ?_) s
  rw [readsRuns_wholeLiteral.hash]
  by_cases h : 3 ≤ (s.takeWhile isHexDigit).length ∧ (s.takeWhile isHexDigit).length ≤ 8
  · -- Only the attempt with all digits of the run succeeds.
    have hrun := le_length_run_iff.1 (Nat.le_refl (s.takeWhile isHexDigit).length)
    have hdigits := take_run_of_all hrun.2
    rw [List.take_length] at hdigits
    rw [if_pos h, Option.map_some]
    refine (greedy_eq_some h.1 h.2 ?_ ?_).symm
    · rw [attempt_endsRun_hash, if_pos rfl, ← hdigits]
    · intro m hm _
      rw [attempt_endsRun_hash, if_neg (by omega)]
  · rw [if_neg h]
    refine (greedy_eq_none fun n hlow hhigh => ?_).symm
    rw [attempt_endsRun_hash, if_neg (by omega)]

/-! ## Where literals are found -/

/-- Behind the offset of a `#` stands the text with its run. -/
theorem drop_of_mem_hashes {s : Text} {offset : Nat} (h : offset ∈ hashes s) :
    s.drop offset = '#' :: s.drop (offset + 1) := by
  have hget : s[offset]? = some '#' := of_decide_eq_true (List.mem_filter.1 h).2
  obtain ⟨hlt, hhash⟩ := List.getElem?_eq_some_iff.1 hget
  rw [List.drop_eq_getElem_cons hlt, hhash]

/-- **To give digits back is in vain** in a run of more than eight: another one always follows. -/
theorem attempt_endsRun_eq_none {s : Text} {offset : Nat} (h : offset ∈ hashes s)
    (hlong : 8 < (runBehind s offset).length) {n : Nat} (hn : n ≤ 8) :
    attempt EndsRun n (s.drop offset) = none := by
  have hne : n ≠ ((s.drop (offset + 1)).takeWhile isHexDigit).length := by
    rw [← runBehind]
    omega
  rw [drop_of_mem_hashes h, attempt_endsRun_hash, if_neg hne]

/-- **The whole literals are literals**: just those that are not cut short. -/
theorem findAll_wholeLiteral_eq_filter (s : Text) :
    findAll wholeLiteral s
      = (findAll literal s).filter fun found => (runBehind s found.offset).length ≤ 8 := by
  have hfilter : ((hashes s).filter fun offset => 3 ≤ (runBehind s offset).length ∧
        (runBehind s offset).length ≤ 8)
      = ((hashes s).filter fun offset => 3 ≤ (runBehind s offset).length).filter fun offset =>
          (runBehind s offset).length ≤ 8 := by
    rw [List.filter_filter]
    refine List.filter_congr fun offset _ => ?_
    rw [Bool.decide_and, Bool.and_comm]
  rw [findAll_wholeLiteral, findAll_literal, List.filter_map, hfilter]
  refine List.map_congr_left fun offset hoffset => ?_
  have hshort : (runBehind s offset).length ≤ 8 := of_decide_eq_true (List.mem_filter.1 hoffset).2
  rw [List.take_of_length_le hshort]

/-- A palette takes on the literals of its text in upper case. -/
theorem hexColors_append (s : Text) {rest : Text} (hrest : EndsRun rest) :
    Palette.hexColors (s ++ rest) = Palette.hexColors s ++ Palette.hexColors rest := by
  simp only [Palette.hexColors, literals_append s hrest, List.map_append]

/-- The colours reported of a style value are its literals, without those that are allowed. -/
theorem map_value_colorFindings (page : Page) (style : Text) (line : Int) :
    (InlineStyle.colorFindings page style line).map (·.value)
      = (literals style).filter (!page.palette.allows ·) := by
  rw [InlineStyle.colorFindings, List.map_map]
  exact List.map_id _

/-- The colours reported of a line of a style block are its whole literals, without those that are
allowed. -/
theorem map_value_lineFindings (page : Page) (number : Nat) (line : Text) :
    (StyleBlock.lineFindings page number line).map (·.value)
      = if StyleBlock.isSkipped line then []
        else (wholeLiterals line).filter (!page.palette.allows ·) := by
  rw [StyleBlock.lineFindings]
  split
  · rfl
  · rw [List.map_map]
    exact List.map_id _

/-- **The readings of colour literals agree.** Both patterns read greedily, the most digits first,
and no digit may follow a whole literal. A palette takes on the literals of its text in upper case,
and the same literals are looked up in the palette when a style value is checked; of a line of a
style block it is the whole literals. There is one literal at each `#` with at least three digits
behind it, cut to eight digits. The whole literals are those that are not cut: in a run of more
than eight digits every shorter attempt is in vain. What is read off two texts in a row is read off
the joined one, if the second text does not go on with a digit. -/
theorem readings_agree (s : Text) :
    literal s = greedy (attempt (fun _ => True) · s) 3 8 ∧
    wholeLiteral s = greedy (attempt EndsRun · s) 3 8 ∧
    Palette.hexColors s = (literals s).map upper ∧
    (∀ page line, (InlineStyle.colorFindings page s line).map (·.value)
      = (literals s).filter (!page.palette.allows ·)) ∧
    (∀ page number, (StyleBlock.lineFindings page number s).map (·.value)
      = if StyleBlock.isSkipped s then []
        else (wholeLiterals s).filter (!page.palette.allows ·)) ∧
    findAll literal s
      = ((hashes s).filter fun offset => 3 ≤ (runBehind s offset).length).map (fun offset =>
        ⟨offset, '#' :: (runBehind s offset).take 8⟩) ∧
    findAll wholeLiteral s
      = (findAll literal s).filter (fun found => (runBehind s found.offset).length ≤ 8) ∧
    (∀ offset ∈ hashes s, 8 < (runBehind s offset).length →
      ∀ n ≤ 8, attempt EndsRun n (s.drop offset) = none) ∧
    ∀ rest, EndsRun rest → ∀ read ∈ [literals, wholeLiterals, Palette.hexColors],
      read (s ++ rest) = read s ++ read rest := by
  refine ⟨literal_eq_greedy s, wholeLiteral_eq_greedy s, rfl,
    fun page line => map_value_colorFindings page s line,
    fun page number => map_value_lineFindings page number s, findAll_literal s,
    findAll_wholeLiteral_eq_filter s, fun offset h hlong n hn => attempt_endsRun_eq_none h hlong hn,
    fun rest hrest read hread => ?_⟩
  rw [List.mem_cons, List.mem_pair] at hread
  rcases hread with rfl | rfl | rfl
  · exact literals_append s hrest
  · exact wholeLiterals_append s hrest
  · exact hexColors_append s hrest

/-- Here the first of two runs is too long for a whole literal, and the text that follows the second
run begins with a `#`. -/
theorem readings_agree_long_run :
    EndsRun "#0fF".toList ∧
      0 ∈ hashes "#123456789#abc".toList ∧ 8 < (runBehind "#123456789#abc".toList 0).length ∧
      attempt EndsRun 8 "#123456789#abc".toList = none ∧
      literals ("#123456789#abc".toList ++ "#0fF".toList)
        = ["#12345678", "#abc", "#0fF"].map String.toList ∧
      wholeLiterals ("#123456789#abc".toList ++ "#0fF".toList)
        = ["#abc", "#0fF"].map String.toList := by
  obtain ⟨-, -, -, -, -, -, -, hvain, happend⟩ := readings_agree "#123456789#abc".toList
  have hends : EndsRun "#0fF".toList := by decide
  have hmem : 0 ∈ hashes "#123456789#abc".toList := by decide
  have hlong : 8 < (runBehind "#123456789#abc".toList 0).length := by decide
  refine ⟨hends, hmem, hlong, hvain 0 hmem hlong 8 (by decide), ?_, ?_⟩
  · rw [happend _ hends literals (by simp)]
    decide
  · rw [happend _ hends wholeLiterals (by simp)]
    decide

end DesignLint.HexColor
