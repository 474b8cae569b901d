import DesignLint.Proofs.Text.Lines
import DesignLint.Proofs.Text.Splitting
import DesignLint.Text.Utf8

/-! # Line ends

Reading a page leaves no carriage return. `ReturnEnd` says what a line end with a carriage return
is, and a text is split by it like by every grammar:

* `unifyNewlines_eq_unified`: each of these line ends becomes one line feed, and nothing else
  changes;
* `unifyNewlines_append`: texts are read one after the other, if no line end is cut in two;
* `unifyNewlines_joined`: lines are read alike, whichever line end stands between them. -/

namespace DesignLint.Text

/-! ## Splitting a text at its carriage returns -/

/-- A line end with a carriage return: the line feed behind it belongs to it, if there is one. -/
def ReturnEnd : Grammar Unit := fun body _ rest =>
  body = ['\r', '\n'] ∨ body = ['\r'] ∧ rest.head? ≠ some '\n'

/-- Reads a carriage return with the line feed behind it, if there is one. -/
def returnEnd : Pattern Unit
  | '\r' :: '\n' :: s => some ((), s)
  | '\r' :: s => some ((), s)
  | _ => none

/-- The text of a split with one line feed in the place of each occurrence. -/
def unified (split : Split Unit) : Text :=
  split.pieces.flatMap (fun piece => piece.gap ++ ['\n']) ++ split.tail

/-- The pattern of line ends reads just these. -/
theorem reads_returnEnd : Reads returnEnd ReturnEnd where
  eq_some_iff s value rest := by
    constructor
    · intro h
      unfold returnEnd at h
      split at h
      · obtain ⟨-, rfl⟩ := Prod.mk.inj (Option.some_inj.1 h)
        exact ⟨['\r', '\n'], rfl, .inl rfl⟩
      · rename_i behind hpair
        obtain ⟨-, rfl⟩ := Prod.mk.inj (Option.some_inj.1 h)
        refine ⟨['\r'], rfl, .inr ⟨rfl, fun hhead => ?_⟩⟩
        obtain ⟨more, rfl⟩ := List.head?_eq_some_iff.1 hhead
        exact hpair more rfl
      · exact nomatch h
    · rintro ⟨body, rfl, rfl | ⟨rfl, hhead⟩⟩
      · rfl
      · cases rest with
        | nil => rfl
        | cons c rest =>
          have hc : c ≠ '\n' := fun h => hhead (congrArg some h)
          simp [returnEnd, hc]
  body_ne_nil body value rest h := by
    rcases h with rfl | ⟨rfl, -⟩
    · exact List.cons_ne_nil _ _
    · exact List.cons_ne_nil _ _

/-- A line end begins at every carriage return. -/
theorem begins_returnEnd (s : Text) : Begins ReturnEnd ('\r' :: s) := by
  by_cases hhead : s.head? = some '\n'
  · obtain ⟨more, rfl⟩ := List.head?_eq_some_iff.1 hhead
    exact ⟨['\r', '\n'], (), more, rfl, .inl rfl⟩
  · exact ⟨['\r'], (), s, rfl, .inr ⟨rfl, hhead⟩⟩

/-- So gaps between line ends hold no carriage return. -/
theorem not_mem_of_freeOf_returnEnd {gap rest : Text} (free : FreeOf ReturnEnd gap rest) :
    '\r' ∉ gap := by
  intro hmem
  obtain ⟨front, back, rfl⟩ := List.append_of_mem hmem
  exact free front ('\r' :: back) rfl (List.cons_ne_nil _ _) (begins_returnEnd (back ++ rest))

/-! ## What becomes of a text -/

/-- Other characters are kept. -/
theorem unifyNewlines_cons {c : Char} (hc : c ≠ '\r') (s : Text) :
    unifyNewlines (c :: s) = c :: unifyNewlines s := by
  rw [unifyNewlines, if_neg hc]
  intro _ h
  exact absurd h hc

/-- A carriage return that no line feed follows becomes a line feed. -/
theorem unifyNewlines_return {s : Text} (hs : s.head? ≠ some '\n') :
    unifyNewlines ('\r' :: s) = '\n' :: unifyNewlines s := by
  rw [unifyNewlines, if_pos rfl]
  rintro more - rfl
  exact hs rfl

/-- No carriage return is left. -/
theorem not_mem_unifyNewlines (s : Text) : '\r' ∉ unifyNewlines s := by
  fun_induction unifyNewlines s with
  | case1 => exact List.not_mem_nil
  | case2 s ih =>
    rw [List.mem_cons, not_or]
    exact ⟨by decide, ih⟩
  | case3 c s _ ih =>
    rw [List.mem_cons, not_or]
    refine ⟨?_, ih⟩
    by_cases hc : c = '\r'
    · rw [if_pos hc]
      decide
    · rw [if_neg hc]
      exact Ne.symm hc

/-- Unifying line ends makes no text longer. -/
theorem length_unifyNewlines_le (s : Text) : (unifyNewlines s).length ≤ s.length := by
  fun_induction unifyNewlines s with
  | case1 => exact Nat.le_refl _
  | case2 s ih =>
    simp only [List.length_cons]
    omega
  | case3 c s _ ih =>
    simp only [List.length_cons]
    omega

/-- **Texts are read one after the other**, if the first one does not end in the middle of a line
end. -/
theorem unifyNewlines_append {s t : Text} (h : s.getLast? = some '\r' → t.head? ≠ some '\n') :
    unifyNewlines (s ++ t) = unifyNewlines s ++ unifyNewlines t := by
  fun_induction unifyNewlines s with
  | case1 => rfl
  | case2 s ih =>
    rw [List.cons_append, List.cons_append, unifyNewlines, List.cons_append, ih]
    intro hlast
    refine h ?_
    rw [List.getLast?_cons_cons, List.getLast?_cons, hlast]
    rfl
  | case3 c s hpair ih =>
    have hnext : s.getLast? = some '\r' → t.head? ≠ some '\n' := by
      intro hlast
      refine h ?_
      rw [List.getLast?_cons, hlast]
      rfl
    rw [List.cons_append, List.cons_append, ← ih hnext]
    by_cases hc : c = '\r'
    · subst hc
      rw [if_pos rfl]
      refine unifyNewlines_return ?_
      -- What follows the carriage return is in the first text, or it is the second one.
      cases s with
      | nil => exact h rfl
      | cons d s =>
        intro hhead
        exact hpair s rfl (by rw [Option.some_inj.1 hhead])
    · rw [if_neg hc, unifyNewlines_cons hc]

/-- A text without a carriage return is read as it is. -/
theorem unifyNewlines_of_not_mem {s : Text} (hs : '\r' ∉ s) : unifyNewlines s = s := by
  induction s with
  | nil => rfl
  | cons c s ih =>
    rw [List.mem_cons, not_or] at hs
    rw [unifyNewlines_cons (Ne.symm hs.1), ih hs.2]

/-- A text without a carriage return is kept in front of other text. -/
theorem unifyNewlines_append_of_not_mem {s : Text} (hs : '\r' ∉ s) (t : Text) :
    unifyNewlines (s ++ t) = s ++ unifyNewlines t := by
  rw [unifyNewlines_append, unifyNewlines_of_not_mem hs]
  intro hlast
  exact absurd (List.mem_of_getLast? hlast) hs

/-- **Each line end with a carriage return becomes one line feed**, and the text between them stays
as it is. -/
theorem unifyNewlines_eq_unified {s : Text} {split : Split Unit} (h : Splits ReturnEnd s split) :
    unifyNewlines s = unified split := by
  induction h with
  | tail free => exact unifyNewlines_of_not_mem (not_mem_of_freeOf_returnEnd free)
  | @piece rest piece split free occurs _ ih =>
    have hend : unifyNewlines (piece.body ++ rest) = '\n' :: unifyNewlines rest := by
      rcases occurs with hbody | ⟨hbody, hhead⟩
      · rw [hbody]
        rfl
      · rw [hbody]
        exact unifyNewlines_return hhead
    rw [unifyNewlines_append_of_not_mem (not_mem_of_freeOf_returnEnd free), hend, ih, unified,
      unified, List.flatMap_cons]
    simp only [List.append_assoc, List.cons_append, List.nil_append]

/-- **A text without a carriage return is found again** in what is read, whatever stands around
it. -/
theorem isInfix_unifyNewlines {word : Text} (hword : '\r' ∉ word) (front back : Text) :
    word <:+: unifyNewlines (front ++ (word ++ back)) := by
  by_cases hcut : front.getLast? = some '\r' ∧ (word ++ back).head? = some '\n'
  · -- The word begins with the second half of a line end, which becomes its first character.
    obtain ⟨hlast, hhead⟩ := hcut
    obtain ⟨before, rfl⟩ := List.getLast?_eq_some_iff.1 hlast
    cases word with
    | nil => exact List.nil_infix
    | cons c word =>
      obtain rfl : c = '\n' := Option.some_inj.1 hhead
      have hbehind : '\r' ∉ word := List.not_mem_of_not_mem_cons hword
      have hreturn : (['\r'] ++ ('\n' :: word ++ back)).head? ≠ some '\n' := by simp
      rw [List.append_assoc, unifyNewlines_append fun _ => hreturn, List.cons_append,
        List.cons_append, List.nil_append, unifyNewlines, unifyNewlines_append_of_not_mem hbehind]
      exact ⟨unifyNewlines before, unifyNewlines back, by simp⟩
  · rw [unifyNewlines_append fun hlast hhead => hcut ⟨hlast, hhead⟩,
      unifyNewlines_append_of_not_mem hword]
    exact List.infix_append' _ _ _

/-- What stands between two lines of a file: a line feed, a carriage return, or both. -/
def lineEnds : List Text := [['\n'], ['\r', '\n'], ['\r']]

/-- A line end in front of other text becomes a line feed. -/
theorem unifyNewlines_lineEnd_append {lineEnd s : Text} (hend : lineEnd ∈ lineEnds)
    (hs : lineEnd = ['\r'] → s.head? ≠ some '\n') :
    unifyNewlines (lineEnd ++ s) = '\n' :: unifyNewlines s := by
  rw [lineEnds, List.mem_cons, List.mem_pair] at hend
  rcases hend with rfl | rfl | rfl
  · exact unifyNewlines_cons (by decide) s
  · exact unifyNewlines.eq_2 s
  · exact unifyNewlines_return (hs rfl)

/-- **Lines are read alike**, whichever line end stands between them. -/
theorem unifyNewlines_joined {lineEnd : Text} (hend : lineEnd ∈ lineEnds) {lines : List Text}
    (hlines : ∀ line ∈ lines, '\r' ∉ line ∧ '\n' ∉ line) :
    unifyNewlines (joined lineEnd lines) = joined ['\n'] lines := by
  induction lines with
  | nil => rfl
  | cons line below ih =>
    obtain ⟨hline, hbelow⟩ := List.forall_mem_cons.1 hlines
    cases below with
    | nil => exact unifyNewlines_of_not_mem hline.1
    | cons next below =>
      -- A lone carriage return stays alone: no line begins with a line feed.
      have hnext : lineEnd = ['\r'] → (joined lineEnd (next :: below)).head? ≠ some '\n' := by
        rintro rfl hhead
        have hmem := List.mem_of_head? hhead
        rw [mem_joined_iff (by decide)] at hmem
        obtain ⟨other, hother, hfeed⟩ := hmem
        exact (hbelow other hother).2 hfeed
      rw [joined_cons_cons, joined_cons_cons, unifyNewlines_append_of_not_mem hline.1,
        unifyNewlines_lineEnd_append hend hnext, ih hbelow]
      rfl

end DesignLint.Text
