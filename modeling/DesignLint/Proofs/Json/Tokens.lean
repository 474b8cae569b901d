import DesignLint.Json.Reader
import DesignLint.Proofs.Json.Grammar
import DesignLint.Proofs.Text.Reading
import DesignLint.Text.Lemmas
import Mathlib.Data.List.TakeDrop
import Mathlib.Data.List.TakeWhile
import Mathlib.Data.Option.Basic
import Mathlib.Tactic.Tauto

/-! # Reading the parts of JSON values

What the reader takes off a text at each level below values, in the words of the grammar:

* `Json.exists_space`, `Json.Space.dropSpace_append`: space;
* `Json.digit?_eq_some_iff`, `Json.codeUnit_eq_some_iff`, `Json.escape_eq_some_iff`: escapes;
* `Json.readString_eq_some_iff`: strings;
* `Json.readMagnitude_eq_some_iff`: natural numbers, which end where no digit follows. -/

namespace DesignLint.Json

open Text

variable {s t w rest : Text} {n : Nat} {c : Char}

/-! ## Space -/

/-- The characters that may stand between tokens. -/
theorem isSpace_iff : isSpace c = true ↔ c ∈ [' ', '\t', '\n', '\r'] := by
  simp only [isSpace, Bool.or_eq_true, beq_iff_eq, List.mem_cons, List.not_mem_nil, or_false]
  tauto

/-- Space is skipped. -/
theorem Space.dropSpace_append (h : Space s) (rest : Text) :
    dropSpace (s ++ rest) = dropSpace rest :=
  List.dropWhile_append_of_pos fun c hc => isSpace_iff.2 (h c hc)

/-- What is skipped is space. -/
theorem exists_space (s : Text) : ∃ before, Space before ∧ s = before ++ dropSpace s := by
  refine ⟨s.takeWhile isSpace, fun c hc => isSpace_iff.1 (List.mem_takeWhile_imp hc), ?_⟩
  exact List.takeWhile_append_dropWhile.symm

/-! ## Strings -/

/-- A hexadecimal digit is read as its value. -/
theorem HexDigit.digit? (h : HexDigit n c) : Numeral.digit? 16 c = some n := by
  obtain ⟨hn, hc⟩ := h
  have hdigits : ∀ n < 16, Numeral.digit? 16 n.digitChar = some n ∧
      Numeral.digit? 16 n.digitChar.toUpper = some n := by decide
  rcases hc with rfl | rfl
  · exact (hdigits n hn).1
  · exact (hdigits n hn).2

/-- What is read as a hexadecimal digit is a character of ASCII. -/
theorem lt_of_digit? (h : Numeral.digit? 16 c = some n) : n < 16 ∧ c.toNat < 128 := by
  rw [Numeral.digit?, Option.filter_eq_some_iff, decide_eq_true_iff] at h
  obtain ⟨h, hn⟩ := h
  refine ⟨hn, ?_⟩
  have hle {d : Char} (hc : c ≤ d) : c.toNat ≤ d.toNat := hc
  -- Decimal digits, small letters and capital letters are three ranges, and each ends below 128.
  split at h
  · rename_i hc
    rw [Char.isDigit, Bool.and_eq_true, decide_eq_true_iff, decide_eq_true_iff] at hc
    exact Nat.lt_of_le_of_lt (hle (d := '9') hc.2) (by decide)
  · split at h
    · rename_i hc
      rw [Bool.and_eq_true, decide_eq_true_iff, decide_eq_true_iff] at hc
      exact Nat.lt_of_le_of_lt (hle hc.2) (by decide)
    · split at h
      · rename_i hc
        rw [Bool.and_eq_true, decide_eq_true_iff, decide_eq_true_iff] at hc
        exact Nat.lt_of_le_of_lt (hle hc.2) (by decide)
      · exact nomatch h

/-- **Reading a hexadecimal digit.** -/
theorem digit?_eq_some_iff : Numeral.digit? 16 c = some n ↔ HexDigit n c := by
  constructor
  · intro h
    -- Beyond ASCII there is no digit, and within it all characters can be tried.
    have hdigits : ∀ code < 128, ∀ n < 16, Numeral.digit? 16 (.ofNat code) = some n →
        HexDigit n (.ofNat code) := by decide +kernel
    obtain ⟨hn, hc⟩ := lt_of_digit? h
    have hdigit := hdigits c.toNat hc n hn
    rw [Char.ofNat_toNat] at hdigit
    exact hdigit h
  · exact HexDigit.digit?

/-- **Reading a number of four hexadecimal digits.** -/
theorem codeUnit_eq_some_iff :
    codeUnit s = some (n, rest) ↔ ∃ w, CodeUnit n w ∧ s = w ++ rest := by
  constructor
  · intro h
    rw [codeUnit.eq_def] at h
    split at h
    · rename_i c₀ c₁ c₂ c₃ s
      simp only [List.mapM_cons, List.mapM_nil, Option.bind_eq_bind, Option.pure_def,
        Option.bind_some, Option.bind_eq_some_iff, Option.some.injEq, Prod.mk.injEq,
        digit?_eq_some_iff] at h
      obtain ⟨_, ⟨n₀, h₀, _, ⟨n₁, h₁, _, ⟨n₂, h₂, _, ⟨n₃, h₃, rfl⟩, rfl⟩, rfl⟩, rfl⟩, rfl, rfl⟩ := h
      refine ⟨[c₀, c₁, c₂, c₃], ?_, rfl⟩
      have hunit := CodeUnit.mk h₀ h₁ h₂ h₃
      simpa [Numeral.digitsValue] using hunit
    · exact nomatch h
  · rintro ⟨_, ⟨h₀, h₁, h₂, h₃⟩, rfl⟩
    simp [codeUnit, Numeral.digitsValue, h₀.digit?, h₁.digit?, h₂.digit?, h₃.digit?]

/-- The letters of the short escapes. -/
theorem shortEscape?_eq_some_iff {letter : Char} :
    shortEscape? letter = some c ↔ (c, letter) ∈ shortEscapes := by
  constructor
  · intro h
    rw [shortEscape?.eq_def] at h
    split at h <;> cases h <;> decide
  · intro h
    simp only [shortEscapes, List.mem_cons, Prod.mk.injEq, List.not_mem_nil, or_false] at h
    rcases h with ⟨rfl, rfl⟩ | ⟨rfl, rfl⟩ | ⟨rfl, rfl⟩ | ⟨rfl, rfl⟩ | ⟨rfl, rfl⟩ | ⟨rfl, rfl⟩ |
      ⟨rfl, rfl⟩ | ⟨rfl, rfl⟩ <;> rfl

/-- **Reading an escape.** -/
theorem escape_eq_some_iff : escape s = some (c, rest) ↔ ∃ w, Escape c w ∧ s = w ++ rest := by
  constructor
  · intro h
    rw [escape.eq_def] at h
    split at h
    · simp only [Option.bind_eq_bind, Option.bind_eq_some_iff, Prod.exists,
        codeUnit_eq_some_iff] at h
      obtain ⟨high, s, ⟨w, hw, rfl⟩, h⟩ := h
      by_cases hscalar : high < 0xD800 ∨ 0xDFFF < high
      · rw [if_pos (by simpa using hscalar)] at h
        cases h
        exact ⟨_, .unit hw hscalar, rfl⟩
      · rw [if_neg (by simpa using hscalar)] at h
        simp only [Option.bind_eq_some_iff, Option.guard_eq_some', after?_exactly_eq_some_iff,
          Prod.exists, codeUnit_eq_some_iff, Option.pure_def, Option.some.injEq, Prod.mk.injEq,
          Bool.and_eq_true, decide_eq_true_iff] at h
        obtain ⟨_, hhigh, s, rfl, low, s', ⟨w', hw', rfl⟩, _, hlow, rfl, rfl⟩ := h
        refine ⟨_, .pair hw hw' ⟨?_, hhigh⟩ hlow, ?_⟩
        · omega
        · simp
    · rename_i letter s hu
      obtain ⟨plain, hplain, hpair⟩ := Option.map_eq_some_iff.1 h
      cases hpair
      exact ⟨[letter], .short (shortEscape?_eq_some_iff.1 hplain), rfl⟩
    · exact nomatch h
  · rintro ⟨_, h, rfl⟩
    cases h with
    | short h =>
      have hletter := shortEscape?_eq_some_iff.2 h
      rw [List.singleton_append, escape, hletter, Option.map_some]
      rintro rfl
      exact nomatch hletter
    | unit h hscalar =>
      rw [List.cons_append, escape, codeUnit_eq_some_iff.2 ⟨_, h, rfl⟩]
      exact if_pos (by simpa using hscalar)
    | @pair high low w w' hs ht hhigh hlow =>
      have hscalar : ¬ (decide (high < 0xD800) || decide (0xDFFF < high)) = true := by
        simp only [Bool.or_eq_true, decide_eq_true_iff]
        omega
      rw [List.cons_append, List.append_assoc, escape, codeUnit_eq_some_iff.2 ⟨_, hs, rfl⟩]
      simp only [Option.bind_eq_bind, Option.bind_some, if_neg hscalar, Option.bind_eq_some_iff,
        Option.guard_eq_some', after?_exactly_eq_some_iff, Prod.exists, codeUnit_eq_some_iff,
        Option.pure_def, Option.some.injEq, Prod.mk.injEq, Bool.and_eq_true, decide_eq_true_iff]
      exact ⟨(), hhigh.2, _, rfl, _, _, ⟨_, ht, rfl⟩, (), hlow, rfl, rfl⟩

/-- What is read up to a quote is the characters of a string. -/
theorem exists_of_stringRest {steps : Nat} (h : stringRest steps s = some (t, rest)) :
    ∃ w, Characters t w ∧ s = w ++ '"' :: rest := by
  induction steps generalizing s t with
  | zero => exact nomatch h
  | succ steps ih =>
    rw [stringRest.eq_def] at h
    -- No steps left, no text left, the closing quote, an escape, and any other character.
    split at h
    · exact nomatch h
    · exact nomatch h
    · cases h
      exact ⟨[], .nil, rfl⟩
    · rename_i hsteps
      obtain rfl := Nat.succ.inj hsteps
      simp only [Option.bind_eq_bind, Option.bind_eq_some_iff, Prod.exists] at h
      obtain ⟨c, s, hescape, more, s', hmore, h⟩ := h
      cases h
      obtain ⟨w, hw, rfl⟩ := escape_eq_some_iff.1 hescape
      obtain ⟨v, hv, rfl⟩ := ih hmore
      exact ⟨_, .cons (.escaped hw) hv, by simp⟩
    · rename_i hquote hbackslash hsteps
      obtain rfl := Nat.succ.inj hsteps
      split at h
      · exact nomatch h
      · rename_i hcontrol
        obtain ⟨⟨more, s'⟩, hmore, hpair⟩ := Option.map_eq_some_iff.1 h
        cases hpair
        obtain ⟨v, hv, rfl⟩ := ih hmore
        exact ⟨_, .cons (.plain (Nat.le_of_not_lt hcontrol) hquote hbackslash) hv, rfl⟩

/-- The characters of a string are read up to its quote. -/
theorem Characters.stringRest (h : Characters t w) {steps : Nat} (hsteps : w.length < steps) :
    stringRest steps (w ++ '"' :: rest) = some (t, rest) := by
  induction h generalizing steps with
  | nil =>
    obtain ⟨steps, rfl⟩ := Nat.exists_eq_add_of_lt hsteps
    rfl
  | @cons c t w v hc hrest ih =>
    obtain ⟨steps, rfl⟩ : ∃ k, steps = k + 1 := ⟨steps - 1, by omega⟩
    rw [List.length_append] at hsteps
    cases hc with
    | plain hcontrol hquote hbackslash =>
      rw [List.length_singleton] at hsteps
      rw [List.singleton_append, List.cons_append, Json.stringRest, if_neg (by omega),
        ih (by omega)]
      · rfl
      · exact hquote
      · exact hbackslash
    | escaped hw =>
      rw [List.length_cons] at hsteps
      rw [List.cons_append, List.cons_append, List.append_assoc, Json.stringRest,
        escape_eq_some_iff.2 ⟨_, hw, rfl⟩]
      have hmore : Json.stringRest steps (v ++ '"' :: rest) = some (t, rest) := ih (by omega)
      simp [hmore]

/-- **Reading a string** behind its opening quote. -/
theorem readString_eq_some_iff :
    readString s = some (t, rest) ↔ ∃ w, Characters t w ∧ s = w ++ '"' :: rest := by
  constructor
  · exact exists_of_stringRest
  · rintro ⟨w, hw, rfl⟩
    refine hw.stringRest ?_
    rw [List.length_append]
    omega

/-! ## Numbers -/

/-- A text that goes on with no decimal digit. -/
def EndsDigits (s : Text) : Prop := ∀ c ∈ s.head?, c.isDigit = false

/-- Digits in front of a text that goes on with none are the longest run of them. -/
theorem span_isDigit_append (hs : ∀ c ∈ s, c.isDigit = true) (hrest : EndsDigits rest) :
    (s ++ rest).span Char.isDigit = (s, rest) := by
  have hrun := span_append_of_head? hs hrest
  rw [List.span_eq_takeWhile_dropWhile, hrun.1, hrun.2]

/-- The longest run of digits at the head of a text. -/
theorem span_isDigit_eq_iff :
    s.span Char.isDigit = (w, rest) ↔
      (∀ c ∈ w, c.isDigit = true) ∧ EndsDigits rest ∧ s = w ++ rest := by
  constructor
  · intro h
    rw [List.span_eq_takeWhile_dropWhile, Prod.mk.injEq] at h
    obtain ⟨rfl, rfl⟩ := h
    exact ⟨fun c hc => List.mem_takeWhile_imp hc, eq_false_of_mem_head?_dropWhile,
      List.takeWhile_append_dropWhile.symm⟩
  · rintro ⟨hw, hrest, rfl⟩
    exact span_isDigit_append hw hrest

/-- A decimal digit is read as its value. -/
theorem digit?_ten (h : c.isDigit = true) : Numeral.digit? 10 c = some (c.toNat - '0'.toNat) := by
  rw [Numeral.digit?, if_pos h, Option.filter_eq_some_iff]
  refine ⟨rfl, decide_eq_true ?_⟩
  rw [Char.isDigit, Bool.and_eq_true, decide_eq_true_iff, decide_eq_true_iff] at h
  have hle : c.toNat ≤ '9'.toNat := h.2
  have hnine : '9'.toNat = 57 := rfl
  have hzero : '0'.toNat = 48 := rfl
  omega

/-- The value of decimal digits. -/
theorem digitsValue_eq (hs : ∀ c ∈ s, c.isDigit = true) :
    Numeral.digitsValue 10 (s.filterMap (Numeral.digit? 10)) = Nat.ofDigitChars 10 s 0 := by
  rw [Numeral.digitsValue]
  generalize 0 = start
  induction s generalizing start with
  | nil => rfl
  | cons c s ih =>
    obtain ⟨hc, hs⟩ := List.forall_mem_cons.1 hs
    rw [List.filterMap_cons_some (digit?_ten hc), List.foldl_cons, ih hs, Nat.ofDigitChars_cons,
      Nat.mul_comm]

/-- **Reading a natural number.** -/
theorem readMagnitude_eq_some_iff :
    readMagnitude s = some (n, rest) ↔ ∃ w, Magnitude n w ∧ EndsDigits rest ∧ s = w ++ rest := by
  constructor
  · intro h
    rw [readMagnitude] at h
    split at h
    · exact nomatch h
    · exact nomatch h
    · rename_i digits rest' hnonempty hleading hspan
      obtain ⟨rfl, rfl⟩ := Prod.mk.inj (Option.some_inj.1 h)
      obtain ⟨hdigits, hrest, rfl⟩ := span_isDigit_eq_iff.1 hspan
      have hfirst : digits.head? = some '0' → digits = ['0'] := by
        intro hzero
        obtain ⟨tail, rfl⟩ := List.head?_eq_some_iff.1 hzero
        cases tail with
        | nil => rfl
        | cons c tail => exact (hleading c tail rfl).elim
      exact ⟨digits, ⟨hdigits, hnonempty, hfirst, (digitsValue_eq hdigits).symm⟩, hrest, rfl⟩
  · rintro ⟨w, hw, hrest, rfl⟩
    rw [readMagnitude, span_isDigit_append hw.digits hrest]
    split
    · rename_i hspan
      exact absurd (Prod.mk.inj hspan).1 hw.nonempty
    · rename_i c tail _ hspan
      have hleading := hw.leading (by rw [(Prod.mk.inj hspan).1]; rfl)
      rw [(Prod.mk.inj hspan).1] at hleading
      exact nomatch hleading
    · rename_i hspan
      obtain ⟨rfl, rfl⟩ := Prod.mk.inj hspan
      rw [digitsValue_eq hw.digits, hw.value]

end DesignLint.Json
