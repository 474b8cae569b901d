import DesignLint.Text.Utf8
import Mathlib.Tactic.Common

/-! # Decoding

A flaw in some bytes never spreads: decoding starts anew at every byte that does not continue a
character. So texts keep their characters, whatever bytes stand in front of them:

* `step_append`: what a step reads off bytes, it reads off longer bytes too;
* `decodeLenient_append`: bytes are decoded one part after the other, if the second part begins
  with no byte that continues a character;
* `step_encodeChar_append`: one step reads what `encodeChar` wrote;
* `decodeLenient_encode_append`: so the bytes of a text are decoded to the text;
* `exists_skipped_of_flaw`: the flaw at which decoding stops is met again by whoever starts at
  it. -/

namespace DesignLint.Utf8

/-- Whether a byte continues a character and begins none. -/
def Continues (byte : UInt8) : Prop := 0x80 ≤ byte.toNat ∧ byte.toNat ≤ 0xBF

/-! ## One step -/

/-- The character that is shown for what a step reads. -/
def Step.shown : Step → Char
  | char c _ _ => c
  | flawed _ _ _ => '\uFFFD'

/-- Decoding shows what the first step reads and goes on behind it. -/
theorem decodeLenient_cons (first : UInt8) (bytes : List UInt8) :
    decodeLenient (first :: bytes)
      = (step first bytes).shown :: decodeLenient (step first bytes).rest := by
  rw [decodeLenient]
  split
  · rename_i hstep
    rw [hstep]
    rfl
  · rename_i hstep
    rw [hstep]
    rfl

/-- A step that shows the same as another one and leaves `more` behind the bytes that the other one
leaves. -/
structure Step.Leaves (read original : Step) (more : List UInt8) : Prop where
  /-- The same character is shown. -/
  shown : read.shown = original.shown
  /-- More bytes are left. -/
  rest : read.rest = original.rest ++ more

/-- No byte of other text is taken for the rest of a character. -/
theorem continuation_append {more : List UInt8} (hmore : ∀ byte ∈ more.head?, ¬ Continues byte)
    {owed low high : Nat} (hlow : 0x80 ≤ low) (hhigh : high ≤ 0xBF) (code taken : Nat)
    (bytes : List UInt8) :
    (continuation owed low high code taken (bytes ++ more)).Leaves
      (continuation owed low high code taken bytes) more := by
  induction bytes generalizing owed low high code taken with
  | nil =>
    cases owed with
    | zero => exact ⟨rfl, rfl⟩
    | succ owed =>
      cases more with
      | nil => exact ⟨rfl, rfl⟩
      | cons byte more =>
        -- The bytes are cut short, or a wrong byte follows: one flaw either way.
        have hbyte : ¬ (low ≤ byte.toNat && byte.toNat ≤ high) = true := by
          rw [Bool.and_eq_true, decide_eq_true_iff, decide_eq_true_iff]
          exact fun h => hmore byte rfl ⟨Nat.le_trans hlow h.1, Nat.le_trans h.2 hhigh⟩
        rw [List.nil_append, continuation, continuation, if_neg hbyte]
        exact ⟨rfl, rfl⟩
  | cons byte bytes ih =>
    cases owed with
    | zero => exact ⟨rfl, rfl⟩
    | succ owed =>
      rw [List.cons_append, continuation, continuation]
      split
      · exact ih (Nat.le_refl _) (Nat.le_refl _) _ _
      · exact ⟨rfl, rfl⟩

/-- **What a step reads off some bytes** it reads off more bytes too, if those that follow do not
continue a character. -/
theorem step_append {more : List UInt8} (hmore : ∀ byte ∈ more.head?, ¬ Continues byte)
    (first : UInt8) (bytes : List UInt8) :
    (step first (bytes ++ more)).Leaves (step first bytes) more := by
  -- The branches are the forms of one to four bytes and the bytes that begin no character.
  rw [step, step]
  split
  · exact ⟨rfl, rfl⟩
  · split
    · exact ⟨rfl, rfl⟩
    · split
      · exact continuation_append hmore (Nat.le_refl _) (Nat.le_refl _) _ _ _
      · split
        · exact continuation_append hmore (by split <;> omega) (by split <;> omega) _ _ _
        · split
          · exact continuation_append hmore (by split <;> omega) (by split <;> omega) _ _ _
          · exact ⟨rfl, rfl⟩

/-- **Bytes are decoded one part after the other**, if the second part does not begin in the middle
of a character. -/
theorem decodeLenient_append {more : List UInt8} (hmore : ∀ byte ∈ more.head?, ¬ Continues byte)
    (bytes : List UInt8) :
    decodeLenient (bytes ++ more) = decodeLenient bytes ++ decodeLenient more := by
  fun_induction decodeLenient bytes with
  | case1 => rfl
  | case2 first bytes _ c length rest hstep ih =>
    have hleaves := step_append hmore first bytes
    rw [List.cons_append, decodeLenient_cons, hleaves.shown, hleaves.rest, hstep]
    exact congrArg (c :: ·) ih
  | case3 first bytes _ flaw length rest hstep ih =>
    have hleaves := step_append hmore first bytes
    rw [List.cons_append, decodeLenient_cons, hleaves.shown, hleaves.rest, hstep]
    exact congrArg ('\uFFFD' :: ·) ih

/-- An ASCII byte does not continue a character. -/
theorem not_continues_of_lt {byte : UInt8} (hbyte : byte.toNat < 0x80) : ¬ Continues byte :=
  fun h => absurd h.1 (Nat.not_le.2 hbyte)

/-- **An ASCII byte** is always decoded to its character. -/
theorem decodeLenient_append_cons {byte : UInt8} (hbyte : byte.toNat < 0x80)
    (before after : List UInt8) :
    decodeLenient (before ++ byte :: after)
      = decodeLenient before ++ Char.ofNat byte.toNat :: decodeLenient after := by
  have hstep : step byte after = .char (Char.ofNat byte.toNat) 1 after := if_pos hbyte
  rw [decodeLenient_append, decodeLenient_cons, hstep]
  · rfl
  · intro first hfirst
    obtain rfl := Option.some_inj.1 hfirst
    exact not_continues_of_lt hbyte

/-! ## Encoded characters -/

/-- A byte that `encodeChar` writes behind the first one. -/
def tailByte (k : Nat) : UInt8 := UInt8.ofNat (0x80 + k % 64)

/-- The value of a byte behind the first one. -/
theorem toNat_tailByte (k : Nat) : (tailByte k).toNat = 0x80 + k % 64 := by
  rw [tailByte, UInt8.toNat_ofNat']
  omega

/-- One byte more of a character is read. -/
theorem continuation_tailByte {owed low high k : Nat} (hlow : low ≤ 0x80 + k % 64)
    (hhigh : 0x80 + k % 64 ≤ high) (code taken : Nat) (bytes : List UInt8) :
    continuation (owed + 1) low high code taken (tailByte k :: bytes)
      = continuation owed 0x80 0xBF (code * 64 + k % 64) (taken + 1) bytes := by
  have hmod : (0x80 + k % 64) % 64 = k % 64 := by omega
  rw [continuation, toNat_tailByte, hmod, if_pos]
  rw [Bool.and_eq_true, decide_eq_true_iff, decide_eq_true_iff]
  exact ⟨hlow, hhigh⟩

/-- A first byte as `encodeChar` writes it: the value is below 0x100. -/
theorem toNat_ofNat_of_lt {n : Nat} (hn : n < 0x100) : (UInt8.ofNat n).toNat = n := by
  rw [UInt8.toNat_ofNat']
  omega

variable {c : Char}

/-- The value of the second of two bytes completes the code. -/
theorem step_two (hlow : 0x80 ≤ c.toNat) (hhigh : c.toNat < 0x800) (bytes : List UInt8) :
    step (UInt8.ofNat (0xC0 + c.toNat / 64)) (tailByte c.toNat :: bytes) = .char c 2 bytes := by
  have hcode : (0xC0 + c.toNat / 64) % 32 * 64 + c.toNat % 64 = c.toNat := by omega
  rw [step, toNat_ofNat_of_lt (by omega), if_neg (by omega), if_neg (by omega), if_pos (by omega),
    continuation_tailByte (by omega) (by omega), hcode, continuation, Char.ofNat_toNat]

/-- The second of three bytes keeps its bounds, since a character is no surrogate and this one needs
three bytes. -/
theorem step_three (hlow : 0x800 ≤ c.toNat) (hhigh : c.toNat < 0x10000) (bytes : List UInt8) :
    step (UInt8.ofNat (0xE0 + c.toNat / 4096))
        (tailByte (c.toNat / 64) :: tailByte c.toNat :: bytes) = .char c 3 bytes := by
  have hvalid : c.toNat < 0xD800 ∨ 0xDFFF < c.toNat ∧ c.toNat < 0x110000 := c.valid
  have hcode : ((0xE0 + c.toNat / 4096) % 16 * 64 + c.toNat / 64 % 64) * 64 + c.toNat % 64
      = c.toNat := by omega
  rw [step, toNat_ofNat_of_lt (by omega), if_neg (by omega), if_neg (by omega), if_neg (by omega),
    if_pos (by omega), continuation_tailByte (by split <;> omega) (by split <;> omega),
    continuation_tailByte (by omega) (by omega), hcode, continuation, Char.ofNat_toNat]

/-- The second of four bytes keeps its bounds, since the code of a character is below 0x110000 and
this one needs four bytes. -/
theorem step_four (hlow : 0x10000 ≤ c.toNat) (bytes : List UInt8) :
    step (UInt8.ofNat (0xF0 + c.toNat / 262144))
        (tailByte (c.toNat / 4096) :: tailByte (c.toNat / 64) :: tailByte c.toNat :: bytes)
      = .char c 4 bytes := by
  have hvalid : c.toNat < 0xD800 ∨ 0xDFFF < c.toNat ∧ c.toNat < 0x110000 := c.valid
  have hcode : (((0xF0 + c.toNat / 262144) % 8 * 64 + c.toNat / 4096 % 64) * 64
      + c.toNat / 64 % 64) * 64 + c.toNat % 64 = c.toNat := by omega
  rw [step, toNat_ofNat_of_lt (by omega), if_neg (by omega), if_neg (by omega), if_neg (by omega),
    if_neg (by omega), if_pos (by omega),
    continuation_tailByte (by split <;> omega) (by split <;> omega),
    continuation_tailByte (by omega) (by omega), continuation_tailByte (by omega) (by omega), hcode,
    continuation, Char.ofNat_toNat]

/-- **One step reads what `encodeChar` wrote**, and what was written begins a character. -/
theorem step_encodeChar_append (c : Char) (bytes : List UInt8) :
    ∃ first more, encodeChar c = first :: more ∧ ¬ Continues first ∧
      step first (more ++ bytes) = .char c (more.length + 1) bytes := by
  have hvalid : c.toNat < 0xD800 ∨ 0xDFFF < c.toNat ∧ c.toNat < 0x110000 := c.valid
  have hbegins {n : Nat} (hn : n < 0x100) (h : n < 0x80 ∨ 0xBF < n) :
      ¬ Continues (UInt8.ofNat n) := by
    rw [Continues, toNat_ofNat_of_lt hn]
    omega
  by_cases h1 : c.toNat < 0x80
  · refine ⟨UInt8.ofNat c.toNat, [], if_pos h1, hbegins (by omega) (.inl h1), ?_⟩
    rw [step, toNat_ofNat_of_lt (by omega), if_pos h1, Char.ofNat_toNat]
    rfl
  · by_cases h2 : c.toNat < 0x800
    · exact ⟨UInt8.ofNat (0xC0 + c.toNat / 64), [tailByte c.toNat],
        (if_neg h1).trans (if_pos h2), hbegins (by omega) (by omega), step_two (by omega) h2 bytes⟩
    · by_cases h3 : c.toNat < 0x10000
      · exact ⟨UInt8.ofNat (0xE0 + c.toNat / 4096), [tailByte (c.toNat / 64), tailByte c.toNat],
          (if_neg h1).trans ((if_neg h2).trans (if_pos h3)), hbegins (by omega) (by omega),
          step_three (by omega) h3 bytes⟩
      · exact ⟨UInt8.ofNat (0xF0 + c.toNat / 262144),
          [tailByte (c.toNat / 4096), tailByte (c.toNat / 64), tailByte c.toNat],
          (if_neg h1).trans ((if_neg h2).trans (if_neg h3)), hbegins (by omega) (by omega),
          step_four (by omega) bytes⟩

/-- **The bytes of a text** are decoded to the text, whatever stands behind them. -/
theorem decodeLenient_encode_append (s : Text) (bytes : List UInt8) :
    decodeLenient (encode s ++ bytes) = s ++ decodeLenient bytes := by
  induction s with
  | nil => rfl
  | cons c s ih =>
    obtain ⟨first, more, hchar, -, hstep⟩ := step_encodeChar_append c (encode s ++ bytes)
    rw [encode, List.flatMap_cons, hchar, List.append_assoc, List.cons_append, decodeLenient_cons,
      ← encode, hstep]
    exact congrArg (c :: ·) ih

/-- A text begins with no byte that continues a character. -/
theorem not_continues_of_mem_head? {s : Text} {bytes : List UInt8} (hs : s ≠ []) :
    ∀ byte ∈ (encode s ++ bytes).head?, ¬ Continues byte := by
  obtain ⟨c, s, rfl⟩ := List.exists_cons_of_ne_nil hs
  obtain ⟨first, more, hchar, hfirst, -⟩ := step_encodeChar_append c []
  intro byte hbyte
  rw [encode, List.flatMap_cons, hchar] at hbyte
  obtain rfl := Option.some_inj.1 hbyte
  exact hfirst

/-- **The bytes of a text are decoded to the text**, whatever stands around them. -/
theorem decodeLenient_append_encode_append (before : List UInt8) {s : Text} (hs : s ≠ [])
    (after : List UInt8) :
    decodeLenient (before ++ (encode s ++ after))
      = decodeLenient before ++ (s ++ decodeLenient after) := by
  rw [decodeLenient_append (not_continues_of_mem_head? hs), decodeLenient_encode_append]

/-- The bytes of a text are decoded to the text. -/
theorem decodeLenient_encode (s : Text) : decodeLenient (encode s) = s := by
  have h := decodeLenient_encode_append s []
  rw [List.append_nil, decodeLenient, List.append_nil] at h
  exact h

/-! ## Decoding up to the first flaw -/

/-- The bytes that continue a character are taken off the bytes. -/
theorem continuation_eq_char {owed low high code taken length : Nat} {bytes rest : List UInt8}
    {c : Char} (h : continuation owed low high code taken bytes = .char c length rest) :
    ∃ more, length = taken + more ∧ rest = bytes.drop more := by
  induction bytes generalizing owed low high code taken with
  | nil =>
    cases owed with
    | zero =>
      obtain ⟨-, rfl, rfl⟩ := Step.char.inj h
      exact ⟨0, rfl, rfl⟩
    | succ owed => cases h
  | cons byte bytes ih =>
    cases owed with
    | zero =>
      obtain ⟨-, rfl, rfl⟩ := Step.char.inj h
      exact ⟨0, rfl, rfl⟩
    | succ owed =>
      rw [continuation] at h
      split at h
      · obtain ⟨more, rfl, rfl⟩ := ih h
        exact ⟨more + 1, by omega, rfl⟩
      · cases h

/-- A character is taken off the bytes. -/
theorem step_eq_char {first : UInt8} {bytes rest : List UInt8} {c : Char} {length : Nat}
    (h : step first bytes = .char c length rest) :
    0 < length ∧ rest = (first :: bytes).drop length := by
  have hmore {owed low high code : Nat}
      (h : continuation owed low high code 1 bytes = .char c length rest) :
      0 < length ∧ rest = (first :: bytes).drop length := by
    obtain ⟨more, rfl, rfl⟩ := continuation_eq_char h
    exact ⟨by omega, by rw [Nat.add_comm, List.drop_succ_cons]⟩
  -- The branches are the forms of one to four bytes and the bytes that begin no character.
  simp only [step] at h
  split at h
  · obtain ⟨-, rfl, rfl⟩ := Step.char.inj h
    exact ⟨Nat.one_pos, rfl⟩
  · split at h
    · cases h
    · split at h
      · exact hmore h
      · split at h
        · exact hmore h
        · split at h
          · exact hmore h
          · cases h

/-- Decoding stops at a flaw. -/
theorem decodeFrom_of_flawed {first : UInt8} {bytes rest : List UInt8} {flaw : Flaw} {length : Nat}
    (h : step first bytes = .flawed flaw length rest) (offset : Nat) :
    decodeFrom offset (first :: bytes) = ⟨[], some (flaw, offset, length)⟩ := by
  rw [decodeFrom]
  split
  · rename_i hchar
    cases hchar.symm.trans h
  · rename_i hflawed
    obtain ⟨rfl, rfl, -⟩ := Step.flawed.inj (hflawed.symm.trans h)
    rfl

/-- **The flaw that ends a text** is met again by whoever starts at it, and in front of it there is
a byte at least for every character. -/
theorem exists_skipped_of_flaw {offset start length : Nat} {bytes : List UInt8} {flaw : Flaw}
    (h : (decodeFrom offset bytes).flaw = some (flaw, start, length)) :
    ∃ skipped, start = offset + skipped ∧ skipped < bytes.length ∧
      (decodeFrom offset bytes).text.length ≤ skipped ∧
      ∀ offset, (decodeFrom offset (bytes.drop skipped)).flaw = some (flaw, offset, length) := by
  -- Induction along the decoding; the bytes of each character in front are skipped.
  fun_induction decodeFrom offset bytes with
  | case1 offset => cases h
  | case2 offset first bytes _ c taken rest hstep ih =>
    obtain ⟨hpos, rfl⟩ := step_eq_char hstep
    obtain ⟨skipped, rfl, hlength, htext, hagain⟩ := ih h
    rw [List.length_drop] at hlength
    refine ⟨taken + skipped, by omega, by omega, ?_, fun offset => ?_⟩
    · show (_ :: _ : Text).length ≤ _
      rw [List.length_cons]
      omega
    · rw [← List.drop_drop]
      exact hagain offset
  | case3 offset first bytes _ flaw' taken rest hstep =>
    obtain ⟨rfl, rfl, rfl⟩ : flaw' = flaw ∧ offset = start ∧ taken = length := by simpa using h
    refine ⟨0, rfl, Nat.succ_pos _, Nat.le_refl _, fun offset => ?_⟩
    rw [List.drop_zero, decodeFrom_of_flawed hstep]

end DesignLint.Utf8
