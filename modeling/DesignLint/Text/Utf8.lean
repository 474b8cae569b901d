import DesignLint.Text.Basic

/-! # UTF-8

How bytes become text and text becomes bytes. `Utf8.step` reads one character or one flaw at the
head of some bytes; a flaw takes the longest part that could have begun a character. On top of it:

* `Utf8.decodeLenient bytes`: the text of `bytes`, with U+FFFD in the place of each flaw;
* `Utf8.decodeFrom offset bytes`: the text of `bytes` up to the first flaw;
* `Text.unifyNewlines s`: `s` with a line feed for every carriage return and every pair of
  carriage return and line feed;
* `Utf8.readPage bytes`: both, which is how pages and stylesheets are read;
* `Utf8.encode s`: the bytes of a text. -/

namespace DesignLint

namespace Utf8

/-- Why bytes form no character. -/
inductive Flaw where
  /-- No character begins with the first byte. -/
  | badStart
  /-- A byte stands where another one was owed. -/
  | badContinuation
  /-- The bytes end inside a character. -/
  | truncated
  deriving Repr, DecidableEq

/-- What stands at the head of some bytes. -/
inductive Step where
  /-- A character of `length` bytes and the bytes behind it. -/
  | char (c : Char) (length : Nat) (rest : List UInt8)
  /-- A flaw of `length` bytes and the bytes behind it. -/
  | flawed (flaw : Flaw) (length : Nat) (rest : List UInt8)
  deriving Repr, DecidableEq

/-- Reads the `owed` bytes that continue a character of which `taken` bytes, with the value
`code`, are read. The next byte has to lie between `low` and `high`, later ones anywhere between
0x80 and 0xBF. -/
def continuation : (owed : Nat) → (low high code taken : Nat) → List UInt8 → Step
  | 0, _, _, code, taken, rest => .char (Char.ofNat code) taken rest
  | _ + 1, _, _, _, taken, [] => .flawed .truncated taken []
  | owed + 1, low, high, code, taken, byte :: rest =>
    if low ≤ byte.toNat && byte.toNat ≤ high then
      continuation owed 0x80 0xBF (code * 64 + byte.toNat % 64) (taken + 1) rest
    else
      .flawed .badContinuation taken (byte :: rest)

/-- Reads what begins with the byte `first`. The bounds on the second byte exclude longer forms
than necessary, surrogates, and values above U+10FFFF. -/
def step (first : UInt8) (rest : List UInt8) : Step :=
  let b := first.toNat
  if b < 0x80 then .char (Char.ofNat b) 1 rest
  else if b < 0xC2 then .flawed .badStart 1 rest
  else if b < 0xE0 then continuation 1 0x80 0xBF (b % 32) 1 rest
  else if b < 0xF0 then
    continuation 2 (if b = 0xE0 then 0xA0 else 0x80) (if b = 0xED then 0x9F else 0xBF) (b % 16) 1
      rest
  else if b < 0xF5 then
    continuation 3 (if b = 0xF0 then 0x90 else 0x80) (if b = 0xF4 then 0x8F else 0xBF) (b % 8) 1
      rest
  else .flawed .badStart 1 rest

/-- The bytes behind what a step read. -/
def Step.rest : Step → List UInt8
  | char _ _ rest => rest
  | flawed _ _ rest => rest

theorem continuation_rest_length_le (owed low high code taken : Nat) (bytes : List UInt8) :
    (continuation owed low high code taken bytes).rest.length ≤ bytes.length := by
  induction bytes generalizing owed low high code taken with
  | nil => cases owed <;> simp [continuation, Step.rest]
  | cons byte rest ih =>
    cases owed with
    | zero => simp [continuation, Step.rest]
    | succ owed =>
      simp only [continuation]
      split
      · exact Nat.le_succ_of_le (ih ..)
      · simp [Step.rest]

/-- A step never gives bytes back. -/
theorem step_rest_length_le (first : UInt8) (bytes : List UInt8) :
    (step first bytes).rest.length ≤ bytes.length := by
  simp only [step]
  repeat' split
  all_goals first | exact continuation_rest_length_le .. | simp [Step.rest]

/-- The text of some bytes, with U+FFFD in the place of each flaw. -/
def decodeLenient : List UInt8 → Text
  | [] => []
  | first :: bytes =>
    have _shorter := step_rest_length_le first bytes
    match _found : step first bytes with
    | .char c _ rest => c :: decodeLenient rest
    | .flawed _ _ rest => '\uFFFD' :: decodeLenient rest
  termination_by bytes => bytes.length
  decreasing_by
    all_goals
      simp only [_found, Step.rest] at _shorter
      simp only [List.length_cons]
      omega

/-- The text of bytes up to their first flaw. -/
structure Decoded where
  /-- The text before the flaw. -/
  text : Text
  /-- The flaw with the numbers of bytes before it and in it. -/
  flaw : Option (Flaw × Nat × Nat)
  deriving Repr, DecidableEq

/-- A decoded text with a character in front of it. -/
def Decoded.cons (c : Char) (d : Decoded) : Decoded := ⟨c :: d.text, d.flaw⟩

/-- The text of bytes up to their first flaw; `offset` bytes come before them. -/
def decodeFrom (offset : Nat) : List UInt8 → Decoded
  | [] => ⟨[], none⟩
  | first :: bytes =>
    have _shorter := step_rest_length_le first bytes
    match _found : step first bytes with
    | .char c length rest => (decodeFrom (offset + length) rest).cons c
    | .flawed flaw length _ => ⟨[], some (flaw, offset, length)⟩
  termination_by bytes => bytes.length
  decreasing_by
    simp only [_found, Step.rest] at _shorter
    simp only [List.length_cons]
    omega

/-- The text of bytes without a flaw. -/
def decode? (bytes : List UInt8) : Option Text :=
  match decodeFrom 0 bytes with
  | ⟨s, none⟩ => some s
  | ⟨_, some _⟩ => none

/-- The bytes of a character. -/
def encodeChar (c : Char) : List UInt8 :=
  let n := c.toNat
  let tail (k : Nat) : UInt8 := UInt8.ofNat (0x80 + k % 64)
  if n < 0x80 then [UInt8.ofNat n]
  else if n < 0x800 then [UInt8.ofNat (0xC0 + n / 64), tail n]
  else if n < 0x10000 then [UInt8.ofNat (0xE0 + n / 4096), tail (n / 64), tail n]
  else [UInt8.ofNat (0xF0 + n / 262144), tail (n / 4096), tail (n / 64), tail n]

/-- The bytes of a text. -/
def encode (s : Text) : List UInt8 := s.flatMap encodeChar

/-- The number of bytes of a text. -/
def size (s : Text) : Nat := (encode s).length

end Utf8

/-- A text with a line feed for every carriage return and every pair of carriage return and line
feed. -/
def Text.unifyNewlines : Text → Text
  | [] => []
  | '\r' :: '\n' :: s => '\n' :: unifyNewlines s
  | c :: s => (if c = '\r' then '\n' else c) :: unifyNewlines s

/-- The text of a page or a stylesheet with the given bytes. -/
def Utf8.readPage (bytes : List UInt8) : Text := Text.unifyNewlines (decodeLenient bytes)

end DesignLint
