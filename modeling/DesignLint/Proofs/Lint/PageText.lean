import DesignLint.Proofs.Lint
import DesignLint.Proofs.Text.LineEnds
import DesignLint.Proofs.Text.Utf8

/-! # The text of a page

Every file has a text, whatever its bytes are. Flaws and line ends are dealt with where they stand,
so neither hides what follows them:

* `Utf8.readPage_encode`: the bytes of a text are read as the text with its line ends unified;
* `Utf8.readPage_append_cons`: an ASCII byte is read as its character, between what is read in front
  of it and what is read behind it;
* `Utf8.isInfix_readPage`: a text that stands in the bytes stands in what is read;
* `Lint.scanAt_of_lines`: the findings about a file do not depend on the line ends between its
  lines;
* `Lint.pageText_of_bytes`: all of it together. -/

namespace DesignLint

open Text

namespace Utf8

/-- The bytes of a text are read as the text with its line ends unified. -/
theorem readPage_encode (s : Text) : readPage (encode s) = unifyNewlines s := by
  rw [readPage, decodeLenient_encode]

/-- What is read has line ends that stay as they are. -/
theorem readPage_encode_readPage (bytes : List UInt8) :
    readPage (encode (readPage bytes)) = readPage bytes := by
  rw [readPage_encode]
  exact unifyNewlines_of_not_mem (not_mem_unifyNewlines _)

/-- An ASCII byte with the code of a character is that character. -/
theorem toNat_ofNat_of_ascii {byte : UInt8} (hbyte : byte.toNat < 0x80) :
    (Char.ofNat byte.toNat).toNat = byte.toNat := by
  rw [Char.ofNat, dif_pos (.inl (by omega))]
  rfl

/-- **An ASCII byte that belongs to no line end** is read as its character, and what stands around
it is read apart. -/
theorem readPage_append_cons {byte : UInt8} (hbyte : byte.toNat < 0x80) (hreturn : byte ≠ 0x0D)
    (hfeed : byte ≠ 0x0A) (before after : List UInt8) :
    readPage (before ++ byte :: after)
      = readPage before ++ Char.ofNat byte.toNat :: readPage after := by
  have hne {c : Char} (h : byte.toNat ≠ c.toNat) : Char.ofNat byte.toNat ≠ c := by
    rintro rfl
    exact h (toNat_ofNat_of_ascii hbyte).symm
  have hc : Char.ofNat byte.toNat ≠ '\r' := hne fun h => hreturn (UInt8.toNat_inj.1 h)
  have hd : Char.ofNat byte.toNat ≠ '\n' := hne fun h => hfeed (UInt8.toNat_inj.1 h)
  rw [readPage, decodeLenient_append_cons hbyte, unifyNewlines_append, unifyNewlines_cons hc]
  · rfl
  · exact fun _ hhead => hd (Option.some_inj.1 hhead)

/-- **A text that stands in the bytes** stands in what is read, if it has no carriage return. -/
theorem isInfix_readPage {word : Text} {bytes : List UInt8} (hword : '\r' ∉ word)
    (h : encode word <:+: bytes) : word <:+: readPage bytes := by
  obtain ⟨before, after, rfl⟩ := h
  by_cases hnil : word = []
  · exact hnil ▸ List.nil_infix
  · rw [readPage, List.append_assoc, decodeLenient_append_encode_append _ hnil]
    exact isInfix_unifyNewlines hword _ _

end Utf8

namespace Lint

/-- **The findings about a file** do not depend on the line ends between its lines. -/
theorem scanAt_of_lines {tree : FileTree} {path : Path} {lines : List Text} {lineEnd : Text}
    (hlines : ∀ line ∈ lines, '\r' ∉ line ∧ '\n' ∉ line) (hend : lineEnd ∈ lineEnds)
    (h : tree.read path = .ok (Utf8.encode (joined lineEnd lines))) (palette : Palette)
    (config : Config) (checks : List Check) :
    scanAt tree path palette config checks
      = (scan ⟨path.name, joined ['\n'] lines, palette, config⟩ checks).mapError .check := by
  rw [scanAt_eq h, Utf8.readPage_encode, unifyNewlines_joined hend hlines]

/-- **The text of a page.** It has no carriage return. The bytes of a text are read as the text with
one line feed for each of its line ends, so the findings about a file are those about its lines with
line feeds between them, whichever line ends stand there. What is read stays as it is when it is
written and read again. An ASCII byte is read as its character, whatever bytes stand around it, and
a text without a carriage return that stands in the bytes stands in the page. -/
theorem pageText_of_bytes (bytes : List UInt8) (s : Text) (path : Path) (palette : Palette)
    (config : Config) (checks : List Check) :
    '\r' ∉ Utf8.readPage bytes ∧
      (∃ split, Splits ReturnEnd s split ∧ (∀ other, Splits ReturnEnd s other → other = split) ∧
        Utf8.readPage (Utf8.encode s) = unified split) ∧
      (∀ lines : List Text, (∀ line ∈ lines, '\r' ∉ line ∧ '\n' ∉ line) →
        ∀ lineEnd ∈ lineEnds, ∀ tree : FileTree,
          tree.read path = .ok (Utf8.encode (joined lineEnd lines)) →
          scanAt tree path palette config checks
            = (scan ⟨path.name, joined ['\n'] lines, palette, config⟩ checks).mapError .check) ∧
      Utf8.readPage (Utf8.encode (Utf8.readPage bytes)) = Utf8.readPage bytes ∧
      (∀ (byte : UInt8) (before after : List UInt8), byte.toNat < 0x80 → byte ≠ 0x0D →
        byte ≠ 0x0A → Utf8.readPage (before ++ byte :: after)
          = Utf8.readPage before ++ Char.ofNat byte.toNat :: Utf8.readPage after) ∧
      (∀ word : Text, '\r' ∉ word → Utf8.encode word <:+: bytes →
        word <:+: Utf8.readPage bytes) := by
  refine ⟨not_mem_unifyNewlines _, ?_, ?_, Utf8.readPage_encode_readPage bytes, ?_, ?_⟩
  · obtain ⟨split, hsplit⟩ := reads_returnEnd.exists_splits s
    refine ⟨split, hsplit, fun other hother => reads_returnEnd.splits_unique hother hsplit, ?_⟩
    rw [Utf8.readPage_encode, unifyNewlines_eq_unified hsplit]
  · intro lines hlines lineEnd hend tree htree
    exact scanAt_of_lines hlines hend htree palette config checks
  · intro byte before after hbyte hreturn hfeed
    exact Utf8.readPage_append_cons hbyte hreturn hfeed before after
  · intro word hword hinfix
    exact Utf8.isInfix_readPage hword hinfix

/-- A page of two lines, saved with each line end, and a quote behind the first two of three
bytes. -/
theorem pageText_of_bytes_two_lines :
    let lines : List Text := ["<p".toList, "style=\"color: rgb(0)\">".toList]
    let path : Path := ⟨.top, ["p.html".toList]⟩
    let found : List Finding := [⟨"p.html".toList, 2, .rgbColor, "rgb(0)".toList,
      "Use CSS custom properties instead of rgb/rgba".toList⟩]
    (∀ lineEnd ∈ lineEnds,
        scanAt ⟨.directory [("p.html".toList, .file (Utf8.encode (joined lineEnd lines)))], []⟩ path
          (.ofStylesheet [] []) {} [InlineStyle.check] = .ok found) ∧
      Utf8.readPage ([0xE2, 0x82] ++ 0x22 :: []) = ['\uFFFD', '"'] := by
  intro lines path found
  obtain ⟨-, -, hlines, -, hbyte, -⟩ :=
    pageText_of_bytes [] [] path (.ofStylesheet [] []) {} [InlineStyle.check]
  refine ⟨fun lineEnd hend => ?_, ?_⟩
  · rw [hlines lines (by decide) lineEnd hend _ rfl]
    rfl
  · have hempty : Utf8.readPage [] = [] := by
      rw [Utf8.readPage, Utf8.decodeLenient, unifyNewlines]
    have hcut : Utf8.readPage [0xE2, 0x82] = ['\uFFFD'] := by
      rw [Utf8.readPage, Utf8.decodeLenient_cons]
      show unifyNewlines ('\uFFFD' :: Utf8.decodeLenient []) = _
      rw [Utf8.decodeLenient]
      rfl
    rw [hbyte 0x22 [0xE2, 0x82] [] (by decide) (by decide) (by decide), hempty, hcut]
    rfl

end Lint

end DesignLint
