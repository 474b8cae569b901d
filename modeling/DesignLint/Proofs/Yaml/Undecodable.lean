import DesignLint.Proofs.Failure
import DesignLint.Proofs.Text.LineEnds
import DesignLint.Proofs.Text.Utf8
import DesignLint.Yaml.Document

/-! # Bytes that are no UTF-8

A file is decoded in chunks. A flaw in the first chunk hides the whole document, whatever stands in
front of the flaw:

* `Yaml.Blocks.IsCut`: a file that ends inside a character, which cannot be read to its end;
* `Yaml.Source.ofBytes_of_flaw`: a short file with a flaw has no characters;
* `Yaml.Document.ofBytes_of_not_utf8`: it gives no document. -/

namespace DesignLint

namespace Yaml

/-- A fault of the bytes. -/
def Fault.IsUndecodable (fault : Fault) : Prop :=
  ∃ flaw byte start stop, fault = .undecodable flaw byte start stop

/-! ## Files -/

namespace Blocks

/-- All bytes of a file are read, and the last ones begin a character that is not complete. -/
structure IsCut (file : Blocks) : Prop where
  /-- No bytes are left. -/
  bytes : file.bytes = []
  /-- The bytes that wait have a flaw. -/
  flaw : (Utf8.decodeFrom 0 file.tail).flaw ≠ none

/-- The last chunk of a file that ends inside a character is refused. -/
theorem readChunk_of_isCut {file : Blocks} (h : file.IsCut) (owed : Nat) :
    ∃ fault, fault.IsUndecodable ∧ file.readChunk owed = .error fault := by
  obtain ⟨⟨flaw, start, length⟩, hflaw⟩ := Option.ne_none_iff_exists'.1 h.flaw
  refine ⟨_, ⟨flaw, file.tail.getD start 0, start, start + length, rfl⟩, ?_⟩
  simp [readChunk, h.bytes, hflaw]

/-- **A file that ends inside a character** is read only as far as characters are ready. -/
theorem fillUpTo_of_isCut {file : Blocks} (h : file.IsCut) (count steps : Nat) :
    (count ≤ file.ready.length ∧ fillUpTo count (steps + 1) file = .ok file) ∨
      ∃ fault, fault.IsUndecodable ∧ fillUpTo count (steps + 1) file = .error fault := by
  rw [fillUpTo]
  by_cases hready : count ≤ file.ready.length
  · exact .inl ⟨hready, if_pos hready⟩
  · obtain ⟨fault, hfault, hchunk⟩ := readChunk_of_isCut h (count - file.ready.length)
    refine .inr ⟨fault, hfault, ?_⟩
    rw [if_neg hready, hchunk]
    rfl

/-- Behind a chunk the rest of the bytes is left, and no more characters are ready than are read. -/
theorem exists_next (file : Blocks) (hheld : file.heldReturn = false) (size : Nat)
    (chunk tail : List UInt8) (s : Text) :
    ∃ behind : Blocks, readChunk.next file size chunk s tail = .ok behind ∧
      behind.bytes = file.bytes.drop size ∧ behind.tail = tail ∧
      behind.ready.length ≤ file.ready.length + s.length := by
  refine ⟨_, rfl, rfl, rfl, ?_⟩
  simp only [hheld, Bool.false_and, Bool.false_eq_true, if_false, List.length_append]
  refine Nat.add_le_add_left (Nat.le_trans (Text.length_unifyNewlines_le _) ?_) _
  split
  · rw [List.length_dropLast]
    exact Nat.sub_le _ _
  · exact Nat.le_refl _

/-- **The first chunk of a short file with a flaw** is refused, or the file ends inside a
character. -/
theorem readChunk_of_flaw {bytes : List UInt8} (hshort : bytes.length ≤ minChunk)
    (hflaw : (Utf8.decodeFrom 0 bytes).flaw ≠ none) (owed : Nat) :
    (∃ fault, fault.IsUndecodable ∧ readChunk { bytes } owed = .error fault) ∨
      ∃ file : Blocks, readChunk { bytes } owed = .ok file ∧ file.IsCut ∧
        file.ready.length < bytes.length := by
  obtain ⟨⟨flaw, start, length⟩, hflaw⟩ := Option.ne_none_iff_exists'.1 hflaw
  obtain ⟨skipped, rfl, hskipped, htext, hagain⟩ := Utf8.exists_skipped_of_flaw hflaw
  have hsize : bytes.length ≤ chunkSize { bytes } owed :=
    Nat.le_trans hshort (Nat.le_max_left _ _)
  rw [readChunk]
  simp only [List.take_of_length_le hsize, List.nil_append, hflaw]
  split
  · obtain ⟨behind, hbehind, hbytes, htail, hready⟩ := exists_next { bytes } rfl
      (chunkSize { bytes } owed) bytes (bytes.drop (0 + skipped)) (Utf8.decodeFrom 0 bytes).text
    refine .inr ⟨behind, hbehind, ⟨?_, ?_⟩, ?_⟩
    · rw [hbytes]
      exact List.drop_of_length_le hsize
    · -- The bytes that wait begin with the flaw.
      rw [htail, Nat.zero_add, hagain]
      exact Option.some_ne_none _
    · rw [List.length_nil] at hready
      omega
  · exact .inl ⟨_, ⟨_, _, _, _, rfl⟩, rfl⟩

/-- Reading a block of a short file with a flaw fails, or it leaves less than another block. -/
theorem readBlock_of_flaw {bytes : List UInt8} (hshort : bytes.length ≤ minChunk)
    (hflaw : (Utf8.decodeFrom 0 bytes).flaw ≠ none) :
    (∃ fault, fault.IsUndecodable ∧ readBlock { bytes } = .error fault) ∨
      ∃ block file, readBlock { bytes } = .ok (block, file) ∧ file.IsCut ∧
        file.ready.length < blockSize := by
  obtain ⟨first, rest, rfl⟩ : ∃ first rest, bytes = first :: rest := by
    refine List.exists_cons_of_ne_nil ?_
    rintro rfl
    exact hflaw (by rw [Utf8.decodeFrom])
  have hfill : fillUpTo blockSize ((first :: rest).length + 1) { bytes := first :: rest }
      = readChunk { bytes := first :: rest } blockSize >>= fillUpTo blockSize (rest.length + 1) := by
    have hready : ¬ blockSize ≤ ([] : Text).length := by decide
    rw [fillUpTo, if_neg hready]
    rfl
  obtain ⟨fault, hfault, hchunk⟩ | ⟨file, hchunk, hcut, hready⟩ :=
    readChunk_of_flaw hshort hflaw blockSize
  · exact .inl ⟨fault, hfault, by rw [readBlock, hfill, hchunk]; rfl⟩
  · have hmore : readChunk { bytes := first :: rest } blockSize
        >>= fillUpTo blockSize (rest.length + 1) = fillUpTo blockSize (rest.length + 1) file := by
      rw [hchunk]
      rfl
    obtain ⟨hle, hrest⟩ | ⟨fault, hfault, hrest⟩ := fillUpTo_of_isCut hcut blockSize rest.length
    · -- The whole file makes at most two blocks, so less than one is left.
      refine .inr ⟨file.ready.take blockSize, { file with ready := file.ready.drop blockSize },
        by rw [readBlock, hfill, hmore, hrest]; rfl, ⟨hcut.bytes, hcut.flaw⟩, ?_⟩
      show (file.ready.drop blockSize).length < blockSize
      have hchunks : minChunk = blockSize + blockSize := rfl
      rw [List.length_drop]
      omega
    · exact .inl ⟨fault, hfault, by rw [readBlock, hfill, hmore, hrest]; rfl⟩

/-- A file that ends inside a character has no further block if less than a block is ready. -/
theorem readBlock_of_isCut {file : Blocks} (h : file.IsCut) (hready : file.ready.length < blockSize) :
    ∃ fault, fault.IsUndecodable ∧ file.readBlock = .error fault := by
  obtain ⟨hle, -⟩ | ⟨fault, hfault, hfill⟩ := fillUpTo_of_isCut h blockSize file.bytes.length
  · omega
  · exact ⟨fault, hfault, by rw [readBlock, hfill]; rfl⟩

end Blocks

/-- **A short file with a flaw** has no characters. -/
theorem Source.ofBytes_of_flaw {bytes : List UInt8} (hshort : bytes.length ≤ Blocks.minChunk)
    (hflaw : (Utf8.decodeFrom 0 bytes).flaw ≠ none) :
    ∃ fault, fault.IsUndecodable ∧ Source.ofBytes bytes = .broken {} fault := by
  obtain ⟨fault, hfault, hblock⟩ | ⟨block, file, hblock, hcut, hready⟩ :=
    Blocks.readBlock_of_flaw hshort hflaw
  · refine ⟨fault, hfault, ?_⟩
    simp only [Source.ofBytes, hblock, error_bind]
  · obtain ⟨fault, hfault, hsecond⟩ := Blocks.readBlock_of_isCut hcut hready
    refine ⟨fault, hfault, ?_⟩
    simp only [Source.ofBytes, hblock, ok_bind, hsecond, error_bind]

/-- A source without characters gives no document. -/
theorem Document.ofSource_broken (position : Position) (fault : Fault) :
    Document.ofSource (.broken position fault) = .error fault := rfl

/-- **A short file that is no UTF-8** gives no document, whatever stands in front of the flaw. -/
theorem Document.ofBytes_of_not_utf8 {bytes : List UInt8}
    (hshort : bytes.length ≤ Blocks.minChunk) (hflaw : Utf8.decode? bytes = none) :
    ∃ flaw byte start stop, Document.ofBytes bytes = .error (.undecodable flaw byte start stop) := by
  have hflaw : (Utf8.decodeFrom 0 bytes).flaw ≠ none := by
    intro hnone
    rw [Utf8.decode?] at hflaw
    split at hflaw
    · exact Option.some_ne_none _ hflaw
    · rename_i hdecoded
      rw [hdecoded] at hnone
      exact Option.some_ne_none _ hnone
  obtain ⟨_, ⟨flaw, byte, start, stop, rfl⟩, hsource⟩ := Source.ofBytes_of_flaw hshort hflaw
  refine ⟨flaw, byte, start, stop, ?_⟩
  rw [Document.ofBytes, hsource, ofSource_broken]

end Yaml

end DesignLint
