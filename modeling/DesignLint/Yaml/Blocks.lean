import DesignLint.Yaml.Source

/-! # Files in blocks

`Source.ofBytes bytes` is the source of a file. A file is decoded in chunks of bytes and handed on
in blocks of characters, and a block is refused as a whole: a byte that is no UTF-8 or a character
that may not stand in a document hides everything from the start of its block on. -/

namespace DesignLint.Yaml

/-- A file that is being read. -/
structure Blocks where
  /-- The bytes that are not read yet. -/
  bytes : List UInt8
  /-- The bytes of a character that is not complete yet. -/
  tail : List UInt8 := []
  /-- Whether a carriage return waits for what follows it. -/
  heldReturn : Bool := false
  /-- The characters that are decoded and not handed on yet. -/
  ready : Text := []
  /-- The number of bytes of the last chunk. -/
  lastBytes : Nat := 0
  /-- The number of characters of the last chunk. -/
  lastChars : Nat := 0

namespace Blocks

/-- The least number of bytes of a chunk. -/
def minChunk : Nat := 8192

/-- The number of characters of a block. -/
def blockSize : Nat := 4096

/-- The number of bytes of the next chunk when so many characters are still owed: as many as they
would take if they were like those of the last chunk. -/
def chunkSize (file : Blocks) (owed : Nat) : Nat :=
  let expected := if file.lastChars = 0 then 0 else file.lastBytes * owed / file.lastChars
  max minChunk (max owed expected)

/-- Decodes one more chunk. The last chunk of a file is empty. -/
def readChunk (file : Blocks) (owed : Nat) : Except Fault Blocks :=
  let size := file.chunkSize owed
  let chunk := file.bytes.take size
  let bytes := file.tail ++ chunk
  let decoded := Utf8.decodeFrom 0 bytes
  match decoded.flaw with
  | some (flaw, start, length) =>
    -- A character that is cut off may go on in the next chunk.
    if flaw = .truncated && !chunk.isEmpty then next size chunk decoded.text (bytes.drop start)
    else .error (.undecodable flaw (bytes.getD start 0) start (start + length))
  | none => next size chunk decoded.text []
where
  /-- The file behind a chunk. -/
  next (size : Nat) (chunk : List UInt8) (s : Text) (tail : List UInt8) : Except Fault Blocks :=
    let s := if file.heldReturn && (!s.isEmpty || chunk.isEmpty) then '\r' :: s else s
    -- A carriage return at the end of a chunk may be the first half of a line end.
    let held := !chunk.isEmpty &&
      (s.getLast? == some '\r' || (file.heldReturn && s.isEmpty))
    let s := Text.unifyNewlines (if s.getLast? == some '\r' && held then s.dropLast else s)
    .ok ⟨file.bytes.drop size, tail, held, file.ready ++ s, chunk.length, s.length⟩

/-- Decodes chunks until so many characters are ready or the file ends. -/
def fillUpTo (count : Nat) : (steps : Nat) → Blocks → Except Fault Blocks
  | 0, file => .ok file
  | steps + 1, file =>
    if count ≤ file.ready.length then .ok file
    else do
      let before := file.bytes.isEmpty
      let file ← file.readChunk (count - file.ready.length)
      if before then return file else fillUpTo count steps file

/-- The next block and the file behind it. -/
def readBlock (file : Blocks) : Except Fault (Text × Blocks) := do
  let file ← fillUpTo blockSize (file.bytes.length + 1) file
  return (file.ready.take blockSize, { file with ready := file.ready.drop blockSize })

/-- Whether a character may stand in a document. -/
def isAllowed (c : Char) : Bool :=
  let n := c.toNat
  n = 0x09 || n = 0x0A || n = 0x0D || (0x20 ≤ n && n ≤ 0x7E) || n = 0x85 ||
    (0xA0 ≤ n && n ≤ 0xD7FF) || (0xE000 ≤ n && n ≤ 0xFFFD) || 0x10000 ≤ n

/-- The source of the blocks of a file, which starts at a place. -/
def toSource : (steps : Nat) → Blocks → Position → Source
  | 0, _, position => .finished position
  | steps + 1, file, position =>
    match file.readBlock with
    | .error fault => .broken position fault
    | .ok ([], _) => .finished position
    | .ok (block, file) =>
      if block.all isAllowed then Source.prepend position block (toSource steps file)
      else .broken position .malformed

end Blocks

/-- The source of a file. Its first two blocks are read together. -/
def Source.ofBytes (bytes : List UInt8) : Source :=
  let file : Blocks := { bytes }
  let start := do
    let (first, file) ← file.readBlock
    let (second, file) ← file.readBlock
    return (first ++ second, file)
  match start with
  | .error fault => .broken {} fault
  | .ok (block, file) =>
    if block.all Blocks.isAllowed then
      Source.prepend {} block (Blocks.toSource (bytes.length + 1) file)
    else .broken {} .malformed

end DesignLint.Yaml
