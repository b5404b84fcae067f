import HttpExchange.Body.Stream
import HttpExchange.Charset.Lookup

/-!
# Text readers

A reader gives the text of a body piece by piece. The bytes are taken in chunks; a chunk is decoded
as a whole, so faulty bytes are noticed as soon as anything of their chunk is needed. Every line
ending, be it a line feed, a carriage return or both, becomes a line feed. A carriage return at the
end of a chunk is held back until it is known what follows it. Who asks for many characters makes
the reader take as many bytes as they need if they are like those of the last chunk. Whoever asks
for no characters of a line makes the reader take a chunk only if the last one gave no text.
-/

namespace HttpExchange

/-- A reader over bytes. -/
structure TextReader where
  /-- The bytes that were not taken yet. -/
  source : List UInt8
  /-- The decoder, missing if there was no content to decode. -/
  decoder : Option Decoder
  /-- Is a carriage return held back? -/
  heldReturn : Bool
  /-- The characters that were decoded but not read yet. -/
  ready : List Char
  /-- Did the chunk that was taken last give any text? -/
  buffered : Bool
  /-- The number of bytes for each character in the chunk that was taken last. -/
  density : Binary64
  /-- Was the reader closed? -/
  closed : Bool
  deriving DecidableEq, Repr

namespace TextReader

/-- The reader of a missing body. -/
def empty : TextReader := ⟨[], none, false, [], false, .zero, false⟩

/-- The reader of bytes in the charset of a name. -/
def ofBytes (name : String) (c : Charset) (bs : List UInt8) : Except Fault TextReader :=
  match Decoder.new? c with
  | some d => .ok ⟨bs, some d, false, [], false, .zero, false⟩
  | none => .error (.notTextEncoding name .read)

/-! ## Line endings -/

/-- The text with one line feed for every line ending. -/
def unifyNewlines : List Char → List Char
  | [] => []
  | '\r' :: '\n' :: rest => '\n' :: unifyNewlines rest
  | c :: rest => (if c = '\r' then '\n' else c) :: unifyNewlines rest

/-- The text of a piece with line feeds for line endings, and whether a carriage return at its end
is held back. `held` tells that one was held back before it, `last` that no piece follows. -/
def unifyPiece (held : Bool) (cs : List Char) (last : Bool) : List Char × Bool :=
  let cs := if held && (!cs.isEmpty || last) then '\r' :: cs else cs
  let held := held && cs.isEmpty
  if cs.getLast? = some '\r' && !last then (unifyNewlines cs.dropLast, true)
  else (unifyNewlines cs, held)

/-! ## Filling -/

/-- The fault of a reader for a fault of its decoder. -/
def faultOf : Decoder.Fault → Fault
  | .bytes fault => .undecodable fault
  | .noMark units => .noByteOrderMark units

/-- Takes `n` bytes and makes their text ready; `last` tells that none follow. -/
def take (r : TextReader) (n : Nat) (last : Bool) : Except Fault TextReader :=
  match r.decoder with
  | none => .ok r
  | some d =>
    match d.feed (r.source.take n) last with
    | .error fault => .error (faultOf fault)
    | .ok (cs, d') =>
      let (text, held) := unifyPiece r.heldReturn cs last
      let density : Binary64 :=
        if text.isEmpty then .zero else .ofRatio false (min n r.source.length) text.length
      .ok ⟨r.source.drop n, some d', held, r.ready ++ text, !text.isEmpty, density, r.closed⟩

/-- The least number of bytes in a chunk that is not the last. -/
def chunkSize : Nat := 8192

/-- The number of bytes that so many characters are likely to have, at least one for each; none if
it is too great for a signed number of 64 bits. -/
def bytesFor (r : TextReader) (count : Nat) : Nat :=
  let density := if r.density.isBelowOne then .ofRatio false 1 1 else r.density
  match density.mulNat count with
  | .finite _ m e =>
    let n := Binary64.truncate false m e
    if Numeral.fitsSigned 64 n then n.toNat else 0
  | _ => 0

/-- Makes text ready, chunk by chunk, until `enough` holds of it or all bytes are taken; `size`
tells how many bytes a chunk has. The chunks come to an end because each takes a byte; `fuel` bounds
their number. -/
def fillWith (enough : List Char → Bool) (size : TextReader → Nat) :
    Nat → TextReader → Except Fault TextReader
  | 0, r => .ok r
  | fuel + 1, r =>
    if enough r.ready then .ok r
    else if r.source.isEmpty then r.take 0 true
    else
      match r.take (size r) false with
      | .error fault => .error fault
      | .ok r' => fillWith enough size fuel r'

/-- Makes text ready until `enough` holds of it or the text ends. -/
def fill (enough : List Char → Bool) (size : TextReader → Nat) (r : TextReader) :
    Except Fault TextReader :=
  fillWith enough size (r.source.length + 1) r

/-- Makes `n` characters ready if there are so many. -/
def fillChars (n : Nat) (r : TextReader) : Except Fault TextReader :=
  r.fill (fun ready => n ≤ ready.length) fun r => max chunkSize (r.bytesFor (n - r.ready.length))

/-- Makes a line ready, or the part of it that a limit allows. -/
def fillLine (limit : Option Nat) (r : TextReader) : Except Fault TextReader :=
  let within (ready : List Char) : Bool := match limit with
    | none => false
    | some n => n ≤ ready.length
  if limit = some 0 ∧ r.buffered then .ok r
  else r.fill (fun ready => !ready.isEmpty && (ready.contains '\n' || within ready)) fun _ => chunkSize

/-- Makes the whole text ready, chunk by chunk. -/
def fillLines (r : TextReader) : Except Fault TextReader :=
  r.fill (fun _ => false) fun _ => chunkSize

/-! ## Reading -/

/-- Gives the first `n` ready characters. -/
def give (r : TextReader) (n : Nat) : List Char × TextReader :=
  (r.ready.take n, { r with ready := r.ready.drop n })

/-- Reads `n` characters, or as many as there are. -/
def read (n : Nat) (r : TextReader) : Except Fault (List Char × TextReader) :=
  (r.fillChars n).map fun r' => r'.give n

/-- Reads the whole text that is left. All its bytes are decoded at once. -/
def readAll (r : TextReader) : Except Fault (List Char × TextReader) :=
  (r.take r.source.length true).map fun r' => { r' with buffered := false }.give r'.ready.length

/-- Reads up to the end of the line, or up to a limit. -/
def readLine (limit : Option Nat) (r : TextReader) : Except Fault (List Char × TextReader) :=
  (r.fillLine limit).map fun r' =>
    let length := Text.lineLength '\n' r'.ready
    r'.give (match limit with
      | none => length
      | some n => min n length)

/-- Reads lines up to the one with which they have more than `limit` characters; `count` tells how
many characters there were before. Every line has a character, so `fuel` bounds their number. -/
def readLinesWithin (limit : Nat) :
    Nat → Nat → TextReader → Except Fault (List (List Char) × TextReader)
  | 0, _, r => .ok ([], r)
  | fuel + 1, count, r => do
    let (line, r) ← r.readLine none
    if line.isEmpty then return ([], r)
    else if limit < count + line.length then return ([line], r)
    else
      let (lines, r) ← readLinesWithin limit fuel (count + line.length) r
      return (line :: lines, r)

/-- Reads the lines that are left. -/
def readLines (r : TextReader) : Except Fault (List (List Char) × TextReader) :=
  r.fillLines.map fun r' => (Text.linesFrom '\n' [] r'.ready, (r'.give r'.ready.length).2)

end TextReader

/-- An operation on a reader. -/
inductive ReaderOp where
  /-- Reads up to the given number of characters, or all. -/
  | read (size : Option Int)
  /-- Reads up to the end of the line, or up to the given number of characters. The number may be
  missing, or be given as nothing. -/
  | readLine (size : Option (Option Int))
  /-- Reads all lines that are left, or so many that they have more than the given number of
  characters. -/
  | readLines (size : Option Int)
  /-- Goes through all lines that are left. -/
  | lines
  /-- Closes the reader. -/
  | close
  /-- Tells that there is a reader. -/
  | present
  /-- Fails, as the reader is asked for something that it does not do. -/
  | refuse (fault : Fault)

namespace ReaderOp

/-- The report of an operation on a closed reader. Reading from the reader of a missing body has a
report of its own. -/
def closedFault (r : TextReader) : ReaderOp → Fault
  | .read _ | .readLine _ => .closed r.decoder.isSome
  | _ => .closed true

/-- Answers a text. -/
def text (x : List Char × TextReader) : Answer × TextReader := (.text (String.ofList x.1), x.2)

/-- Answers a list of texts. -/
def texts (x : List (List Char) × TextReader) : Answer × TextReader :=
  (.texts (x.1.map String.ofList), x.2)

/-- Fails if the reader is closed. -/
def requireOpen (op : ReaderOp) (r : TextReader) : Except Fault Unit :=
  if r.closed then .error (closedFault r op) else .ok ()

/-- Does an operation on a reader. What is wrong with a size is noticed first. Only the reader of a
missing body takes nothing for the size of a line. -/
def run (op : ReaderOp) (r : TextReader) : Except Fault (Answer × TextReader) :=
  match op with
  | .close => .ok (.none, { r with closed := true })
  | .read size => do
    let limit ← ByteStream.limitOf false size
    op.requireOpen r
    match limit with
    | none => r.readAll.map text
    | some n => (r.read n).map text
  | .readLine size => do
    if size = some none ∧ r.decoder.isSome then throw .wrongType
    let limit ← ByteStream.limitOf r.decoder.isSome size.join
    op.requireOpen r
    (r.readLine limit).map text
  | .readLines size => do
    let limit ← ByteStream.limitOf false size
    op.requireOpen r
    match limit with
    | none | some 0 => r.readLines.map texts
    | some n => (r.readLinesWithin n (r.source.length + r.ready.length + 2) 0).map texts
  | .lines => do
    op.requireOpen r
    r.readLines.map texts
  | .present => .ok (.bool true, r)
  | .refuse fault => .error fault

end ReaderOp

end HttpExchange
