import HttpExchange.Answer
import HttpExchange.Fault
import HttpExchange.Text.Search
import HttpExchange.Value.Identity

/-!
# Byte streams

A byte stream gives the bytes of a body piece by piece. Lines end behind each line feed. Who reads all bytes
at once is given the content itself.
-/

namespace HttpExchange

/-- A stream over bytes with a place up to which they were read. -/
structure ByteStream where
  /-- The mark of the content. -/
  mark : Mark
  /-- All bytes. -/
  content : List UInt8
  /-- The number of bytes that were read. -/
  position : Nat
  /-- Was the stream closed? -/
  closed : Bool
  deriving DecidableEq, Repr

namespace ByteStream

/-- The stream over content, at its beginning. -/
def ofContent (content : Thing (List UInt8)) : ByteStream := ⟨content.mark, content.content, 0, false⟩

/-- The bytes that were not read yet. -/
def rest (s : ByteStream) : List UInt8 := s.content.drop s.position

/-- Reads `n` bytes, or as many as there are. -/
def advance (s : ByteStream) (n : Nat) : List UInt8 × ByteStream :=
  let taken := s.rest.take n
  (taken, { s with position := s.position + taken.length })

/-- Bytes that are read at once, as a value. -/
def value (s : ByteStream) (bs : List UInt8) : Value :=
  if s.position = 0 ∧ bs.length = s.content.length then (Value.ofBytes bs).marked s.mark
  else .ofBytes bs

/-- The byte that ends a line. -/
def lineFeed : UInt8 := 0x0A

/-- The limit that a size sets: a missing or negative one sets none. A size must fit a signed number of 64
bits. -/
def limitOf (machine : Bool) : Option Int → Except Fault (Option Nat)
  | none => .ok none
  | some n =>
    if !Numeral.fitsSigned 64 n then .error (.sizeTooLarge machine)
    else .ok (if n < 0 then none else some n.toNat)

/-- The number of bytes that a limit allows. -/
def limited (available : Nat) : Option Nat → Nat
  | none => available
  | some n => min available n

/-- The first lines, up to the one with which they have `limit` bytes. -/
def linesWithin (limit : Nat) : List (List UInt8) → List (List UInt8)
  | [] => []
  | line :: rest =>
    if limit ≤ line.length then [line] else line :: linesWithin (limit - line.length) rest

end ByteStream

/-- An operation on a byte stream. -/
inductive StreamOp where
  /-- Reads up to the given number of bytes, or all. -/
  | read (size : Option Int)
  /-- Reads up to the end of the line, or up to the given number of bytes. -/
  | readLine (size : Option Int)
  /-- Reads all lines that are left, or so many that they have the given number of bytes, if a number could
  be read. -/
  | readLines (size : Except Fault (Option Int))
  /-- Goes through all lines that are left. -/
  | lines
  /-- Gives the number of bytes that were read. -/
  | tell
  /-- Closes the stream. -/
  | close
  /-- Tells that there is a stream. -/
  | present
  /-- Fails, as the stream is asked for something that it does not do. -/
  | refuse (fault : Fault)

namespace StreamOp

/-- Fails if the stream is closed. -/
def requireOpen (s : ByteStream) : Except Fault Unit :=
  if s.closed then .error (.closed true) else .ok ()

/-- Does an operation on a byte stream. What is wrong with a size is noticed first, except with that of
lines. -/
def run (op : StreamOp) (s : ByteStream) : Except Fault (Answer × ByteStream) :=
  match op with
  | .close => .ok (.none, { s with closed := true })
  | .read size => do
    let limit ← ByteStream.limitOf false size
    requireOpen s
    let (bs, s') := s.advance (ByteStream.limited s.rest.length limit)
    return (.value (s.value bs), s')
  | .readLine size => do
    let limit ← ByteStream.limitOf false size
    requireOpen s
    let (bs, s') := s.advance (ByteStream.limited (Text.lineLength ByteStream.lineFeed s.rest) limit)
    return (.value (s.value bs), s')
  | .readLines size => do
    requireOpen s
    let all := Text.linesFrom ByteStream.lineFeed [] s.rest
    let lines := match ← ByteStream.limitOf true (← size) with
      | none | some 0 => all
      | some n => ByteStream.linesWithin n all
    return (.list (lines.map .ofBytes), (s.advance lines.flatten.length).2)
  | .lines => do
    requireOpen s
    let lines := Text.linesFrom ByteStream.lineFeed [] s.rest
    return (.list (lines.map s.value), (s.advance s.rest.length).2)
  | .tell => (requireOpen s).map fun _ => (.int s.position, s)
  | .present => .ok (.bool true, s)
  | .refuse fault => .error fault

end StreamOp

end HttpExchange
