import HttpExchange.Charset.Name

/-!
# Decoding piece by piece

A decoder receives content in pieces and gives the characters that are complete. It keeps the bytes of a
character that a piece ends in and, at the beginning, the bytes of a mark that is not complete. Content
of a charset whose mark tells the order of bytes must begin with one here.
-/

namespace HttpExchange

/-- A decoder between two pieces of content. -/
structure Decoder where
  /-- The charset of the content. -/
  charset : Charset
  /-- The scheme of what follows, and whether it is certain that no mark comes any more. -/
  scheme : Scheme
  /-- Has the beginning of the content been passed? -/
  started : Bool
  /-- The bytes kept from earlier pieces. -/
  pending : List UInt8
  deriving DecidableEq, Repr

namespace Decoder

/-- Why a piece cannot be decoded. -/
inductive Fault where
  /-- Some bytes are faulty. -/
  | bytes (fault : Scheme.DecodeFault)
  /-- The content lacks the mark that tells the order of bytes. -/
  | noMark (units : String)
  deriving DecidableEq, Repr

/-- A decoder for content of a charset, if it is a text encoding. -/
def new? (c : Charset) : Option Decoder :=
  c.scheme?.map fun s => ⟨c, s, c.marks.isEmpty, []⟩

/-- The characters of `bs` from `position` on, and what is pending afterwards; nothing may be pending
after the last piece. -/
def pieceOf (s : Scheme) (position : Nat) (bs : List UInt8) (last : Bool) :
    Except Scheme.DecodeFault (List Char × List UInt8) :=
  if last then (s.runAll position bs).map fun cs => (cs, []) else s.run [] position bs

/-- The characters that a piece completes, and the decoder after it. `last` tells that no piece
follows. -/
def feed (d : Decoder) (piece : List UInt8) (last : Bool) : Except Fault (List Char × Decoder) :=
  let data := d.pending ++ piece
  if d.started then
    match pieceOf d.scheme 0 data last with
    | .ok (cs, pending) => .ok (cs, ⟨d.charset, d.scheme, true, pending⟩)
    | .error fault => .error (.bytes fault)
  else
    let (scheme, length) := d.charset.detect d.scheme data
    if d.charset = .utf8Marked ∧ data.length < 3 ∧ data.isPrefixOf d.charset.writtenMark then
      .ok ([], ⟨d.charset, d.scheme, false, data⟩)
    else
      match pieceOf scheme (d.charset.positionAfterMark length) (data.drop length) last with
      | .error fault => .error (.bytes fault)
      | .ok (cs, pending) =>
        match d.charset.requiredMark? with
        | none => .ok (cs, ⟨d.charset, scheme, true, pending⟩)
        | some units =>
          if length ≠ 0 then .ok (cs, ⟨d.charset, scheme, true, pending⟩)
          else if cs.isEmpty then .ok ([], ⟨d.charset, scheme, false, pending⟩)
          else .error (.noMark units)

end Decoder

end HttpExchange
