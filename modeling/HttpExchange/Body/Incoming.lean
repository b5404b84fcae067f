import HttpExchange.Action
import HttpExchange.Body.Reader
import HttpExchange.Body.Stream
import HttpExchange.Log
import HttpExchange.Value.Operation

/-!
# Request bodies

The content of a request is handed out either as a byte stream or as a reader, not both, until new
content is set. Who asks again for the accessor that was handed out gets the same one, at the place it has
reached. Accessors to former content go on working for those who kept them.
-/

namespace HttpExchange

/-- How the content of a request has been handed out since it was set. -/
inductive BodyUse where
  /-- Not at all. -/
  | unconsumed
  /-- As a byte stream, the one of the given number. -/
  | stream (number : Nat)
  /-- As a reader, the one of the given number. -/
  | reader (number : Nat)
  deriving DecidableEq, Repr

/-- The name of a use. -/
def BodyUse.name : BodyUse → String
  | .unconsumed => "UNCONSUMED"
  | .stream _ => "STREAM"
  | .reader _ => "READER"

/-- The use as a choice. -/
def BodyUse.choice (use : BodyUse) : Choice :=
  ⟨"BodyState", use.name, .ofInt (match use with
    | .unconsumed => 0
    | .stream _ => 1
    | .reader _ => 2)⟩

/-- What was handed out to read content. -/
inductive Accessor where
  /-- A byte stream. -/
  | stream (s : ByteStream)
  /-- A reader. -/
  | reader (r : TextReader)
  deriving DecidableEq, Repr

/-- An operation on an accessor. -/
abbrev AccessorOp := StreamOp ⊕ ReaderOp

/-- Does an operation on the accessor, if it is one for its kind. -/
def Accessor.run : AccessorOp → Accessor → Except Fault (Answer × Accessor)
  | .inl op, .stream s => (op.run s).map fun o => (o.1, .stream o.2)
  | .inr op, .reader r => (op.run r).map fun o => (o.1, .reader o.2)
  | _, _ => .error .noSuchProperty

/-- The body of a request. -/
structure IncomingBody where
  /-- The content, missing if none was ever set. -/
  content : Option (Thing (List UInt8))
  /-- How the content has been handed out. -/
  consumption : BodyUse
  /-- All accessors that were handed out, the first one in front. -/
  accessors : List Accessor
  deriving DecidableEq, Repr

namespace IncomingBody

/-- The body with the given content and no accessors. -/
def ofContent (content : Option (List UInt8)) : IncomingBody :=
  ⟨content.map (Thing.mk (.own .content)), .unconsumed, []⟩

/-- The byte that an item of a sequence is when content is made of it. -/
def byteOf (item : Value) : Except Fault UInt8 := do
  let n ← item.requirePlace
  if 0 ≤ n ∧ n < 256 then return UInt8.ofNat n.toNat else throw .contentOutOfRange

/-- The content that a value stands for: a number for so many zeros, a sequence for its items. -/
def contentOf : Value → Except Fault (Option (List UInt8))
  | .null => .ok none
  | .bytes _ bs => .ok (some bs)
  | .text _ _ => .error .wrongType
  | v =>
    match v.items? with
    | some items => (items.mapM byteOf).map some
    | none => do
      let n ← v.requirePlace
      if !Numeral.fitsSigned 64 n then throw (.sizeTooLarge false)
      if n < 0 then throw .negativeCount
      return some (List.replicate n.toNat 0)

/-- The bytes of the content, if there is content. -/
def bytes? (b : IncomingBody) : Option (List UInt8) := b.content.map (·.content)

/-- The bytes of the content, none if it is missing. -/
def bytes (b : IncomingBody) : List UInt8 := b.bytes?.getD []

/-- The content as a value. -/
def contentValue (b : IncomingBody) : Value :=
  (b.content.map fun t => (Value.ofBytes t.content).marked t.mark).getD .null

/-- Sets new content, which may be handed out again. -/
def setContent (content : Option (List UInt8)) (b : IncomingBody) : IncomingBody :=
  { ofContent content with accessors := b.accessors }

/-- Hands out an accessor, the use of the content being `consumption` from now on. -/
def handOut (b : IncomingBody) (consumption : BodyUse) (a : Accessor) : IncomingBody :=
  { b with consumption, accessors := b.accessors ++ [a] }

/-- The number of the byte stream over the content, which is handed out if necessary. -/
def getStream : Action IncomingBody LogRecord Nat := do
  let b ← .get
  match b.consumption with
  | .reader _ => .fail .streamAfterReader
  | .stream number => return number
  | .unconsumed =>
    .modify fun b => b.handOut (.stream b.accessors.length)
      (.stream (.ofContent (b.content.getD ⟨.unique, []⟩)))
    .emit (.consumedAsStream b.bytes.length)
    return b.accessors.length

/-- A reader of content in the charset of a name. -/
def newReader (content : Option (List UInt8)) (encoding : String) : Except Fault TextReader := do
  let c ← Charset.ofName encoding
  match content with
  | some bs => TextReader.ofBytes encoding c bs
  | none => return .empty

/-- The number of the reader of the content, which is handed out if necessary. Only then the encoding
matters. -/
def getReader (encoding : Value) : Action IncomingBody LogRecord Nat := do
  let b ← .get
  match b.consumption with
  | .stream _ => .fail .readerAfterStream
  | .reader number => return number
  | .unconsumed =>
    let name ← .query fun _ => encoding.requireText
    .update fun b => (newReader b.bytes? name).map fun r =>
      b.handOut (.reader b.accessors.length) (.reader r)
    .emit (.consumedAsReader name)
    return b.accessors.length

/-- Does an operation on the accessor of the given number. -/
def onAccessor (number : Nat) (op : AccessorOp) (b : IncomingBody) : Except Fault (Answer × IncomingBody) :=
  match b.accessors[number]? with
  | some a => (a.run op).map fun o => (o.1, { b with accessors := b.accessors.set number o.2 })
  | none => .error .noSuchProperty

/-- The literal of a body: its size, if there is content, and its use. -/
def literal (b : IncomingBody) : String :=
  let size := ((b.bytes?.map fun bs => Value.ofInt bs.length).getD .null).literal
  s!"RequestBody(size={size}, state={b.consumption.name})"

end IncomingBody

/-- An operation on the body of a request. -/
inductive IncomingBodyOp where
  /-- Sets new content. -/
  | setContent (content : Option (List UInt8))
  /-- Gives the content. -/
  | content
  /-- Tells how the content has been handed out. -/
  | consumption
  /-- Hands out the byte stream. -/
  | getStream
  /-- Hands out the reader. -/
  | getReader (encoding : Value)
  /-- Hands out the byte stream and does an operation on it. -/
  | stream (op : StreamOp)
  /-- Hands out the reader and does an operation on it. -/
  | reader (encoding : Value) (op : ReaderOp)
  /-- Does an operation on the byte stream of the given number. -/
  | heldStream (number : Nat) (op : StreamOp)
  /-- Does an operation on the reader of the given number. -/
  | heldReader (number : Nat) (op : ReaderOp)
  /-- Gives the size of the content. -/
  | size
  /-- Tells whether there is content. -/
  | nonempty
  /-- Gives the literal. -/
  | literal

namespace IncomingBodyOp

/-- Does an operation on the body of a request. -/
def run : IncomingBodyOp → Action IncomingBody LogRecord Answer
  | .setContent bs => .silently (.modify (IncomingBody.setContent bs))
  | .content => .query fun b => .ok (.value b.contentValue)
  | .consumption => .query fun b => .ok (.choice b.consumption.choice)
  | .getStream => do
    let number ← IncomingBody.getStream
    return .handle (.stream number)
  | .getReader encoding => do
    let number ← IncomingBody.getReader encoding
    return .handle (.reader number)
  | .stream op => do
    let number ← IncomingBody.getStream
    .atomic (IncomingBody.onAccessor number (.inl op))
  | .reader encoding op => do
    let number ← IncomingBody.getReader encoding
    .atomic (IncomingBody.onAccessor number (.inr op))
  | .heldStream number op => .atomic (IncomingBody.onAccessor number (.inl op))
  | .heldReader number op => .atomic (IncomingBody.onAccessor number (.inr op))
  | .size => .query fun b => .ok (.int b.bytes.length)
  | .nonempty => .query fun b => .ok (.bool !b.bytes.isEmpty)
  | .literal => .query fun b => .ok (.text b.literal)

end IncomingBodyOp

end HttpExchange
