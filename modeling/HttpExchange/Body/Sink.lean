import HttpExchange.Action
import HttpExchange.Value.Operation

/-!
# Byte sinks

The body of a response is a sink to which bytes are appended. Its owner is told of every write, with the
total size, and of every close; closing does not prevent further writes. A block of writes closes the sink
at its end, also when a write fails.

A sink may be kept together with what its owner was told. An owner that does not listen is told nothing.
-/

namespace HttpExchange

/-- A sink, by the bytes written to it. -/
structure Sink where
  /-- The bytes written so far. -/
  bytes : List UInt8
  deriving DecidableEq, Repr

/-- What the owner of a sink is told. -/
inductive SinkEvent where
  /-- Something was written; the sink now has the given size. -/
  | written (size : Nat)
  /-- The sink was closed. -/
  | closed
  deriving DecidableEq, Repr

namespace Sink

/-- The sink without bytes. -/
def empty : Sink := ⟨[]⟩

/-- The bytes as a value, which is made whenever it is asked for, even for a single byte. -/
def value (s : Sink) : Value := .bytes (if s.bytes.isEmpty then .none else .anew) s.bytes

/-- The number of bytes. -/
def size (s : Sink) : Nat := s.bytes.length

/-- The byte that the lowest eight bits of an integer are. -/
def lowByte (n : Int) : UInt8 := UInt8.ofNat (n % 256).toNat

/-- The byte that an item of a list is. -/
def byteOf : Value → Except Fault UInt8
  | .int _ n => if 0 ≤ n ∧ n < 256 then .ok (UInt8.ofNat n.toNat) else .error .byteOutOfRange
  | .bool b => .ok (if b then 1 else 0)
  | _ => .error .wrongType

/-- The bytes that a value writes: an integer its lowest byte, anything else its items. -/
def bytesOf : Value → Except Fault (List UInt8)
  | .int _ n => .ok [lowByte n]
  | .bool b => .ok [if b then 1 else 0]
  | .bytes _ bs => .ok bs
  | v => do (← v.requireItems).mapM byteOf

/-- Appends what a value writes and gives its length. -/
def write (v : Value) : Action Sink SinkEvent Nat := do
  let n ← .atomic fun s => (bytesOf v).map fun bs => (bs.length, ⟨s.bytes ++ bs⟩)
  let s ← .get
  .emit (.written s.size)
  return n

/-- Appends what values write, one after another. -/
def writeAll : List Value → Action Sink SinkEvent Unit
  | [] => pure ()
  | v :: rest => do
    let _ ← write v
    writeAll rest

/-- Tells the owner that nothing more will be written. -/
def close : Action Sink SinkEvent Unit := .emit .closed

/-- Discards all bytes. -/
def reset : Action Sink SinkEvent Unit := .modify fun _ => empty

/-- What happens in a block of writes. -/
inductive BlockStep where
  /-- A value is written. -/
  | write (v : Value)
  /-- The block is left with a fault. -/
  | interrupt (fault : Fault)

/-- Does the steps of a block, one after another. -/
def runBlock : List BlockStep → Action Sink SinkEvent Unit
  | [] => pure ()
  | .write v :: rest => do
    let _ ← write v
    runBlock rest
  | .interrupt fault :: _ => .fail fault

/-- Does the steps of a block and closes the sink, whether they fail or not. -/
def block (steps : List BlockStep) : Action Sink SinkEvent Unit := .ensuring (runBlock steps) close

/-- The literal of a sink. -/
def literal (s : Sink) : String := s!"ResponseBody(size={s.size})"

end Sink

/-- An operation on a sink. -/
inductive SinkOp where
  /-- Appends what a value writes. -/
  | write (v : Value)
  /-- Appends what the items of a value write. -/
  | writeLines (v : Value)
  /-- Does the steps of a block and closes the sink. -/
  | block (steps : List Sink.BlockStep)
  /-- Tells that the sink can be written. -/
  | writable
  /-- Tells that a write does not have to wait. -/
  | isReady
  /-- Does nothing, since nothing is held back. -/
  | flush
  /-- Tells the owner that nothing more will be written. -/
  | close
  /-- Gives the bytes. -/
  | content
  /-- Discards all bytes. -/
  | reset
  /-- Gives the number of bytes. -/
  | size
  /-- Tells whether there are bytes. -/
  | nonempty
  /-- Gives the literal. -/
  | literal

namespace SinkOp

/-- Does an operation on a sink. -/
def run : SinkOp → Action Sink SinkEvent Answer
  | .write v => do
    let n ← Sink.write v
    return .int n
  | .writeLines v => do
    let lines ← .query fun _ => v.requireItems
    Sink.writeAll lines
    return .none
  | .block steps => .silently (Sink.block steps)
  | .writable => return .bool true
  | .isReady => return .bool true
  | .flush => return .none
  | .close => .silently Sink.close
  | .content => .query fun s => .ok (.value s.value)
  | .reset => .silently Sink.reset
  | .size => .query fun s => .ok (.int s.size)
  | .nonempty => .query fun s => .ok (.bool !s.bytes.isEmpty)
  | .literal => .query fun s => .ok (.text s.literal)

end SinkOp

/-! ## Sinks with their history -/

/-- A sink and what its owner was told. -/
structure MonitoredSink where
  /-- The sink. -/
  sink : Sink
  /-- Does the owner listen? -/
  listening : Bool
  /-- What the owner was told, in order. -/
  history : List SinkEvent

namespace MonitoredSink

/-- An empty sink. -/
def new (listening : Bool) : MonitoredSink := ⟨.empty, listening, []⟩

/-- Does an operation on the sink and keeps what it tells. -/
def run {ε : Type} (op : SinkOp) : Action MonitoredSink ε Answer := fun m =>
  let o := op.run m.sink
  let told := if m.listening then o.events else []
  ⟨⟨o.state, m.listening, m.history ++ told⟩, [], o.result⟩

end MonitoredSink

end HttpExchange
