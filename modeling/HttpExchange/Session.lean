import HttpExchange.Body.Sink
import HttpExchange.Config.Shared
import HttpExchange.Header.Operation
import HttpExchange.Request
import HttpExchange.Value.Change

/-!
# Sessions

A session runs operations on one object and may keep their answers in slots for later use. What lives on
in the object (a stream, a reader, the values of a header) is used through the object, so that later changes
are seen. All other things are kept as they are: a change of one is made wherever the thing is, in the
object and in all slots. The values of a header that is removed stay with those who keep them.

## Main statements

* `get?_hold`: what was kept is found in its slot.
-/

namespace HttpExchange

/-- An answer that is kept. -/
inductive Held where
  /-- A value. -/
  | value (v : Value)
  /-- The values of a header that is present, by its name in lower case. -/
  | headerValues (name : String)
  /-- The values of a header that was removed, by their number among such values. -/
  | formerValues (number : Nat)
  /-- A map that cannot be written. -/
  | readOnly (mark : Mark) (entries : List (Key × Value))
  /-- A view of a map. -/
  | view (view : MapView) (map : Value)
  /-- A choice. -/
  | choice (c : Choice)
  /-- Access to a part of the object. -/
  | handle (h : Handle)
  /-- An operation that is named and not done, of a value or of something else. -/
  | operation (ofValue : Bool)

namespace Held

/-- What an answer is when it is kept. Its things without a mark get one, numbered from `next` on. -/
def ofAnswer (next : Nat) : Answer → Held × Nat
  | .value v => (.value (v.keep next).1, (v.keep next).2)
  | .headerValues name _ => (.headerValues name, next)
  | .formerValues number _ => (.formerValues number, next)
  | .readOnly m entries =>
    let (m, next) := m.keep next false
    let (entries, next) := Value.keepEntries next entries
    (.readOnly m entries, next)
  | .view shown map => (.view shown (map.keep next).1, (map.keep next).2)
  | .choice c => (.choice c, next)
  | .handle h => (.handle h, next)
  | .operation ofValue => (.operation ofValue, next)

/-- Are two answers that are kept the very same thing? -/
def isSame : Held → Held → Bool
  | .value v, .value w => v.isSame w
  | .headerValues name, .headerValues other => name == other
  | .formerValues number, .formerValues other => number == other
  | .readOnly m _, .readOnly n _ => m.isKept && m == n
  | .choice c, .choice d => c.kind == d.kind && c.name == d.name
  | .handle h, .handle other => h == other
  | _, _ => false

/-- What is kept with a thing in all places where its mark is. -/
def replace (thing : Value) : Held → Held
  | .value v => .value (Value.replace thing v)
  | .readOnly m entries => .readOnly m (Value.replaceEntries thing entries)
  | .view shown map => .view shown (Value.replace thing map)
  | held => held

end Held

/-! ## Answers that are used -/

namespace Answer

/-- Asks a choice for something. -/
def askChoice (c : Choice) (op : ValueOp) : Except Fault Answer :=
  match op with
  | .literal => .ok (.text s!"<{c.kind}.{c.name}: {c.code.literal}>")
  | .display => .ok (if c.code.isText then .text s!"{c.kind}.{c.name}" else .value c.code.written)
  | .nonempty => .ok (.bool c.code.isTruthy)
  | .field "name" => .ok (.value (.text .unique c.name))
  | .field "value" => .ok (.value c.code)
  | .size | .items | .has _ | .item _ => .error .wrongType
  | _ => .error .noSuchProperty

/-- Asks a view of a map for something. -/
def askView (view : MapView) (map : Value) (op : ValueOp) : Except Fault Answer := do
  let items := Value.ofList (view.items (← map.requireEntries))
  match view, op with
  | _, .literal | _, .display => return .text s!"{view.name}({items.literal})"
  | .names, .has sought => (map.has sought).map .bool
  | _, .nonempty | _, .size | _, .items | _, .has _ => op.run items
  | _, .item _ => throw .wrongType
  | _, _ => throw .noSuchProperty

/-- Asks an operation for something. It has no items. -/
def askOperation (op : ValueOp) : Except Fault Answer :=
  match op with
  | .nonempty => .ok (.bool true)
  | .size | .items | .has _ | .item _ => .error .wrongType
  | _ => .error .noSuchProperty

/-- Asks an answer for something. -/
def ask (a : Answer) (op : ValueOp) : Except Fault Answer :=
  match a with
  | .value v => op.run v
  | .readOnly _ entries =>
    match op with
    | .literal => .ok (.text s!"mappingproxy({(Value.map .none entries).literal})")
    | op => op.run (.map .none entries)
  | .view shown map => askView shown map op
  | .choice c => askChoice c op
  | .operation _ => askOperation op
  | _ => .error .noSuchProperty

/-- Why an answer that is no value cannot be changed. -/
def changeFault (a : Answer) (op : ChangeOp) : Fault :=
  match a, op with
  | .readOnly _ _, .setItem key _ | .readOnly _ _, .deleteItem key | .view _ _, .setItem key _
  | .view _ _, .deleteItem key => ChangeOp.itemFault key
  | .choice _, .setItem _ _ | .choice _, .deleteItem _ | .operation _, .setItem _ _
  | .operation _, .deleteItem _ => .wrongType
  | _, _ => .noSuchProperty

end Answer

/-! ## Subjects -/

/-- An operation through a kept answer on what lives on in the object. -/
inductive LiveOp where
  /-- An operation on a byte stream. -/
  | stream (number : Nat) (op : StreamOp)
  /-- An operation on a reader. -/
  | reader (number : Nat) (op : ReaderOp)
  /-- An operation on the values of a header. -/
  | headerValues (name : String) (op : ValuesOp)
  /-- An operation on the sink. -/
  | sink (op : SinkOp)
  /-- An operation on the configuration. -/
  | config (op : ConfigOp)

/-- How a session deals with an object `σ` with operations `ω`. -/
structure Subject (σ ω : Type) where
  /-- Does an operation. -/
  run : ω → Action σ LogRecord Answer
  /-- The operation that does what is asked for through a kept answer, if there can be such an answer. -/
  live : LiveOp → Option ω
  /-- The values of a header that is present. -/
  headerValues? : σ → String → Option (List Value)
  /-- The things of the object that operations on it change. -/
  ownThings : σ → List Value
  /-- The object with a function applied to the values that it keeps. -/
  mapValues : (Value → Value) → σ → σ

/-! ## Sessions -/

/-- An object and the answers that are kept. -/
structure Session (σ : Type) where
  /-- The object. -/
  object : σ
  /-- The answers that are kept. -/
  slots : OrderedMap String Held
  /-- The values of headers that were removed while somebody kept them. -/
  former : List (List Value)
  /-- The number of things that have a numbered mark. -/
  things : Nat

/-- Where a value comes from that is asked or changed. -/
inductive Source (ω : Type) where
  /-- It is kept in a slot. -/
  | slot (name : String)
  /-- It is the answer of an operation. -/
  | answer (op : ω)

/-- What is done in a session. -/
inductive Step (ω : Type) where
  /-- Does an operation on the object. -/
  | run (op : ω)
  /-- Does an operation through a kept answer. -/
  | live (op : LiveOp)
  /-- Does an operation on the values of a header that was removed. -/
  | former (number : Nat) (op : ValuesOp)
  /-- Asks a value for something. -/
  | ask (source : Source ω) (op : ValueOp)
  /-- Changes a value. -/
  | change (source : Source ω) (op : ChangeOp)
  /-- Gives what is kept, as it is now. -/
  | peek (slot : String)
  /-- Tells that there is something to ask. -/
  | present
  /-- Names an operation of the object and does not do it. -/
  | mention
  /-- Fails. -/
  | refuse (fault : Fault)
  /-- Does something and keeps the answer. -/
  | hold (slot : String) (step : Step ω)
  /-- Does something and tells whether the answer is the very thing that is kept. -/
  | same (slot : String) (step : Step ω)
  /-- Does something and uses the answer like an operation, which it is not. -/
  | misuse (step : Step ω)

namespace Session

variable {σ ω : Type}

/-- An object when the operation with the given number is over. -/
def settled (subject : Subject σ ω) (number : Nat) (object : σ) : σ :=
  subject.mapValues (Value.settle number) object

/-- The session with an object, before anything is kept. The things that the object was made of have marks
up to `things`. -/
def start (subject : Subject σ ω) (object : σ) (things : Nat) : Session σ :=
  ⟨settled subject things object, .empty, [], things + 1⟩

/-- Values with a mark for every thing in them. -/
def keepAll (vs : List Value) (s : Session σ) : List Value × Session σ :=
  let (vs, things) := Value.keepAll s.things vs
  (vs, { s with things })

/-- The names of the headers whose values are kept, each once. -/
def heldHeaders (slots : OrderedMap String Held) : List String :=
  (slots.values.filterMap fun
    | .headerValues name => some name
    | _ => none).eraseDups

/-- The session after its object became `after`. The values of a header that was removed stay behind, and
the things that operations change are seen as they are now. -/
def follow (subject : Subject σ ω) (after : σ) (s : Session σ) : Session σ :=
  let gone := (heldHeaders s.slots).filter fun name => (subject.headerValues? after name).isNone
  let own := (subject.ownThings after).filter fun thing => thing.mark.isKept
  let left : Held → Held
    | .headerValues name =>
      match gone.idxOf? name with
      | some i => .formerValues (s.former.length + i)
      | none => .headerValues name
    | held => own.foldl (fun held thing => held.replace thing) held
  { s with
    object := after
    slots := s.slots.mapValues left
    former := s.former ++ gone.map fun name => (subject.headerValues? s.object name).getD [] }

/-- Does an operation on the object. -/
def onObject (subject : Subject σ ω) (op : ω) : Action (Session σ) LogRecord Answer := fun s =>
  let o := subject.run op s.object
  let after := settled subject s.things o.state
  ⟨follow subject after { s with things := s.things + 1 }, o.events, o.result⟩

/-- The session with a thing in all places where its mark is. What is the only one with its content never
changes. -/
def replace (subject : Subject σ ω) (thing : Value) (s : Session σ) : Session σ :=
  if !thing.mark.isKept || thing.mark = .unique then s
  else { s with
    object := subject.mapValues (Value.replace thing) s.object
    slots := s.slots.mapValues (Held.replace thing)
    former := s.former.map (Value.replaceAll thing) }

/-- What is kept, as it is now. -/
def current (subject : Subject σ ω) (s : Session σ) : Held → Answer
  | .value v => .value v
  | .headerValues name => .headerValues name ((subject.headerValues? s.object name).getD [])
  | .formerValues number => .formerValues number (s.former.getD number [])
  | .readOnly m entries => .readOnly m entries
  | .view shown map => .view shown map
  | .choice c => .choice c
  | .handle h => .handle h
  | .operation ofValue => .operation ofValue

/-- What is kept in a slot, where there must be something. -/
def requireHeld (s : Session σ) (slot : String) : Except Fault Held :=
  match s.slots.get? slot with
  | some held => .ok held
  | none => .error (.missing (.ofText slot))

/-- The answer that a source gives. -/
def answerOf (subject : Subject σ ω) : Source ω → Action (Session σ) LogRecord Answer
  | .slot name => .query fun s =>
    (s.requireHeld name).map (s.current subject)
  | .answer op => onObject subject op

/-- Changes a value in all places where it is kept. -/
def changeValue (subject : Subject σ ω) (op : ChangeOp) (v : Value) :
    Action (Session σ) LogRecord Answer := fun s =>
  let o := op.run v
  ⟨s.replace subject o.state, o.events, o.result⟩

/-- Keeps an answer in a slot. -/
def hold (slot : String) (a : Answer) (s : Session σ) : Session σ :=
  let (held, things) := Held.ofAnswer s.things a
  { s with slots := s.slots.insert slot held, things }

/-- Does a step of a session. -/
def run (subject : Subject σ ω) : Step ω → Action (Session σ) LogRecord Answer
  | .run op => onObject subject op
  | .live op =>
    match subject.live op with
    | some op => onObject subject op
    | none => .fail .noSuchProperty
  | .former number op => .atomic fun s =>
    (op.run (s.former.getD number [])).map fun r => (r.1, { s with former := s.former.set number r.2 })
  | .ask source op => do
    let a ← answerOf subject source
    .query fun _ => a.ask op
  | .change source op => do
    match ← answerOf subject source with
    | .value v => changeValue subject op v
    | a => .fail (a.changeFault op)
  | .peek slot => answerOf subject (.slot slot)
  | .present => return .bool true
  | .mention => return .operation false
  | .refuse fault => .fail fault
  | .hold slot step => do
    let a ← run subject step
    .modify (hold slot a)
    return a
  | .same slot step => do
    let a ← run subject step
    .query fun s => (s.requireHeld slot).map fun held => .bool (held.isSame (Held.ofAnswer s.things a).1)
  | .misuse step => do
    let _ ← run subject step
    .fail .wrongType

/-- What was kept is found in its slot. -/
theorem get?_hold (slot : String) (a : Answer) (s : Session σ) :
    (hold slot a s).slots.get? slot = some (Held.ofAnswer s.things a).1 := by
  simp [hold]

end Session

end HttpExchange
