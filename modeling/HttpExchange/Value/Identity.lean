import HttpExchange.Value

/-!
# Things and their marks

A thing gets a mark when it is given from outside or kept. From then on it is the same thing wherever it
is found, inside other things too, and a change of it is a change of all places where its mark is.

## Main statements

* `replace_of_mark`: a thing with the mark of another one is replaced by it as a whole.
-/

namespace HttpExchange

namespace Value

/-- The mark of a value. What is no thing has none. -/
def mark : Value → Mark
  | .int m _ | .float m _ | .text m _ | .bytes m _ | .list m _ | .tuple m _ | .map m _ | .set m _
  | .dateTime m _ | .locale m _ | .part m _ => m
  | .null | .bool _ => .none

/-- The value with another mark. -/
def withMark (m : Mark) : Value → Value
  | .int _ n => .int m n
  | .float _ x => .float m x
  | .text _ s => .text m s
  | .bytes _ bs => .bytes m bs
  | .list _ items => .list m items
  | .tuple _ items => .tuple m items
  | .map _ entries => .map m entries
  | .set _ names => .set m names
  | .dateTime _ d => .dateTime m d
  | .locale _ l => .locale m l
  | .part _ fields => .part m fields
  | v => v

/-- Is an integer the only one of its size? Small ones are. -/
def isSingleInt (n : Int) : Bool := -5 ≤ n && n ≤ 256

/-- Is a text the only one with its content? The empty one and single characters of one byte are. -/
def isSingleText (s : String) : Bool := s.length ≤ 1 && s.toList.all fun c => c.toNat < 256

/-- Is there, as a rule, but one thing with the content of the value? -/
def isSingle : Value → Bool
  | .null | .bool _ => true
  | .int _ n => isSingleInt n
  | .text _ s => isSingleText s
  | .bytes _ bs => bs.length ≤ 1
  | .tuple _ items => items.isEmpty
  | _ => false

/-- The value with a mark, unless there is but one thing with its content. -/
def marked (m : Mark) (v : Value) : Value := v.withMark (if v.isSingle then .unique else m)

/-- The value with the mark of what is put to a place, unless it was a thing before. -/
def owned (place : Place) (v : Value) : Value := if v.mark.isKept then v else v.marked (.own place)

/-- The items of a value when they are kept. The characters of a text are parts of it from then on. -/
def keptItems? : Value → Option (List Value)
  | .text m s =>
    some (s.toList.mapIdx fun i c => (ofText (String.singleton c)).marked (.part m (.character i)))
  | v => v.items?

end Value

/-- A text that is put to a place, unless there is but one thing with its content. -/
def Thing.ofText (place : Place) (s : String) : Thing String :=
  ⟨if Value.isSingleText s then .unique else .own place, s⟩

/-- A text that is kept, as a value. -/
def Thing.text (t : Thing String) : Value := .text t.mark t.content

/-- A text that is kept, or nothing, as a value. -/
def Thing.text? (t : Option (Thing String)) : Value := (t.map Thing.text).getD .null

/-! ## Giving marks -/

mutual

/-- The name with a mark for every thing in it that has none, numbered from `next` on, and the number after
them. -/
def Key.keep (next : Nat) : Key → Key × Nat
  | .null => (.null, next)
  | .bool b => (.bool b, next)
  | .int m n =>
    let (m, next) := m.keep next (Value.isSingleInt n)
    (.int m n, next)
  | .float m x =>
    let (m, next) := m.keep next false
    (.float m x, next)
  | .text m s =>
    let (m, next) := m.keep next (Value.isSingleText s)
    (.text m s, next)
  | .bytes m bs =>
    let (m, next) := m.keep next (bs.length ≤ 1)
    (.bytes m bs, next)
  | .dateTime m d =>
    let (m, next) := m.keep next false
    (.dateTime m d, next)
  | .locale m l =>
    let (m, next) := m.keep next false
    (.locale m l, next)
  | .tuple m items =>
    let (m, next) := m.keep next items.isEmpty
    let (items, next) := Key.keepAll next items
    (.tuple m items, next)

/-- Names with a mark for every thing in them. -/
def Key.keepAll (next : Nat) : List Key → List Key × Nat
  | [] => ([], next)
  | k :: rest =>
    let (k, next) := Key.keep next k
    let (rest, next) := Key.keepAll next rest
    (k :: rest, next)

end

namespace Value

/-- A value that holds nothing else with a mark, and the next number. -/
def keepSingle (next : Nat) (v : Value) : Value × Nat :=
  let (m, next) := v.mark.keep next v.isSingle
  (v.withMark m, next)

mutual

/-- The value with a mark for every thing in it that has none, numbered from `next` on, and the number
after them. -/
def keep (next : Nat) : Value → Value × Nat
  | .list m items =>
    let (m, next) := m.keep next false
    let (items, next) := keepAll next items
    (.list m items, next)
  | .tuple m items =>
    let (m, next) := m.keep next items.isEmpty
    let (items, next) := keepAll next items
    (.tuple m items, next)
  | .map m entries =>
    let (m, next) := m.keep next false
    let (entries, next) := keepEntries next entries
    (.map m entries, next)
  | .part m fields =>
    let (m, next) := m.keep next false
    let (fields, next) := keepFields next fields
    (.part m fields, next)
  | v => keepSingle next v

/-- Values with a mark for every thing in them. -/
def keepAll (next : Nat) : List Value → List Value × Nat
  | [] => ([], next)
  | v :: rest =>
    let (v, next) := keep next v
    let (rest, next) := keepAll next rest
    (v :: rest, next)

/-- The entries of a map with a mark for every thing in them. -/
def keepEntries (next : Nat) : List (Key × Value) → List (Key × Value) × Nat
  | [] => ([], next)
  | (k, v) :: rest =>
    let (k, next) := k.keep next
    let (v, next) := keep next v
    let (rest, next) := keepEntries next rest
    ((k, v) :: rest, next)

/-- The fields of a part with a mark for every thing in them. -/
def keepFields (next : Nat) : List (String × Value) → List (String × Value) × Nat
  | [] => ([], next)
  | (name, v) :: rest =>
    let (v, next) := keep next v
    let (rest, next) := keepFields next rest
    ((name, v) :: rest, next)

end

/-- The value when the operation with the given number is over. -/
def settle (number : Nat) (v : Value) : Value := v.withMark (v.mark.settle number)

/-! ## Replacing things -/

mutual

/-- The value with `thing` in all places where its mark is. -/
def replace (thing : Value) : Value → Value
  | .list m items => if m = thing.mark then thing else .list m (replaceAll thing items)
  | .tuple m items => if m = thing.mark then thing else .tuple m (replaceAll thing items)
  | .map m entries => if m = thing.mark then thing else .map m (replaceEntries thing entries)
  | .set m names => if m = thing.mark then thing else .set m names
  | .part m fields => if m = thing.mark then thing else .part m (replaceFields thing fields)
  | .locale m l => if m = thing.mark then thing else .locale m l
  | v => v

/-- Values with `thing` in all places where its mark is. -/
def replaceAll (thing : Value) : List Value → List Value
  | [] => []
  | v :: rest => replace thing v :: replaceAll thing rest

/-- The entries of a map with `thing` in all places where its mark is. -/
def replaceEntries (thing : Value) : List (Key × Value) → List (Key × Value)
  | [] => []
  | (k, v) :: rest => (k, replace thing v) :: replaceEntries thing rest

/-- The fields of a part with `thing` in all places where its mark is. -/
def replaceFields (thing : Value) : List (String × Value) → List (String × Value)
  | [] => []
  | (name, v) :: rest => (name, replace thing v) :: replaceFields thing rest

end

/-- A list with the mark of another thing is replaced by it as a whole. -/
theorem replace_of_mark {thing : Value} (items : List Value) :
    replace thing (.list thing.mark items) = thing := by
  rw [replace, if_pos rfl]

/-! ## Telling values apart -/

/-- Are two values the very same? Things are if they have one mark and, where it is a mark of several things,
one content. -/
def isSame (v w : Value) : Bool :=
  match v, w with
  | .null, .null => true
  | .bool a, .bool b => a == b
  | .int m a, .int n b => m.isKept && m == n && a == b
  | .text m s, .text n t => m.isKept && m == n && s == t
  | .bytes m bs, .bytes n cs => m.isKept && m == n && bs == cs
  | .float m _, .float n _ | .list m _, .list n _ | .tuple m _, .tuple n _ | .map m _, .map n _
  | .set m _, .set n _ | .dateTime m _, .dateTime n _ | .locale m _, .locale n _
  | .part m _, .part n _ => m.isKept && m == n
  | _, _ => false

end Value

end HttpExchange
