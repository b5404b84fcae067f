import HttpExchange.Calendar.DateTime
import HttpExchange.Language.Locale
import HttpExchange.Mark
import HttpExchange.Number.Binary64

/-!
# Names

What names a parameter, an attribute, a part or an entry of a map. Names are texts as a rule, but any value
that never changes can be one. Numbers are compared as numbers, so a truth value is the same name as one
or zero; times that are given with an offset are compared as instants. Not-a-number is no name's equal,
not even its own. The marks of names do not matter when names are compared, but a name keeps its mark.

## Main statements

* `beq_iff`: two names are the same exactly if they have one code.
-/

namespace HttpExchange

/-- What names a parameter, an attribute, a part or an entry of a map. -/
inductive Key where
  /-- No name. -/
  | null
  /-- A truth value. -/
  | bool (b : Bool)
  /-- An integer. -/
  | int (mark : Mark) (n : Int)
  /-- A floating-point number. -/
  | float (mark : Mark) (x : Binary64)
  /-- A text. -/
  | text (mark : Mark) (s : String)
  /-- A sequence of bytes. -/
  | bytes (mark : Mark) (bs : List UInt8)
  /-- A date and time. -/
  | dateTime (mark : Mark) (d : DateTime)
  /-- A locale. -/
  | locale (mark : Mark) (l : Locale)
  /-- A fixed sequence of names. -/
  | tuple (mark : Mark) (items : List Key)
  deriving Repr, Inhabited

/-- A piece of what names are compared by. -/
inductive KeyPart where
  /-- Nothing. -/
  | null
  /-- A whole number. -/
  | whole (n : Int)
  /-- A number that is not whole. -/
  | number (x : Binary64)
  /-- A text. -/
  | text (s : String)
  /-- A sequence of bytes. -/
  | bytes (bs : List UInt8)
  /-- A time without an offset, in microseconds. -/
  | localTime (micros : Int)
  /-- A time with an offset, in microseconds. -/
  | instant (micros : Int)
  /-- A locale. -/
  | locale (l : Locale)
  /-- The beginning of a sequence of the given length. -/
  | sequence (length : Nat)
  deriving DecidableEq, Repr

namespace KeyPart

/-- A floating-point number as a piece, unless it is not a number. -/
def ofFloat? (x : Binary64) : Option KeyPart :=
  match x.toInt?, x with
  | some n, _ => some (.whole n)
  | none, .nan => none
  | none, x => some (.number x)

/-- A date and time as a piece. -/
def ofDateTime (d : DateTime) : KeyPart :=
  let micros := 1000000 * d.seconds + d.time.micro
  match d.offset with
  | none => .localTime micros
  | some _ => .instant micros

end KeyPart

namespace Key

mutual

/-- What a name is compared by, if it can be compared. -/
def code : Key → Option (List KeyPart)
  | .null => some [.null]
  | .bool b => some [.whole (if b then 1 else 0)]
  | .int _ n => some [.whole n]
  | .float _ x => (KeyPart.ofFloat? x).map ([·])
  | .text _ s => some [.text s]
  | .bytes _ bs => some [.bytes bs]
  | .dateTime _ d => some [.ofDateTime d]
  | .locale _ l => some [.locale l]
  | .tuple _ items => (codes items).map (.sequence items.length :: ·)

/-- What the names of a sequence are compared by. -/
def codes : List Key → Option (List KeyPart)
  | [] => some []
  | k :: rest =>
    match code k, codes rest with
    | some c, some cs => some (c ++ cs)
    | _, _ => none

end

instance : BEq Key where
  beq a b := a.code.isSome && a.code == b.code

/-- Two names are the same exactly if they have one code. -/
theorem beq_iff {a b : Key} : (a == b) = true ↔ ∃ c, a.code = some c ∧ b.code = some c := by
  change (a.code.isSome && a.code == b.code) = true ↔ _
  rw [Bool.and_eq_true, beq_iff_eq, Option.isSome_iff_exists]
  constructor
  · rintro ⟨⟨c, hc⟩, h⟩
    exact ⟨c, hc, h ▸ hc⟩
  · rintro ⟨c, ha, hb⟩
    exact ⟨⟨c, ha⟩, ha.trans hb.symm⟩

instance : PartialEquivBEq Key where
  symm h := by
    obtain ⟨c, ha, hb⟩ := beq_iff.1 h
    exact beq_iff.2 ⟨c, hb, ha⟩
  trans h h' := by
    obtain ⟨c, ha, hb⟩ := beq_iff.1 h
    obtain ⟨d, hb', hc⟩ := beq_iff.1 h'
    exact beq_iff.2 ⟨c, ha, by rw [hc, ← hb', hb]⟩

/-- Texts are the same name exactly if they have the same content. -/
@[simp] theorem text_beq_text (m n : Mark) (s t : String) :
    ((Key.text m s == Key.text n t) = true) = (s = t) := by
  rw [beq_iff]
  simp [code, eq_comm]

end Key

end HttpExchange
