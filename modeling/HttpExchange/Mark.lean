/-!
# Marks

Things with the same content may still be different things: a text that is given twice is two texts, and
a list may be changed while another one that looked like it stays as it is. What tells such things apart
is a *mark*: two things that are kept are the same thing if they have one mark.

An operation marks what it makes and puts into an object by the place where it puts it. When the operation
is over, these marks are *settled*: they get a number that no other operation has, so that what a later
operation puts there is another thing.

## Main statements

* `isKept_keep`: everything can be kept.
* `isKept_settle`: what is kept before marks are settled is kept afterwards.
-/

namespace HttpExchange

/-- Where a thing has its place: in an object, in another thing, or among those that came with it. -/
inductive Place where
  /-- The content of a request. -/
  | content
  /-- The content type. -/
  | contentType
  /-- The character encoding. -/
  | encoding
  /-- The message of an error. -/
  | message
  /-- The buffer size. -/
  | bufferSize
  /-- The list of cookies. -/
  | cookies
  /-- The set of roles. -/
  | roles
  /-- A header, where its value was made to be written there. -/
  | header
  /-- What has a name of its own. -/
  | named (name : String)
  /-- A locale, by its number among those that came with it. -/
  | locale (number : Nat)
  /-- The language of a locale. -/
  | language
  /-- The country of a locale. -/
  | country
  /-- The variant of a locale. -/
  | variant
  /-- A character of a text, by its number. -/
  | character (number : Nat)
  deriving DecidableEq, Repr

/-- What tells a thing from others with the same content. -/
inductive Mark where
  /-- Nobody keeps the thing, which was made to be given away. -/
  | none
  /-- Nobody keeps the thing, and it is made once more even where there is but one as a rule. -/
  | anew
  /-- There is but one thing with this content. -/
  | unique
  /-- The thing was given from outside or was made to be given away and is kept there; such things are
  numbered. -/
  | given (number : Nat)
  /-- The operation that is going on put the thing to this place. -/
  | own (place : Place)
  /-- The thing has this place in another one, or among those that came with it. -/
  | part (whole : Mark) (place : Place)
  deriving DecidableEq, Repr, Inhabited

namespace Mark

/-- Does the mark tell a thing from others? -/
def isKept : Mark → Bool
  | .none | .anew => false
  | .part whole _ => whole.isKept
  | _ => true

/-- The mark of a thing from now on, and the next number: a mark that tells it from others stays, else the
thing gets the number `next`, unless there is but one such thing. -/
def keep (next : Nat) (single : Bool) (m : Mark) : Mark × Nat :=
  if m.isKept then (m, next)
  else if single && m != .anew then (.unique, next)
  else (.given next, next + 1)

/-- The mark when the operation with the given number is over. -/
def settle (number : Nat) : Mark → Mark
  | .own place => .part (.given number) place
  | .part whole place => .part (whole.settle number) place
  | m => m

/-- Everything can be kept. -/
theorem isKept_keep (next : Nat) (single : Bool) (m : Mark) : (m.keep next single).1.isKept = true := by
  unfold keep
  split
  · assumption
  · split <;> rfl

/-- What is kept before marks are settled is kept afterwards. -/
theorem isKept_settle (number : Nat) (m : Mark) : (m.settle number).isKept = m.isKept := by
  induction m with
  | part whole place ih => rw [settle, isKept, isKept, ih]
  | _ => rfl

end Mark

/-- Something that is kept, with its mark. -/
structure Thing (α : Type) where
  /-- What tells it from others with the same content. -/
  mark : Mark
  /-- What it is. -/
  content : α
  deriving DecidableEq, Repr

end HttpExchange
