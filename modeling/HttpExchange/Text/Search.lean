import HttpExchange.Text.Blank
import HttpExchange.Text.Case

/-!
# Searching, cutting and scanning

A word is searched for in a text, or any sequence in another one. A text is split at every occurrence of a
separator and put together again, or it is split into lines, which keep their ends. Long texts are cut to a number of
bytes of their UTF-8 form.

A scan takes something from the beginning of a text and gives the rest, or finds that it is not there.
Scans follow one another, so that a form such as that of a date is written down piece by piece.

## Main statements

* `isSome_indexOf?_iff`: a word is found exactly if it occurs.
* `join_split`, `flatten_linesFrom`: the pieces of a text, and its lines, put together give the text back.
* `split_ne_nil`: there is always a piece, though it may be empty.
* `cut_of_size_le`: a text that is short enough is shown as it is.
-/

namespace HttpExchange.Text

/-! ## Searching -/

section Searching

variable {α : Type} [BEq α]

/-- The place where `word` first occurs in a text. -/
def indexOf? (word : List α) : List α → Option Nat
  | [] => if word.isEmpty then some 0 else none
  | c :: rest =>
    if word.isPrefixOf (c :: rest) then some 0 else (indexOf? word rest).map (· + 1)

/-- The number of places where `word` occurs behind the first `skip` characters of a text, where no two
places overlap. -/
def countFrom (word : List α) : Nat → List α → Nat
  | _, [] => 0
  | skip + 1, _ :: rest => countFrom word skip rest
  | 0, c :: rest =>
    if word.isPrefixOf (c :: rest) then 1 + countFrom word (word.length - 1) rest
    else countFrom word 0 rest

/-- The number of places where `word` occurs in a text. The empty word is before and behind each
character. -/
def count (word cs : List α) : Nat :=
  if word.isEmpty then cs.length + 1 else countFrom word 0 cs

/-- A word is found exactly if it occurs. -/
theorem isSome_indexOf?_iff [LawfulBEq α] (word cs : List α) : (indexOf? word cs).isSome ↔ word <:+: cs := by
  induction cs with
  | nil => cases word <;> simp [indexOf?]
  | cons c rest ih =>
    rw [indexOf?, List.infix_cons_iff, ← ih]
    split
    · next h => simp [List.isPrefixOf_iff_prefix.1 h]
    · next h => simp [mt List.isPrefixOf_iff_prefix.2 h]

end Searching

/-! ## Splitting and joining -/

/-- The pieces of a text between the occurrences of `sep`. -/
def split (sep : Char) : List Char → List (List Char)
  | [] => [[]]
  | c :: rest =>
    if c = sep then [] :: split sep rest
    else match split sep rest with
      | [] => [[c]]
      | piece :: pieces => (c :: piece) :: pieces

/-- The pieces one after another with `sep` between them. -/
def join (sep : List Char) : List (List Char) → List Char
  | [] => []
  | [piece] => piece
  | piece :: pieces => piece ++ sep ++ join sep pieces

/-- There is always a piece, though it may be empty. -/
theorem split_ne_nil (sep : Char) (cs : List Char) : split sep cs ≠ [] := by
  cases cs with
  | nil => simp [split]
  | cons c rest =>
    rw [split]
    split
    · simp
    · split <;> simp

/-- Joining the pieces gives the text back. -/
theorem join_split (sep : Char) (cs : List Char) : join [sep] (split sep cs) = cs := by
  induction cs with
  | nil => rfl
  | cons c rest ih =>
    rw [split]
    split
    · next h =>
      cases hs : split sep rest with
      | nil => exact absurd hs (split_ne_nil sep rest)
      | cons piece pieces => rw [hs] at ih; simp [join, ih, h]
    · cases hs : split sep rest with
      | nil => exact absurd hs (split_ne_nil sep rest)
      | cons piece pieces =>
        rw [hs] at ih
        cases pieces with
        | nil => simpa [join] using ih
        | cons p ps => simpa [join] using ih

/-! ## Lines -/

section Lines

variable {α : Type} [DecidableEq α] (lineEnd : α)

/-- The length of the first line with its end, which the last line may lack. -/
def lineLength : List α → Nat
  | [] => 0
  | c :: rest => if c = lineEnd then 1 else lineLength rest + 1

/-- The lines of a text; `line` is the beginning of the first one. -/
def linesFrom (line : List α) : List α → List (List α)
  | [] => if line.isEmpty then [] else [line]
  | c :: rest => if c = lineEnd then (line ++ [c]) :: linesFrom [] rest else linesFrom (line ++ [c]) rest

/-- The lines one after another are the text again. -/
theorem flatten_linesFrom (line cs : List α) : (linesFrom lineEnd line cs).flatten = line ++ cs := by
  induction cs generalizing line with
  | nil =>
    rw [linesFrom]
    split
    · next hline => simpa using hline
    · simp
  | cons c rest ih =>
    rw [linesFrom]
    split
    · rw [List.flatten_cons, ih]
      simp
    · rw [ih]
      simp

end Lines

/-! ## Cutting -/

/-- The number of bytes of a text in UTF-8. -/
def utf8Size : List Char → Nat
  | [] => 0
  | c :: rest => c.utf8Size + utf8Size rest

/-- The beginning of a text that takes at most `limit` bytes in UTF-8. A character that does not fit as a
whole leaves the replacement character behind. -/
def cut (limit : Nat) : List Char → List Char
  | [] => []
  | c :: rest =>
    if c.utf8Size ≤ limit then c :: cut (limit - c.utf8Size) rest
    else if limit = 0 then []
    else ['\uFFFD']

/-- A text that is short enough is shown as it is. -/
theorem cut_of_size_le {limit : Nat} {cs : List Char} (h : utf8Size cs ≤ limit) : cut limit cs = cs := by
  induction cs generalizing limit with
  | nil => rfl
  | cons c rest ih =>
    rw [utf8Size] at h
    rw [cut, if_pos (by omega), ih (by omega)]

/-! ## Scanning -/

/-- What takes an `α` from the beginning of a text. -/
abbrev Scan (α : Type) := StateT (List Char) Option α

namespace Scan

/-- Takes the character `c`. -/
def char (c : Char) : Scan Unit := fun
  | [] => none
  | d :: rest => if d = c then some ((), rest) else none

/-- Takes white space, at least one character of it. -/
def blanks : Scan Unit := fun
  | [] => none
  | c :: rest => if isBlank c then some ((), trimLeft rest) else none

/-- Takes decimal digits, as many as there are but at least `least` and at most `most` of them, as a
number. -/
def digits (least most : Nat) : Scan Nat := fun cs =>
  let taken := (cs.take most).takeWhile isDigit
  if taken.length < least then none else some (digitsValue taken, cs.drop taken.length)

/-- Takes one of the words, in any case, and gives its place in the list. -/
def word (words : List (List Char)) : Scan Nat := fun cs =>
  words.zipIdx.findSome? fun w => (dropWord? w.1 cs).map fun rest => (w.2, rest)

/-- Takes letters of ASCII and their relatives, perhaps none. -/
def letters : Scan Unit := fun cs => some ((), cs.dropWhile isFoldedLetter)

/-- Takes nothing and holds only at the end of the text. -/
def atEnd : Scan Unit := fun
  | [] => some ((), [])
  | _ :: _ => none

end Scan

end HttpExchange.Text
