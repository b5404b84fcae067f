import HttpExchange.Language.Tag
import HttpExchange.Text.Character

/-!
# Language preferences

A list of preferred languages is a sequence of ranges with commas between them. A range is a language tag
or `*`, and may have a quality from 0 to 1 with at most three decimals: `fr-CH, fr;q=0.9, *;q=0.5`. The
languages are ordered by descending quality, those of equal quality as they were written; ranges of
quality zero and the range `*` name no language. One malformed range makes the whole list invalid.
-/

namespace HttpExchange.Language

open Text

/-- The quality that a parameter gives, in thousandths: `q=` with a digit 0 or 1 and up to three
decimals. -/
def quality? (cs : List Char) : Option Nat :=
  match cs with
  | [] => none
  | q :: rest =>
    if q.toLower = 'q' then
      match trimLeft rest with
      | '=' :: value =>
        match trimLeft value with
        | unit :: decimals =>
          if unit = '0' ∨ unit = '1' then
            let whole := if unit = '1' then 1000 else 0
            match decimals with
            | [] => some whole
            | point :: fraction =>
              if point = '.' ∧ fraction.length ≤ 3 ∧ fraction.all isDigit then
                some (whole + digitsValue fraction * Nat.pow 10 (3 - fraction.length))
              else none
          else none
        | [] => none
      | _ => none
    else none

/-- The quality that the parameters of a range give: that of the last one, or one. `item` is the range and
`text` the whole list. -/
def qualityOf (item text : String) (quality : Nat) : List (List Char) → Except Fault Nat
  | [] => .ok quality
  | p :: rest =>
    match quality? p with
    | none => .error (.invalidLanguageRange item text)
    | some q => if 1000 < q then .error (.excessiveQuality item text) else qualityOf item text q rest

/-- The language of a range and its quality in thousandths, if the range names one. -/
def rangeOf (text : String) (item : List Char) : Except Fault (Option (Locale × Nat)) :=
  match (split ';' item).map trim with
  | [] => .ok none
  | tag :: parameters =>
    match qualityOf (String.ofList item) text 1000 parameters with
    | .error fault => .error fault
    | .ok quality =>
      if tag = ['*'] then .ok none
      else match Locale.ofTag (String.ofList tag) with
        | .error fault => .error fault
        | .ok l => .ok (if quality = 0 then none else some (l, quality))

/-- The languages of the ranges with their qualities, in the order in which they are written. -/
def rangesOf (text : String) : List (List Char) → Except Fault (List (Locale × Nat))
  | [] => .ok []
  | item :: rest =>
    if (trim item).isEmpty then rangesOf text rest
    else match rangeOf text (trim item) with
      | .error fault => .error fault
      | .ok range =>
        match rangesOf text rest with
        | .error fault => .error fault
        | .ok ranges => .ok (range.toList ++ ranges)

/-- Languages by descending quality, those of equal quality in their order. -/
def byQuality (ranges : List (Locale × Nat)) : List Locale :=
  (ranges.mergeSort fun a b => b.2 ≤ a.2).map Prod.fst

/-- The preferred languages that a text lists, the most preferred one first. -/
def readPreferences (text : String) : Except Fault (List Locale) :=
  (rangesOf text (split ',' text.toList)).map byQuality

/-- The list of languages in the given order, without qualities. -/
def writePreferences (locales : List Locale) : String :=
  String.ofList (join [',', ' '] (locales.map fun l => l.tag.toList))

end HttpExchange.Language
