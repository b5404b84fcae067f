import HttpExchange.Fault
import HttpExchange.Text.Blank

/-!
# Language tags

A tag is a sequence of subtags with hyphens between them: a language of letters, then subtags of letters
and digits, each of at most eight characters. Underscores may stand for the hyphens. A script behind the
language is skipped; a country is two letters or three digits; whatever else follows is the variant.
-/

namespace HttpExchange.Locale

open Text

/-- Is the text a language: one to eight ASCII letters? -/
def isLanguage (cs : List Char) : Bool := 1 ≤ cs.length && cs.length ≤ 8 && cs.all Char.isAlpha

/-- Is the text a further subtag: one to eight ASCII letters or digits? -/
def isSubtag (cs : List Char) : Bool := 1 ≤ cs.length && cs.length ≤ 8 && cs.all Char.isAlphanum

/-- Is the subtag a script: four letters? -/
def isScript (cs : List Char) : Bool := cs.length == 4 && cs.all Char.isAlpha

/-- Is the subtag a country: two letters or three digits? -/
def isCountry (cs : List Char) : Bool :=
  (cs.length == 2 && cs.all Char.isAlpha) || (cs.length == 3 && cs.all Char.isDigit)

/-- The subtags without a script in front. -/
def dropScript : List (List Char) → List (List Char)
  | subtag :: rest => if isScript subtag then rest else subtag :: rest
  | [] => []

/-- The country in front of the subtags, empty if there is none, and what follows it. -/
def takeCountry : List (List Char) → List Char × List (List Char)
  | subtag :: rest => if isCountry subtag then (subtag, rest) else ([], subtag :: rest)
  | [] => ([], [])

/-- The locale of a language and the subtags that follow it. -/
def ofSubtags (language : List Char) (subtags : List (List Char)) : Locale :=
  let (country, rest) := takeCountry (dropScript subtags)
  ofParts (String.ofList language) (String.ofList country) (String.ofList (join ['-'] rest))

/-- The subtags of a text, trimmed and with hyphens for underscores. -/
def subtags (cs : List Char) : List (List Char) :=
  split '-' ((trim cs).map fun c => if c = '_' then '-' else c)

/-- The locale that a language tag names, if it is well-formed. -/
def ofTag? (cs : List Char) : Option Locale :=
  match subtags cs with
  | language :: rest =>
    if isLanguage language && rest.all isSubtag then some (ofSubtags language rest) else none
  | [] => none

/-- The locale that a language tag names. -/
def ofTag (tag : String) : Except Fault Locale :=
  match ofTag? tag.toList with
  | some l => .ok l
  | none => .error (.invalidLanguageTag tag)

end HttpExchange.Locale
