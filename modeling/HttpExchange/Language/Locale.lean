import HttpExchange.Text.Case
import HttpExchange.Text.Search

/-!
# Locales

A locale names a language, perhaps with a country and a variant. The language is kept in lower case and
the country in upper case, the way language tags are conventionally written; two locales are the same if
these three texts are.
-/

namespace HttpExchange

/-- A language with an optional country and variant; parts that are missing are empty. -/
structure Locale where
  /-- The language, in lower case. -/
  language : String
  /-- The country, in upper case. -/
  country : String
  /-- The variant, as it was given. -/
  variant : String
  deriving DecidableEq, Repr

namespace Locale

/-- The locale with the given parts, brought to their conventional case. -/
def ofParts (language country variant : String) : Locale :=
  ⟨lowerCase language, upperCase country, variant⟩

/-- The language tag of a locale: the parts that are not empty, with hyphens between them. -/
def tag (l : Locale) : String :=
  String.ofList <| Text.join ['-'] <|
    ([l.language, l.country, l.variant].map String.toList).filter fun part => !part.isEmpty

end Locale

end HttpExchange
