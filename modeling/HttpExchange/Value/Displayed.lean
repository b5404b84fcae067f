import HttpExchange.Value.Identity
import HttpExchange.Value.Written

/-!
# Displayed values

The display of a value is a text of its own as a rule, which is made whenever it is asked for. A text is
its own display, though, and a locale that consists of one part is displayed by that part.
-/

namespace HttpExchange

/-! ## Parts of locales -/

namespace Locale

/-- A part of a locale that was brought to a case, as a value. A single letter is made anew by that. -/
def recased (m : Mark) (s : String) : Value :=
  if s.length = 1 ∧ s.toList.all (·.toNat < 128) then .text m s else (Value.ofText s).marked m

/-- The language of a locale with the given mark, as a value. -/
def languageValue (m : Mark) (l : Locale) : Value := recased (.part m .language) l.language

/-- The country of a locale with the given mark, as a value. -/
def countryValue (m : Mark) (l : Locale) : Value := recased (.part m .country) l.country

/-- The variant of a locale with the given mark, as a value. -/
def variantValue (m : Mark) (l : Locale) : Value := (Value.ofText l.variant).marked (.part m .variant)

/-- The mark of the tag of a locale with the given mark: that of its part if there is but one, else the tag
is composed. -/
def tagMark (m : Mark) (l : Locale) : Mark :=
  match [l.languageValue m, l.countryValue m, l.variantValue m].filter Value.isTruthy with
  | [v] => v.mark
  | _ => .none

/-- The tag of a locale with the given mark, as a value. -/
def tagValue (m : Mark) (l : Locale) : Value := .text (l.tagMark m) l.tag

end Locale

/-! ## Values -/

namespace Value

/-- The mark of the display of a value. -/
def displayMark : Value → Mark
  | .text m _ => m
  | .locale m l => l.tagMark m
  | .bool _ => .unique
  | _ => .anew

/-- The display of a value, as a value. -/
def displayed (v : Value) : Value := .text v.displayMark v.display

/-- The display of a value when it is put to a place. -/
def displayedAt (place : Place) (v : Value) : Thing String :=
  match v.displayMark with
  | .anew => ⟨.own place, v.display⟩
  | m => if m.isKept then ⟨m, v.display⟩ else .ofText place v.display

/-- The mark of the literal of a value. -/
def literalMark : Value → Mark
  | .bool _ => .unique
  | _ => .anew

/-- The literal of a value, as a value. -/
def written (v : Value) : Value := .text v.literalMark v.literal

end Value

end HttpExchange
