import HttpExchange.Text.CaseTable

/-!
# Letter case

The full case mappings of text. Lower case depends on the neighbours in one case only: a capital sigma
takes its final form at the end of a word. It changes the length for one character only, the capital
`i` with a dot, which becomes two characters; upper case may give up to three characters for one.

Words that are recognised in any case are compared by the ASCII letter that each character stands for.
Besides the letters of ASCII themselves, a few characters differ from an ASCII letter in case only: the
long `s`, the dotted capital and the dotless small `i`, and the sign for kelvin.
-/

namespace HttpExchange.Text

/-! ## Mappings -/

/-- The lower case of a character on its own, if it is one character. -/
def lowerChar (c : Char) : Char :=
  if c.toNat < 0x80 then c.toLower
  else match lowerRuns.findSome? fun r => r.apply? c.toNat with
    | some n => Char.ofNat n
    | none => c

/-- The upper case of a character. -/
def upperChar (c : Char) : List Char :=
  if c.toNat < 0x80 then [c.toUpper]
  else match upperExpansions.find? fun e => e.1 == c.toNat with
    | some (_, ns) => ns.map Char.ofNat
    | none => match upperRuns.findSome? fun r => r.apply? c.toNat with
      | some n => [Char.ofNat n]
      | none => [c]

/-- Does the nearest character that casing does not look through come in more than one case? -/
def meetsCased (cs : List Char) : Bool :=
  match cs.dropWhile isCaseIgnorable with
  | [] => false
  | c :: _ => isCased c

/-- The lower case of `c` where `before` precedes it (nearest first) and `rest` follows it. -/
def lowerAt (before : List Char) (c : Char) (rest : List Char) : List Char :=
  if c = '\u0130' then ['i', '\u0307']
  else if c = '\u03a3' then
    [if meetsCased before && !meetsCased rest then '\u03c2' else '\u03c3']
  else [lowerChar c]

/-- The lower case of the text that follows `before` (nearest first). -/
def lowerAfter (before : List Char) : List Char → List Char
  | [] => []
  | c :: rest => lowerAt before c rest ++ lowerAfter (c :: before) rest

/-- The lower case of a text. -/
def lower (cs : List Char) : List Char := lowerAfter [] cs

/-- The upper case of a text. -/
def upper (cs : List Char) : List Char := cs.flatMap upperChar

/-! ## Regardless of case -/

/-- The lower-case ASCII letter from which `c` differs at most in case, or `c` itself. -/
def foldCase (c : Char) : Char :=
  if c = '\u017f' then 's'
  else if c = '\u0130' ∨ c = '\u0131' then 'i'
  else if c = '\u212a' then 'k'
  else c.toLower

/-- Does `c` differ from an ASCII letter at most in case? -/
def isFoldedLetter (c : Char) : Bool := (foldCase c).isLower

/-- What follows `word` at the beginning of a text that has it there in any case; `word` is in lower
case. -/
def dropWord? (word : List Char) (cs : List Char) : Option (List Char) :=
  match word, cs with
  | [], cs => some cs
  | _ :: _, [] => none
  | w :: word, c :: cs => if foldCase c = w then dropWord? word cs else none

end HttpExchange.Text

namespace HttpExchange

/-- The text in lower case. -/
def lowerCase (s : String) : String := String.ofList (Text.lower s.toList)

/-- The text in upper case. -/
def upperCase (s : String) : String := String.ofList (Text.upper s.toList)

end HttpExchange
