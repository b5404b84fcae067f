import HttpExchange.Fault
import HttpExchange.OrderedMap

/-!
# Media types

A media type is a type and a subtype with parameters: `text/html; charset=utf-8`. Types and the names of
parameters are tokens and are brought to lower case; the value of a parameter is a token or a quoted
string, in which a backslash stands before a character that is meant literally. There may be white space
around semicolons and equals signs, and parameters may be left out between semicolons. A parameter given
again keeps its place and takes the new value.
-/

namespace HttpExchange

/-- A media type. -/
structure MediaType where
  /-- The type, in lower case. -/
  type : String
  /-- The subtype, in lower case. -/
  subtype : String
  /-- The parameters, their names in lower case. -/
  parameters : OrderedMap String String

namespace MediaType

open Text

/-- The marks that a token may contain besides letters and digits. -/
def tokenMarks : List Char :=
  ['!', '#', '$', '%', '&', apostrophe, '*', '+', '.', '^', '_', '\x60', '|', '~', '-']

/-- May `c` occur in a token? -/
def isTokenChar (c : Char) : Bool := c.isAlphanum || tokenMarks.contains c

/-- Is the text a token? -/
def isToken (cs : List Char) : Bool := !cs.isEmpty && cs.all isTokenChar

/-- The ASCII letters in lower case. -/
def lowered (cs : List Char) : String := String.ofList (cs.map Char.toLower)

/-- The content of a quoted string from behind its opening quotation mark. The closing one must end the
text, and a line feed cannot be meant literally. -/
def unquote? : List Char → Option (List Char)
  | [] => none
  | c :: rest =>
    if c = quotationMark then (if rest.isEmpty then some [] else none)
    else if c = backslash then
      match rest with
      | [] => none
      | d :: after => if d = '\n' then none else (unquote? after).map (d :: ·)
    else (unquote? rest).map (c :: ·)

/-- The value of a parameter: a token or a quoted string. -/
def valueOf? (cs : List Char) : Option (List Char) :=
  match cs with
  | [] => none
  | c :: rest =>
    if c = quotationMark then unquote? rest
    else if isToken cs then some cs
    else none

/-- The name, in lower case, and the value of a parameter. -/
def parameter? (cs : List Char) : Option (String × String) :=
  let name := cs.takeWhile isTokenChar
  match trimLeft (cs.dropWhile isTokenChar) with
  | '=' :: value =>
    if name.isEmpty then none
    else (valueOf? (trimLeft value)).map fun v => (lowered name, String.ofList v)
  | _ => none

/-- The type and subtype. -/
def types? (cs : List Char) : Option (String × String) :=
  let type := cs.takeWhile isTokenChar
  match cs.dropWhile isTokenChar with
  | '/' :: subtype =>
    if !type.isEmpty && isToken subtype then some (lowered type, lowered subtype) else none
  | _ => none

/-- The parameters that texts write, added to those known before; `whole` is the media type that they
belong to. -/
def addParameters (whole : String) (known : OrderedMap String String) :
    List (List Char) → Except Fault (OrderedMap String String)
  | [] => .ok known
  | piece :: rest =>
    let piece := trim piece
    if piece.isEmpty then addParameters whole known rest
    else match parameter? piece with
      | none => .error (.invalidMediaTypeParameter (String.ofList piece) whole)
      | some (name, value) => addParameters whole (known.insert name value) rest

/-- The media type that a text writes. -/
def parse (text : String) : Except Fault MediaType :=
  match split ';' text.toList with
  | [] => .error (.invalidMediaType text)
  | head :: pieces =>
    match types? (trim head) with
    | none => .error (.invalidMediaType text)
    | some (type, subtype) =>
      (addParameters text .empty pieces).map fun parameters => ⟨type, subtype, parameters⟩

end MediaType

end HttpExchange
