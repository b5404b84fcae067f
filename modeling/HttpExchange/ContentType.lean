import HttpExchange.Mark
import HttpExchange.MediaType
import HttpExchange.Text.Case
import HttpExchange.Text.Character
import HttpExchange.Text.Search

/-!
# The charset of a content type

The content type of a message and its character encoding are coupled through the charset parameter. It is
read even from a content type that is not a well-formed media type, and it is replaced in place, so that
everything else in the content type stays as it was written.
-/

namespace HttpExchange.ContentType

open Text

/-! ## Reading -/

/-- What is searched for in a malformed content type. -/
def charsetKey : List Char := ['c', 'h', 'a', 'r', 's', 'e', 't', '=']

/-- What follows the charset key in a content type. The key is searched for in the lower case of the
text, and its place there is used in the text as given. -/
def lenientCharset? (contentType : String) : Option String :=
  (indexOf? charsetKey (lower contentType.toList)).map fun i =>
    String.ofList (contentType.toList.drop (i + charsetKey.length))

/-- The charset of a content type: the parameter of a media type, else whatever follows the charset
key. -/
def charset? (contentType : String) : Option String :=
  match MediaType.parse contentType with
  | .ok mediaType => mediaType.parameters.get? "charset"
  | .error _ => lenientCharset? contentType

/-! ## Writing -/

/-- The name of the charset parameter. -/
def charsetName : List Char := ['c', 'h', 'a', 'r', 's', 'e', 't']

/-- The length of what stands before the value of a charset parameter that begins a text: the name in any
case and the equals sign with white space around it. -/
def charsetIntro? (cs : List Char) : Option Nat :=
  match dropWord? charsetName cs with
  | none => none
  | some rest =>
    match trimLeft rest with
    | '=' :: value => some (cs.length - (trimLeft value).length)
    | _ => none

/-- What follows the value of a parameter that begins a text: the value ends with its closing quotation
mark, or else before the next semicolon or white space. -/
def dropParameterValue (cs : List Char) : List Char :=
  let unquoted := cs.dropWhile fun c => !(c = ';' || isBlank c)
  match cs with
  | [] => []
  | c :: rest =>
    if c = quotationMark then
      match rest.dropWhile (· != quotationMark) with
      | [] => unquoted
      | _ :: after => after
    else unquoted

/-- May a parameter begin behind `c`? It may not if `c` belongs to a longer name. -/
def endsName (c : Char) : Bool := !(isWordChar c || c == '-')

/-- The text with `charset` as the value of its first charset parameter, if it has one; `atStart` tells
whether a parameter may begin here. -/
def replaceCharset? (charset : List Char) (atStart : Bool) : List Char → Option (List Char)
  | [] => none
  | c :: rest =>
    match if atStart then charsetIntro? (c :: rest) else none with
    | some n =>
      some ((c :: rest).take n ++ charset ++ dropParameterValue ((c :: rest).drop n))
    | none => (replaceCharset? charset (endsName c) rest).map (c :: ·)

/-- The content type with the given charset: the first charset parameter takes it as value, or one is
added at the end. Without a charset nothing changes. -/
def withCharset (contentType : String) : Option String → String
  | none => contentType
  | some charset =>
    if charset = "" then contentType
    else match replaceCharset? charset.toList true contentType.toList with
      | some cs => String.ofList cs
      | none => contentType ++ ";charset=" ++ charset

/-- A content type that is kept, with the given charset. It is another thing then, but without a charset
stays what it is. -/
def renew (contentType : Thing String) (charset : Option String) : Thing String :=
  if charset.getD "" = "" then contentType
  else ⟨.own .contentType, withCharset contentType.content charset⟩

/-- A content type is renewed by writing the charset into it. -/
theorem content_renew (contentType : Thing String) (charset : Option String) :
    (renew contentType charset).content = withCharset contentType.content charset := by
  unfold renew
  split
  · next h =>
    cases charset with
    | none => rfl
    | some c => simp_all [withCharset]
  · rfl

end HttpExchange.ContentType
