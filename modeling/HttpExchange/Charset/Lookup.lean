import HttpExchange.Fault

/-!
# Text in a named charset

Bodies are decoded and encoded in charsets given by name. A name is looked up first; a charset that is
known but no text encoding is refused only when text is really to be converted, and empty content needs no
conversion.
-/

namespace HttpExchange.Charset

/-- The charset of a name. -/
def ofName (name : String) : Except Fault Charset :=
  if name.toList.contains '\x00' then .error .charsetNameHasNul
  else match find? name with
    | some c => .ok c
    | none => .error (.unknownCharset name)

/-- The scheme of a charset that is wanted for some use under a name. -/
def schemeFor (c : Charset) (name : String) (use : CodecUse) : Except Fault Scheme :=
  match c.scheme? with
  | some s => .ok s
  | none => .error (.notTextEncoding name use)

/-- The text that bytes write in the charset of a name. -/
def textOfBytes (name : String) (bs : List UInt8) : Except Fault String := do
  let c ← ofName name
  if bs.isEmpty then return ""
  let s ← c.schemeFor name .decode
  match c.decode s bs with
  | .ok cs => return String.ofList cs
  | .error fault => throw (.undecodable fault)

/-- The bytes of a text in the charset of a name. -/
def bytesOfText (name text : String) : Except Fault (List UInt8) := do
  let c ← ofName name
  let s ← c.schemeFor name .encode
  match c.encode s text.toList with
  | .ok bs => return bs
  | .error fault => throw (.unencodable fault)

end HttpExchange.Charset
