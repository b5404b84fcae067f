import HttpExchange.Charset.Decoder
import HttpExchange.Text.Search
import HttpExchange.Value.Written

/-!
# Faults

Every operation that fails says why. A fault is a cause; its kind tells how callers may react to it, and
its message is derived from the cause. The principal kinds are *format* (a text or value cannot be
read), *state* (the operation is not allowed now) and *unsupported* (the operation makes no sense
without a connection).
-/

namespace HttpExchange

/-- How callers may react to a fault. -/
inductive FaultKind where
  /-- A value cannot be read as what it should be. -/
  | format
  /-- The operation is not allowed in the present state. -/
  | state
  /-- The operation needs an environment that is not there. -/
  | unsupported
  /-- An argument has an impossible value. -/
  | value
  /-- There is nothing of this name. -/
  | key
  /-- The name of a charset does not belong to a text encoding. -/
  | lookup
  /-- A number is too large. -/
  | overflow
  /-- Bytes are not the encoding of a text. -/
  | decode
  /-- A text cannot be encoded. -/
  | encode
  /-- Encoded text is not marked as such. -/
  | unicode
  /-- An argument has the wrong type. -/
  | type
  /-- There is no such property, or it cannot be assigned. -/
  | attribute
  /-- The system cannot represent a time. -/
  | system
  /-- There is nothing at this place. -/
  | index
  deriving DecidableEq, Repr

/-- What a charset is wanted for when it turns out not to be a text encoding. -/
inductive CodecUse where
  /-- To decode the whole content. -/
  | decode
  /-- To encode a text. -/
  | encode
  /-- To read content piece by piece. -/
  | read
  deriving DecidableEq, Repr

/-- Why an operation fails. -/
inductive Fault where
  /-- The text is not a media type. -/
  | invalidMediaType (text : String)
  /-- A parameter of the media type is malformed. -/
  | invalidMediaTypeParameter (parameter text : String)
  /-- There is no charset of this name. -/
  | unknownCharset (name : String)
  /-- The text is not a date in an accepted form. -/
  | invalidDate (text : String)
  /-- The text is not a language tag. -/
  | invalidLanguageTag (text : String)
  /-- A range of a list of languages has something other than a quality as parameter. -/
  | invalidLanguageRange (item text : String)
  /-- A range of a list of languages has a quality above one. -/
  | excessiveQuality (item text : String)
  /-- The value of a header is not an integer. -/
  | headerNotInteger (name : String) (value : Value)
  /-- The text of a header is not a date. -/
  | headerNotDate (name text : String)
  /-- The value of a header can neither be nor write a date. -/
  | headerNeverDate (name : String) (value : Value)
  /-- The text of a header is not a date in the preferred form. -/
  | headerNotPreferredDate (name text : String)
  /-- The value given for a parameter is neither a text nor a list of texts. -/
  | parameterNotText (name : Key) (value : Value)
  /-- A value that another program part reports as malformed, in its own words. -/
  | reportedFormat (report : String) (value : Value)
  /-- The byte stream is wanted after the reader was handed out. -/
  | streamAfterReader
  /-- The reader is wanted after the byte stream was handed out. -/
  | readerAfterStream
  /-- The body is wanted as text, but there is no character encoding. -/
  | noEncoding
  /-- A commit is to be taken back. -/
  | uncommit
  /-- The buffer is to be reset after the commit. -/
  | resetAfterCommit
  /-- An error is to be sent after the commit. -/
  | errorAfterCommit
  /-- A redirect is to be sent after the commit. -/
  | redirectAfterCommit
  /-- A misuse that another program part reports, in its own words. -/
  | reportedState (report : String)
  /-- The operation is not supported. -/
  | unsupported (operation detail : String)
  /-- A header is to have no value. -/
  | headerValueMissing (name : String)
  /-- A parameter is to have no name. -/
  | parameterNameMissing
  /-- An attribute is to have no name. -/
  | attributeNameMissing
  /-- A locale is missing. -/
  | localeMissing
  /-- A list of locales is empty. -/
  | localesMissing
  /-- A redirect leads nowhere. -/
  | redirectMissing
  /-- A character encoding is missing. -/
  | encodingMissing
  /-- The text, or sequence of bytes, is not read as an integer. -/
  | invalidInteger (numeral : Value) (refusal : Numeral.Refusal)
  /-- An integer that is wanted as a text has more digits than are converted. -/
  | integerTooLong
  /-- Not-a-number is wanted as an integer. -/
  | integerOfNan
  /-- An infinity is wanted as an integer. -/
  | integerOfInfinity
  /-- Not-a-number is given as a time. -/
  | timeOfNan
  /-- A time does not fit a signed number of 64 bits. -/
  | timeTooLarge
  /-- The year of a time is outside the supported span. -/
  | yearOutOfRange (year : Int)
  /-- The year of a time does not fit a number of 32 bits. -/
  | yearTooLarge
  /-- A date and time is outside the supported span in universal time. -/
  | dateOutOfRange
  /-- The quotient of two integers is beyond the floating-point numbers. -/
  | quotientTooLarge
  /-- A size or place does not fit a signed number of 64 bits; `machine` tells whether the report speaks of
  the machine. -/
  | sizeTooLarge (machine : Bool)
  /-- A number is not a byte. -/
  | byteOutOfRange
  /-- A number among those that content is made of is not a byte. -/
  | contentOutOfRange
  /-- Content is to have fewer than no bytes. -/
  | negativeCount
  /-- A stream or reader is closed; `sentence` tells whether the report ends with a full stop. -/
  | closed (sentence : Bool)
  /-- The name of a charset has a NUL in it. -/
  | charsetNameHasNul
  /-- There is no dispatch of this name. -/
  | unknownDispatch (name : Value)
  /-- There is nothing of this name. -/
  | missing (key : Value)
  /-- There is nothing at this place. -/
  | outOfRange
  /-- What should give a name of a map a value, the one of the given number, is no pair. -/
  | notPair (number length : Nat)
  /-- A list has no item that equals the given one. -/
  | notListed (item : Value)
  /-- A list has no item that could be removed. -/
  | notRemovable
  /-- A fixed sequence has no item that equals the given one. -/
  | notInTuple
  /-- A text does not contain the given one. -/
  | notInText
  /-- A sequence of bytes does not contain the given one. -/
  | notInBytes
  /-- The name of a charset does not belong to a text encoding. -/
  | notTextEncoding (name : String) (use : CodecUse)
  /-- Bytes are not the encoding of a text. -/
  | undecodable (fault : Scheme.DecodeFault)
  /-- A text cannot be encoded. -/
  | unencodable (fault : Scheme.EncodeFault)
  /-- Content that is read piece by piece lacks the mark that tells the order of bytes. -/
  | noByteOrderMark (units : String)
  /-- An argument has the wrong type. -/
  | wrongType
  /-- There is no such property, or it cannot be assigned. -/
  | noSuchProperty
  deriving Repr

namespace Fault

/-- The kind of a fault. -/
def kind : Fault → FaultKind
  | .invalidMediaType _ | .invalidMediaTypeParameter _ _ | .unknownCharset _ | .invalidDate _
  | .invalidLanguageTag _ | .invalidLanguageRange _ _ | .excessiveQuality _ _
  | .headerNotInteger _ _ | .headerNotDate _ _ | .headerNeverDate _ _
  | .headerNotPreferredDate _ _ | .parameterNotText _ _ | .reportedFormat _ _ => .format
  | .streamAfterReader | .readerAfterStream | .noEncoding | .uncommit | .resetAfterCommit
  | .errorAfterCommit | .redirectAfterCommit | .reportedState _ => .state
  | .unsupported _ _ => .unsupported
  | .headerValueMissing _ | .parameterNameMissing | .attributeNameMissing | .localeMissing
  | .localesMissing | .redirectMissing | .encodingMissing | .invalidInteger _ _ | .integerTooLong | .integerOfNan
  | .timeOfNan | .yearOutOfRange _ | .byteOutOfRange | .contentOutOfRange | .negativeCount | .closed _
  | .charsetNameHasNul | .unknownDispatch _ | .notPair _ _ | .notListed _ | .notRemovable | .notInTuple | .notInText
  | .notInBytes => .value
  | .missing _ => .key
  | .notTextEncoding _ _ => .lookup
  | .outOfRange => .index
  | .integerOfInfinity | .sizeTooLarge _ | .timeTooLarge | .dateOutOfRange | .quotientTooLarge => .overflow
  | .undecodable _ => .decode
  | .unencodable _ => .encode
  | .noByteOrderMark _ => .unicode
  | .wrongType => .type
  | .noSuchProperty => .attribute
  | .yearTooLarge => .system

/-- The value that a fault of format is about. -/
def value? : Fault → Option Value
  | .invalidMediaType text | .invalidMediaTypeParameter _ text | .unknownCharset text
  | .invalidDate text | .invalidLanguageTag text | .invalidLanguageRange _ text
  | .excessiveQuality _ text | .headerNotDate _ text
  | .headerNotPreferredDate _ text => some (.ofText text)
  | .headerNotInteger _ value | .headerNeverDate _ value | .parameterNotText _ value
  | .reportedFormat _ value => some value
  | _ => none

/-- The literal of a numeral, of which no more than the first 200 bytes are shown. -/
def numeralLiteral : Value → String
  | .bytes _ bs => Text.bytesLiteral (bs.take 200)
  | v => v.literal

/-- What is said of numerals that are too long. -/
def numeralLimit : String :=
  s!"Exceeds the limit ({Numeral.maxDigits} digits) for integer string conversion"

/-- What is recommended for them. -/
def numeralAdvice : String := "use sys.set_int_max_str_digits() to increase the limit"

/-- The message for a text that is not read as an integer. Long literals are cut. -/
def integerMessage (numeral : Value) : Numeral.Refusal → String
  | .malformed =>
    let shown := String.ofList ((numeralLiteral numeral).toList.take 200)
    s!"invalid literal for int() with base 10: {shown}"
  | .tooLong digits => s!"{numeralLimit}: value has {digits} digits; {numeralAdvice}"

/-- The function that is recommended for a charset that is not a text encoding. -/
def adviceFor : CodecUse → String
  | .decode => "codecs.decode()"
  | .encode => "codecs.encode()"
  | .read => "codecs.open()"

/-- The message of a fault. -/
def message : Fault → String
  | .invalidMediaType text => s!"Invalid media type: {Text.literal text}"
  | .invalidMediaTypeParameter parameter text =>
    s!"Invalid media type parameter {Text.literal parameter} in {Text.literal text}"
  | .unknownCharset name => s!"Unsupported character encoding {Text.literal name}"
  | .invalidDate text => s!"Cannot parse date value {Text.literal text}"
  | .invalidLanguageTag text => s!"Invalid language tag: {Text.literal text}"
  | .invalidLanguageRange item _ => s!"Invalid Accept-Language range: {Text.literal item}"
  | .excessiveQuality item _ => s!"Invalid Accept-Language quality: {Text.literal item}"
  | .headerNotInteger name value =>
    s!"Value for header {Text.literal name} is not a number: {value.literal}"
  | .headerNotDate name text =>
    s!"Cannot parse date value {Text.literal text} for {Text.literal name} header"
  | .headerNeverDate name value =>
    s!"Value for header {Text.literal name} is not a date, number, or string: {value.literal}"
  | .headerNotPreferredDate name text =>
    s!"Value for header {Text.literal name} is not a valid date: {Text.literal text}"
  | .parameterNotText name value =>
    let demand := "must be a single string or a list of strings"
    s!"Parameter map value for {name.literal} {demand}, got {value.typeName}"
  | .reportedFormat report _ => report
  | .streamAfterReader =>
    "Cannot get the input stream after the reader has already been obtained for this request"
  | .readerAfterStream =>
    "Cannot get the reader after the input stream has already been obtained for this request"
  | .noEncoding =>
    "Cannot get content as a string for a null character encoding. " ++
      "Consider setting the character encoding in the request."
  | .uncommit => "Cannot un-commit a response - use reset() instead"
  | .resetAfterCommit => "Cannot reset buffer - response is already committed"
  | .errorAfterCommit => "Cannot set error status - response is already committed"
  | .redirectAfterCommit => "Cannot send redirect - response is already committed"
  | .reportedState report => report
  | .unsupported operation detail =>
    let plain := s!"{operation} is not supported in a serverless environment"
    if detail = "" then plain else s!"{plain}: {detail}"
  | .headerValueMissing name => s!"Header value for {Text.literal name} must not be None"
  | .parameterNameMissing => "Parameter name must not be None"
  | .attributeNameMissing => "Attribute name must not be None"
  | .localeMissing => "Locale must not be None"
  | .localesMissing => "Locale list must not be empty"
  | .redirectMissing => "Redirect URL must not be None"
  | .encodingMissing => "Character encoding must not be None"
  | .invalidInteger numeral refusal => integerMessage numeral refusal
  | .integerTooLong => s!"{numeralLimit}; {numeralAdvice}"
  | .integerOfNan => "cannot convert float NaN to integer"
  | .integerOfInfinity => "cannot convert float infinity to integer"
  | .timeOfNan => "Invalid value NaN (not a number)"
  | .timeTooLarge => "timestamp out of range for platform time_t"
  | .yearOutOfRange year => s!"year {intText year} is out of range"
  | .yearTooLarge => "[Errno 75] Value too large for defined data type"
  | .dateOutOfRange => "date value out of range"
  | .quotientTooLarge => "integer division result too large for a float"
  | .sizeTooLarge machine => if machine then "Python int too large to convert to C ssize_t" else
    "cannot fit 'int' into an index-sized integer"
  | .byteOutOfRange => "byte must be in range(0, 256)"
  | .contentOutOfRange => "bytes must be in range(0, 256)"
  | .negativeCount => "negative count"
  | .closed sentence => if sentence then "I/O operation on closed file." else
    "I/O operation on closed file"
  | .charsetNameHasNul => "embedded null character"
  | .unknownDispatch name => s!"{name.literal} is not a valid DispatcherType"
  | .missing key => key.literal
  | .notPair number length =>
    s!"dictionary update sequence element #{natText number} has length {natText length}; 2 is required"
  | .notListed item => s!"{item.literal} is not in list"
  | .notRemovable => "list.remove(x): x not in list"
  | .notInTuple => "tuple.index(x): x not in tuple"
  | .notInText => "substring not found"
  | .notInBytes => "subsection not found"
  | .notTextEncoding name use =>
    let shown := String.ofList (Text.cut 400 name.toList)
    s!"'{shown}' is not a text encoding; use {adviceFor use} to handle arbitrary codecs"
  | .undecodable fault => fault.message
  | .unencodable fault => fault.message
  | .noByteOrderMark units => s!"{units} stream does not start with BOM"
  | .wrongType | .outOfRange => ""
  | .noSuchProperty => ""

/-- The literal of a fault of one of the principal kinds: what it was made from. -/
def literal (f : Fault) : String :=
  match f.kind, f with
  | .format, f =>
    s!"FormatError({Text.literal f.message}, value={(f.value?.getD .null).literal})"
  | .state, f => s!"StateError({Text.literal f.message})"
  | .unsupported, .unsupported operation _ =>
    s!"NotSupportedError(operation={Text.literal operation})"
  | _, f => Text.literal f.message

end Fault

end HttpExchange
