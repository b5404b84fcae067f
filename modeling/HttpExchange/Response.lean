import HttpExchange.Body.Sink
import HttpExchange.Config
import HttpExchange.ContentType
import HttpExchange.Header.Operation
import HttpExchange.Charset.Lookup
import HttpExchange.Log
import HttpExchange.Value.Whole

/-!
# Responses

A response is filled by hosted code and read when it is done. Nothing is sent anywhere: to *commit* a
response is to fix its status, and the body, which is kept in memory, may grow afterwards. Only a reset
takes a commit back.

The character encoding is that of the configuration until one is set, directly or by the charset of a
content type. From then on it is *explicit* and is written into the content type and its header.

What a response takes from its configuration at its beginning it keeps; a reset looks there again, and fails
if by then the configuration holds no locale.
-/

namespace HttpExchange

/-- The status of a response that was not given another. -/
def statusOk : Int := 200

/-- The status of a redirect. -/
def statusFound : Int := 302

/-- The name of the header that carries the language of a response. -/
def contentLanguageHeader : String := "Content-Language"

/-- The name of the header that carries the target of a redirect. -/
def locationHeader : String := "Location"

/-- The name of the header that carries the content type of a response. -/
def responseTypeHeader : String := "Content-Type"

/-- An HTTP response held in memory. -/
structure Response where
  /-- The configuration. -/
  config : Config
  /-- The headers. -/
  headers : Headers
  /-- The body. -/
  body : Sink
  /-- The status. -/
  status : Whole
  /-- The message of an error. -/
  errorMessage : Option (Thing String)
  /-- The content type. -/
  contentType : Option (Thing String)
  /-- The explicit character encoding, if there is one. -/
  encoding : Option (Thing String)
  /-- The character encoding of the configuration at the beginning. -/
  fallbackEncoding : Value
  /-- Is the outcome fixed? -/
  committed : Bool
  /-- The locale. -/
  locale : Thing Locale
  /-- The size of the body from which on writes are reported. -/
  bufferSize : Whole
  /-- The cookies. -/
  cookies : Thing (List Value)

namespace Response

/-- An empty response with the given buffer size. -/
def initial (config : Config) (locale : Locale) (bufferSize : Whole) : Response where
  config := config
  headers := .empty
  body := .empty
  status := .builtIn statusOk
  errorMessage := none
  contentType := none
  encoding := none
  fallbackEncoding := config.charset
  committed := false
  locale := ⟨.own (.locale 0), locale⟩
  bufferSize := bufferSize
  cookies := ⟨.own .cookies, []⟩

/-- An empty response. -/
def new (config : Config) : Except Fault Response := do
  let locale ← config.locale
  let size ← config.bufferSize
  return initial config locale ((Whole.int config.bufferOption.integerMark size).owned .bufferSize)

/-! ## Status and commit -/

/-- Sets the status, unless it is fixed. -/
def setStatus (status : Whole) (r : Response) : Response :=
  if r.committed then r else { r with status }

/-- Fixes the outcome. -/
def commit : Action Response LogRecord Unit := do
  let r ← .get
  if !r.committed then .emit (.committed r.status.toInt)
  .modify fun r => { r with committed := true }

/-- Fixes the outcome; it cannot be released again. -/
def setCommitted (committed : Bool) : Action Response LogRecord Unit :=
  if committed then commit else .fail .uncommit

/-- Discards the body, unless the outcome is fixed. -/
def resetBuffer (r : Response) : Except Fault Response :=
  if r.committed then .error .resetAfterCommit else .ok { r with body := .empty }

/-- The response as it was at its beginning, apart from its locale, its buffer size, and whether the outcome
is fixed. Its list of cookies is the one that it had, without cookies. -/
def cleared (r : Response) : Response :=
  { initial r.config r.locale.content r.bufferSize with
    locale := r.locale
    committed := r.committed
    cookies := ⟨r.cookies.mark, []⟩ }

/-- Returns to the beginning with the present buffer size, whether the outcome is fixed or not. The locale is
read from the configuration last; if there is none, the old one stays and so does the outcome. -/
def reset : Action Response LogRecord Unit := do
  .modify cleared
  .update fun r => r.config.locale.map fun l =>
    { r with locale := ⟨.own (.locale 0), l⟩, committed := false }
  .emit .reset

/-- Sets the status and message of an error and fixes the outcome. -/
def sendError (status : Whole) (message : Option String) : Action Response LogRecord Unit := do
  let r ← .get
  if r.committed then .fail .errorAfterCommit
  else
    let kept := message.map (Thing.ofText .message)
    .modify fun r => { r with status, errorMessage := kept.or r.errorMessage }
    .emit (.sendingError status.toInt message)
    commit

/-- Redirects to a URL and fixes the outcome. -/
def sendRedirect (url : Option String) : Action Response LogRecord Unit := do
  let r ← .get
  if r.committed then .fail .redirectAfterCommit
  else match url with
    | none => .fail .redirectMissing
    | some url =>
      .modify fun r =>
        { r with
          headers := r.headers.putUnique locationHeader ((Value.ofText url).owned .header)
          status := .builtIn statusFound }
      .emit (.redirecting url)
      commit

/-! ## Headers -/

/-- Writes a header over or behind the present values, unless the value is missing. -/
def writeHeader (name : String) (value : Value) (replace : Bool) (r : Response) : Response :=
  match value with
  | .null => r
  | v => { r with headers := r.headers.put name v replace }

/-- Writes a header whose value is an integer. -/
def writeInteger (name : String) (value : Value) (replace : Bool) (r : Response) :
    Except Fault Response :=
  value.toInteger.map fun n =>
    r.writeHeader name ((Value.int value.integerMark n).owned .header) replace

/-- Writes a header whose value is a date, given by its time. -/
def writeDate (name : String) (value : Value) (replace : Bool) (r : Response) :
    Except Fault Response :=
  (HttpDate.write value).map fun s => r.writeHeader name ((Value.ofText s).owned .header) replace

/-- Reads a header that was written as a date in the preferred form, `-1` if it is absent. -/
def dateHeader (thisYear : Int) (r : Response) (name : String) : Except Fault Int := do
  match ← r.headers.text? name with
  | none => return -1
  | some s =>
    match HttpDate.read thisYear [.preferred] s with
    | .ok millis => return millis
    | .error _ => throw (.headerNotPreferredDate name s)

/-! ## Content type, character encoding and locale -/

/-- The name of the explicit character encoding. -/
def encodingName (r : Response) : Option String := r.encoding.map (·.content)

/-- The character encoding: the explicit one, or else that of the configuration at the beginning. -/
def encodingValue (r : Response) : Value :=
  match r.encoding with
  | some s => s.text
  | none => r.fallbackEncoding

/-- Writes the explicit encoding into the content type, and the content type into its header. -/
def syncContentType (r : Response) : Response :=
  match r.contentType with
  | none => r
  | some ct =>
    let ct := ContentType.renew ct r.encodingName
    { r with contentType := some ct, headers := r.headers.putUnique responseTypeHeader ct.text }

/-- The response with the charset of a content type, if it has one, as its explicit encoding. -/
def adoptCharset (contentType : String) (r : Response) : Response :=
  match ContentType.charset? contentType with
  | some charset => if charset = "" then r else { r with encoding := some (.ofText .encoding charset) }
  | none => r

/-- Sets the content type and adopts its charset. -/
def setContentType (contentType : Option String) (r : Response) : Response :=
  match contentType with
  | none => { r with contentType := none }
  | some ct =>
    ({ r with contentType := some (.ofText .contentType ct) }.adoptCharset ct).syncContentType

/-- Sets the character encoding. -/
def setEncoding (encoding : Option String) (r : Response) : Except Fault Response :=
  match encoding with
  | none => .error .encodingMissing
  | some encoding => .ok { r with encoding := some (.ofText .encoding encoding) }.syncContentType

/-- Sets the locale, unless it is missing, and writes it into its header. -/
def setLocale (locale : Option Locale) (r : Response) : Response :=
  match locale with
  | none => r
  | some l =>
    let tag := (l.tagValue (.own (.locale 0))).owned .header
    { r with
      locale := ⟨.own (.locale 0), l⟩
      headers := r.headers.putUnique contentLanguageHeader tag }

/-! ## Body -/

/-- What the response does when its body tells of a write or a close. -/
def onSinkEvent : SinkEvent → Action Response LogRecord Unit
  | .closed => commit
  | .written size => do
    let r ← .get
    if r.bufferSize.toInt < size then .emit (.exceedsBuffer size r.bufferSize.toInt)

/-- What the response does when its body tells of several events. -/
def onSinkEvents : List SinkEvent → Action Response LogRecord Unit
  | [] => pure ()
  | e :: rest => do
    onSinkEvent e
    onSinkEvents rest

/-- Does an action on the body and reacts to what the body tells. -/
def onBody {α : Type} (x : Action Sink SinkEvent α) : Action Response LogRecord α := fun r =>
  let o := x r.body
  let o' := onSinkEvents o.events { r with body := o.state }
  ⟨o'.state, o'.events, o.result⟩

/-- Appends what a value writes; a text is encoded in the character encoding. -/
def write (v : Value) : Action Response LogRecord Nat := do
  let r ← .get
  match v with
  | .text _ s =>
    let name ← .query fun _ => r.encodingValue.requireText
    let bs ← .query fun _ => Charset.bytesOfText name s
    onBody (Sink.write (.ofBytes bs))
  | v => onBody (Sink.write v)

/-- The body as text: in the explicit encoding, else in the given one unless it is empty, else in that of
the configuration as it is now. -/
def contentText (fallback : Option String) (r : Response) : Except Fault String := do
  let charset ← match r.encodingName, fallback with
    | some s, _ => pure s
    | none, none => r.config.charset.requireText
    | none, some s => if s = "" then r.config.charset.requireText else pure s
  Charset.textOfBytes charset r.body.bytes

/-! ## Values -/

/-- The locale as a value. -/
def localeValue (r : Response) : Value := .locale r.locale.mark r.locale.content

/-- The list of cookies as a value. -/
def cookiesValue (r : Response) : Value := .list r.cookies.mark r.cookies.content

/-- The literal of a response. -/
def literal (r : Response) : String :=
  let committed := (Value.bool r.committed).literal
  s!"<ProxyResponse status={r.status.value.literal} committed={committed} size={r.body.size}>"

end Response

end HttpExchange
