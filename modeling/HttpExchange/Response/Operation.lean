import HttpExchange.Config.Shared
import HttpExchange.Response

/-!
# Operations on responses

Every operation that may be run on a response, as data, and what it does. Those on the headers and on the
body are operations of their own kinds.
-/

namespace HttpExchange

/-- A property of a response. -/
inductive ResponseProperty where
  /-- The status. -/
  | status
  /-- The message of an error. -/
  | errorMessage
  /-- Whether the outcome is fixed. -/
  | committed
  /-- The content type. -/
  | contentType
  /-- The character encoding. -/
  | encoding
  /-- Whether the encoding was set explicitly. -/
  | encodingExplicit
  /-- The locale. -/
  | locale
  /-- The body. -/
  | content
  /-- The target of a redirect. -/
  | redirectedUrl
  /-- The size of the body from which on writes are reported. -/
  | bufferSize
  /-- The cookies. -/
  | cookies
  /-- The configuration. -/
  | config
  /-- The headers. -/
  | headers
  deriving DecidableEq, Repr

namespace ResponseProperty

/-- The name under which a property is read and assigned. -/
def name : ResponseProperty → String
  | .status => "status"
  | .errorMessage => "error_message"
  | .committed => "committed"
  | .contentType => "content_type"
  | .encoding => "character_encoding"
  | .encodingExplicit => "character_encoding_set"
  | .locale => "locale"
  | .content => "content"
  | .redirectedUrl => "redirected_url"
  | .bufferSize => "buffer_size"
  | .cookies => "cookies"
  | .config => "config"
  | .headers => "headers"

/-- All properties of a response. -/
def all : List ResponseProperty :=
  [.status, .errorMessage, .committed, .contentType, .encoding, .encodingExplicit, .locale,
   .content, .redirectedUrl, .bufferSize, .cookies, .config, .headers]

end ResponseProperty

namespace Response

/-- Reads a property. -/
def read (r : Response) : ResponseProperty → Except Fault Answer
  | .status => .ok (.value r.status.value)
  | .errorMessage => .ok (.value (Thing.text? r.errorMessage))
  | .committed => .ok (.bool r.committed)
  | .contentType => .ok (.value (Thing.text? r.contentType))
  | .encoding => .ok (.value r.encodingValue)
  | .encodingExplicit => .ok (.bool r.encoding.isSome)
  | .locale => .ok (.value r.localeValue)
  | .content => .ok (.value r.body.value)
  | .redirectedUrl => (r.headers.textValue? locationHeader).map fun v => .value (v.getD .null)
  | .bufferSize => .ok (.value r.bufferSize.value)
  | .cookies => .ok (.value r.cookiesValue)
  | .config => .ok (.handle .config)
  | .headers => .ok (.handle .headers)

/-- Assigns a property. -/
def assign (r : Response) (p : ResponseProperty) (v : Value) : Except Fault Response :=
  match p, v with
  | .status, v => v.requireWhole.map fun n => r.setStatus n
  | .contentType, .null => .ok (r.setContentType none)
  | .contentType, .text _ s => .ok (r.setContentType (some s))
  | .encoding, .null => r.setEncoding none
  | .encoding, .text _ s => r.setEncoding (some s)
  | .bufferSize, v => v.requireWhole.map fun n => { r with bufferSize := n }
  | .cookies, .list m items => .ok { r with cookies := ⟨m, items⟩ }
  | .contentType, _ | .encoding, _ | .cookies, _ => .error .wrongType
  | _, _ => .error .noSuchProperty

end Response

/-- An operation on a response. -/
inductive ResponseOp where
  /-- Sets the status. -/
  | setStatus (status : Whole)
  /-- Fixes the outcome. -/
  | setCommitted (committed : Bool)
  /-- Fixes the outcome, as there is nothing to send. -/
  | flush
  /-- Discards the body. -/
  | resetBuffer
  /-- Returns to the beginning. -/
  | reset
  /-- Sends an error. -/
  | sendError (status : Whole) (message : Option String)
  /-- Sends a redirect. -/
  | sendRedirect (url : Option String)
  /-- Gives a URL as it is, since no session is written into it. -/
  | encodeUrl (url : Value)
  /-- Replaces a header. -/
  | setHeader (name : String) (value : Value)
  /-- Appends to a header. -/
  | addHeader (name : String) (value : Value)
  /-- Replaces a header by an integer. -/
  | setIntHeader (name : String) (value : Value)
  /-- Appends an integer to a header. -/
  | addIntHeader (name : String) (value : Value)
  /-- Replaces a header by a date. -/
  | setDateHeader (name : String) (value : Value)
  /-- Appends a date to a header. -/
  | addDateHeader (name : String) (value : Value)
  /-- Tells whether there is a header. -/
  | hasHeader (name : Value)
  /-- Gives the text of the first value of a header. -/
  | header (name : String)
  /-- Gives the texts of all values of a header. -/
  | headerTexts (name : String)
  /-- Gives the names of the headers. -/
  | headerNames
  /-- Gives the first value of a header as it was written. -/
  | headerValue (name : String)
  /-- Gives all values of a header as they were written. -/
  | headerValues (name : String)
  /-- Gives the first value of a header as a time. -/
  | headerDate (name : String)
  /-- Sets the content type. -/
  | setContentType (contentType : Option String)
  /-- Sets the character encoding. -/
  | setEncoding (encoding : Option String)
  /-- Sets the locale. -/
  | setLocale (locale : Option Locale)
  /-- Gives the sink to which the body is written. -/
  | getSink
  /-- Appends to the body. -/
  | write (value : Value)
  /-- Gives the body as text. -/
  | contentText (fallback : Option String)
  /-- Adds a cookie to the list of cookies. -/
  | addCookie (cookie : Value)
  /-- Reads a property. -/
  | read (property : ResponseProperty)
  /-- Assigns a property. -/
  | assign (property : ResponseProperty) (value : Value)
  /-- Gives the literal. -/
  | literal
  /-- Does an operation on the configuration. -/
  | config (op : ConfigOp)
  /-- Does an operation on the headers themselves. -/
  | headers (op : HeadersOp)
  /-- Does an operation on the body. -/
  | body (op : SinkOp)

namespace ResponseOp

/-- Does an operation on the headers themselves. -/
def runHeaders (thisYear : Int) (op : HeadersOp) : Action Response LogRecord Answer :=
  .within Response.headers (fun r h => { r with headers := h }) id (.atomic (op.run thisYear))

/-- Does an operation on the configuration, apart from the shared one. -/
def runConfig (op : ConfigOp) : Action Response LogRecord Answer :=
  .within (fun r => ⟨.empty, r.config, none⟩) (fun r scene => { r with config := scene.config }) id op.run

/-- Does an operation on a response; dates with a year of two digits are read as of `thisYear`. -/
def run (thisYear : Int) : ResponseOp → Action Response LogRecord Answer
  | .setStatus status => .silently (.modify (Response.setStatus status))
  | .setCommitted committed => .silently (Response.setCommitted committed)
  | .flush => .silently Response.commit
  | .resetBuffer => .silently (.update Response.resetBuffer)
  | .reset => .silently Response.reset
  | .sendError status message => .silently (Response.sendError status message)
  | .sendRedirect url => .silently (Response.sendRedirect url)
  | .encodeUrl url => return .value url
  | .setHeader name v => .silently (.modify (Response.writeHeader name v true))
  | .addHeader name v => .silently (.modify (Response.writeHeader name v false))
  | .setIntHeader name v => .silently (.update (Response.writeInteger name v true))
  | .addIntHeader name v => .silently (.update (Response.writeInteger name v false))
  | .setDateHeader name v => .silently (.update (Response.writeDate name v true))
  | .addDateHeader name v => .silently (.update (Response.writeDate name v false))
  | .hasHeader name => runHeaders thisYear (.has name)
  | .header name => runHeaders thisYear (.get name none)
  | .headerTexts name => runHeaders thisYear (.texts name)
  | .headerNames => runHeaders thisYear .names
  | .headerValue name => runHeaders thisYear (.first name)
  | .headerValues name => runHeaders thisYear (.valuesOf name)
  | .headerDate name => .query fun r => (r.dateHeader thisYear name).map .int
  | .setContentType ct => .silently (.modify (Response.setContentType ct))
  | .setEncoding encoding => .silently (.update (Response.setEncoding encoding))
  | .setLocale l => .silently (.modify (Response.setLocale l))
  | .getSink => return .handle .sink
  | .write v => do
    let n ← Response.write v
    return .int n
  | .contentText fallback => .query fun r => (r.contentText fallback).map .text
  | .addCookie cookie => .silently (.modify fun r =>
    { r with cookies := ⟨r.cookies.mark, r.cookies.content ++ [cookie]⟩ })
  | .read p => .query fun r => r.read p
  | .assign p v => .silently (.update fun r => r.assign p v)
  | .literal => .query fun r => .ok (.text r.literal)
  | .config op => runConfig op
  | .headers op => runHeaders thisYear op
  | .body op => Response.onBody op.run

end ResponseOp

end HttpExchange
