import HttpExchange.Response.Operation

/-!
# The view of a response that hosted code sees

Hosted code is given the wide interface that a connection would offer. What the response can honour is
passed on to it; what needs a connection, a writer or a cookie store is refused, and the refusal names the
operation.
-/

namespace HttpExchange

/-- An operation of the interface that a response cannot honour. -/
inductive UnsupportedResponseOp where
  /-- Setting a status with a message. -/
  | statusMessage
  /-- Setting the length of the content. -/
  | contentLength
  /-- A writer of text. -/
  | writer
  /-- Adding a cookie. -/
  | addCookie
  /-- Finding a cookie. -/
  | cookie
  /-- The URL to which the request was forwarded. -/
  | forwardedUrl
  /-- The URL that was included. -/
  | includedUrl
  deriving DecidableEq, Repr

namespace UnsupportedResponseOp

/-- The name of an operation. -/
def name : UnsupportedResponseOp → String
  | .statusMessage => "set_status_with_message"
  | .contentLength => "set_content_length"
  | .writer => "get_writer"
  | .addCookie => "add_cookie"
  | .cookie => "get_cookie"
  | .forwardedUrl => "get_forwarded_url"
  | .includedUrl => "get_included_url"

/-- The number of arguments of an operation. -/
def arity : UnsupportedResponseOp → Nat
  | .statusMessage => 2
  | .contentLength | .addCookie | .cookie => 1
  | .writer | .forwardedUrl | .includedUrl => 0

/-- Why an operation is not supported, where that is not plain. -/
def detail : UnsupportedResponseOp → String
  | .statusMessage => "use send_error instead"
  | .contentLength => "length is taken from the buffered body"
  | .writer => "write encoded bytes to get_output_stream()"
  | _ => ""

/-- The fault of an operation. -/
def fault (op : UnsupportedResponseOp) : Fault := .unsupported op.name op.detail

/-- All operations that a response cannot honour. -/
def all : List UnsupportedResponseOp :=
  [.statusMessage, .contentLength, .writer, .addCookie, .cookie, .forwardedUrl, .includedUrl]

end UnsupportedResponseOp

/-- An operation of hosted code on a response. -/
inductive HostedResponseOp where
  /-- Gives the status. -/
  | status
  /-- Sets the status. -/
  | setStatus (status : Whole)
  /-- Sends an error. -/
  | sendError (status : Whole) (message : Option String)
  /-- Sends a redirect. -/
  | sendRedirect (url : Option String)
  /-- Tells whether the outcome is fixed. -/
  | isCommitted
  /-- Fixes the outcome. -/
  | flush
  /-- Discards the body. -/
  | resetBuffer
  /-- Returns to the beginning. -/
  | reset
  /-- Gives the buffer size. -/
  | bufferSize
  /-- Sets the buffer size. -/
  | setBufferSize (size : Value)
  /-- Tells whether there is a header. -/
  | hasHeader (name : Value)
  /-- Gives the text of the first value of a header. -/
  | header (name : String)
  /-- Gives the texts of all values of a header. -/
  | headerTexts (name : String)
  /-- Gives the names of the headers. -/
  | headerNames
  /-- Replaces a header. -/
  | setHeader (name : String) (value : Value)
  /-- Appends to a header. -/
  | addHeader (name : String) (value : Value)
  /-- Replaces a header by an integer. -/
  | setIntHeader (name : String) (value : Value)
  /-- Appends an integer to a header. -/
  | addIntHeader (name : String) (value : Value)
  /-- Replaces a header by a date. -/
  | setDateHeader (name : String) (value : Value)
  /-- Appends a date to a header. -/
  | addDateHeader (name : String) (value : Value)
  /-- Gives the character encoding. -/
  | encoding
  /-- Sets the character encoding. -/
  | setEncoding (encoding : Option String)
  /-- Gives the content type. -/
  | contentType
  /-- Sets the content type. -/
  | setContentType (contentType : Option String)
  /-- Gives the sink to which the body is written. -/
  | getSink
  /-- Gives the locale. -/
  | locale
  /-- Sets the locale. -/
  | setLocale (locale : Option Locale)
  /-- Gives a URL as it is. -/
  | encodeUrl (url : Value)
  /-- Gives the response behind the view. -/
  | model
  /-- Gives the literal. -/
  | literal
  /-- Asks for what cannot be honoured. -/
  | unsupported (op : UnsupportedResponseOp)

namespace HostedResponseOp

/-- Does an operation of hosted code on a response. -/
def run (thisYear : Int) : HostedResponseOp → Action Response LogRecord Answer
  | .status => ResponseOp.run thisYear (.read .status)
  | .setStatus n => ResponseOp.run thisYear (.setStatus n)
  | .sendError n message => ResponseOp.run thisYear (.sendError n message)
  | .sendRedirect url => ResponseOp.run thisYear (.sendRedirect url)
  | .isCommitted => ResponseOp.run thisYear (.read .committed)
  | .flush => ResponseOp.run thisYear .flush
  | .resetBuffer => ResponseOp.run thisYear .resetBuffer
  | .reset => ResponseOp.run thisYear .reset
  | .bufferSize => ResponseOp.run thisYear (.read .bufferSize)
  | .setBufferSize size => ResponseOp.run thisYear (.assign .bufferSize size)
  | .hasHeader name => ResponseOp.run thisYear (.hasHeader name)
  | .header name => ResponseOp.run thisYear (.header name)
  | .headerTexts name => ResponseOp.run thisYear (.headerTexts name)
  | .headerNames => ResponseOp.run thisYear .headerNames
  | .setHeader name v => ResponseOp.run thisYear (.setHeader name v)
  | .addHeader name v => ResponseOp.run thisYear (.addHeader name v)
  | .setIntHeader name v => ResponseOp.run thisYear (.setIntHeader name v)
  | .addIntHeader name v => ResponseOp.run thisYear (.addIntHeader name v)
  | .setDateHeader name v => ResponseOp.run thisYear (.setDateHeader name v)
  | .addDateHeader name v => ResponseOp.run thisYear (.addDateHeader name v)
  | .encoding => ResponseOp.run thisYear (.read .encoding)
  | .setEncoding s => ResponseOp.run thisYear (.setEncoding s)
  | .contentType => ResponseOp.run thisYear (.read .contentType)
  | .setContentType ct => ResponseOp.run thisYear (.setContentType ct)
  | .getSink => ResponseOp.run thisYear .getSink
  | .locale => ResponseOp.run thisYear (.read .locale)
  | .setLocale l => ResponseOp.run thisYear (.setLocale l)
  | .encodeUrl url => ResponseOp.run thisYear (.encodeUrl url)
  | .model => return .handle .response
  | .literal => .query fun r => .ok (.text s!"ProxyServletResponse({r.literal})")
  | .unsupported op => .fail op.fault

end HostedResponseOp

end HttpExchange
