import HttpExchange.Fault

/-!
# Log records

Requests, responses and bodies report what hosted code does to them. A record names what happened; who
reports it and in which words is derived from it.
-/

namespace HttpExchange

/-- What is reported. -/
inductive LogRecord where
  /-- A request body of the given size was handed out as a byte stream. -/
  | consumedAsStream (size : Nat)
  /-- A request body was handed out as a reader. -/
  | consumedAsReader (encoding : String)
  /-- An invalid list of languages was stored without being followed. -/
  | ignoredLanguages (value : Value) (fault : Fault)
  /-- A response was committed with the given status. -/
  | committed (status : Int)
  /-- A response was reset. -/
  | reset
  /-- An error is about to be sent. -/
  | sendingError (status : Int) (message : Option String)
  /-- A redirect is about to be sent. -/
  | redirecting (url : String)
  /-- A response body is larger than its buffer. -/
  | exceedsBuffer (size : Nat) (limit : Int)

namespace LogRecord

/-- Who reports. -/
def source : LogRecord → String
  | .consumedAsStream _ | .consumedAsReader _ => "body"
  | .ignoredLanguages _ _ => "request"
  | _ => "response"

/-- The words of a record. -/
def message : LogRecord → String
  | .consumedAsStream size => s!"Request body consumed as stream ({size} bytes)"
  | .consumedAsReader encoding => s!"Request body consumed as reader (encoding={encoding})"
  | .ignoredLanguages value fault =>
    s!"Ignoring invalid Accept-Language {value.literal}: {fault.message}"
  | .committed status => s!"Response committed with status {intText status}"
  | .reset => "Response reset"
  | .sendingError status message =>
    s!"Sending error {intText status}: {(Value.ofText? message).display}"
  | .redirecting url => s!"Redirecting to {url}"
  | .exceedsBuffer size limit =>
    s!"Response body ({size} bytes) exceeds buffer size {intText limit}"

/-- A record with its source. -/
def line (r : LogRecord) : String := s!"{r.source}: {r.message}"

end LogRecord

end HttpExchange
