import HttpExchange.Config.Shared
import HttpExchange.Request.Property

/-!
# Operations on requests

Every operation that may be run on a request, as data, and what it does. Those on the headers, the
parameters and the attributes themselves are operations of their own kinds.
-/

namespace HttpExchange

/-- An operation on a request. -/
inductive RequestOp where
  /-- Adds a header and follows it. -/
  | addHeader (name : String) (value : Value)
  /-- Gives the text of the first value of a header. -/
  | header (name : String)
  /-- Gives the texts of all values of a header. -/
  | headerTexts (name : String)
  /-- Gives the names of the headers. -/
  | headerNames
  /-- Gives the first value of a header as an integer. -/
  | headerInteger (name : String)
  /-- Gives the first value of a header as a time. -/
  | headerDate (name : String)
  /-- Sets the content type. -/
  | setContentType (contentType : Option String)
  /-- Sets the character encoding. -/
  | setEncoding (encoding : Option String)
  /-- Sets the content. -/
  | setContent (content : Option (List UInt8))
  /-- Gives the content as text. -/
  | contentText
  /-- Hands out the byte stream. -/
  | getStream
  /-- Hands out the reader. -/
  | getReader
  /-- Hands out the byte stream and does an operation on it. -/
  | stream (op : StreamOp)
  /-- Hands out the reader and does an operation on it. -/
  | reader (op : ReaderOp)
  /-- Does an operation on the byte stream of the given number. -/
  | heldStream (number : Nat) (op : StreamOp)
  /-- Does an operation on the reader of the given number. -/
  | heldReader (number : Nat) (op : ReaderOp)
  /-- Puts a locale in front of the others. -/
  | addLocale (locale : Option Locale)
  /-- Replaces the locales. -/
  | setLocales (locales : List Locale)
  /-- Adds a part. -/
  | addPart (part : Value)
  /-- Gives the first part of a name. -/
  | part (name : Key)
  /-- Gives all parts. -/
  | parts
  /-- Gives the session. -/
  | session
  /-- Gives the user a role. -/
  | addRole (role : Value)
  /-- Forgets the user. -/
  | logout
  /-- Reads a property. -/
  | read (property : RequestProperty)
  /-- Assigns a property. -/
  | assign (property : RequestProperty) (value : Value)
  /-- Gives the literal. -/
  | literal
  /-- Does an operation on the configuration. -/
  | config (op : ConfigOp)
  /-- Does an operation on the headers themselves. -/
  | headers (op : HeadersOp)
  /-- Does an operation on the parameters. -/
  | parameters (op : ParametersOp)
  /-- Does an operation on the attributes. -/
  | attributes (op : AttributesOp)

namespace RequestOp

/-- Does an operation on the headers themselves. -/
def runHeaders (thisYear : Int) (op : HeadersOp) : Action Request LogRecord Answer :=
  .within Request.headers (fun r h => { r with headers := h }) id (.atomic (op.run thisYear))

/-- Does an operation on the configuration, apart from the shared one. -/
def runConfig (op : ConfigOp) : Action Request LogRecord Answer :=
  .within (fun r => ⟨.empty, r.config, none⟩) (fun r scene => { r with config := scene.config }) id op.run

/-- Does an operation on a request; dates with a year of two digits are read as of `thisYear`. -/
def run (thisYear : Int) : RequestOp → Action Request LogRecord Answer
  | .addHeader name value => .silently (Request.addHeader name value)
  | .header name => runHeaders thisYear (.get name none)
  | .headerTexts name => runHeaders thisYear (.texts name)
  | .headerNames => runHeaders thisYear .names
  | .headerInteger name => runHeaders thisYear (.integer name)
  | .headerDate name => runHeaders thisYear (.date name)
  | .setContentType ct => .silently (.modify (Request.setContentType ct))
  | .setEncoding encoding => .silently (.modify (Request.setEncoding encoding))
  | .setContent content => .silently (Request.onBody (.modify (IncomingBody.setContent content)))
  | .contentText => .query fun r => r.contentText.map .text?
  | .getStream => do
    let number ← Request.onBody IncomingBody.getStream
    return .handle (.stream number)
  | .getReader => do
    let number ← Request.getReader
    return .handle (.reader number)
  | .stream op => do
    let number ← Request.onBody IncomingBody.getStream
    Request.onBody (.atomic (IncomingBody.onAccessor number (.inl op)))
  | .reader op => do
    let number ← Request.getReader
    Request.onBody (.atomic (IncomingBody.onAccessor number (.inr op)))
  | .heldStream number op => Request.onBody (.atomic (IncomingBody.onAccessor number (.inl op)))
  | .heldReader number op => Request.onBody (.atomic (IncomingBody.onAccessor number (.inr op)))
  | .addLocale l => .silently (.update (Request.addLocale l))
  | .setLocales ls => .silently (.update (Request.setLocales ls))
  | .addPart p => .silently (.update (Request.addPart p))
  | .part name => .query fun r => .ok (.value ((r.part? name).getD .null))
  | .parts => .query fun r => .ok (.list r.allParts)
  | .session => .query fun r => .ok (.value r.session.session)
  | .addRole role => .silently (.update (Request.addRole role))
  | .logout => .silently (.modify Request.logout)
  | .read p => .query fun r => r.read p
  | .assign p v => .silently (.update fun r => r.assign p v)
  | .literal => .query fun r => .ok (.text r.literal)
  | .config op => runConfig op
  | .headers op => runHeaders thisYear op
  | .parameters op => .within Request.parameters (fun r p => { r with parameters := p }) id op.run
  | .attributes op =>
    .within Request.attributes (fun r a => { r with attributes := a }) id (.atomic op.run)

end RequestOp

end HttpExchange
