import HttpExchange.Attributes
import HttpExchange.Body.Incoming
import HttpExchange.Config
import HttpExchange.ContentType
import HttpExchange.Header.Operation
import HttpExchange.Language.Preference
import HttpExchange.Parameters

/-!
# Requests

A request is built from one event and handed to code that expects to read it from a connection. All that
is known about it is set explicitly. Two pairs of fields depend on one another:

* content type and character encoding, together with the `Content-Type` header: setting a content type
  adopts its charset, and setting an encoding writes it into the content type;
* the preferred locales and the `Accept-Language` header: setting locales writes the header, and adding
  the header replaces the locales if it can be read.
-/

namespace HttpExchange

/-- How a request reached the application. -/
inductive Dispatch where
  /-- It was forwarded. -/
  | forwarded
  /-- Its response is included in another one. -/
  | included
  /-- It came from the client. -/
  | direct
  /-- It is continued after waiting. -/
  | async
  /-- An error is being handled. -/
  | error
  deriving DecidableEq, Repr

namespace Dispatch

/-- The name of a dispatch. -/
def name : Dispatch → String
  | .forwarded => "FORWARD"
  | .included => "INCLUDE"
  | .direct => "REQUEST"
  | .async => "ASYNC"
  | .error => "ERROR"

/-- The dispatch as a choice. -/
def choice (d : Dispatch) : Choice := ⟨"DispatcherType", d.name, .text .unique d.name⟩

/-- The dispatch of a name. -/
def ofName (v : Value) : Except Fault Dispatch :=
  let all := [forwarded, included, direct, async, error]
  match v with
  | .text _ s => (all.find? fun d => d.name = s).elim (.error (.unknownDispatch v)) .ok
  | v => .error (.unknownDispatch v)

end Dispatch

/-- The parts of the request line, as they were given. Nothing is derived from them. -/
structure Target where
  /-- The method. -/
  method : Value
  /-- The path of the request. -/
  uri : Value
  /-- The path behind the servlet path. -/
  pathInfo : Value := .null
  /-- The path of the application. -/
  contextPath : Value := .text .unique ""
  /-- The path of the handler. -/
  servletPath : Value := .text .unique ""
  /-- The query. -/
  query : Value := .null

/-- Who makes a request. -/
structure Caller where
  /-- The scheme of authentication. -/
  authType : Value := .null
  /-- The name of the user. -/
  remoteUser : Value := .null
  /-- The user. -/
  principal : Value := .null
  /-- The roles of the user: a set, unless something else took its place. -/
  roles : Value := .set (.own .roles) .empty

/-- The session to which a request belongs. -/
structure SessionInfo where
  /-- The session itself. -/
  session : Value := .null
  /-- The identifier that the client gave. -/
  id : Value := .null
  /-- Is the identifier valid? -/
  idValid : Value := .bool true
  /-- Did the identifier come in a cookie? -/
  idFromCookie : Value := .bool true
  /-- Did the identifier come in the URL? -/
  idFromUrl : Value := .bool false

/-- An HTTP request held in memory. -/
structure Request where
  /-- The configuration. -/
  config : Config
  /-- The parts of the request line. -/
  target : Target
  /-- The headers. -/
  headers : Headers
  /-- The parameters. -/
  parameters : Parameters
  /-- The attributes. -/
  attributes : Attributes
  /-- The preferred locales, the most preferred one first. -/
  locales : List (Thing Locale)
  /-- The body. -/
  body : IncomingBody
  /-- The content type. -/
  contentType : Option (Thing String)
  /-- The character encoding. -/
  encoding : Option (Thing String)
  /-- The parts of a multipart body by name. -/
  parts : OrderedMap Key (List Value)
  /-- Who makes the request. -/
  caller : Caller
  /-- The session. -/
  session : SessionInfo
  /-- The cookies. -/
  cookies : Value
  /-- Has the request been put aside to be continued later? -/
  asyncStarted : Value
  /-- May the request be put aside? -/
  asyncSupported : Value
  /-- How the request reached the application. -/
  dispatch : Dispatch

/-- The name of the header that carries the content type. -/
def contentTypeHeader : String := "Content-Type"

/-- The name of the header that carries the preferred languages. -/
def acceptLanguageHeader : String := "Accept-Language"

namespace Request

/-- A request without content. -/
def new (method uri : Value) (config : Config) : Except Fault Request := do
  let locale ← config.locale
  return {
    config
    target := { method, uri }
    headers := .empty
    parameters := .empty
    attributes := .empty
    locales := [⟨.own (.locale 0), locale⟩]
    body := .ofContent none
    contentType := none
    encoding := none
    parts := .empty
    caller := {}
    session := {}
    cookies := .null
    asyncStarted := .bool false
    asyncSupported := .bool false
    dispatch := .direct }

/-! ## Content type and character encoding -/

/-- The name of the character encoding. -/
def encodingName (r : Request) : Option String := r.encoding.map (·.content)

/-- Writes the encoding into the content type, and the content type into its header. -/
def syncContentType (r : Request) : Request :=
  match r.contentType with
  | none => r
  | some ct =>
    let ct := ContentType.renew ct r.encodingName
    { r with contentType := some ct, headers := r.headers.putUnique contentTypeHeader ct.text }

/-- The encoding after a content type was adopted: its charset, unless it has none. -/
def adoptCharset (contentType : String) (encoding : Option (Thing String)) :
    Option (Thing String) :=
  match ContentType.charset? contentType with
  | some charset => if charset = "" then encoding else some (.ofText .encoding charset)
  | none => encoding

/-- Adopts a content type and its charset. -/
def adoptContentType (contentType : Thing String) (r : Request) : Request :=
  { r with
    contentType := some contentType
    encoding := adoptCharset contentType.content r.encoding }.syncContentType

/-- Sets the content type and adopts its charset. -/
def setContentType (contentType : Option String) (r : Request) : Request :=
  match contentType with
  | none => { r with contentType := none }
  | some ct => r.adoptContentType (.ofText .contentType ct)

/-- Sets the character encoding. -/
def setEncoding (encoding : Option String) (r : Request) : Request :=
  { r with encoding := encoding.map (Thing.ofText .encoding) }.syncContentType

/-! ## Locales -/

/-- The most preferred locale. -/
def locale? (r : Request) : Option Locale := r.locales.head?.map (·.content)

/-- The preferred locales as values. -/
def localeValues (r : Request) : List Value := r.locales.map fun l => .locale l.mark l.content

/-- The request with other locales. -/
def withLocales (r : Request) (locales : List Locale) : Request :=
  { r with locales := locales.mapIdx fun i l => ⟨.own (.locale i), l⟩ }

/-- A list of languages as a value. The tag of a single locale is the whole list. -/
def languagesValue (locales : List (Thing Locale)) : Value :=
  match locales with
  | [l] => l.content.tagValue l.mark
  | ls => .ofText (Language.writePreferences (ls.map (·.content)))

/-- Writes the locales into their header. -/
def syncLocales (r : Request) : Request :=
  let languages := (languagesValue r.locales).owned .header
  { r with headers := r.headers.putUnique acceptLanguageHeader languages }

/-- Puts a locale in front of the others. -/
def addLocale (l : Option Locale) (r : Request) : Except Fault Request :=
  match l with
  | none => .error .localeMissing
  | some l => .ok { r with locales := ⟨.own (.locale 0), l⟩ :: r.locales }.syncLocales

/-- Replaces the locales. -/
def setLocales (ls : List Locale) (r : Request) : Except Fault Request :=
  if ls.isEmpty then .error .localesMissing else .ok (r.withLocales ls).syncLocales

/-! ## Headers -/

/-- Stores a list of languages, and follows it if it can be read. One that names no language means the
locale of the configuration, and is not stored if there is none. -/
def addLanguages (name : String) (value : Value) : Action Request LogRecord Unit := do
  match Language.readPreferences value.display with
  | .ok [] => .update fun r => r.config.locale.map fun l => r.withLocales [l]
  | .ok ls => .modify fun r => r.withLocales ls
  | .error fault => .emit (.ignoredLanguages value fault)
  .modify fun r => { r with headers := r.headers.put name value true }

/-- Adds a header. The first content type and all lists of languages are followed. -/
def addHeader (name : String) (value : Value) : Action Request LogRecord Unit := do
  let r ← .get
  match value with
  | .null => .fail (.headerValueMissing name)
  | value =>
    if lowerCase name = lowerCase contentTypeHeader ∧ !r.headers.has contentTypeHeader then
      .modify (adoptContentType (value.displayedAt .contentType))
    else if lowerCase name = lowerCase acceptLanguageHeader then
      addLanguages name value
    else
      .modify fun r => { r with headers := r.headers.put name value false }

/-! ## Body -/

/-- The number of bytes of the content, `-1` if there is none. -/
def contentLength (r : Request) : Int :=
  match r.body.bytes? with
  | none => -1
  | some bs => bs.length

/-- The content as text in the character encoding, if there is content. -/
def contentText (r : Request) : Except Fault (Option String) :=
  match r.encodingName with
  | none => .error .noEncoding
  | some encoding =>
    match r.body.bytes? with
    | none => .ok none
    | some bs => (Charset.textOfBytes encoding bs).map some

/-- The encoding with which content is read: the character encoding, or else that of the
configuration. -/
def readerEncoding (r : Request) : Value :=
  match r.encodingName with
  | none => r.config.charset
  | some encoding => if encoding = "" then r.config.charset else .ofText encoding

/-- Does an action on the body. -/
def onBody {α : Type} (x : Action IncomingBody LogRecord α) : Action Request LogRecord α :=
  .within Request.body (fun r b => { r with body := b }) id x

/-- The number of the reader of the content, which is handed out if necessary. -/
def getReader : Action Request LogRecord Nat := do
  let r ← .get
  onBody (IncomingBody.getReader r.readerEncoding)

/-! ## Parts, roles and logout -/

/-- Adds a part, which must have a name. -/
def addPart (part : Value) (r : Request) : Except Fault Request :=
  match part with
  | .part _ fields =>
    match Value.field? "name" fields with
    | none => .error .noSuchProperty
    | some name =>
      match name.key? with
      | none => .error .wrongType
      | some k => .ok { r with parts := r.parts.insert k ((r.parts.get? k).getD [] ++ [part]) }
  | _ => .error .noSuchProperty

/-- The first part of a name. -/
def part? (r : Request) (name : Key) : Option Value := (r.parts.get? name).bind List.head?

/-- All parts, those of one name together. -/
def allParts (r : Request) : List Value := r.parts.values.flatten

/-- Gives the user a role, which something other than a set does not take. -/
def addRole (role : Value) (r : Request) : Except Fault Request :=
  match r.caller.roles with
  | .set m names => role.requireKey.map fun k =>
    { r with caller := { r.caller with roles := .set m (names.insert k) } }
  | _ => .error .noSuchProperty

/-- Forgets the user. -/
def logout (r : Request) : Request :=
  { r with caller := { r.caller with principal := .null, remoteUser := .null, authType := .null } }

/-- The literal of a request. -/
def literal (r : Request) : String :=
  let use := r.body.consumption.name
  s!"<ProxyRequest method={r.target.method.display} uri={r.target.uri.literal} body={use}>"

end Request

end HttpExchange
