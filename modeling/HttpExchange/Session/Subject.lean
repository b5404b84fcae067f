import HttpExchange.Request.Hosted
import HttpExchange.Response.Hosted
import HttpExchange.Session

/-!
# Subjects of sessions

The objects with which a session can deal, each with its operations.
-/

namespace HttpExchange

/-! ## Values that objects keep -/

/-- A text with what a function makes of its mark. -/
def Thing.mapText (f : Value → Value) (t : Thing String) : Thing String :=
  ⟨(f (.text t.mark t.content)).mark, t.content⟩

/-- Headers with a function applied to their names and values. -/
def Headers.mapValues (f : Value → Value) (h : Headers) : Headers :=
  OrderedMap.mapValues (fun header => ⟨header.name.mapText f, header.values.map f⟩) h

/-- Parameters with a function applied to their values. -/
def Parameters.mapValues (f : Value → Value) (p : Parameters) : Parameters :=
  OrderedMap.mapValues (List.map f) p

/-- A configuration with a function applied to its options. -/
def Config.mapValues (f : Value → Value) (c : Config) : Config := ⟨OrderedMap.mapValues f c.options⟩

/-- A request line with a function applied to its parts. -/
def Target.mapValues (f : Value → Value) (t : Target) : Target where
  method := f t.method
  uri := f t.uri
  pathInfo := f t.pathInfo
  contextPath := f t.contextPath
  servletPath := f t.servletPath
  query := f t.query

/-- A caller with a function applied to all that is known of it. -/
def Caller.mapValues (f : Value → Value) (c : Caller) : Caller where
  authType := f c.authType
  remoteUser := f c.remoteUser
  principal := f c.principal
  roles := f c.roles

/-- A session with a function applied to all that is known of it. -/
def SessionInfo.mapValues (f : Value → Value) (s : SessionInfo) : SessionInfo where
  session := f s.session
  id := f s.id
  idValid := f s.idValid
  idFromCookie := f s.idFromCookie
  idFromUrl := f s.idFromUrl

/-- What a locale becomes by a function. -/
def Thing.mapLocale (f : Value → Value) (t : Thing Locale) : Thing Locale :=
  match f (.locale t.mark t.content) with
  | .locale m l => ⟨m, l⟩
  | _ => t

/-- What a list becomes by a function. -/
def Thing.mapList (f : Value → Value) (t : Thing (List Value)) : Thing (List Value) :=
  match f (.list t.mark t.content) with
  | .list m items => ⟨m, items⟩
  | _ => t

/-- A body with a function applied to its content. -/
def IncomingBody.mapValues (f : Value → Value) (b : IncomingBody) : IncomingBody :=
  { b with content := b.content.map fun t => ⟨(f (.bytes t.mark t.content)).mark, t.content⟩ }

/-- A request with a function applied to the values that it keeps. -/
def Request.mapValues (f : Value → Value) (r : Request) : Request :=
  { r with
    config := r.config.mapValues f
    headers := r.headers.mapValues f
    parameters := r.parameters.mapValues f
    attributes := OrderedMap.mapValues f r.attributes
    locales := r.locales.map (Thing.mapLocale f)
    body := r.body.mapValues f
    contentType := r.contentType.map (Thing.mapText f)
    encoding := r.encoding.map (Thing.mapText f)
    parts := OrderedMap.mapValues (List.map f) r.parts
    target := r.target.mapValues f
    caller := r.caller.mapValues f
    session := r.session.mapValues f
    cookies := f r.cookies
    asyncStarted := f r.asyncStarted
    asyncSupported := f r.asyncSupported }

/-- A response with a function applied to the values that it keeps. -/
def Response.mapValues (f : Value → Value) (r : Response) : Response :=
  { r with
    config := r.config.mapValues f
    headers := r.headers.mapValues f
    status := r.status.map f
    errorMessage := r.errorMessage.map (Thing.mapText f)
    contentType := r.contentType.map (Thing.mapText f)
    encoding := r.encoding.map (Thing.mapText f)
    fallbackEncoding := f r.fallbackEncoding
    locale := r.locale.mapLocale f
    bufferSize := r.bufferSize.map f
    cookies := r.cookies.mapList f }

namespace Subject

/-! ## Parts of requests and responses -/

/-- The values of one header. -/
def values : Subject (List Value) ValuesOp where
  run op := .atomic op.run
  live _ := none
  headerValues? _ _ := none
  ownThings _ := []
  mapValues := List.map

/-- Headers. -/
def headers (thisYear : Int) : Subject Headers HeadersOp where
  run op := .atomic (op.run thisYear)
  live
    | .headerValues name op => some (.onValues name op)
    | _ => none
  headerValues? := Headers.values?
  ownThings _ := []
  mapValues := Headers.mapValues

/-- Parameters. -/
def parameters : Subject Parameters ParametersOp where
  run := ParametersOp.run
  live _ := none
  headerValues? _ _ := none
  ownThings _ := []
  mapValues := Parameters.mapValues

/-- Attributes. -/
def attributes : Subject Attributes AttributesOp where
  run op := .atomic op.run
  live _ := none
  headerValues? _ _ := none
  ownThings _ := []
  mapValues := OrderedMap.mapValues

/-- The body of a request. -/
def incomingBody : Subject IncomingBody IncomingBodyOp where
  run := IncomingBodyOp.run
  live
    | .stream number op => some (.heldStream number op)
    | .reader number op => some (.heldReader number op)
    | _ => none
  headerValues? _ _ := none
  ownThings _ := []
  mapValues := IncomingBody.mapValues

/-- A sink with its history. -/
def sink : Subject MonitoredSink SinkOp where
  run := MonitoredSink.run
  live _ := none
  headerValues? _ _ := none
  ownThings _ := []
  mapValues _ := id

/-- A configuration in its environment. -/
def config : Subject ConfigScene ConfigOp where
  run := ConfigOp.run
  live _ := none
  headerValues? _ _ := none
  ownThings _ := []
  mapValues f s := { s with config := s.config.mapValues f }

/-! ## Requests and responses -/

/-- An operation on a request, or one of hosted code. -/
abbrev RequestStep := RequestOp ⊕ HostedRequestOp

/-- An operation on a response, or one of hosted code. -/
abbrev ResponseStep := ResponseOp ⊕ HostedResponseOp

/-- A request. -/
def request (thisYear : Int) : Subject Request RequestStep where
  run
    | .inl op => op.run thisYear
    | .inr op => op.run thisYear
  live
    | .stream number op => some (.inl (.heldStream number op))
    | .reader number op => some (.inl (.heldReader number op))
    | .headerValues name op => some (.inl (.headers (.onValues name op)))
    | .config op => some (.inl (.config op))
    | .sink _ => none
  headerValues? r := r.headers.values?
  ownThings r := [r.cookies, r.caller.roles]
  mapValues := Request.mapValues

/-- A response. -/
def response (thisYear : Int) : Subject Response ResponseStep where
  run
    | .inl op => op.run thisYear
    | .inr op => op.run thisYear
  live
    | .sink op => some (.inl (.body op))
    | .headerValues name op => some (.inl (.headers (.onValues name op)))
    | .config op => some (.inl (.config op))
    | _ => none
  headerValues? r := r.headers.values?
  ownThings r := [r.cookiesValue]
  mapValues := Response.mapValues

end Subject

end HttpExchange
