import HttpExchange.Request

/-!
# Properties of requests

The fields of a request that are read and assigned by name. Some depend on others and some cannot be
assigned.
-/

namespace HttpExchange

/-- A property of a request. -/
inductive RequestProperty where
  /-- The method. -/
  | method
  /-- The path of the request. -/
  | uri
  /-- The path behind the servlet path. -/
  | pathInfo
  /-- The path of the application. -/
  | contextPath
  /-- The path of the handler. -/
  | servletPath
  /-- The query. -/
  | query
  /-- The scheme of authentication. -/
  | authType
  /-- The name of the user. -/
  | remoteUser
  /-- The user. -/
  | principal
  /-- The roles of the user. -/
  | roles
  /-- The cookies. -/
  | cookies
  /-- The session. -/
  | session
  /-- The session identifier that the client gave. -/
  | sessionId
  /-- Whether the session identifier is valid. -/
  | sessionIdValid
  /-- Whether the session identifier came in a cookie. -/
  | sessionIdFromCookie
  /-- Whether the session identifier came in the URL. -/
  | sessionIdFromUrl
  /-- Whether the request has been put aside. -/
  | asyncStarted
  /-- Whether the request may be put aside. -/
  | asyncSupported
  /-- How the request reached the application. -/
  | dispatch
  /-- The content type. -/
  | contentType
  /-- The character encoding. -/
  | encoding
  /-- The content. -/
  | content
  /-- The number of bytes of the content. -/
  | contentLength
  /-- How the content has been handed out. -/
  | bodyUse
  /-- The most preferred locale. -/
  | locale
  /-- The preferred locales. -/
  | locales
  /-- The configuration. -/
  | config
  /-- The headers. -/
  | headers
  /-- The parameters. -/
  | parameters
  /-- The attributes. -/
  | attributes
  /-- The address of the client, which is not known. -/
  | remoteAddr
  /-- The address of the server, which is not known. -/
  | localAddr
  deriving DecidableEq, Repr

namespace RequestProperty

/-- The name under which a property is read and assigned. -/
def name : RequestProperty → String
  | .method => "method"
  | .uri => "request_uri"
  | .pathInfo => "path_info"
  | .contextPath => "context_path"
  | .servletPath => "servlet_path"
  | .query => "query_string"
  | .authType => "auth_type"
  | .remoteUser => "remote_user"
  | .principal => "user_principal"
  | .roles => "user_roles"
  | .cookies => "cookies"
  | .session => "session"
  | .sessionId => "requested_session_id"
  | .sessionIdValid => "requested_session_id_valid"
  | .sessionIdFromCookie => "requested_session_id_from_cookie"
  | .sessionIdFromUrl => "requested_session_id_from_url"
  | .asyncStarted => "async_started"
  | .asyncSupported => "async_supported"
  | .dispatch => "dispatcher_type"
  | .contentType => "content_type"
  | .encoding => "character_encoding"
  | .content => "content"
  | .contentLength => "content_length"
  | .bodyUse => "body_state"
  | .locale => "locale"
  | .locales => "locales"
  | .config => "config"
  | .headers => "headers"
  | .parameters => "parameters"
  | .attributes => "attributes"
  | .remoteAddr => "remote_addr"
  | .localAddr => "local_addr"

/-- All properties of a request. -/
def all : List RequestProperty :=
  [.method, .uri, .pathInfo, .contextPath, .servletPath, .query, .authType, .remoteUser, .principal,
   .roles, .cookies, .session, .sessionId, .sessionIdValid, .sessionIdFromCookie, .sessionIdFromUrl,
   .asyncStarted, .asyncSupported, .dispatch, .contentType, .encoding, .content, .contentLength,
   .bodyUse, .locale, .locales, .config, .headers, .parameters, .attributes, .remoteAddr,
   .localAddr]

end RequestProperty

namespace Request

/-- What stands for addresses. -/
def addressPlaceholder : String := "proxy"

/-- Reads a property. -/
def read (r : Request) : RequestProperty → Except Fault Answer
  | .method => .ok (.value r.target.method)
  | .uri => .ok (.value r.target.uri)
  | .pathInfo => .ok (.value r.target.pathInfo)
  | .contextPath => .ok (.value r.target.contextPath)
  | .servletPath => .ok (.value r.target.servletPath)
  | .query => .ok (.value r.target.query)
  | .authType => .ok (.value r.caller.authType)
  | .remoteUser => .ok (.value r.caller.remoteUser)
  | .principal => .ok (.value r.caller.principal)
  | .roles => .ok (.value r.caller.roles)
  | .cookies => .ok (.value r.cookies)
  | .session => .ok (.value r.session.session)
  | .sessionId => .ok (.value r.session.id)
  | .sessionIdValid => .ok (.value r.session.idValid)
  | .sessionIdFromCookie => .ok (.value r.session.idFromCookie)
  | .sessionIdFromUrl => .ok (.value r.session.idFromUrl)
  | .asyncStarted => .ok (.value r.asyncStarted)
  | .asyncSupported => .ok (.value r.asyncSupported)
  | .dispatch => .ok (.choice r.dispatch.choice)
  | .contentType => .ok (.value (Thing.text? r.contentType))
  | .encoding => .ok (.value (Thing.text? r.encoding))
  | .content => .ok (.value r.body.contentValue)
  | .contentLength => .ok (.int r.contentLength)
  | .bodyUse => .ok (.choice r.body.consumption.choice)
  | .locale =>
    match r.localeValues with
    | l :: _ => .ok (.value l)
    | [] => .error .localesMissing
  | .locales => .ok (.list r.localeValues)
  | .config => .ok (.handle .config)
  | .headers => .ok (.handle .headers)
  | .parameters => .ok (.handle .parameters)
  | .attributes => .ok (.handle .attributes)
  | .remoteAddr => .ok (.value (.text .unique addressPlaceholder))
  | .localAddr => .ok (.value (.text .unique addressPlaceholder))

/-- A text or nothing, as a value. -/
def textOrNothing : Value → Except Fault (Option String)
  | .null => .ok none
  | .text _ s => .ok (some s)
  | _ => .error .wrongType

/-- The request with a changed request line. -/
def withTarget (r : Request) (target : Target) : Request := { r with target }

/-- The request with another caller. -/
def withCaller (r : Request) (caller : Caller) : Request := { r with caller }

/-- The request with another session. -/
def withSession (r : Request) (session : SessionInfo) : Request := { r with session }

/-- Assigns a property. Most are kept as they are given. -/
def assign (r : Request) (p : RequestProperty) (v : Value) : Except Fault Request :=
  match p with
  | .method => .ok (r.withTarget { r.target with method := v })
  | .uri => .ok (r.withTarget { r.target with uri := v })
  | .pathInfo => .ok (r.withTarget { r.target with pathInfo := v })
  | .contextPath => .ok (r.withTarget { r.target with contextPath := v })
  | .servletPath => .ok (r.withTarget { r.target with servletPath := v })
  | .query => .ok (r.withTarget { r.target with query := v })
  | .authType => .ok (r.withCaller { r.caller with authType := v })
  | .remoteUser => .ok (r.withCaller { r.caller with remoteUser := v })
  | .principal => .ok (r.withCaller { r.caller with principal := v })
  | .roles => .ok (r.withCaller { r.caller with roles := v })
  | .cookies => .ok { r with cookies := v }
  | .session => .ok (r.withSession { r.session with session := v })
  | .sessionId => .ok (r.withSession { r.session with id := v })
  | .sessionIdValid => .ok (r.withSession { r.session with idValid := v })
  | .sessionIdFromCookie => .ok (r.withSession { r.session with idFromCookie := v })
  | .sessionIdFromUrl => .ok (r.withSession { r.session with idFromUrl := v })
  | .asyncStarted => .ok { r with asyncStarted := v }
  | .asyncSupported => .ok { r with asyncSupported := v }
  | .dispatch => (Dispatch.ofName v).map fun d => { r with dispatch := d }
  | .contentType => (textOrNothing v).map fun s => r.setContentType s
  | .encoding => (textOrNothing v).map fun s => r.setEncoding s
  | .content | .contentLength | .bodyUse | .locale | .locales | .config | .headers
  | .parameters | .attributes | .remoteAddr | .localAddr => .error .noSuchProperty

end Request

end HttpExchange
