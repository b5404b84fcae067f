import HttpExchange.Request.Operation

/-!
# The view of a request that hosted code sees

Hosted code is given the wide interface that a connection would offer. What the request can honour is
passed on to it; what needs a connection, a container or a session store is refused, and the refusal names
the operation.
-/

namespace HttpExchange

/-- An operation of the interface that a request cannot honour. -/
inductive UnsupportedRequestOp where
  /-- The path translated to a file. -/
  | pathTranslated
  /-- The URL of the request. -/
  | requestUrl
  /-- The protocol. -/
  | protocol
  /-- The scheme of the URL. -/
  | scheme
  /-- Whether the connection is secure. -/
  | secure
  /-- The name of the server. -/
  | serverName
  /-- The port of the server. -/
  | serverPort
  /-- The host of the client. -/
  | remoteHost
  /-- The port of the client. -/
  | remotePort
  /-- The name of the local host. -/
  | localName
  /-- The local port. -/
  | localPort
  /-- A dispatcher to another handler. -/
  | dispatcher
  /-- Putting the request aside. -/
  | startAsync
  /-- Changing the protocol. -/
  | upgrade
  /-- Whether the user has a role. -/
  | userInRole
  /-- Authenticating the user. -/
  | authenticate
  /-- Logging the user in. -/
  | login
  /-- Setting the session. -/
  | setSession
  /-- Changing the session identifier. -/
  | changeSessionId
  deriving DecidableEq, Repr

namespace UnsupportedRequestOp

/-- The name of an operation. -/
def name : UnsupportedRequestOp → String
  | .pathTranslated => "get_path_translated"
  | .requestUrl => "get_request_url"
  | .protocol => "get_protocol"
  | .scheme => "get_scheme"
  | .secure => "is_secure"
  | .serverName => "get_server_name"
  | .serverPort => "get_server_port"
  | .remoteHost => "get_remote_host"
  | .remotePort => "get_remote_port"
  | .localName => "get_local_name"
  | .localPort => "get_local_port"
  | .dispatcher => "get_request_dispatcher"
  | .startAsync => "start_async"
  | .upgrade => "upgrade"
  | .userInRole => "is_user_in_role"
  | .authenticate => "authenticate"
  | .login => "login"
  | .setSession => "set_session"
  | .changeSessionId => "change_session_id"

/-- The least and the greatest number of arguments of an operation. -/
def arity : UnsupportedRequestOp → Nat × Nat
  | .dispatcher | .upgrade | .userInRole | .authenticate | .setSession => (1, 1)
  | .startAsync => (0, 2)
  | .login => (2, 2)
  | _ => (0, 0)

/-- Why an operation is not supported, where that is not plain. -/
def detail : UnsupportedRequestOp → String
  | .pathTranslated => "no servlet context to resolve real paths"
  | .requestUrl => "scheme and host are unknown"
  | .dispatcher => "forward and include need a container"
  | .setSession => "no session store is available"
  | _ => ""

/-- The fault of an operation. -/
def fault (op : UnsupportedRequestOp) : Fault := .unsupported op.name op.detail

/-- All operations that a request cannot honour. -/
def all : List UnsupportedRequestOp :=
  [.pathTranslated, .requestUrl, .protocol, .scheme, .secure, .serverName, .serverPort, .remoteHost,
   .remotePort, .localName, .localPort, .dispatcher, .startAsync, .upgrade, .userInRole,
   .authenticate, .login, .setSession, .changeSessionId]

end UnsupportedRequestOp

/-- An operation of hosted code on a request. -/
inductive HostedRequestOp where
  /-- Reads a property. -/
  | read (property : RequestProperty)
  /-- Gives the text of the first value of a header. -/
  | header (name : String)
  /-- Gives the texts of all values of a header. -/
  | headerTexts (name : String)
  /-- Gives the names of the headers. -/
  | headerNames
  /-- Gives the first value of a header as an integer. -/
  | headerInteger (name : String)
  /-- Gives the first value of a header as a time. -/
  | headerDate (name : String)
  /-- Sets the character encoding. -/
  | setEncoding (encoding : Option String)
  /-- Hands out the byte stream. -/
  | getStream
  /-- Hands out the reader. -/
  | getReader
  /-- Gives the first part of a name. -/
  | part (name : Key)
  /-- Gives all parts. -/
  | parts
  /-- Gives the first value of a parameter. -/
  | parameter (name : Key)
  /-- Gives the names of the parameters. -/
  | parameterNames
  /-- Gives the values of a parameter. -/
  | parameterValues (name : Key)
  /-- Gives the parameters as a map that cannot be written. -/
  | parameterMap
  /-- Gives the value of an attribute. -/
  | attribute (name : Key)
  /-- Gives the names of the attributes. -/
  | attributeNames
  /-- Sets an attribute. -/
  | setAttribute (name value : Value)
  /-- Removes an attribute. -/
  | removeAttribute (name : Value)
  /-- Gives the context of a request that was put aside: none ever is. -/
  | asyncContext
  /-- Gives the session. -/
  | session
  /-- Forgets the user. -/
  | logout
  /-- Gives the request behind the view. -/
  | model
  /-- Gives the literal. -/
  | literal
  /-- Asks for what cannot be honoured. -/
  | unsupported (op : UnsupportedRequestOp)

namespace HostedRequestOp

/-- Does an operation of hosted code on a request. -/
def run (thisYear : Int) : HostedRequestOp → Action Request LogRecord Answer
  | .read p => RequestOp.run thisYear (.read p)
  | .header name => RequestOp.run thisYear (.header name)
  | .headerTexts name => RequestOp.run thisYear (.headerTexts name)
  | .headerNames => RequestOp.run thisYear .headerNames
  | .headerInteger name => RequestOp.run thisYear (.headerInteger name)
  | .headerDate name => RequestOp.run thisYear (.headerDate name)
  | .setEncoding encoding => RequestOp.run thisYear (.setEncoding encoding)
  | .getStream => RequestOp.run thisYear .getStream
  | .getReader => RequestOp.run thisYear .getReader
  | .part name => RequestOp.run thisYear (.part name)
  | .parts => RequestOp.run thisYear .parts
  | .parameter name => RequestOp.run thisYear (.parameters (.get name .null))
  | .parameterNames => RequestOp.run thisYear (.parameters .names)
  | .parameterValues name => RequestOp.run thisYear (.parameters (.valuesOf name))
  | .parameterMap => RequestOp.run thisYear (.parameters .toMap)
  | .attribute name => RequestOp.run thisYear (.attributes (.get name .null))
  | .attributeNames => RequestOp.run thisYear (.attributes .names)
  | .setAttribute name value => RequestOp.run thisYear (.attributes (.set name value))
  | .removeAttribute name => RequestOp.run thisYear (.attributes (.remove name))
  | .asyncContext => return .none
  | .session => RequestOp.run thisYear .session
  | .logout => RequestOp.run thisYear .logout
  | .model => return .handle .request
  | .literal => .query fun r => .ok (.text s!"ProxyServletRequest({r.literal})")
  | .unsupported op => .fail op.fault

end HostedRequestOp

end HttpExchange
