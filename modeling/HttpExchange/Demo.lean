import HttpExchange.Config.Shared
import HttpExchange.Response.Operation

/-!
# Demonstrations

Two small programs: one shows the configuration that an environment gives, the other fills a response
with a redirect and shows what would be sent.
-/

namespace HttpExchange.Demo

/-- The lines of a text, each ended by a line feed. -/
def lines (ls : List String) : String := String.join (ls.map (· ++ "\n"))

/-- Shows the configuration of an environment. -/
def config (environment : Environment) : Except Fault String := do
  let c ← ConfigScene.defaultConfig environment
  let locale ← c.locale
  let size ← c.bufferSize
  return lines [s!"Charset: {c.charset.display}", s!"Locale: {locale.tag}", s!"Buffer size: {intText size}"]

/-- What is done to the response that is shown. -/
def redirect : Action Response LogRecord Unit := do
  .modify (Response.setContentType (some "text/plain"))
  .update (Response.setEncoding (some "UTF-8"))
  let _ ← Response.write (.ofText "Hello!")
  Response.sendRedirect (some "/elsewhere")
  .modify (Response.setStatus (.builtIn statusOk))

/-- Fills a response in an environment and shows it. -/
def response (environment : Environment) : Except Fault String := do
  let c ← ConfigScene.defaultConfig environment
  let r ← Response.new c
  let o := redirect r
  o.result
  let headers ← o.state.headers.pairs
  return lines [s!"Status: {o.state.status.value.literal}", s!"Headers: {Headers.pairsLiteral headers}",
    s!"Body: {Text.bytesLiteral o.state.body.bytes}"]

end HttpExchange.Demo
