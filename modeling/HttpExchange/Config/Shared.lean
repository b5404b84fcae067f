import HttpExchange.Action
import HttpExchange.Answer
import HttpExchange.Config

/-!
# The shared configuration

Requests and responses that are given no configuration share one. It is built from the environment when
it is first needed, may be replaced by another one, and may be forgotten so that it is built anew.
-/

namespace HttpExchange

/-- A shared configuration beside a given one. -/
inductive SharedConfig where
  /-- It is the given one. -/
  | itself
  /-- It is another one. -/
  | other (config : Config)

/-- A configuration in its environment, beside the shared one. -/
structure ConfigScene where
  /-- The environment. -/
  environment : Environment
  /-- The configuration. -/
  config : Config
  /-- The shared configuration if there is one. -/
  shared : Option SharedConfig

namespace ConfigScene

/-- The shared configuration of an environment. -/
def defaultConfig (environment : Environment) : Except Fault Config := Config.build environment {}

/-- The shared configuration, which is built if necessary. -/
def getShared {ε : Type} : Action ConfigScene ε SharedConfig :=
  .atomic fun s =>
    match s.shared with
    | some c => .ok (c, s)
    | none => (defaultConfig s.environment).map fun c => (.other c, { s with shared := some (.other c) })

end ConfigScene

/-- An operation on a configuration and on the shared one. -/
inductive ConfigOp where
  /-- Gives the character encoding. -/
  | charset
  /-- Gives the locale. -/
  | locale
  /-- Gives the buffer size. -/
  | bufferSize
  /-- Gives the literal. -/
  | literal
  /-- Gives an option as it was given, or what is in it. -/
  | option (path : String)
  /-- Sets an environment variable. -/
  | setVariable (name value : String)
  /-- Makes the configuration the shared one. -/
  | share
  /-- Forgets the shared configuration. -/
  | unshare
  /-- Tells whether the configuration is the shared one. -/
  | isShared
  /-- Gives the literal of the shared configuration. -/
  | sharedLiteral

namespace ConfigOp

variable {ε : Type}

/-- Does an operation on a configuration. -/
def run : ConfigOp → Action ConfigScene ε Answer
  | .charset => .query fun s => .ok (.value s.config.charset)
  | .locale => .query fun s => s.config.locale.map fun l => .value (.ofLocale l)
  | .bufferSize => .query fun s => s.config.bufferSize.map fun n =>
    .value (.int s.config.bufferOption.integerMark n)
  | .literal => .query fun s => s.config.literal.map .text
  | .option path => .query fun s => (s.config.option path).map .value
  | .setVariable name value =>
    .silently (.modify fun s => { s with environment := s.environment.insert name value })
  | .share => .silently (.modify fun s => { s with shared := some .itself })
  | .unshare => .silently (.modify fun s => { s with shared := none })
  | .isShared => do
    match ← ConfigScene.getShared with
    | .itself => return .bool true
    | .other _ => return .bool false
  | .sharedLiteral => do
    match ← ConfigScene.getShared with
    | .itself => .query fun s => s.config.literal.map .text
    | .other c => .query fun _ => c.literal.map .text

end ConfigOp

end HttpExchange
