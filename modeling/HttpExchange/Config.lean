import HttpExchange.Header.Reading
import HttpExchange.Language.Tag
import HttpExchange.OrderedMap
import HttpExchange.Text.Search

/-!
# Configuration

The defaults of requests and responses come from three sources, the later ones overriding the earlier
ones: built-in values, environment variables with a common beginning of their names, and explicit
arguments. An option that is empty or zero is as good as none: the built-in value is used in its place.
-/

namespace HttpExchange

/-- Environment variables with their values, in order. -/
abbrev Environment := OrderedMap String String

/-- The merged options by name. -/
structure Config where
  /-- The value of each option. -/
  options : OrderedMap String Value

namespace Config

/-- The beginning of the names of environment variables that is used if no other is given. -/
def defaultEnvironmentName : String := "SERVERLESS_WEB"

/-- The character encoding that is used if no other is given. -/
def builtInCharset : String := "ISO-8859-1"

/-- The language that is used if no other is given. -/
def builtInLocale : String := "en"

/-- The buffer size that is used if no other is given. -/
def builtInBufferSize : Int := 4096

/-- The built-in options. -/
def builtIn : OrderedMap String Value :=
  .ofList [("default_charset", .text .unique builtInCharset),
    ("default_locale", .text .unique builtInLocale), ("buffer_size", .int .unique builtInBufferSize)]

/-! ## Sources -/

/-- The beginning of the names of the variables that belong to an application: its name in upper case and
an underscore. A leading mark may say that the name is meant for the environment. -/
def variableStart (application : String) : List Char :=
  let name := application.toList
  let mark := "ENV:".toList
  Text.upper (if mark.isPrefixOf name then name.drop mark.length else name) ++ ['_']

/-- The value of an option that an environment variable gives; the buffer size is a number. -/
def optionOfVariable (option value : String) : Except Fault Value :=
  if option = "buffer_size" then (Value.integerOfText value).map fun n => (Value.ofInt n).owned .bufferSize
  else .ok ((Value.ofText value).owned (.named option))

/-- The options that environment variables give: those whose names begin as given, named by the rest in
lower case. -/
def environmentOptions (start : List Char) (environment : Environment) :
    Except Fault (List (String × Value)) :=
  let options := environment.entries.filterMap fun e =>
    if start.isPrefixOf e.1.toList then
      some (lowerCase (String.ofList (e.1.toList.drop start.length)), e.2)
    else none
  options.mapM fun o => (optionOfVariable o.1 o.2).map (o.1, ·)

/-- Options with others laid over them. -/
def override (options : OrderedMap String Value) (others : List (String × Value)) :
    OrderedMap String Value :=
  others.foldl (fun m o => m.insert o.1 o.2) options

/-- Explicit arguments; those that are missing override nothing. -/
structure Arguments where
  /-- The character encoding. -/
  charset : Value := .null
  /-- The language. -/
  locale : Value := .null
  /-- The buffer size. -/
  bufferSize : Value := .null
  /-- The application whose environment variables count, if any. -/
  application : Option String := some defaultEnvironmentName

/-- The arguments that are not missing, as options. -/
def Arguments.options (a : Arguments) : List (String × Value) :=
  [("default_charset", a.charset), ("default_locale", a.locale), ("buffer_size", a.bufferSize)].filter
    fun o => match o.2 with
      | .null => false
      | _ => true

/-- The configuration of an environment and explicit arguments. -/
def build (environment : Environment) (a : Arguments) : Except Fault Config := do
  let fromEnvironment ← match a.application with
    | none => pure []
    | some name =>
      if name = "" then pure [] else environmentOptions (variableStart name) environment
  return ⟨override (override builtIn fromEnvironment) a.options⟩

/-! ## Reading -/

/-- The digits in a part of a path that leads to an item by its number. -/
def itemDigits? : List Char → Option (List Char)
  | '#' :: digits => if !digits.isEmpty && digits.all Text.isAnyDigit then some digits else none
  | _ => none

/-- What lies behind a part of a path: in a map the value of a name, in a list the item of a number.
Digits of special forms write no number. -/
def behind (v : Value) (part : List Char) : Except Fault Value :=
  match itemDigits? part, v with
  | some digits, v => do
    let n ← Value.integerOfText (String.ofList digits)
    match v with
    | .list _ items => return items.getD n.toNat .null
    | _ => return .null
  | none, .map _ entries =>
    .ok ((OrderedMap.find? (Key.text .none (String.ofList part)) entries).getD .null)
  | none, _ => .ok .null

/-- The value to which the parts of a path lead. Once there is nothing, the rest does not matter. -/
def follow : List (List Char) → Value → Except Fault Value
  | [], v => .ok v
  | _ :: _, .null => .ok .null
  | part :: rest, v => (behind v part).bind (follow rest)

/-- The value of an option as it was given. The name of the option may be a path into it, with full stops
between its parts. -/
def option (c : Config) (path : String) : Except Fault Value :=
  follow (Text.split '.' path.toList)
    (.map .none (c.options.entries.map fun o => (.text .none o.1, o.2)))

/-- The value of an option, or the given one if it is missing, empty or zero. -/
def optionOr (c : Config) (name : String) (value : Value) : Value :=
  match c.options.get? name with
  | some v => if v.isTruthy then v else value
  | none => value

/-- The character encoding of responses, and of request readers if the request has none. It is a text
unless the configuration was given something else. -/
def charset (c : Config) : Value := c.optionOr "default_charset" (.text .unique builtInCharset)

/-- The locale of responses and of requests at their beginning. -/
def locale (c : Config) : Except Fault Locale :=
  Locale.ofTag (c.optionOr "default_locale" (.text .unique builtInLocale)).display

/-- The option that gives the size of the response buffer. -/
def bufferOption (c : Config) : Value := c.optionOr "buffer_size" (.int .unique builtInBufferSize)

/-- The size of the response buffer. -/
def bufferSize (c : Config) : Except Fault Int := c.bufferOption.toInteger

/-- The literal of a configuration. -/
def literal (c : Config) : Except Fault String := do
  let charset := c.charset.literal
  let locale ← c.locale
  let size ← c.bufferSize
  return s!"WebConfig(default_charset={charset}, default_locale={locale.literal}, buffer_size={intText size})"

end Config

end HttpExchange
