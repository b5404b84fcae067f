import HttpExchange.Demo

/-!
# Command line

Runs one of the demonstrations in the environment of the process.
-/

namespace HttpExchange.CommandLine

/-- The variables of the environment that the configuration knows, as far as they are set. -/
def knownVariables : IO Environment := do
  let mut environment : Environment := .empty
  for option in ["DEFAULT_CHARSET", "DEFAULT_LOCALE", "BUFFER_SIZE"] do
    let name := s!"{Config.defaultEnvironmentName}_{option}"
    if let some value ← IO.getEnv name then
      environment := environment.insert name value
  return environment

/-- Prints what a demonstration shows. -/
def present (shown : Except Fault String) : IO UInt32 := do
  match shown with
  | .ok text =>
    IO.print text
    return 0
  | .error fault =>
    IO.eprintln fault.message
    return 1

/-- Runs the demonstration that the first argument names. -/
def run (args : List String) : IO UInt32 := do
  let environment ← knownVariables
  match args with
  | ["config"] => present (Demo.config environment)
  | ["response"] => present (Demo.response environment)
  | _ =>
    IO.eprintln "usage: config | response"
    return 2

end HttpExchange.CommandLine

/-- The program. -/
def main (args : List String) : IO UInt32 := HttpExchange.CommandLine.run args
