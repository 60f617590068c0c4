import FilterQuery.CommandLine

open FilterQuery

def readText? (path : String) : IO (Option String) := do
  try
    return some (← IO.FS.readFile path)
  catch _ =>
    return none

def settingOf (name : String) : IO (String × Option String) := do
  return (name, ← IO.getEnv name)

def main (args : List String) : IO UInt32 := do
  let readings ← (CommandLine.Setting.every.filterMap CommandLine.Setting.environmentName?).mapM settingOf
  let environment (name : String) := (readings.lookup name).join
  let paths :=
    match CommandLine.options? environment args with
    | some o => o.schema :: o.settings.toList
    | none => []
  let files ← paths.filterMapM fun path => return (← readText? path).map fun text => (path, text)
  let outcome := CommandLine.run ⟨files⟩ environment args
  match outcome with
  | .printed text => IO.print text
  | .failed message => IO.eprintln message
  | .misused =>
      IO.eprintln "usage: filter-query [OPTIONS] --schema <SCHEMA> --entity <ENTITY> <QUERY>"
  return outcome.exitCode.toUInt32
