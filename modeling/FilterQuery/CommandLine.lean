import FilterQuery.Compilation.Basic
import FilterQuery.Compilation.Source
import FilterQuery.Folder
import FilterQuery.Json.Printer

namespace FilterQuery.CommandLine

inductive Setting where
  | schema
  | entity
  | settings
  | localOffset
  | referenceSuffix
  deriving DecidableEq, Repr

namespace Setting

def every : List Setting :=
  [.schema, .entity, .settings, .localOffset, .referenceSuffix]

def flag : Setting → String
  | .schema => "--schema"
  | .entity => "--entity"
  | .settings => "--settings"
  | .localOffset => "--local-offset"
  | .referenceSuffix => "--reference-suffix"

def ofFlag? (s : String) : Option Setting :=
  every.find? fun o => o.flag == s

def environmentName? : Setting → Option String
  | .schema => some "RSQL_FILTER_SCHEMA"
  | .entity => some "RSQL_FILTER_ENTITY"
  | .settings => some "RSQL_FILTER_SETTINGS"
  | _ => none

end Setting

structure Arguments where
  given : List (Setting × String)
  pretty : Bool
  query : Option String
  deriving Repr

def looksLikeFlag (s : String) : Bool :=
  match s.toList with
  | '-' :: _ :: _ => true
  | _ => false

def Setting.takes (o : Setting) (value : String) : Bool :=
  o == .localOffset || !looksLikeFlag value

namespace Arguments

def none : Arguments :=
  ⟨[], false, .none⟩

def give (a : Arguments) (o : Setting) (value : String) : Option Arguments :=
  if (a.given.lookup o).isSome then .none else some { a with given := (o, value) :: a.given }

def giveQuery (a : Arguments) (query : String) : Option Arguments :=
  if a.query.isSome then .none else some { a with query := some query }

def givePretty (a : Arguments) : Option Arguments :=
  if a.pretty then .none else some { a with pretty := true }

def splitFlag? (s : String) : Option (Setting × String) :=
  let flag := s.toList.takeWhile (· != '=')
  match s.toList.dropWhile (· != '=') with
  | '=' :: value => (Setting.ofFlag? (String.ofList flag)).map fun o => (o, String.ofList value)
  | _ => .none

def parse (a : Arguments) : List String → Option Arguments
  | [] => some a
  | "--" :: rest => rest.foldlM giveQuery a
  | "--pretty" :: rest => do (← a.givePretty).parse rest
  | [arg] =>
      match splitFlag? arg with
      | some (o, value) => a.give o value
      | .none => if looksLikeFlag arg then .none else a.giveQuery arg
  | arg :: next :: rest =>
      match splitFlag? arg, Setting.ofFlag? arg with
      | some (o, value), _ => do (← a.give o value).parse (next :: rest)
      | .none, some o => if o.takes next then do (← a.give o next).parse rest else .none
      | .none, .none =>
          if looksLikeFlag arg then .none else do (← a.giveQuery arg).parse (next :: rest)

end Arguments

structure Options where
  schema : String
  entity : String
  settings : Option String
  localOffset : Option Int
  referenceSuffix : Option String
  pretty : Bool
  query : String
  deriving Repr

def nonEmpty (path : String) : Option String :=
  if path.isEmpty then none else some path

def readOffset (s : String) : Option Int :=
  (Number.readInteger 31 s.toList).toOption

def options? (environment : String → Option String) (args : List String) : Option Options := do
  let a ← Arguments.none.parse args
  let value (o : Setting) := (a.given.lookup o).or (o.environmentName?.bind environment)
  let schema ← nonEmpty (← value .schema)
  let settings ← (value .settings).mapM nonEmpty
  let localOffset ← (value .localOffset).mapM readOffset
  return {
    schema
    entity := ← value .entity
    settings
    localOffset
    referenceSuffix := value .referenceSuffix
    pretty := a.pretty
    query := ← a.query }

inductive Outcome where
  | printed (text : String)
  | failed (message : String)
  | misused
  deriving DecidableEq, Repr

def Outcome.exitCode : Outcome → Nat
  | .printed _ => 0
  | .failed _ => 1
  | .misused => 2

def loadSchema (folder : Folder) (path : String) : Except String Schema :=
  let fault := "loading schema " ++ path
  match folder.read? path with
  | none => .error fault
  | some text => (Schema.ofText text).mapError fun _ => fault

def readSettings (folder : Folder) : Option String → Except String Settings
  | none => .ok {}
  | some path =>
      match folder.read? path with
      | none => .error ("reading settings " ++ path)
      | some text => (Settings.ofText text).mapError Error.message

def loadSettings (folder : Folder) (o : Options) : Except String Settings := do
  let read ← readSettings folder o.settings
  let settings := {
    read with
    localOffset := o.localOffset.getD read.localOffset
    referenceSuffix := o.referenceSuffix.getD read.referenceSuffix }
  settings.validate.mapError fun fault => (Error.settings fault).message
  return settings

def compile (folder : Folder) (o : Options) : Except String String := do
  let schema ← loadSchema folder o.schema
  let settings ← loadSettings folder o
  let ctx ← (Context.validated { schema, settings }).mapError Error.message
  let (document, _) := (ctx.createDocument o.entity o.query).runOn .empty
  let document ← document.mapError Error.message
  return (if o.pretty then document.pretty else document.compact) ++ "\n"

def run (folder : Folder) (environment : String → Option String) (args : List String) : Outcome :=
  match options? environment args with
  | none => .misused
  | some o =>
      match compile folder o with
      | .ok text => .printed text
      | .error message => .failed ("Error: " ++ message)

end FilterQuery.CommandLine
