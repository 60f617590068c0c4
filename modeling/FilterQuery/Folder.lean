import FilterQuery.Text.Pieces

namespace FilterQuery

structure Location where
  fromRoot : Bool
  steps : List (List Char)
  deriving DecidableEq, Repr

namespace Location

def isIdle (step : List Char) : Bool :=
  step.isEmpty || step == ['.']

def dropIdle : List (List Char) → List (List Char)
  | [] => []
  | [file] => [file]
  | step :: next :: rest =>
      if isIdle step then dropIdle (next :: rest) else step :: dropIdle (next :: rest)

def ofPath (path : String) : Location :=
  ⟨path.toList.head? == some '/', dropIdle (Text.pieces '/' path.toList)⟩

end Location

structure Folder where
  files : List (String × String)
  deriving Repr

def Folder.read? (folder : Folder) (path : String) : Option String :=
  (folder.files.find? fun file => Location.ofPath file.1 == Location.ofPath path).map Prod.snd

end FilterQuery
