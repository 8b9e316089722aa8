import GridMachine.Text.Split

/-!
Paths of files, as texts whose names stand between slashes. A path is put together as it is given:
nothing in it is simplified.
-/

namespace GridMachine.Path

def isAbsolute (path : String) : Bool := path.toList.head? = some '/'

/-- The path that leads to `path` from `dir`, with one slash between them if there is none. -/
def join (dir path : String) : String :=
  if dir.isEmpty || dir.toList.getLast? = some '/' then dir ++ path else dir ++ "/" ++ path

/-- The names of a path; empty ones and those of the directory itself do not count. -/
def names (path : String) : List String :=
  ((Text.splitOn '/' path.toList).map String.ofList).filter fun name => name ≠ "" && name ≠ "."

/-- What stands between the slashes of a path, from its end on. -/
def pieces (path : String) : List String :=
  ((Text.splitOn '/' path.toList).map String.ofList).reverse

/-- The pieces from the last name on: those after it name the directory itself or nothing. The first
piece of a path stays, and an empty one is the root. -/
def fromLastName : List String → List String
  | piece :: earlier :: rest =>
      if piece = "" || piece = "." then fromLastName (earlier :: rest) else piece :: earlier :: rest
  | rest => rest

/-- The directory that the last name of a path is in, which is the current one if no other is
named. -/
def parent (path : String) : String :=
  match fromLastName (pieces path) with
  | _ :: earlier :: rest =>
      match fromLastName (earlier :: rest) with
      | [""] => "/"
      | rest => Text.joinWith "/" rest.reverse
  | _ => "."

end GridMachine.Path
