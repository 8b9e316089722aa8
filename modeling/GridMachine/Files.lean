import GridMachine.Path

/-!
Files as they are seen by a reader: the bytes of each path that leads to one. A tree of files that
is held in memory is read by the rules of paths: a name leads on only from a directory, `..` leads
to the directory around it, and a path that ends in a slash is that of a directory.
-/

namespace GridMachine

/-- The bytes of the file that a path leads to, if it leads to one. -/
abbrev Files := String → Option (List UInt8)

namespace Files

def isFile (files : Files) (path : String) : Bool := (files path).isSome

/-- The text of a file, if it is one in UTF-8. -/
def text? (files : Files) (path : String) : Option String :=
  (files path).bind fun bytes => String.fromUTF8? ⟨bytes.toArray⟩

end Files

/-- Files in memory, each under the names that lead to it from the root. -/
structure FileTree where
  /-- The names that lead to the directory from which relative paths start. -/
  current : List String
  files : List (List String × List UInt8)

namespace FileTree

/-- Whether the names lead to a directory. -/
def isDirectory (tree : FileTree) (names : List String) : Bool :=
  names.isPrefixOf tree.current ||
    tree.files.any fun file => names.isPrefixOf file.1 && names.length < file.1.length

/-- Where the names of a path lead from a place that is given by its own names. -/
def walk (tree : FileTree) (place : List String) : List String → Option (List String)
  | [] => some place
  | name :: names =>
      if !tree.isDirectory place then none
      else if name = "" || name = "." then walk tree place names
      else if name = ".." then walk tree place.dropLast names
      else walk tree (place ++ [name]) names

/-- The files of the tree by path. -/
def read (tree : FileTree) : Files := fun path =>
  if path.isEmpty then none
  else
    let names := (Text.splitOn '/' path.toList).map String.ofList
    let start := if Path.isAbsolute path then [] else tree.current
    (tree.walk start names).bind fun names => List.lookup names tree.files

end FileTree

end GridMachine
