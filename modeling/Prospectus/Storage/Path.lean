/-!
# Paths

A path is a text of names divided by slashes.  Empty names, and dots that are
not the first name, do not count as components.
-/

namespace Prospectus.Storage

/-- Whether a path starts at the root. -/
def isAbsolute (path : String) : Bool := path.toList.head? = some '/'

/-- Splits characters at slashes; `name`, given backwards, has been read of the
current name. -/
def splitSlashes (name : List Char) : List Char → List (List Char)
  | [] => [name.reverse]
  | c :: rest =>
    if c = '/' then name.reverse :: splitSlashes [] rest
      else splitSlashes (c :: name) rest

/-- The names of a path, empty ones left out. -/
def namesOf (path : String) : List String :=
  ((splitSlashes [] path.toList).filter (!·.isEmpty)).map String.ofList

/-- The components of a path: its names, without dots after the first. -/
def componentsOf (path : String) : List String :=
  match namesOf path with
  | [] => []
  | first :: rest =>
    let rest := rest.filter (· ≠ ".")
    if isAbsolute path && first = "." then rest else first :: rest

/-- A path of components. -/
def ofComponents (absolute : Bool) (components : List String) : String :=
  (if absolute then "/" else "") ++ "/".intercalate components

/-- The path without its last component; the root and the empty path have no
parent. -/
def parent? (path : String) : Option String :=
  match componentsOf path with
  | [] => none
  | components => some (ofComponents (isAbsolute path) components.dropLast)

/-- A path below another; an absolute path stands for itself. -/
def join (dir path : String) : String :=
  if isAbsolute path then path
  else if dir.isEmpty || dir.toList.getLast? = some '/' then dir ++ path
  else dir ++ "/" ++ path

end Prospectus.Storage
