/-!
# Files and paths

Texts are kept under names in directories. A path is a text of parts between slashes; it is
joined and shown as it stands, and only followed part by part when something is read or
written.

**Results.**
* `Path.join`, `Path.parent`: paths as texts.
* `Files.read?`, `Files.write?`: the text behind a path.
-/

namespace MazeAgent

namespace Path

/-- The parts of a path between its slashes. -/
def parts (path : String) : List String :=
  (path.toList.splitOn '/').map String.ofList

/-- Whether a path starts from the top of everything. -/
def isAbsolute (path : String) : Bool := path.toList.head? == some '/'

/-- A path seen from a base. An absolute path does not depend on the base. -/
def join (base path : String) : String :=
  if isAbsolute path then path
  else if base.isEmpty || base.toList.getLast? == some '/' then base ++ path
  else base ++ "/" ++ path

/-- The parts without empty ones and dots at the end; the first part stays. -/
def trim (parts : List String) : List String :=
  match parts with
  | [] => []
  | first :: rest =>
      first :: (rest.reverse.dropWhile (fun part => part == "" || part == ".")).reverse

/-- The path of the directory that holds what a path leads to. -/
def parent (path : String) : String :=
  let outer := trim (trim (parts path)).dropLast
  if outer = [""] then "/" else "/".intercalate outer

end Path

/-- Texts in directories. A place is the list of the names that lead to it. -/
structure Files where
  directories : List (List String)
  texts : List (List String × String)

namespace Files

def isDirectory (files : Files) (place : List String) : Bool :=
  files.directories.contains place

/-- The place that the remaining parts of a path lead to. -/
def follow? (files : Files) : (place : List String) → List String → Option (List String)
  | place, [] => some place
  | place, part :: rest =>
      if !files.isDirectory place then none
      else if part = "" ∨ part = "." then files.follow? place rest
      else if part = ".." then files.follow? place.dropLast rest
      else files.follow? (place ++ [part]) rest

/-- The place that a path leads to. What is not below the current directory is out of reach. -/
def place? (files : Files) (path : String) : Option (List String) :=
  if Path.isAbsolute path then none else files.follow? [] (Path.parts path)

def read? (files : Files) (path : String) : Option String :=
  match files.place? path with
  | some place => files.texts.lookup place
  | none => none

/-- The files with a text written where a path leads to. The directory has to be there. -/
def write? (files : Files) (path text : String) : Option Files :=
  match files.place? path with
  | some place =>
      if files.isDirectory place then
        none
      else
        some { files with texts := (place, text) :: files.texts }
  | none => none

/-- The places that lead to a place, itself included. -/
def leadingPlaces (place : List String) : List (List String) :=
  (List.range (place.length + 1)).map place.take

/-- The files with the given names and texts in one directory, with the directories that the
names ask for. -/
def ofTexts (root : String) (texts : List (String × String)) : Files :=
  let placed := texts.map (fun (name, text) =>
    (root :: (Path.parts name).filter (fun part => part != "" && part != "."), text))
  let leading := placed.flatMap (fun (place, _) => leadingPlaces place.dropLast)
  { directories := leadingPlaces [root] ++ leading
    texts := placed.reverse }

end Files
end MazeAgent
