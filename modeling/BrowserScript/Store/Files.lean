import BrowserScript.Settings

/-!
# Files

A tree of files as far as scripts and settings are concerned: every entry has a path and is a file
with its text, or a directory. A script file says by its extension how it is written, and its stem
becomes the id of the script.
-/

namespace BrowserScript

inductive FileEntry where
  | file (text : String)
  | directory
  deriving DecidableEq, Repr

/-- The entries directly inside one directory. -/
abbrev Listing := String → Option FileEntry

namespace FilePath

/-- The names on a path, one inside the other. -/
def components (path : String) : List String :=
  (path.splitOn "/").filter fun component => !(component.isEmpty || component == ".")

/-- The components from last to first, without the empty ones and the dots at the end. A dot at the
front counts. -/
def trimmed : List String → List String
  | [] => []
  | last :: rest =>
    if last.isEmpty || (last == "." && !rest.isEmpty) then trimmed rest else last :: rest

/-- The components of a path as they are written, from last to first. -/
def backwards (path : String) : List String := trimmed (path.splitOn "/").reverse

/-- The last name on a path. -/
def fileName (path : String) : String := (backwards path).headD ""

/-- The path without its last name, as it is written. -/
def parent (path : String) : String :=
  match trimmed (backwards path).tail with
  | [] => if path.startsWith "/" then "/" else ""
  | up => "/".intercalate up.reverse

end FilePath

namespace FileName

/-- The part before the last dot and the part behind it. A dot at the front does not count. -/
def parts (name : String) : String × Option String :=
  let cs := name.toList
  let suffix := cs.reverse.takeWhile (· != '.')
  match cs.reverse.dropWhile (· != '.') with
  | _ :: rest@(_ :: _) =>
    if name = ".." then (name, none)
    else (String.ofList rest.reverse, some (String.ofList suffix.reverse))
  | _ => (name, none)

def stem (name : String) : String := (parts name).1

def extension (name : String) : Option String := (parts name).2

end FileName

namespace Script

/-- A script from a file of the given name; YAML by extension, JSON otherwise. -/
def ofFile (name text : String) : Except LoadError Script := do
  let script ←
    match FileName.extension name with
    | some "yaml" | some "yml" => parseYaml text
    | _ => parse text
  return script.withId (FileName.stem name)

/-- The script in the file that a path names inside a directory. -/
def load (listing : Listing) (path : String) : Except LoadError Script :=
  match listing path with
  | some (.file text) => ofFile (FilePath.fileName path) text
  | _ => .error .file

end Script

namespace Settings

def load (listing : Listing) (name : String) : Except LoadError Settings :=
  match listing name with
  | some (.file text) => parse text
  | _ => .error .file

end Settings

/-- Files and directories by their path from a common root, one component after the other. -/
structure FileTree where
  entries : List (List String × FileEntry)
  deriving Repr

namespace FileTree

/-- A tree of the files at the given paths; `none` stands for a directory. -/
def ofList (files : List (String × Option String)) : FileTree :=
  ⟨files.map fun file =>
    (FilePath.components file.1, match file.2 with
      | some text => .file text
      | none => .directory)⟩

/-- Whether an entry lies below the given place. -/
def isBelow (place : List String) (path : List String) : Bool :=
  place.length < path.length && place.isPrefixOf path

/-- What is at a place. A directory need not be listed itself if something lies in it. -/
def at? (tree : FileTree) (place : List String) : Option FileEntry :=
  match tree.entries.lookup place with
  | some entry => some entry
  | none =>
    if place.isEmpty || tree.entries.any fun entry => isBelow place entry.1 then some .directory
    else none

/-- The place a path leads to. Going up, or going on behind a name, needs a directory. -/
def resolve (tree : FileTree) : List String → List String → Option (List String)
  | place, [] => some place
  | place, component :: rest =>
    match tree.at? place with
    | some .directory =>
      if component = ".." then
        if place.isEmpty then none else resolve tree place.dropLast rest
      else resolve tree (place ++ [component]) rest
    | _ => none

/-- What a path names. An absolute path names nothing here. -/
def find? (tree : FileTree) (path : String) : Option FileEntry :=
  if path.isEmpty || path.startsWith "/" then none
  else
    match tree.resolve [] (FilePath.components path) with
    | none => none
    | some place =>
      match tree.at? place with
      | some (.file text) =>
        if path.endsWith "/" || path.endsWith "/." then none else some (.file text)
      | found => found

/-- The directory that a path names, as a listing. -/
def listing (tree : FileTree) (path : String) : Listing := fun name =>
  tree.find? (if path.isEmpty then name else path ++ "/" ++ name)

end FileTree

end BrowserScript
