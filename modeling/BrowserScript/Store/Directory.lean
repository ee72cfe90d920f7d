import BrowserScript.Store.Files

/-!
# Scripts in a directory

An id stands for the file of that name with one of three extensions. An id that could lead out of
the directory, or to a hidden file, is refused before any file is looked at.
-/

namespace BrowserScript

/-- A directory of scripts; `path` stands for it in messages. -/
structure DirectoryStore where
  path : String
  listing : Listing

namespace DirectoryStore

/-- The extensions in the order they are tried. -/
def extensions : List String := ["json", "yaml", "yml"]

def fileNames (id : String) : List String := extensions.map fun extension => s!"{id}.{extension}"

/-- Ids that are not looked up. -/
def refuses (id : String) : Bool :=
  id.isEmpty || id.toList.any (fun c => c == '/' || c == '\\') || id.toList.head? == some '.'

def isFile (store : DirectoryStore) (name : String) : Bool :=
  match store.listing name with
  | some (.file _) => true
  | _ => false

/-- The file an id stands for. -/
def fileFor (store : DirectoryStore) (id : String) : Except ConfigError String :=
  if refuses id then .error (.invalidScriptId id)
  else
    match (fileNames id).find? store.isFile with
    | some name => .ok name
    | none => .error (.scriptNotFoundIn id store.path)

def load (store : DirectoryStore) (id : String) : Except LoadError Script :=
  match store.fileFor id with
  | .error error => .error (.config error)
  | .ok name => (Script.load store.listing name).map fun script => script.withId id

end DirectoryStore

end BrowserScript
