import BrowserScript.Script.Basic

/-!
# Scripts in memory

A stored script takes the id it is stored under; a later script of the same id replaces it.
-/

namespace BrowserScript

structure MemoryStore where
  scripts : List Script
  deriving Repr, Inhabited

namespace MemoryStore

def empty : MemoryStore := ⟨[]⟩

def insert (store : MemoryStore) (id : String) (script : Script) : MemoryStore :=
  ⟨script.withId id :: store.scripts.filter fun stored => stored.id != id⟩

def load (store : MemoryStore) (id : String) : Except LoadError Script :=
  match store.scripts.find? fun stored => stored.id == id with
  | some script => .ok script
  | none => .error (.config (.scriptNotFound id))

end MemoryStore

end BrowserScript
