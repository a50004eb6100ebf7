import TransportStack.Dict

/-!
Registries of named entries. Nothing is stored for a registry before its first use; asking for its
size is no use.
-/

namespace TransportStack

/-- Entries by name, or nothing before the first use. -/
structure Registry (α : Type) where
  storage : Option (Dict α)

namespace Registry

variable {α : Type}

def new : Registry α := ⟨none⟩

instance : Inhabited (Registry α) := ⟨new⟩

def entries (r : Registry α) : Dict α :=
  r.storage.getD .empty

/-- The registry after a use that changes no entry. -/
def touch (r : Registry α) : Registry α :=
  ⟨some r.entries⟩

def find? (r : Registry α) (name : String) : Option α :=
  r.entries.get? name

def contains (r : Registry α) (name : String) : Bool :=
  (r.find? name).isSome

def register (r : Registry α) (name : String) (entry : α) : Registry α :=
  ⟨some (r.entries.insert name entry)⟩

def unregister (r : Registry α) (name : String) : Registry α :=
  ⟨some (r.entries.erase name)⟩

def names (r : Registry α) : List String :=
  r.entries.keys

def size (r : Registry α) : Nat :=
  r.entries.size

/-- A text that tells whether the registry has been used, and its size. -/
def debug (r : Registry α) : String :=
  "Registry \x7b initialized: " ++ toString r.storage.isSome ++ ", len: " ++ toString r.size ++
    " \x7d"

end Registry

end TransportStack
