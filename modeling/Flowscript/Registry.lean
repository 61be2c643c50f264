import Flowscript.Dict

/-!
# Registries

A registry holds one entry under each name and tells what a change replaced or removed.
-/

namespace Flowscript

/-- Entries under names. -/
structure Registry (α : Type) where
  entries : Dict α

namespace Registry

variable {α : Type}

/-- The registry with no entries. -/
def empty : Registry α := ⟨∅⟩

instance : EmptyCollection (Registry α) := ⟨empty⟩

/-- The entry under a name. -/
def get? (r : Registry α) (name : String) : Option α :=
  r.entries.get? name

/-- Whether a name has an entry. -/
def contains (r : Registry α) (name : String) : Bool :=
  r.entries.contains name

/-- The names that have entries, in order. -/
def names (r : Registry α) : List String :=
  r.entries.keys

/-- The number of entries. -/
def size (r : Registry α) : Nat :=
  r.entries.size

/-- Whether there are no entries. -/
def isEmpty (r : Registry α) : Bool :=
  r.entries.isEmpty

/-- Registers an entry under a name. -/
def insert (r : Registry α) (name : String) (entry : α) : Registry α :=
  ⟨r.entries.insert name entry⟩

/-- Registers an entry under a name, and the entry it replaces. -/
def register (r : Registry α) (name : String) (entry : α) : Option α × Registry α :=
  (r.get? name, r.insert name entry)

/-- Removes the entry under a name, and whether there was one. -/
def unregister (r : Registry α) (name : String) : Bool × Registry α :=
  (r.contains name, ⟨r.entries.erase name⟩)

@[simp] theorem get?_insert (r : Registry α) (name k : String) (entry : α) :
    (r.insert name entry).get? k = if k = name then some entry else r.get? k := by
  simp [get?, insert]

end Registry

end Flowscript
