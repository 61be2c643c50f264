/-!
# Dictionaries

A dictionary holds values under text keys, in ascending order of the keys. Texts are ordered by
their characters, which is also the order of their encoded bytes. Looking up takes the first entry
with a key, so that the laws of `insert` hold of any list of entries; that the keys ascend is what
makes two dictionaries with the same entries equal.
-/

namespace Flowscript

/-- Values under text keys. -/
structure Dict (α : Type) where
  entries : List (String × α)

namespace Dict

variable {α β : Type}

/-- The dictionary with no entries. -/
def empty : Dict α := ⟨[]⟩

instance : EmptyCollection (Dict α) := ⟨empty⟩

instance : Inhabited (Dict α) := ⟨empty⟩

/-- Entries with `value` under `key`, in place of what the key held. -/
def insertEntry (key : String) (value : α) : List (String × α) → List (String × α)
  | [] => [(key, value)]
  | (k, v) :: rest =>
    if key < k then (key, value) :: (k, v) :: rest
    else if key = k then (key, value) :: rest
    else (k, v) :: insertEntry key value rest

/-- The dictionary with `value` under `key`. -/
def insert (d : Dict α) (key : String) (value : α) : Dict α :=
  ⟨insertEntry key value d.entries⟩

/-- The value that the first entry with `key` holds. -/
def findEntry (key : String) : List (String × α) → Option α
  | [] => none
  | (k, v) :: rest => if key = k then some v else findEntry key rest

/-- The value under a key. -/
def get? (d : Dict α) (key : String) : Option α :=
  findEntry key d.entries

/-- The value under a key, or `default`. -/
def getD (d : Dict α) (key : String) (default : α) : α :=
  (d.get? key).getD default

/-- Whether a key has a value. -/
def contains (d : Dict α) (key : String) : Bool :=
  (d.get? key).isSome

/-- The dictionary without a key. -/
def erase (d : Dict α) (key : String) : Dict α :=
  ⟨d.entries.filter fun entry => entry.1 != key⟩

/-- The keys, in order. -/
def keys (d : Dict α) : List String :=
  d.entries.map (·.1)

/-- The number of entries. -/
def size (d : Dict α) : Nat :=
  d.entries.length

/-- Whether there are no entries. -/
def isEmpty (d : Dict α) : Bool :=
  d.entries.isEmpty

/-- The dictionary of some entries; of two with one key the later counts. -/
def ofList (entries : List (String × α)) : Dict α :=
  entries.foldl (fun d (key, value) => d.insert key value) ∅

/-- The same keys with changed values. -/
def map (f : α → β) (d : Dict α) : Dict β :=
  ⟨d.entries.map fun (key, value) => (key, f value)⟩

/-- The keys stand in strictly ascending order. -/
def Ascending (d : Dict α) : Prop :=
  d.keys.Pairwise (· < ·)

theorem findEntry_insertEntry (key k : String) (value : α) (entries : List (String × α)) :
    findEntry k (insertEntry key value entries) =
      if k = key then some value else findEntry k entries := by
  induction entries with
  | nil => rfl
  | cons entry rest ih =>
    obtain ⟨k', v⟩ := entry
    simp only [insertEntry]
    split
    · rfl
    · split
      · rename_i h
        subst h
        simp only [findEntry]
        split <;> simp_all
      · rename_i h
        simp only [findEntry, ih]
        split
        · rename_i hk
          simp [hk, Ne.symm h]
        · rfl

/-- Inserting changes what one key holds and nothing else. -/
@[simp] theorem get?_insert (d : Dict α) (key k : String) (value : α) :
    (d.insert key value).get? k = if k = key then some value else d.get? k :=
  findEntry_insertEntry key k value d.entries

@[simp] theorem get?_empty (k : String) : (∅ : Dict α).get? k = none := rfl

end Dict

end Flowscript
