import Flowscript.Proofs.Json.Doubles
import Flowscript.Proofs.Value.Reading
import Flowscript.Value.Forms

/-!
# What JSON texts denote

Trying the forms of a value in order gives what reading the tree gives. Whatever is read has
ascending keys, no more containers around each other than there was room for, and finite doubles.
The main statements are `decode?_eq_ofJson?` and `denoted_of_ofJson?`.
-/

namespace Flowscript

namespace Value

/-! ## The forms in order -/

theorem int64?_of_integer? {literal : String} {i : Int} (h : Json.integer? literal = some i) :
    Digits.int64? literal.toList =
      if Int64.minValue.toInt ≤ i ∧ i ≤ Int64.maxValue.toInt then some (.ofInt i) else none := by
  unfold Json.integer? at h
  split at h
  · cases h
  · rw [Digits.int64?, h, Option.bind_some]

theorem intForm?_orElse_floatForm? (literal : String) :
    (intForm? (.number literal) <|> floatForm? (.number literal)) = ofNumeral? literal := by
  rw [ofNumeral?]
  cases hinteger : Json.integer? literal with
  | none => simp [intForm?, floatForm?, hinteger]
  | some i =>
    rw [Option.bind_some, int64?_of_integer? hinteger]
    simp only [intForm?, floatForm?, hinteger, Option.bind_some]
    split <;> rfl

/-- A tree without parts has the form of its constructor, and a numeral that of an integer or of a
double. -/
theorem scalarForm?_eq (j : Json) :
    scalarForm? j =
      match j with
      | .null => some .null
      | .bool b => some (.bool b)
      | .number literal => ofNumeral? literal
      | .string content => content.map .string
      | .array _ | .object _ => none := by
  cases j with
  | null | bool | string | array | object => rfl
  | number literal =>
    simp [scalarForm?, ← intForm?_orElse_floatForm?, nullForm?, boolForm?, stringForm?]

mutual

/-- The first form that fits is that of the tree. -/
theorem decode?_eq_ofJson? (room : Nat) : (j : Json) → decode? room j = ofJson? room j
  | .null | .bool _ => by simp [decode?, ofJson?, scalarForm?_eq]
  | .number literal => by
    cases hvalue : ofNumeral? literal <;> simp [decode?, ofJson?, scalarForm?_eq, hvalue]
  | .string content => by
    cases content <;> simp [decode?, ofJson?, scalarForm?_eq]
  | .array items => by
    cases room with
    | zero => simp [decode?, ofJson?, scalarForm?_eq]
    | succ inner =>
      simp [decode?, ofJson?, scalarForm?_eq, decodeItems?_eq_itemsOfJson? inner items]
  | .object members => by
    cases room with
    | zero => simp [decode?, ofJson?, scalarForm?_eq]
    | succ inner =>
      simp [decode?, ofJson?, scalarForm?_eq, decodeMembers?_eq_membersOfJson? inner members]

theorem decodeItems?_eq_itemsOfJson? (room : Nat) : (items : List Json) →
    decodeItems? room items = itemsOfJson? room items
  | [] => rfl
  | item :: more => by
    rw [decodeItems?, itemsOfJson?, decode?_eq_ofJson? room item,
      decodeItems?_eq_itemsOfJson? room more]

theorem decodeMembers?_eq_membersOfJson? (room : Nat) : (members : List (Option String × Json)) →
    decodeMembers? room members = membersOfJson? room members
  | [] => rfl
  | (key, value) :: more => by
    rw [decodeMembers?, membersOfJson?, decode?_eq_ofJson? room value,
      decodeMembers?_eq_membersOfJson? room more]

end

/-! ## What is read -/

section

variable {items : List Value} {members : List (String × Value)} {room : Nat} {x : Float}

theorem itemsOrdered_iff : ItemsOrdered items ↔ ∀ v ∈ items, v.Ordered := by
  induction items with
  | nil => simp [ItemsOrdered]
  | cons v more ih => rw [ItemsOrdered, ih, List.forall_mem_cons]

theorem membersOrdered_iff : MembersOrdered members ↔ ∀ m ∈ members, m.2.Ordered := by
  induction members with
  | nil => simp [MembersOrdered]
  | cons m more ih => rw [MembersOrdered, ih, List.forall_mem_cons]

theorem itemsDepth_le_iff : itemsDepth items ≤ room ↔ ∀ v ∈ items, v.depth ≤ room := by
  induction items with
  | nil => simp [itemsDepth]
  | cons v more ih => rw [itemsDepth, Nat.max_le, ih, List.forall_mem_cons]

theorem membersDepth_le_iff : membersDepth members ≤ room ↔ ∀ m ∈ members, m.2.depth ≤ room := by
  induction members with
  | nil => simp [membersDepth]
  | cons m more ih => rw [membersDepth, Nat.max_le, ih, List.forall_mem_cons]

theorem mem_itemsFloats : x ∈ itemsFloats items ↔ ∃ v ∈ items, x ∈ v.floats := by
  induction items with
  | nil => simp [itemsFloats]
  | cons v more ih => rw [itemsFloats, List.mem_append, ih, List.exists_mem_cons_iff]

theorem mem_membersFloats : x ∈ membersFloats members ↔ ∃ m ∈ members, x ∈ m.2.floats := by
  induction members with
  | nil => simp [membersFloats]
  | cons m more ih => rw [membersFloats, List.mem_append, ih, List.exists_mem_cons_iff]

end

/-- What a JSON text with room for some containers around each other can denote. -/
structure Denoted (room : Nat) (v : Value) : Prop where
  ordered : v.Ordered
  depth_le : v.depth ≤ room
  finite : ∀ x ∈ v.floats, x.isFinite = true

namespace Denoted

variable {room : Nat}

theorem ofNumeral? {literal : String} {v : Value} (h : Value.ofNumeral? literal = some v) :
    v.Denoted room := by
  unfold Value.ofNumeral? at h
  split at h
  · cases h
    exact ⟨trivial, Nat.zero_le _, List.forall_mem_nil _⟩
  · obtain ⟨x, hx, rfl⟩ := Option.map_eq_some_iff.mp h
    exact ⟨trivial, Nat.zero_le _, List.forall_mem_singleton.mpr (Json.isFinite_of_float? hx)⟩

theorem list {items : List Value} (h : ∀ v ∈ items, v.Denoted room) :
    (Value.list items).Denoted (room + 1) where
  ordered := itemsOrdered_iff.mpr fun v hv => (h v hv).ordered
  depth_le := Nat.succ_le_succ (itemsDepth_le_iff.mpr fun v hv => (h v hv).depth_le)
  finite x hx := by
    obtain ⟨v, hv, hx⟩ := mem_itemsFloats.mp hx
    exact (h v hv).finite x hx

theorem object {entries : List (String × Value)} (h : ∀ m ∈ entries, m.2.Denoted room) :
    (Value.object (.ofList entries)).Denoted (room + 1) where
  ordered := ⟨Dict.ascending_ofList entries,
    membersOrdered_iff.mpr fun m hm => (h m (Dict.mem_of_mem_ofList hm)).ordered⟩
  depth_le := Nat.succ_le_succ
    (membersDepth_le_iff.mpr fun m hm => (h m (Dict.mem_of_mem_ofList hm)).depth_le)
  finite x hx := by
    obtain ⟨m, hm, hx⟩ := mem_membersFloats.mp hx
    exact (h m (Dict.mem_of_mem_ofList hm)).finite x hx

end Denoted

mutual

theorem denoted_of_ofJson? {room : Nat} : (j : Json) → {v : Value} → ofJson? room j = some v →
    v.Denoted room
  | .null, _, rfl => ⟨trivial, Nat.zero_le _, List.forall_mem_nil _⟩
  | .bool _, _, rfl => ⟨trivial, Nat.zero_le _, List.forall_mem_nil _⟩
  | .number _, _, h => .ofNumeral? h
  | .string _, _, h => by
    obtain ⟨s, -, rfl⟩ := Option.map_eq_some_iff.mp h
    exact ⟨trivial, Nat.zero_le _, List.forall_mem_nil _⟩
  | .array items, _, h => by
    cases room with
    | zero => cases h
    | succ inner =>
      obtain ⟨values, hvalues, rfl⟩ := Option.map_eq_some_iff.mp h
      exact .list (denoted_of_itemsOfJson? items hvalues)
  | .object members, _, h => by
    cases room with
    | zero => cases h
    | succ inner =>
      obtain ⟨entries, hentries, rfl⟩ := Option.map_eq_some_iff.mp h
      exact .object (denoted_of_membersOfJson? members hentries)

theorem denoted_of_itemsOfJson? {room : Nat} : (items : List Json) → {values : List Value} →
    itemsOfJson? room items = some values → ∀ v ∈ values, v.Denoted room
  | [], _, rfl => List.forall_mem_nil _
  | item :: more, _, h => by
    simp only [itemsOfJson?, Option.bind_eq_bind, Option.bind_eq_some_iff] at h
    obtain ⟨v, hv, values, hvalues, hcons⟩ := h
    obtain rfl := Option.some.inj hcons
    exact List.forall_mem_cons.mpr
      ⟨denoted_of_ofJson? item hv, denoted_of_itemsOfJson? more hvalues⟩

theorem denoted_of_membersOfJson? {room : Nat} : (members : List (Option String × Json)) →
    {entries : List (String × Value)} → membersOfJson? room members = some entries →
    ∀ m ∈ entries, m.2.Denoted room
  | [], _, rfl => List.forall_mem_nil _
  | (_, value) :: more, _, h => by
    simp only [membersOfJson?, Option.bind_eq_bind, Option.bind_eq_some_iff] at h
    obtain ⟨key, -, v, hv, entries, hentries, hcons⟩ := h
    obtain rfl := Option.some.inj hcons
    exact List.forall_mem_cons.mpr
      ⟨denoted_of_ofJson? value hv, denoted_of_membersOfJson? more hentries⟩

end

end Value

end Flowscript
