import Flowscript.Proofs.Dict
import Flowscript.Proofs.Json.Printing
import Flowscript.Value.Json

/-!
# Reading values from their JSON texts

The JSON text of a value is read as this value exactly if no more containers are nested than a text
may have and each of its doubles is finite and is what its own text is taken for. Integers and
doubles are told apart by their texts, and the members of objects keep their order. The main
statement is `read?_compact_iff`.
-/

namespace Flowscript

/-- A double that is what the JSON reader takes its text for. -/
def Json.ReadsBack (x : Float) : Prop :=
  x.isFinite = true ∧ Json.float? (String.ofList (Layout.json64.double x)) = some x

instance (x : Float) : Decidable (Json.ReadsBack x) :=
  inferInstanceAs (Decidable (_ ∧ _))

namespace Value

mutual

/-- How many lists and objects are nested in a value. -/
def depth : Value → Nat
  | .list items => itemsDepth items + 1
  | .object ⟨members⟩ => membersDepth members + 1
  | _ => 0

/-- The greatest depth of some values. -/
def itemsDepth : List Value → Nat
  | [] => 0
  | v :: more => max v.depth (itemsDepth more)

/-- The greatest depth of the values of some entries. -/
def membersDepth : List (String × Value) → Nat
  | [] => 0
  | (_, v) :: more => max v.depth (membersDepth more)

end

mutual

/-- The doubles in a value, in order. -/
def floats : Value → List Float
  | .float x => [x]
  | .list items => itemsFloats items
  | .object ⟨members⟩ => membersFloats members
  | _ => []

/-- The doubles in some values. -/
def itemsFloats : List Value → List Float
  | [] => []
  | v :: more => v.floats ++ itemsFloats more

/-- The doubles in the values of some entries. -/
def membersFloats : List (String × Value) → List Float
  | [] => []
  | (_, v) :: more => v.floats ++ membersFloats more

end

mutual

/-- The keys of every object in a value ascend. -/
def Ordered : Value → Prop
  | .list items => ItemsOrdered items
  | .object ⟨members⟩ => (⟨members⟩ : Object).Ascending ∧ MembersOrdered members
  | _ => True

/-- The keys of every object in some values ascend. -/
def ItemsOrdered : List Value → Prop
  | [] => True
  | v :: more => v.Ordered ∧ ItemsOrdered more

/-- The keys of every object in the values of some entries ascend. -/
def MembersOrdered : List (String × Value) → Prop
  | [] => True
  | (_, v) :: more => v.Ordered ∧ MembersOrdered more

end

/-! ## Printing -/

mutual

theorem wellFormed_toJson : (v : Value) → v.toJson.WellFormed
  | .null => .null
  | .bool b => .bool b
  | .int i => .number (by simpa using Json.isNumber_ofInt i.toInt)
  | .float x => by
    unfold toJson Json.float
    split
    · next hx => exact .number (by simpa using Json.isNumber_double hx)
    · exact .null
  | .string s => .string (some s)
  | .list items => .array (wellFormed_itemsToJson items)
  | .object ⟨members⟩ => .object (wellFormed_membersToJson members)

theorem wellFormed_itemsToJson :
    (items : List Value) → ∀ j ∈ itemsToJson items, j.WellFormed
  | [] => by simp [itemsToJson]
  | v :: more =>
    List.forall_mem_cons.mpr ⟨wellFormed_toJson v, wellFormed_itemsToJson more⟩

theorem wellFormed_membersToJson :
    (members : List (String × Value)) → ∀ m ∈ membersToJson members, m.2.WellFormed
  | [] => by simp [membersToJson]
  | (_, v) :: more =>
    List.forall_mem_cons.mpr ⟨wellFormed_toJson v, wellFormed_membersToJson more⟩

end

theorem compact_object (members : List (String × Value)) :
    (Value.object ⟨members⟩).toJson.compact =
      '{' :: (Json.compactMembers (membersToJson members) ++ ['}']) := rfl

/-- The JSON text of an object stands in braces. -/
theorem ends_compact_object (members : Object) :
    (Value.object members).toJson.compact.head? = some '{' ∧
      (Value.object members).toJson.compact.getLast? = some '}' := by
  rw [compact_object, ← List.cons_append, List.getLast?_concat]
  exact ⟨rfl, rfl⟩

theorem toList_toJsonText (v : Value) : v.toJsonText.toList = v.toJson.compact :=
  String.toList_ofList

/-! ## Reading -/

theorem ofNumeral?_ofInt (i : Int64) :
    ofNumeral? (String.ofList (Digits.ofInt i.toInt)) = some (.int i) := by
  rw [ofNumeral?, Json.integer?_ofInt, Option.bind_some, String.toList_ofList,
    Digits.int64?_ofInt]

theorem ofJson?_float_iff (room : Nat) (x : Float) :
    ofJson? room (.float x) = some (.float x) ↔ Json.ReadsBack x := by
  unfold Json.float Json.ReadsBack
  split
  · next hx => simp [ofJson?, ofNumeral?, Json.integer?_double hx, hx]
  · next hx => simp [ofJson?, hx]

theorem itemsOfJson?_cons_iff {room : Nat} {v : Value} {items : List Value} {j : Json}
    {trees : List Json} :
    itemsOfJson? room (j :: trees) = some (v :: items) ↔
      ofJson? room j = some v ∧ itemsOfJson? room trees = some items := by
  simp [itemsOfJson?, Option.bind_eq_some_iff]

theorem membersOfJson?_cons_iff {room : Nat} {key : String} {v : Value}
    {entries : List (String × Value)} {j : Json} {members : List (Option String × Json)} :
    membersOfJson? room ((some key, j) :: members) = some ((key, v) :: entries) ↔
      ofJson? room j = some v ∧ membersOfJson? room members = some entries := by
  simp [membersOfJson?, Option.bind_eq_some_iff]

/-- The members of a printed object are read under their keys. -/
theorem keys_of_membersOfJson? {room : Nat} {members entries : List (String × Value)}
    (h : membersOfJson? room (membersToJson members) = some entries) :
    entries.map Prod.fst = members.map Prod.fst := by
  induction members generalizing entries with
  | nil =>
    cases h
    rfl
  | cons member more ih =>
    obtain ⟨key, v⟩ := member
    simp only [membersToJson, membersOfJson?, Option.bind_eq_bind, Option.bind_some,
      Option.bind_eq_some_iff] at h
    obtain ⟨value, -, values, hvalues, hentries⟩ := h
    obtain rfl := Option.some.inj hentries
    rw [List.map_cons, List.map_cons, ih hvalues]

theorem map_ofList_eq_iff {room : Nat} {members : List (String × Value)}
    (h : (⟨members⟩ : Object).Ascending) :
    ((membersOfJson? room (membersToJson members)).map fun entries => object (.ofList entries)) =
        some (.object ⟨members⟩) ↔
      membersOfJson? room (membersToJson members) = some members := by
  constructor
  · intro hread
    obtain ⟨entries, hentries, hobject⟩ := Option.map_eq_some_iff.mp hread
    have hascending : (⟨entries⟩ : Object).Ascending := by
      rw [Dict.Ascending, Dict.keys] at h ⊢
      exact keys_of_membersOfJson? hentries ▸ h
    rw [Dict.ofList_of_ascending hascending] at hobject
    cases hobject
    exact hentries
  · intro hread
    rw [hread, Option.map_some, Dict.ofList_of_ascending h]

mutual

theorem ofJson?_toJson_iff (room : Nat) : (v : Value) → v.Ordered →
    (ofJson? room v.toJson = some v ↔ v.depth ≤ room ∧ ∀ x ∈ v.floats, Json.ReadsBack x)
  | .null, _ => by simp [toJson, ofJson?, depth, floats]
  | .bool b, _ => by simp [toJson, ofJson?, depth, floats]
  | .int i, _ => by simp [toJson, Json.int, ofJson?, ofNumeral?_ofInt, depth, floats]
  | .float x, _ => by simp [toJson, ofJson?_float_iff, depth, floats]
  | .string s, _ => by simp [toJson, Json.text, ofJson?, depth, floats]
  | .list items, h => by
    cases room with
    | zero => simp [toJson, ofJson?, depth]
    | succ inner =>
      simp [toJson, ofJson?, depth, floats, itemsOfJson?_itemsToJson_iff inner items h]
  | .object ⟨members⟩, h => by
    cases room with
    | zero => simp [toJson, ofJson?, depth]
    | succ inner =>
      simp [toJson, ofJson?, depth, floats, map_ofList_eq_iff h.1,
        membersOfJson?_membersToJson_iff inner members h.2]

theorem itemsOfJson?_itemsToJson_iff (room : Nat) : (items : List Value) → ItemsOrdered items →
    (itemsOfJson? room (itemsToJson items) = some items ↔
      itemsDepth items ≤ room ∧ ∀ x ∈ itemsFloats items, Json.ReadsBack x)
  | [], _ => by simp [itemsToJson, itemsOfJson?, itemsDepth, itemsFloats]
  | v :: more, h => by
    have hv := ofJson?_toJson_iff room v h.1
    have hmore := itemsOfJson?_itemsToJson_iff room more h.2
    rw [itemsToJson, itemsOfJson?_cons_iff, hv, hmore, itemsDepth, itemsFloats, Nat.max_le,
      List.forall_mem_append]
    exact and_and_and_comm

theorem membersOfJson?_membersToJson_iff (room : Nat) : (members : List (String × Value)) →
    MembersOrdered members →
    (membersOfJson? room (membersToJson members) = some members ↔
      membersDepth members ≤ room ∧ ∀ x ∈ membersFloats members, Json.ReadsBack x)
  | [], _ => by simp [membersToJson, membersOfJson?, membersDepth, membersFloats]
  | (key, v) :: more, h => by
    have hv := ofJson?_toJson_iff room v h.1
    have hmore := membersOfJson?_membersToJson_iff room more h.2
    rw [membersToJson, membersOfJson?_cons_iff, hv, hmore, membersDepth, membersFloats, Nat.max_le,
      List.forall_mem_append]
    exact and_and_and_comm

end

/-- The JSON text of a value is read as this value exactly if its depth is within the limit and its
doubles read back. -/
theorem read?_compact_iff {v : Value} (h : v.Ordered) :
    read? v.toJson.compact = some v ↔
      v.depth ≤ depthLimit ∧ ∀ x ∈ v.floats, Json.ReadsBack x := by
  rw [read?, Json.read?_compact (wellFormed_toJson v), Option.bind_some]
  exact ofJson?_toJson_iff depthLimit v h

end Value

end Flowscript
