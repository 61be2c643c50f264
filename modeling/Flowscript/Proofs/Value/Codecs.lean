import Flowscript.Proofs.Value.Forms

/-!
# Two codecs of values

A value is read from a JSON text over the tree that the text denotes, or as the first of its forms
that fits; and it is written over a tree, or form by form. Either way the result is the same. What
is written is read back with null for the doubles that are not finite, so that all other values are
what their texts denote. The main statement is `read?_write_eq_settled`.
-/

namespace Flowscript.Value

/-- The value that a JSON text denotes, as the first form that fits. -/
def readForm? (cs : List Char) : Option Value :=
  (Json.read? cs).bind (decode? depthLimit)

theorem readForm?_eq_read? (cs : List Char) : readForm? cs = read? cs :=
  Option.bind_congr fun j _ => decode?_eq_ofJson? depthLimit j

/-! ## Writing -/

mutual

/-- The text that is written form by form is that of the tree. -/
theorem write_eq_compact : (v : Value) → v.write = v.toJson.compact
  | .null => rfl
  | .bool b => by cases b <;> rfl
  | .int i => by simp [write, toJson, Json.int, Json.compact, Json.scalar]
  | .float x => by
    unfold write toJson Json.float
    split <;> simp [Json.compact, Json.scalar]
  | .string s => rfl
  | .list items => by rw [write, toJson, Json.compact, writeItems_eq_compactItems items]
  | .object ⟨members⟩ => by
    rw [write, toJson, Json.compact, writeMembers_eq_compactMembers members]

theorem writeItems_eq_compactItems : (items : List Value) →
    writeItems items = Json.compactItems (itemsToJson items)
  | [] => rfl
  | [v] => write_eq_compact v
  | v :: next :: more => by
    have hmore := writeItems_eq_compactItems (next :: more)
    rw [itemsToJson] at hmore
    simp only [writeItems, itemsToJson, Json.compactItems, write_eq_compact v, hmore]

theorem writeMembers_eq_compactMembers : (members : List (String × Value)) →
    writeMembers members = Json.compactMembers (membersToJson members)
  | [] => rfl
  | [(key, v)] => by
    simp only [writeMembers, membersToJson, Json.compactMembers, write_eq_compact v]
  | (key, v) :: (nextKey, next) :: more => by
    have hmore := writeMembers_eq_compactMembers ((nextKey, next) :: more)
    rw [membersToJson] at hmore
    simp only [writeMembers, membersToJson, Json.compactMembers, write_eq_compact v, hmore]

end

/-! ## Doubles that are not finite -/

mutual

/-- A value with null in the place of each double that is not finite. -/
def settled : Value → Value
  | .float x => if x.isFinite then .float x else .null
  | .list items => .list (settledItems items)
  | .object ⟨members⟩ => .object ⟨settledMembers members⟩
  | v => v

/-- Values, each with null in the place of doubles that are not finite. -/
def settledItems : List Value → List Value
  | [] => []
  | v :: more => v.settled :: settledItems more

/-- Entries, each with null in the place of doubles that are not finite. -/
def settledMembers : List (String × Value) → List (String × Value)
  | [] => []
  | (key, v) :: more => (key, v.settled) :: settledMembers more

end

mutual

/-- Doubles that are not finite have the tree of null. -/
theorem toJson_settled : (v : Value) → v.settled.toJson = v.toJson
  | .null | .bool _ | .int _ | .string _ => by simp [settled]
  | .float x => by
    cases hx : x.isFinite <;> simp [settled, toJson, Json.float, hx]
  | .list items => by simp [settled, toJson, itemsToJson_settledItems items]
  | .object ⟨members⟩ => by simp [settled, toJson, membersToJson_settledMembers members]

theorem itemsToJson_settledItems : (items : List Value) →
    itemsToJson (settledItems items) = itemsToJson items
  | [] => rfl
  | v :: more => by
    simp [settledItems, itemsToJson, toJson_settled v, itemsToJson_settledItems more]

theorem membersToJson_settledMembers : (members : List (String × Value)) →
    membersToJson (settledMembers members) = membersToJson members
  | [] => rfl
  | (key, v) :: more => by
    simp [settledMembers, membersToJson, toJson_settled v, membersToJson_settledMembers more]

end

mutual

theorem settled_eq_self : (v : Value) → (∀ x ∈ v.floats, x.isFinite = true) → v.settled = v
  | .null, _ | .bool _, _ | .int _, _ | .string _, _ => by simp [settled]
  | .float x, h => by simp [settled, h x (List.mem_singleton_self x)]
  | .list items, h => by rw [settled, settledItems_eq_self items h]
  | .object ⟨members⟩, h => by rw [settled, settledMembers_eq_self members h]

theorem settledItems_eq_self : (items : List Value) →
    (∀ x ∈ itemsFloats items, x.isFinite = true) → settledItems items = items
  | [], _ => rfl
  | v :: more, h => by
    obtain ⟨hv, hmore⟩ := List.forall_mem_append.mp h
    rw [settledItems, settled_eq_self v hv, settledItems_eq_self more hmore]

theorem settledMembers_eq_self : (members : List (String × Value)) →
    (∀ x ∈ membersFloats members, x.isFinite = true) → settledMembers members = members
  | [], _ => rfl
  | (key, v) :: more, h => by
    obtain ⟨hv, hmore⟩ := List.forall_mem_append.mp h
    rw [settledMembers, settled_eq_self v hv, settledMembers_eq_self more hmore]

end

/-! ## Reading what was written -/

theorem write_settled (v : Value) : v.settled.write = v.write := by
  rw [write_eq_compact, write_eq_compact, toJson_settled]

theorem keys_settledMembers (members : List (String × Value)) :
    (settledMembers members).map Prod.fst = members.map Prod.fst := by
  induction members with
  | nil => rfl
  | cons member more ih => rw [settledMembers, List.map_cons, List.map_cons, ih]

mutual

/-- A tree is read with null for the doubles that are not finite, if the others read back. -/
theorem ofJson?_toJson_eq_settled {room : Nat} : (v : Value) → v.Ordered → v.depth ≤ room →
    (∀ x ∈ v.floats, x.isFinite = true → Json.ReadsBack x) →
    ofJson? room v.toJson = some v.settled
  | .null, _, _, _ | .bool _, _, _, _ => by simp [toJson, ofJson?, settled]
  | .int i, _, _, _ => by simp [toJson, Json.int, ofJson?, ofNumeral?_ofInt, settled]
  | .float x, _, _, h => by
    cases hx : x.isFinite with
    | false => simp [toJson, Json.float, ofJson?, settled, hx]
    | true =>
      have hback := h x (List.mem_singleton_self x) hx
      rw [settled, if_pos hx]
      exact (ofJson?_float_iff room x).mpr hback
  | .string s, _, _, _ => by simp [toJson, Json.text, ofJson?, settled]
  | .list items, hordered, hdepth, h => by
    cases room with
    | zero => simp [depth] at hdepth
    | succ inner =>
      have hitems := itemsOfJson?_itemsToJson_eq_settledItems items hordered
        (Nat.le_of_succ_le_succ hdepth) h
      simp [toJson, ofJson?, settled, hitems]
  | .object ⟨members⟩, hordered, hdepth, h => by
    cases room with
    | zero => simp [depth] at hdepth
    | succ inner =>
      have hmembers := membersOfJson?_membersToJson_eq_settledMembers members hordered.2
        (Nat.le_of_succ_le_succ hdepth) h
      have hascending : (⟨settledMembers members⟩ : Object).Ascending := by
        rw [Dict.Ascending, Dict.keys, keys_settledMembers]
        exact hordered.1
      simp [toJson, ofJson?, settled, hmembers, Dict.ofList_of_ascending hascending]

theorem itemsOfJson?_itemsToJson_eq_settledItems {room : Nat} : (items : List Value) →
    ItemsOrdered items → itemsDepth items ≤ room →
    (∀ x ∈ itemsFloats items, x.isFinite = true → Json.ReadsBack x) →
    itemsOfJson? room (itemsToJson items) = some (settledItems items)
  | [], _, _, _ => rfl
  | v :: more, hordered, hdepth, h => by
    obtain ⟨hv, hmore⟩ := List.forall_mem_append.mp h
    obtain ⟨hvdepth, hmoredepth⟩ := Nat.max_le.mp hdepth
    rw [itemsToJson, settledItems, itemsOfJson?_cons_iff]
    exact ⟨ofJson?_toJson_eq_settled v hordered.1 hvdepth hv,
      itemsOfJson?_itemsToJson_eq_settledItems more hordered.2 hmoredepth hmore⟩

theorem membersOfJson?_membersToJson_eq_settledMembers {room : Nat} :
    (members : List (String × Value)) → MembersOrdered members → membersDepth members ≤ room →
    (∀ x ∈ membersFloats members, x.isFinite = true → Json.ReadsBack x) →
    membersOfJson? room (membersToJson members) = some (settledMembers members)
  | [], _, _, _ => rfl
  | (key, v) :: more, hordered, hdepth, h => by
    obtain ⟨hv, hmore⟩ := List.forall_mem_append.mp h
    obtain ⟨hvdepth, hmoredepth⟩ := Nat.max_le.mp hdepth
    rw [membersToJson, settledMembers, membersOfJson?_cons_iff]
    exact ⟨ofJson?_toJson_eq_settled v hordered.1 hvdepth hv,
      membersOfJson?_membersToJson_eq_settledMembers more hordered.2 hmoredepth hmore⟩

end

/-- Either codec reads any text alike, and both write a value alike, with null for doubles that are
not finite. If the finite doubles of a value read back and its depth is within the limit, this is
how it is read; so a value all of whose doubles are finite is read back as it is. -/
theorem read?_write_eq_settled (cs : List Char) (v : Value) :
    readForm? cs = read? cs ∧
    v.write = v.toJson.compact ∧
    v.write = v.settled.write ∧
    (v.Ordered → v.depth ≤ depthLimit →
      (∀ x ∈ v.floats, x.isFinite = true → Json.ReadsBack x) →
      read? v.write = some v.settled ∧
        ((∀ x ∈ v.floats, x.isFinite = true) → read? v.write = some v)) := by
  refine ⟨readForm?_eq_read? cs, write_eq_compact v, (write_settled v).symm, ?_⟩
  intro hordered hdepth hback
  have hread : read? v.write = some v.settled := by
    rw [write_eq_compact, read?, Json.read?_compact (wellFormed_toJson v), Option.bind_some]
    exact ofJson?_toJson_eq_settled v hordered hdepth hback
  refine ⟨hread, fun hfinite => ?_⟩
  rwa [settled_eq_self v hfinite] at hread

/-- A list with an integer, two doubles of which one is infinite, and an object. -/
def varied : Value :=
  .list [.int 2, .float 2, .float (1 / 0), .object ⟨[("a", .null), ("b", .string "2")]⟩]

/-- Its text, in which the finite double has a point and the infinite one is null. -/
def variedText : List Char :=
  "[2,2.0,null,\x7b\"a\":null,\"b\":\"2\"\x7d]".toList

theorem read?_write_eq_settled_varied :
    varied.Ordered ∧ varied.depth ≤ depthLimit ∧
    (∀ x ∈ varied.floats, x.isFinite = true → Json.ReadsBack x) ∧
    varied.write = variedText ∧ readForm? variedText = some varied.settled ∧
    varied.settled =
      .list [.int 2, .float 2, .null, .object ⟨[("a", .null), ("b", .string "2")]⟩] := by
  have hordered : varied.Ordered :=
    ⟨trivial, trivial, trivial, ⟨by decide, trivial, trivial, trivial⟩, trivial⟩
  have hdepth : varied.depth ≤ depthLimit := by decide
  have hback : ∀ x ∈ varied.floats, x.isFinite = true → Json.ReadsBack x := by decide +kernel
  have hwrite : varied.write = variedText := by decide +kernel
  have hfinite : (2 : Float).isFinite = true ∧ (1 / 0 : Float).isFinite = false := by
    decide +kernel
  obtain ⟨hsame, -, -, hreads⟩ := read?_write_eq_settled variedText varied
  obtain ⟨hread, -⟩ := hreads hordered hdepth hback
  rw [hwrite, ← hsame] at hread
  refine ⟨hordered, hdepth, hback, hwrite, hread, ?_⟩
  simp [varied, settled, settledItems, settledMembers, hfinite]

end Flowscript.Value
