import Mathlib.Data.List.Forall2
import Flowscript.Proofs.Run.Lookups
import Flowscript.Proofs.Value.Reading
import Flowscript.Run.Parameter

/-!
# What parameters mean

The raw text of a parameter is a JSON object in braces, or else a text. A text that is a reference
to a known name means the value of the name, and any other text itself. The members of an object
that are texts mean the same on the outermost level, and nothing else of the object is touched: it
keeps its keys, what its members contain, and the values that are put in. The main statement is
`resolve_means`.
-/

namespace Flowscript.Parameter

/-- Raw text that starts and ends with a brace and is the JSON text of an object. -/
structure Denotes (raw : String) (members : Object) : Prop where
  opens : raw.toList.head? = some '{'
  closes : raw.toList.getLast? = some '}'
  read : Value.read? raw.toList = some (.object members)

/-- A reference to a name that stands for a value means this value, and everything else itself. -/
inductive Dereferences (scope : Scope) : Value → Value → Prop
  | replaced {name : String} {v : Value} (h : scope.Holds name v) :
      Dereferences scope (.string ("$" ++ name)) v
  | kept {v : Value} (h : ∀ name w, v = .string ("$" ++ name) → ¬ scope.Holds name w) :
      Dereferences scope v v

/-- What raw text means. -/
inductive Means (scope : Scope) (raw : String) : Value → Prop
  | object {members members' : Object} (h : Denotes raw members)
      (hmembers : List.Forall₂ (fun m m' => m.1 = m'.1 ∧ Dereferences scope m.2 m'.2)
        members.entries members'.entries) : Means scope raw (.object members')
  | text {v : Value} (h : ∀ members, ¬ Denotes raw members)
      (hv : Dereferences scope (.string raw) v) : Means scope raw v

variable {scope : Scope} {raw name : String} {v w : Value} {members members' : Object}

/-! ## References -/

theorem dereferenced_reference (scope : Scope) (name : String) :
    dereferenced scope ("$" ++ name) = (scope.lookup name).getD (.string ("$" ++ name)) := by
  have htext : ("$" ++ name).toList = '$' :: name.toList := String.toList_append
  simp only [dereferenced, htext, String.ofList_toList]

theorem dereferenced_of_ne (h : ∀ name, raw ≠ "$" ++ name) :
    dereferenced scope raw = .string raw := by
  unfold dereferenced
  split
  · next name htext =>
    have hraw : raw = "$" ++ String.ofList name := by
      rw [← String.toList_inj, htext]
      simp
    exact absurd hraw (h _)
  · rfl

/-- A text is a reference to a known name, or it means itself. -/
theorem dereferences_dereferenced (scope : Scope) (raw : String) :
    Dereferences scope (.string raw) (dereferenced scope raw) := by
  by_cases hraw : ∃ name, raw = "$" ++ name
  · obtain ⟨name, rfl⟩ := hraw
    rw [dereferenced_reference]
    cases hlookup : scope.lookup name with
    | some v => exact .replaced (Scope.lookup_eq_some_iff.mp hlookup)
    | none =>
      refine .kept fun other w heq => ?_
      obtain rfl : name = other := by simpa using heq
      exact Scope.lookup_eq_none_iff.mp hlookup w
  · rw [dereferenced_of_ne (not_exists.mp hraw)]
    exact .kept fun name w heq => absurd ⟨name, Value.string.inj heq⟩ hraw

theorem dereferences_member (scope : Scope) (v : Value) :
    Dereferences scope v (member scope v) := by
  cases v with
  | string raw => exact dereferences_dereferenced scope raw
  | null | bool | int | float | list | object => exact .kept fun _ _ heq => nomatch heq

theorem Dereferences.member_eq (h : Dereferences scope v w) : member scope v = w := by
  cases h with
  | @replaced name _ h =>
    rw [member, dereferenced_reference, Scope.lookup_eq_some_iff.mpr h, Option.getD_some]
  | kept h =>
    cases v with
    | string raw =>
      by_cases hraw : ∃ name, raw = "$" ++ name
      · obtain ⟨name, rfl⟩ := hraw
        have hnone := Scope.lookup_eq_none_iff.mpr fun w => h name w rfl
        rw [member, dereferenced_reference, hnone, Option.getD_none]
      · exact dereferenced_of_ne (not_exists.mp hraw)
    | null | bool | int | float | list | object => rfl

theorem member_eq_iff : member scope v = w ↔ Dereferences scope v w :=
  ⟨fun h => h ▸ dereferences_member scope v, Dereferences.member_eq⟩

/-! ## Objects -/

theorem object?_eq_some_iff : Literal.object? raw.toList = some members ↔ Denotes raw members := by
  unfold Literal.object?
  constructor
  · intro h
    split at h
    · next hbraces =>
      obtain ⟨v, hread, hv⟩ := Option.bind_eq_some_iff.mp h
      exact ⟨hbraces.1, hbraces.2, Value.object?_eq_some hv ▸ hread⟩
    · cases h
  · intro h
    rw [if_pos ⟨h.opens, h.closes⟩, h.read]
    rfl

/-- Each member keeps its key and means what it means by itself. -/
theorem map_member_eq_iff : members.map (member scope) = members' ↔
    List.Forall₂ (fun m m' => m.1 = m'.1 ∧ Dereferences scope m.2 m'.2)
      members.entries members'.entries := by
  have hentry (m m' : String × Value) :
      (m.1, member scope m.2) = m' ↔ m.1 = m'.1 ∧ Dereferences scope m.2 m'.2 := by
    rw [Prod.ext_iff, member_eq_iff]
  simp only [← hentry, ← List.forall₂_map_left_iff, List.forall₂_eq_eq_eq]
  obtain ⟨entries⟩ := members
  obtain ⟨entries'⟩ := members'
  simp [Dict.map]

theorem resolve_eq_iff : resolve scope raw = v ↔ Means scope raw v := by
  unfold resolve
  cases hobject : Literal.object? raw.toList with
  | some members =>
    have hdenotes := object?_eq_some_iff.mp hobject
    constructor
    · rintro rfl
      exact .object hdenotes (map_member_eq_iff.mp rfl)
    · rintro (⟨h, hmembers⟩ | ⟨h, -⟩)
      · cases hobject.symm.trans (object?_eq_some_iff.mpr h)
        exact congrArg Value.object (map_member_eq_iff.mpr hmembers)
      · exact absurd hdenotes (h members)
  | none =>
    have hother : ∀ members, ¬ Denotes raw members := fun members h =>
      nomatch hobject.symm.trans (object?_eq_some_iff.mpr h)
    constructor
    · rintro rfl
      exact .text hother (dereferences_dereferenced scope raw)
    · rintro (⟨h, -⟩ | ⟨-, hv⟩)
      · exact absurd h (hother _)
      · exact hv.member_eq

/-- An object without references to known names means itself. -/
theorem resolve_of_denotes (h : Denotes raw members)
    (hkept : ∀ m ∈ members.entries, ∀ name v, m.2 = .string ("$" ++ name) →
      ¬ scope.Holds name v) : resolve scope raw = .object members := by
  refine resolve_eq_iff.mpr (.object h (List.forall₂_same.mpr fun m hm => ?_))
  exact ⟨rfl, .kept (hkept m hm)⟩

/-- The JSON text of an object denotes the object, if its doubles read back. -/
theorem denotes_toJsonText (hordered : (Value.object members).Ordered)
    (hdepth : (Value.object members).depth ≤ Value.depthLimit)
    (hback : ∀ x ∈ (Value.object members).floats, Json.ReadsBack x) :
    Denotes (Value.object members).toJsonText members := by
  obtain ⟨hopens, hcloses⟩ := Value.ends_compact_object members
  rw [← Value.toList_toJsonText] at hopens hcloses
  refine ⟨hopens, hcloses, ?_⟩
  rw [Value.toList_toJsonText]
  exact (Value.read?_compact_iff hordered).mpr ⟨hdepth, hback⟩

/-- What raw text means is what it is resolved to. In an object on whose outermost level nothing
refers to a known name nothing is replaced, and the JSON text of an object is such raw text if its
finite doubles, and it has no others, read back. -/
theorem resolve_means (scope : Scope) :
    (∀ raw v, resolve scope raw = v ↔ Means scope raw v) ∧
    (∀ raw members, Denotes raw members →
      (∀ m ∈ members.entries, ∀ name v, m.2 = .string ("$" ++ name) → ¬ scope.Holds name v) →
      resolve scope raw = .object members) ∧
    ∀ members : Object, (Value.object members).Ordered →
      (Value.object members).depth ≤ Value.depthLimit →
      (∀ x ∈ (Value.object members).floats, x.isFinite = true) →
      (∀ x ∈ (Value.object members).floats, x.isFinite = true → Json.ReadsBack x) →
      Denotes (Value.object members).toJsonText members := by
  refine ⟨fun _ _ => resolve_eq_iff, fun _ _ => resolve_of_denotes, ?_⟩
  intro members hordered hdepth hfinite hback
  exact denotes_toJsonText hordered hdepth fun x hx => hback x hx (hfinite x hx)

/-- An object with references to a name and to no name, on the outermost level and below. -/
def mixed : Object :=
  ⟨[("a", .string "$x"), ("b", .list [.string "$x", .float 1.5]), ("c", .string "$gone")]⟩

/-- Its text. -/
def mixedText : String :=
  "\x7b\"a\":\"$x\",\"b\":[\"$x\",1.5],\"c\":\"$gone\"\x7d"

/-- A scope with a variable that hides an input. -/
def shadowing : Scope where
  input := ⟨[("x", .string "hidden")]⟩
  vars := ⟨[("x", .object ⟨[("y", .string "$x")]⟩)]⟩

theorem resolve_means_mixed :
    (Value.object mixed).Ordered ∧ (Value.object mixed).depth ≤ Value.depthLimit ∧
    (∀ x ∈ (Value.object mixed).floats, x.isFinite = true) ∧
    (∀ x ∈ (Value.object mixed).floats, x.isFinite = true → Json.ReadsBack x) ∧
    (Value.object mixed).toJsonText = mixedText ∧ Denotes mixedText mixed ∧
    resolve shadowing mixedText = .object
      ⟨[("a", .object ⟨[("y", .string "$x")]⟩), ("b", .list [.string "$x", .float 1.5]),
        ("c", .string "$gone")]⟩ ∧
    (∀ m ∈ mixed.entries, ∀ name v, m.2 = .string ("$" ++ name) → ¬ Scope.Holds ⟨∅, ∅⟩ name v) ∧
    resolve ⟨∅, ∅⟩ mixedText = .object mixed := by
  have hordered : (Value.object mixed).Ordered := ⟨by decide, trivial, ⟨trivial, trivial, trivial⟩,
    trivial, trivial⟩
  have hdepth : (Value.object mixed).depth ≤ Value.depthLimit := by decide
  have hfinite : ∀ x ∈ (Value.object mixed).floats, x.isFinite = true := by decide +kernel
  have hback : ∀ x ∈ (Value.object mixed).floats, x.isFinite = true → Json.ReadsBack x := by
    decide +kernel
  have htext : (Value.object mixed).toJsonText = mixedText := by decide +kernel
  have hunknown : ∀ m ∈ mixed.entries, ∀ name v, m.2 = .string ("$" ++ name) →
      ¬ Scope.Holds ⟨∅, ∅⟩ name v := by
    rintro m - name v - (⟨⟨⟩⟩ | ⟨-, ⟨⟩⟩)
  have hdenotes : Denotes mixedText mixed :=
    htext ▸ (resolve_means shadowing).2.2 mixed hordered hdepth hfinite hback
  refine ⟨hordered, hdepth, hfinite, hback, htext, hdenotes, ?_, hunknown,
    (resolve_means ⟨∅, ∅⟩).2.1 mixedText mixed hdenotes hunknown⟩
  exact ((resolve_means shadowing).1 mixedText _).mpr (.object hdenotes (map_member_eq_iff.mp rfl))

end Flowscript.Parameter
