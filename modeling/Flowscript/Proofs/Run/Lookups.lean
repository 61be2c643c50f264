import Flowscript.Proofs.Text.Cutting
import Flowscript.Run.Scope

/-!
# Names and paths

A name stands for the value of the variable of this name, or else for that of the input. A path of
names leads from variable to value through nested objects; the input has no paths. Looking up finds
exactly these values.
-/

namespace Flowscript

/-- A name stands for a value: that of the variable, or that of the input if there is no such
variable. -/
inductive Scope.Holds (s : Scope) (name : String) (v : Value) : Prop
  | ofVariable (h : s.vars.get? name = some v)
  | ofInput (hvars : s.vars.get? name = none) (h : s.input.get? name = some v)

/-- A path of names leads from an object to a value: each name is that of a member, and each but the
last that of an object, where the path goes on. -/
inductive Object.Leads : Object → List String → Value → Prop
  | last {o : Object} {name : String} {v : Value} (h : o.get? name = some v) : Leads o [name] v
  | step {o inner : Object} {name : String} {path : List String} {v : Value}
      (h : o.get? name = some (.object inner)) (hpath : Leads inner path v) :
      Leads o (name :: path) v

/-- Names with points between them lead from a variable to a value. -/
def Scope.LeadsTo (s : Scope) (path : List Char) (v : Value) : Prop :=
  ∃ names : List (List Char), ['.'].intercalate names = path ∧ (∀ name ∈ names, '.' ∉ name) ∧
    Object.Leads s.vars (names.map String.ofList) v

variable {s : Scope} {name : String} {v : Value}

theorem Scope.lookup_eq_some_iff : s.lookup name = some v ↔ s.Holds name v := by
  unfold Scope.lookup
  constructor
  · intro h
    cases hvars : s.vars.get? name with
    | some w =>
      rw [hvars] at h
      exact .ofVariable (hvars.trans h)
    | none =>
      rw [hvars] at h
      exact .ofInput hvars h
  · rintro (h | ⟨hvars, h⟩)
    · rw [h]
    · rw [hvars]
      exact h

theorem Scope.lookup_eq_none_iff : s.lookup name = none ↔ ∀ v, ¬ s.Holds name v := by
  simp only [← Scope.lookup_eq_some_iff, Option.eq_none_iff_forall_ne_some, ne_eq]

theorem Value.walk?_object_cons (o : Object) (name : String) (path : List String) :
    (Value.object o).walk? (name :: path) = (o.get? name).bind fun w => w.walk? path := rfl

/-- Only objects have paths in them. -/
theorem Value.exists_eq_object_of_walk? {w : Value} {path : List String}
    (h : w.walk? (name :: path) = some v) : ∃ inner, w = .object inner := by
  cases w with
  | object inner => exact ⟨inner, rfl⟩
  | null | bool | int | float | string | list => cases h

/-- Walking along a path finds the value that the path leads to. -/
theorem Value.walk?_cons_eq_some_iff {o : Object} {path : List String} :
    (Value.object o).walk? (name :: path) = some v ↔ Object.Leads o (name :: path) v := by
  induction path generalizing o name with
  | nil =>
    rw [walk?_object_cons, Option.bind_eq_some_iff]
    constructor
    · rintro ⟨w, hget, hw⟩
      exact .last (hget.trans hw)
    · rintro (hget | ⟨-, ⟨⟩⟩)
      exact ⟨v, hget, rfl⟩
  | cons next path ih =>
    rw [walk?_object_cons, Option.bind_eq_some_iff]
    constructor
    · rintro ⟨w, hget, hwalk⟩
      obtain ⟨inner, rfl⟩ := exists_eq_object_of_walk? hwalk
      exact .step hget (ih.mp hwalk)
    · rintro (_ | ⟨hget, hpath⟩)
      exact ⟨_, hget, ih.mpr hpath⟩

theorem Scope.lookupPath_eq_some_iff {path : List Char} :
    s.lookupPath path = some v ↔ s.LeadsTo path v := by
  constructor
  · intro h
    obtain ⟨first, more, hpieces, -, -⟩ := Text.exists_pieces_eq_cons '.' path
    refine ⟨Text.pieces '.' path, Text.intercalate_pieces '.' path,
      fun name hname => Text.not_mem_of_mem_pieces hname, ?_⟩
    rw [Scope.lookupPath, hpieces, List.map_cons] at h
    rw [hpieces, List.map_cons]
    exact Value.walk?_cons_eq_some_iff.mp h
  · rintro ⟨names, rfl, hnames, hleads⟩
    cases names with
    | nil => cases hleads
    | cons first more =>
      rw [Scope.lookupPath, Text.pieces_intercalate hnames, List.map_cons]
      exact Value.walk?_cons_eq_some_iff.mpr hleads

end Flowscript
