import Mathlib.Data.List.FinRange
import Mathlib.Data.Set.Card
import Mathlib.Logic.Relation
import Flowscript.Workflow.Basic

/-!
# Walks along edges

The edges of a workflow make a directed graph of names, in which two names may have several edges
between them. A walk is told by the places of its edges in the workflow, so that edges which are
equal but stand at different places make different walks. A walk is empty or starts with an edge
that leaves its first name; counted by the edges that leave a name in order, that is `encard_walks`.
-/

namespace Flowscript.Workflow

variable (w : Workflow) {source target : String}

/-- The workflow has an edge from one name to another. -/
def Adjacent (source target : String) : Prop :=
  ∃ e ∈ w.edges, e.source = source ∧ e.target = target

/-- A name to which edges lead from an input node. -/
def Reached (name : String) : Prop :=
  ∃ n ∈ w.inputs, Relation.ReflTransGen w.Adjacent n.name name

/-- The edges at some places lead, one after the other, from one name to another. -/
def IsWalk (source : String) : List (Fin w.edges.length) → String → Prop
  | [], target => source = target
  | i :: more, target => w.edges[i].source = source ∧ IsWalk w.edges[i].target more target

/-- The walks along edges from one name to another. -/
def walks (source target : String) : Set (List (Fin w.edges.length)) :=
  { places | w.IsWalk source places target }

/-- The walks that start with an edge at one of some places and end in a name. -/
def walksBy (starts : List (Fin w.edges.length)) (target : String) :
    Set (List (Fin w.edges.length)) :=
  { places | ∃ i ∈ starts, ∃ more ∈ w.walks w.edges[i].target target, places = i :: more }

/-- The places of the edges that leave a name, in order. -/
def leaving (source : String) : List (Fin w.edges.length) :=
  (List.finRange w.edges.length).filter fun i => w.edges[i].source = source

theorem nodup_leaving (source : String) : (w.leaving source).Nodup :=
  (List.nodup_finRange _).filter _

theorem mem_leaving {i : Fin w.edges.length} :
    i ∈ w.leaving source ↔ w.edges[i].source = source := by
  simp [leaving]

theorem outgoing_eq_map_leaving (source : String) :
    w.outgoing source = (w.leaving source).map fun i => w.edges[i] := by
  have hedges := List.map_getElem_finRange w.edges
  calc
    w.outgoing source = ((List.finRange w.edges.length).map fun i => w.edges[i]).filter
        fun e => e.source = source := congrArg (List.filter _) hedges.symm
    _ = (w.leaving source).map fun i => w.edges[i] := List.filter_map

theorem mem_outgoing {e : Edge} : e ∈ w.outgoing source ↔ e ∈ w.edges ∧ e.source = source := by
  simp [outgoing]

theorem encard_walksBy {starts : List (Fin w.edges.length)} (hstarts : starts.Nodup)
    (target : String) :
    (w.walksBy starts target).encard =
      (starts.map fun i => (w.walks w.edges[i].target target).encard).sum := by
  induction starts with
  | nil => simp [walksBy]
  | cons i starts ih =>
    obtain ⟨hi, hstarts⟩ := List.nodup_cons.mp hstarts
    have hsplit : w.walksBy (i :: starts) target =
        List.cons i '' w.walks w.edges[i].target target ∪ w.walksBy starts target := by
      ext places
      constructor
      · rintro ⟨j, hj, more, hmore, rfl⟩
        rcases List.mem_cons.mp hj with rfl | hj
        · exact .inl ⟨more, hmore, rfl⟩
        · exact .inr ⟨j, hj, more, hmore, rfl⟩
      · rintro (⟨more, hmore, rfl⟩ | ⟨j, hj, more, hmore, rfl⟩)
        · exact ⟨i, List.mem_cons_self, more, hmore, rfl⟩
        · exact ⟨j, List.mem_cons_of_mem i hj, more, hmore, rfl⟩
    have hdisjoint : Disjoint (List.cons i '' w.walks w.edges[i].target target)
        (w.walksBy starts target) := by
      refine Set.disjoint_left.mpr ?_
      rintro _ ⟨more, -, rfl⟩ ⟨j, hj, _, -, heq⟩
      exact hi ((List.cons.inj heq).1 ▸ hj)
    rw [hsplit, Set.encard_union_eq hdisjoint, List.cons_injective.encard_image, ih hstarts,
      List.map_cons, List.sum_cons]

/-- The walks from one name to another: the empty one, if the names are the same, and those behind
each edge that leaves the first. -/
theorem encard_walks (source target : String) :
    (w.walks source target).encard = (if source = target then 1 else 0) +
      ((w.outgoing source).map fun e => (w.walks e.target target).encard).sum := by
  have hsplit : w.walks source target =
      { places | places = [] ∧ source = target } ∪ w.walksBy (w.leaving source) target := by
    ext places
    cases places with
    | nil => simp [walks, walksBy, IsWalk]
    | cons i more => simp [walks, walksBy, IsWalk, mem_leaving]
  have hdisjoint : Disjoint { places | places = [] ∧ source = target }
      (w.walksBy (w.leaving source) target) := by
    refine Set.disjoint_left.mpr ?_
    rintro _ ⟨rfl, -⟩ ⟨i, -, more, -, heq⟩
    cases heq
  have hempty : Set.encard { places : List (Fin w.edges.length) | places = [] ∧ source = target } =
      if source = target then 1 else 0 := by
    split
    · next h => simp [h]
    · next h => simp [h]
  rw [hsplit, Set.encard_union_eq hdisjoint, hempty, w.encard_walksBy (w.nodup_leaving source),
    outgoing_eq_map_leaving, List.map_map]
  rfl

end Flowscript.Workflow
