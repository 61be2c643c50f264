import Mathlib.Data.Finset.Card
import Mathlib.Data.List.Chain
import Flowscript.Proofs.Walk.Turns

/-!
# The loop of a walk

A walk takes turn after turn until its stack is empty or a turn stops the run. The names on its
stack are those of different nodes at any time, and what a turn costs of the weight of the stack
bounds the turns by the size of the workflow alone. The main statement, `walk_ends`, holds whatever
the limits are: they may stop a walk early, but it is not they that make it end.
-/

namespace Flowscript

/-- A bound on the turns of a walk, by the numbers of nodes and edges of the workflow. -/
def turnLimit (nodes edges : Nat) : Nat :=
  edges * edgeTurns edges nodes + 2

/-- A stack as walks have it: its frames are of different names, each of the node that the workflow
defines under the name, and what they have not looked at are edges of the workflow. -/
structure WellFormed (w : Workflow) (stack : List Frame) : Prop where
  nodup : (pathOf stack).Nodup
  defined {f : Frame} (hf : f ∈ stack) : w.node? f.node.name = some f.node
  pending {f : Frame} (hf : f ∈ stack) : f.pending ⊆ w.edges

theorem Frame.pending_of_next? {f g : Frame} {e : Edge} (h : f.next? = some (e, g)) :
    e ∈ f.pending ∧ g.pending ⊆ f.pending := by
  unfold next? at h
  split at h
  · cases h
  · next rest hdrop =>
    cases h
    have hsuffix := List.dropWhile_suffix (l := f.pending) fun e => e.source ≠ f.node.name
    rw [hdrop] at hsuffix
    exact ⟨hsuffix.subset List.mem_cons_self,
      fun d hd => hsuffix.subset (List.mem_cons_of_mem e hd)⟩

theorem offPath_le (w : Workflow) (stack : List Frame) : offPath w stack ≤ w.nodes.length :=
  List.countP_le_length

theorem weight_entry_lt (w : Workflow) (n : Node) :
    weight w [{ node := n, pending := w.edges }] < turnLimit w.nodes.length w.edges.length := by
  have hfree := offPath_le w [{ node := n, pending := w.edges }]
  have hturns := Nat.mul_le_mul_left w.edges.length (edgeTurns_mono w.edges.length hfree)
  simp only [weight, turnLimit]
  omega

namespace WellFormed

variable {w : Workflow} {stack below : List Frame} {f g : Frame}

theorem defines (h : WellFormed w stack) {name : String} (hname : name ∈ pathOf stack) :
    w.defines name = true := by
  obtain ⟨f, hf, rfl⟩ := List.mem_map.mp hname
  obtain ⟨hmem, -⟩ := node?_eq_some (h.defined hf)
  exact (w.defines_iff _).mpr ⟨f.node, hmem, rfl⟩

/-- Different names of nodes are at most as many as there are. -/
theorem length_le (h : WellFormed w stack) :
    stack.length ≤ (w.nodes.map Node.name).toFinset.card := by
  have hsubset : (pathOf stack).toFinset ⊆ (w.nodes.map Node.name).toFinset := by
    intro name hname
    obtain ⟨n, hn, rfl⟩ := (w.defines_iff name).mp (h.defines (List.mem_toFinset.mp hname))
    exact List.mem_toFinset.mpr (List.mem_map_of_mem hn)
  calc
    stack.length = (pathOf stack).length := (List.length_map _).symm
    _ = (pathOf stack).toFinset.card := (List.toFinset_card_of_nodup h.nodup).symm
    _ ≤ (w.nodes.map Node.name).toFinset.card := Finset.card_le_card hsubset

theorem entry {n : Node} {name : String} (hnode : w.node? name = some n) :
    WellFormed w [{ node := n, pending := w.edges }] := by
  obtain ⟨-, rfl⟩ := node?_eq_some hnode
  refine ⟨List.nodup_singleton _, fun hf => ?_, fun hf => ?_⟩
  · obtain rfl := List.mem_singleton.mp hf
    exact hnode
  · obtain rfl := List.mem_singleton.mp hf
    exact List.Subset.refl _

theorem pop (h : WellFormed w (f :: below)) : WellFormed w below where
  nodup := (List.nodup_cons.mp h.nodup).2
  defined hf := h.defined (List.mem_cons_of_mem f hf)
  pending hf := h.pending (List.mem_cons_of_mem f hf)

theorem next {e : Edge} (h : WellFormed w (f :: below)) (hnext : f.next? = some (e, g)) :
    WellFormed w (g :: below) := by
  obtain ⟨-, hnode, -⟩ := Frame.leaving_of_next?_some hnext
  obtain ⟨-, hpending⟩ := Frame.pending_of_next? hnext
  refine ⟨?_, fun hf => ?_, fun hf => ?_⟩
  · rw [pathOf_next hnext]
    exact h.nodup
  · rcases List.mem_cons.mp hf with rfl | hf
    · rw [hnode]
      exact h.defined List.mem_cons_self
    · exact h.pop.defined hf
  · rcases List.mem_cons.mp hf with rfl | hf
    · exact List.Subset.trans hpending (h.pending List.mem_cons_self)
    · exact h.pop.pending hf

theorem push {n : Node} {name : String} (h : WellFormed w stack) (hnode : w.node? name = some n)
    (hpath : name ∉ pathOf stack) : WellFormed w ({ node := n, pending := w.edges } :: stack) := by
  obtain ⟨-, rfl⟩ := node?_eq_some hnode
  refine ⟨List.nodup_cons.mpr ⟨hpath, h.nodup⟩, fun hf => ?_, fun hf => ?_⟩
  · rcases List.mem_cons.mp hf with rfl | hf
    · exact hnode
    · exact h.defined hf
  · rcases List.mem_cons.mp hf with rfl | hf
    · exact List.Subset.refl _
    · exact h.pending hf

end WellFormed

namespace Setup

variable {setup : Setup} {entry : String} {p q r : Progress} {turns : Nat} {stack next : List Frame}

theorem wellFormed_turn (h : WellFormed setup.workflow stack)
    (hturn : setup.turn stack p = .go next q) : WellFormed setup.workflow next := by
  cases turns_of_eq hturn with
  | pop => exact h.pop
  | skip hnext => exact h.next hnext
  | push hnext hfollow hpath hdispatch => exact (h.next hnext).push (dispatch_eq_ok hdispatch) hpath

/-- The stacks and the progress that a walk comes to from an entry, and after how many turns. -/
inductive Comes (setup : Setup) (entry : String) (p : Progress) :
    Nat → List Frame → Progress → Prop
  | entered {n : Node} {q : Progress} (hdispatch : setup.dispatch entry p = .ok n q) :
      Comes setup entry p 0 [{ node := n, pending := setup.workflow.edges }] q
  | turn {turns : Nat} {stack next : List Frame} {q r : Progress}
      (hcomes : Comes setup entry p turns stack q) (hturn : setup.turn stack q = .go next r) :
      Comes setup entry p (turns + 1) next r

namespace Comes

theorem wellFormed (h : setup.Comes entry p turns stack q) : WellFormed setup.workflow stack := by
  induction h with
  | entered hdispatch => exact .entry (dispatch_eq_ok hdispatch)
  | turn _ hturn ih => exact wellFormed_turn ih hturn

/-- Each turn takes its share of the weight that the stack had at first. -/
theorem turns_add_weight_lt (h : setup.Comes entry p turns stack q) :
    turns + weight setup.workflow stack <
      turnLimit setup.workflow.nodes.length setup.workflow.edges.length := by
  induction h with
  | entered hdispatch => simpa using weight_entry_lt setup.workflow _
  | turn _ hturn ih =>
    have hweight := weight_lt_of_turn hturn
    omega

end Comes

/-- The turn with which a walk comes to its outcome. -/
def lastTurn : Outcome Unit → Turn
  | .ok _ p => .done p
  | .stopped cause p => .stopped cause p

theorem exists_lastTurn_finish (h : setup.Comes entry p turns stack q) :
    ∃ turns s r, setup.Comes entry p turns s r ∧
      setup.turn s r = lastTurn (setup.finish stack q) := by
  fun_induction finish setup stack q generalizing turns with
  | case1 stack q r hturn => exact ⟨turns, stack, q, h, hturn⟩
  | case2 stack q cause r hturn => exact ⟨turns, stack, q, h, hturn⟩
  | case3 stack q next r hturn ih => exact ih (h.turn hturn)

theorem exists_lastTurn {n : Node} (hdispatch : setup.dispatch entry p = .ok n q) :
    ∃ turns s r, setup.Comes entry p turns s r ∧
      setup.turn s r = lastTurn (setup.walk entry p) := by
  simpa only [walk, hdispatch] using exists_lastTurn_finish (.entered hdispatch)

/-- A walk that enters its first node ends, and it takes fewer turns than a number that depends on
how many nodes and edges the workflow has and on nothing else. At any time the names on its stack
are different names of nodes, so that the stack is never deeper than there are such names. -/
theorem walk_ends (setup : Setup) (entry : String) (p : Progress) :
    (∀ n q, setup.dispatch entry p = .ok n q →
      ∃ turns stack r, setup.Comes entry p turns stack r ∧
        setup.turn stack r = lastTurn (setup.walk entry p)) ∧
    ∀ turns stack q, setup.Comes entry p turns stack q →
      turns < turnLimit setup.workflow.nodes.length setup.workflow.edges.length ∧
      (pathOf stack).Nodup ∧
      (∀ name ∈ pathOf stack, setup.workflow.defines name = true) ∧
      stack.length ≤ (setup.workflow.nodes.map Node.name).toFinset.card := by
  refine ⟨fun n q hdispatch => exists_lastTurn hdispatch, fun turns stack q hcomes => ?_⟩
  have hform := hcomes.wellFormed
  have hturns := hcomes.turns_add_weight_lt
  exact ⟨by omega, hform.nodup, fun name => hform.defines, hform.length_le⟩

end Setup

end Flowscript
