import Flowscript.Run.Turn

/-!
# The weight of a walk

A walk ends whatever the limits are. The names on its path differ, so the path is never longer than
the workflow has nodes, and each frame on it looks at each edge once. `weight` makes that a number:
it bounds the turns that a stack still allows, and every turn that goes on lowers it.
-/

namespace Flowscript

/-- The nodes of a workflow whose names are not on a path. -/
def offPath (w : Workflow) (stack : List Frame) : Nat :=
  w.nodes.countP fun n => !onPath n.name stack

/-- How many turns looking at one edge may take, of `edges` edges in all, while `free` nodes are off
the path. -/
def edgeTurns (edges : Nat) : Nat → Nat
  | 0 => 1
  | free + 1 => edges * edgeTurns edges free + 2

/-- A bound on the turns that a stack still allows. -/
def weight (w : Workflow) : List Frame → Nat
  | [] => 0
  | f :: below =>
    f.pending.length * edgeTurns w.edges.length (offPath w (f :: below)) + 1 + weight w below

theorem edgeTurns_pos (edges free : Nat) : 0 < edgeTurns edges free := by
  cases free <;> simp [edgeTurns]

theorem edgeTurns_mono (edges : Nat) {m n : Nat} (h : m ≤ n) :
    edgeTurns edges m ≤ edgeTurns edges n := by
  induction n generalizing m with
  | zero => simp_all
  | succ n ih =>
    match m with
    | 0 => exact edgeTurns_pos _ _
    | m + 1 =>
      simp only [edgeTurns]
      have := Nat.mul_le_mul_left edges (ih (Nat.le_of_succ_le_succ h))
      omega

theorem onPath_cons_of_node {f g : Frame} {below : List Frame} (h : g.node = f.node)
    (name : String) : onPath name (g :: below) = onPath name (f :: below) := by
  simp [onPath, h]

theorem offPath_cons_of_node {f g : Frame} (w : Workflow) (below : List Frame)
    (h : g.node = f.node) : offPath w (g :: below) = offPath w (f :: below) := by
  simp only [offPath, onPath_cons_of_node h]

theorem node?_eq_some {w : Workflow} {name : String} {n : Node} (h : w.node? name = some n) :
    n ∈ w.nodes ∧ n.name = name := by
  unfold Workflow.node? at h
  exact ⟨List.mem_of_find?_eq_some h, by simpa using List.find?_some h⟩

theorem dispatch_eq_ok {setup : Setup} {name : String} {p q : Progress} {n : Node}
    (h : setup.dispatch name p = .ok n q) : setup.workflow.node? name = some n := by
  unfold Setup.dispatch at h
  split at h
  · simp at h
  · rename_i m hm
    split at h
    · simp at h
    · unfold Setup.perform at h
      split at h
      · simp at h
      · simp_all

theorem countP_lt_countP {α : Type} {p q : α → Bool} {a : α} {l : List α}
    (hle : ∀ b, p b = true → q b = true) (hmem : a ∈ l) (hp : p a = false) (hq : q a = true) :
    l.countP p < l.countP q := by
  induction l with
  | nil => simp at hmem
  | cons b more ih =>
    have htail := List.countP_mono_left (l := more) fun c _ => hle c
    rw [List.countP_cons, List.countP_cons]
    rcases List.mem_cons.1 hmem with rfl | hmem
    · simp only [hp, hq, Bool.false_eq_true, ↓reduceIte]
      omega
    · have hlt := ih hmem
      have hhead : (if p b = true then 1 else 0) ≤ (if q b = true then 1 else 0) := by
        by_cases h : p b = true
        · simp [h, hle b h]
        · simp [h]
      omega

theorem offPath_push_lt {w : Workflow} {name : String} {n : Node} {stack : List Frame}
    (pending : List Edge) (hn : w.node? name = some n) (hoff : onPath name stack = false) :
    offPath w ({ node := n, pending } :: stack) < offPath w stack := by
  obtain ⟨hmem, rfl⟩ := node?_eq_some hn
  refine countP_lt_countP (a := n) (fun m => ?_) hmem ?_ ?_
  · simp only [onPath, List.any_cons, Bool.not_or, Bool.and_eq_true]
    exact And.right
  · simp [onPath]
  · simp [hoff]

/-- Every turn that goes on lowers the weight. -/
theorem weight_lt_of_turn {setup : Setup} {stack next : List Frame} {p q : Progress}
    (h : setup.turn stack p = .go next q) :
    weight setup.workflow next < weight setup.workflow stack := by
  unfold Setup.turn at h
  split at h
  · simp at h
  · rename_i f below
    split at h
    · simp only [Turn.go.injEq] at h
      simp only [← h.1, weight]
      omega
    · rename_i e g hnext
      obtain ⟨hlt, hnode⟩ := Frame.pending_next?_lt hnext
      have hoff := offPath_cons_of_node setup.workflow below hnode
      have hpos := edgeTurns_pos setup.workflow.edges.length
        (offPath setup.workflow (f :: below))
      have hstep : (g.pending.length + 1) * edgeTurns setup.workflow.edges.length
          (offPath setup.workflow (f :: below)) ≤ f.pending.length *
            edgeTurns setup.workflow.edges.length (offPath setup.workflow (f :: below)) :=
        Nat.mul_le_mul_right _ hlt
      rw [Nat.add_mul, Nat.one_mul] at hstep
      split at h
      · unfold Setup.follow at h
        split at h
        · simp at h
        · rename_i hpath
          split at h
          · simp at h
          · rename_i n q' hdispatch
            simp only [Turn.go.injEq] at h
            have hpush := offPath_push_lt setup.workflow.edges
              (dispatch_eq_ok hdispatch) (Bool.eq_false_iff.2 hpath)
            rw [hoff] at hpush
            simp only [← h.1, weight, hoff]
            obtain ⟨free, hfree⟩ := Nat.exists_eq_add_of_lt hpush
            have hmono := edgeTurns_mono setup.workflow.edges.length
              (m := offPath setup.workflow
                ({ node := n, pending := setup.workflow.edges } :: g :: below))
              (n := offPath setup.workflow (f :: below) - 1) (by omega)
            have hmul := Nat.mul_le_mul_left setup.workflow.edges.length hmono
            have hsucc : edgeTurns setup.workflow.edges.length
                (offPath setup.workflow (f :: below)) =
                setup.workflow.edges.length * edgeTurns setup.workflow.edges.length
                  (offPath setup.workflow (f :: below) - 1) + 2 := by
              rw [show offPath setup.workflow (f :: below) =
                offPath setup.workflow (f :: below) - 1 + 1 by omega]
              rfl
            omega
      · simp only [Turn.go.injEq] at h
        simp only [← h.1, weight, hoff]
        omega

end Flowscript
