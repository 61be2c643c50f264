import Flowscript.Run.State

/-!
# Frames

A walk keeps a stack of frames, the latest first: the nodes on the current path, each with the edges
that it has not looked at yet.
-/

namespace Flowscript

/-- A node on the current path, and the edges of the workflow it has not looked at. -/
structure Frame where
  node : Node
  pending : List Edge

namespace Frame

/-- The next edge that leaves the node, and the frame behind it. -/
def next? (f : Frame) : Option (Edge × Frame) :=
  match f.pending.dropWhile fun e => e.source ≠ f.node.name with
  | [] => none
  | e :: rest => some (e, { f with pending := rest })

theorem pending_next?_lt {f after : Frame} {e : Edge} (h : f.next? = some (e, after)) :
    after.pending.length < f.pending.length ∧ after.node = f.node := by
  unfold next? at h
  split at h
  · simp at h
  · rename_i rest hdrop
    have hle := (List.dropWhile_sublist (fun e : Edge => decide (e.source ≠ f.node.name))
      (l := f.pending)).length_le
    rw [hdrop] at hle
    simp only [Option.some.injEq, Prod.mk.injEq] at h
    obtain ⟨rfl, rfl⟩ := h
    simp only [List.length_cons] at hle
    exact ⟨by simp only; omega, rfl⟩

end Frame

/-- Whether an edge that leaves a node is followed. An edge with a condition is followed only from a
condition node, when that has come out accordingly. -/
def follows (n : Node) (e : Edge) (s : RunState) : Bool :=
  let outcome := ((s.result? n.name).map Value.truthy).getD false
  match e.kind with
  | .always => true
  | .whenTrue => n.kind = .condition && outcome
  | .whenFalse => n.kind = .condition && !outcome

/-- Whether a name is on a path. -/
def onPath (name : String) (stack : List Frame) : Bool :=
  stack.any fun f => f.node.name = name

/-- The names on a path from `name` to its end. -/
def cycleFrom (name : String) (stack : List Frame) : List String :=
  (stack.reverse.map fun f => f.node.name).dropWhile (· ≠ name)

end Flowscript
