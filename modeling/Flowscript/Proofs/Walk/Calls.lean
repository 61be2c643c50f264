import Flowscript.Proofs.Walk.Visits

/-!
# The calls of a run

A visit makes one call if its node delegates its work, and none otherwise; a node that cannot make
its call stops the run. So the calls of a run are those of its visits, in their order.
-/

namespace Flowscript.Setup

/-- The call that a visit makes: that of its node, in the scope in which the node is dispatched. -/
def callOf (setup : Setup) (v : Visit) : Option Call :=
  setup.call? v.node v.before.state.scope

theorem calls_work (setup : Setup) (n : Node) (p : Progress) :
    (setup.work n p).progress.calls.toList =
      p.calls.toList ++ (setup.call? n p.state.scope).toList := by
  by_cases hdelegates : n.delegates
  · have hwork := setup.delegates_work p hdelegates
    generalize setup.work n p = o at hwork ⊢
    cases hwork with
    | unregistered kind callee hcall | unfit callee input hkind hcall => simp [hcall]
    | late callee seconds hcall | failed callee message hcall =>
      simp [hcall, Progress.note]
    | answered answer hcall => simp [hcall, Progress.note, Progress.setResult, Progress.withState]
  · rw [call?_of_not_delegates setup _ hdelegates]
    have hwork := setup.works_work n p
    generalize setup.work n p = o at hwork ⊢
    cases hwork with
    | input => simp
    | output => simp [outputWork, Progress.withState]
    | condition =>
      unfold conditionWork
      dsimp only
      split <;> simp [noteFault, Progress.setResult, Progress.withState, Progress.report]
    | refused hkind | failed hkind | answered hkind => exact absurd hkind hdelegates

theorem calls_perform (setup : Setup) (v : Visit) :
    (setup.perform v.node v.before).progress.calls.toList =
      v.before.calls.toList ++ (setup.callOf v).toList := by
  have hwork := setup.calls_work v.node (setup.entered v.node v.before)
  rw [progress_perform]
  split <;> exact hwork

/-- A node that delegates its work does not get through without its call. -/
theorem exists_callOf_of_goesThrough {setup : Setup} {v : Visit}
    (hthrough : setup.goesThrough v = true) (hdelegates : v.node.delegates) :
    ∃ call, setup.callOf v = some call := by
  have hwork := setup.delegates_work (setup.entered v.node v.before) hdelegates
  unfold goesThrough perform at hthrough
  generalize setup.work v.node (setup.entered v.node v.before) = o at hwork hthrough
  cases hwork with
  | unregistered | unfit | late | failed => cases hthrough
  | answered answer hcall => exact ⟨_, hcall⟩

end Flowscript.Setup
