import Flowscript.Proofs.Walk.Visits

/-!
# The steps of a run

A run is made of steps, each of which leads on to the next or stops the run. Here every part of a
run is written as such a sequence, so that what relates two runs is proved for single steps and
carried over to the whole by `Outcome.bind`. No step shortens the path.
-/

namespace Flowscript

/-- Goes on from a value, unless the run is stopped. -/
def Outcome.bind {α β : Type} (o : Outcome α) (next : α → Progress → Outcome β) : Outcome β :=
  match o with
  | ok a p => next a p
  | stopped cause p => .stopped cause p

/-- A turn as an outcome: the stack to go on with, if there is one. -/
def Turn.outcome : Turn → Outcome (Option (List Frame))
  | go stack p => .ok (some stack) p
  | done p => .ok none p
  | stopped cause p => .stopped cause p

namespace Setup

variable {setup : Setup} {p : Progress}

/-! ## Sequences of steps -/

/-- Goes on with a walk after a turn. -/
def goOn (setup : Setup) (stack? : Option (List Frame)) (p : Progress) : Outcome Unit :=
  match stack? with
  | none => .ok () p
  | some stack => setup.finish stack p

theorem finish_eq_bind (setup : Setup) (stack : List Frame) (p : Progress) :
    setup.finish stack p = (setup.turn stack p).outcome.bind setup.goOn := by
  rw [finish]
  split <;> simp [Turn.outcome, Outcome.bind, goOn, *]

theorem follow_eq_bind (setup : Setup) {target : String} {stack : List Frame} (p : Progress)
    (hpath : onPath target stack = false) :
    (setup.follow target stack p).outcome = (setup.dispatch target p).bind fun n q =>
      .ok (some ({ node := n, pending := setup.workflow.edges } :: stack)) q := by
  unfold follow
  rw [hpath, if_neg Bool.false_ne_true]
  cases setup.dispatch target p <;> rfl

theorem walk_eq_bind (setup : Setup) (entry : String) (p : Progress) :
    setup.walk entry p = (setup.dispatch entry p).bind fun n q =>
      setup.finish [{ node := n, pending := setup.workflow.edges }] q := by
  unfold walk
  cases setup.dispatch entry p <;> rfl

theorem walkAll_cons_eq_bind (setup : Setup) (n : Node) (more : List Node) (p : Progress) :
    setup.walkAll (n :: more) p =
      (setup.walk n.name p).bind fun _ q => setup.walkAll more q := by
  rw [walkAll]
  cases setup.walk n.name p <;> rfl

theorem execute_eq_bind (setup : Setup) (p : Progress) (hinputs : setup.workflow.inputs ≠ []) :
    setup.execute p = (setup.walkAll setup.workflow.inputs p).bind fun _ q =>
      .ok () (q.withState q.state.complete) := by
  unfold execute
  split
  · next hnil => exact absurd hnil hinputs
  · cases setup.walkAll setup.workflow.inputs p <;> rfl

theorem turn_of_outcome {stack next : List Frame} {q : Progress}
    (h : (setup.turn stack p).outcome = .ok (some next) q) : setup.turn stack p = .go next q := by
  cases hturn : setup.turn stack p <;> rw [hturn] at h <;> cases h
  rfl

/-! ## Paths grow -/

theorem Stretch.prefix_path {visits : List Visit} {o : Outcome Unit}
    (h : setup.Stretch p visits o) :
    p.state.path.toList <+: o.progress.state.path.toList :=
  ⟨_, h.path.symm⟩

theorem prefix_path_finish (setup : Setup) (stack : List Frame) (p : Progress) :
    p.state.path.toList <+: (setup.finish stack p).progress.state.path.toList := by
  obtain ⟨visits, hstretch⟩ := setup.exists_stretch_finish stack p
  exact hstretch.prefix_path

theorem prefix_path_walkAll (setup : Setup) (entries : List Node) (p : Progress) :
    p.state.path.toList <+: (setup.walkAll entries p).progress.state.path.toList := by
  obtain ⟨visits, hstretch⟩ := setup.exists_stretch_walkAll entries p
  exact hstretch.prefix_path

theorem prefix_path_goOn (setup : Setup) (stack? : Option (List Frame)) (p : Progress) :
    p.state.path.toList <+: (setup.goOn stack? p).progress.state.path.toList := by
  cases stack? with
  | none => exact List.prefix_refl _
  | some stack => exact setup.prefix_path_finish stack p

/-- A step leaves the path of the steps before it at the beginning of its own. -/
theorem mem_path_bind {α β : Type} {o : Outcome α} {next : α → Progress → Outcome β} {name : String}
    (hgrows : ∀ a q, q.state.path.toList <+: (next a q).progress.state.path.toList)
    (h : name ∈ o.progress.state.path) : name ∈ (o.bind next).progress.state.path := by
  cases o with
  | ok a q => exact Array.mem_toList_iff.mp ((hgrows a q).subset (Array.mem_toList_iff.mpr h))
  | stopped cause q => exact h

end Setup

end Flowscript
