import Flowscript.Run.Walk

/-!
# What a turn does

A turn of a walk has six forms, and each is stated here once with all that holds in it. What a walk
preserves is proved from them, case by case.
-/

namespace Flowscript

/-- The names on the path of a stack, the latest first. -/
def pathOf (stack : List Frame) : List String :=
  stack.map fun f => f.node.name

@[simp] theorem pathOf_nil : pathOf [] = [] := rfl

@[simp] theorem pathOf_cons (f : Frame) (below : List Frame) :
    pathOf (f :: below) = f.node.name :: pathOf below := rfl

theorem onPath_iff (name : String) (stack : List Frame) :
    onPath name stack = true ↔ name ∈ pathOf stack := by
  simp [onPath, pathOf]

theorem cycleFrom_eq (name : String) (stack : List Frame) :
    cycleFrom name stack = (pathOf stack).reverse.dropWhile (· ≠ name) := by
  simp [cycleFrom, pathOf]

namespace Frame

/-- The edges that leave the node of a frame and are still to be looked at, in order. -/
def leaving (f : Frame) : List Edge :=
  f.pending.filter fun e => e.source = f.node.name

/-- A frame that has all edges of a workflow ahead looks at all that leave its node. -/
theorem leaving_all (w : Workflow) (n : Node) :
    leaving { node := n, pending := w.edges } = w.outgoing n.name := rfl

theorem leaving_eq_dropWhile (f : Frame) :
    f.leaving = (f.pending.dropWhile fun e => e.source ≠ f.node.name).filter
      fun e => e.source = f.node.name := by
  unfold leaving
  induction f.pending with
  | nil => rfl
  | cons e rest ih =>
    by_cases h : e.source = f.node.name
    · simp [h]
    · simp [h, ih]

theorem leaving_of_next?_none {f : Frame} (h : f.next? = none) : f.leaving = [] := by
  rw [leaving_eq_dropWhile]
  unfold next? at h
  split at h
  · next hdrop => rw [hdrop]; rfl
  · simp at h

theorem leaving_of_next?_some {f g : Frame} {e : Edge} (h : f.next? = some (e, g)) :
    f.leaving = e :: g.leaving ∧ g.node = f.node ∧ e.source = f.node.name := by
  rw [leaving_eq_dropWhile]
  unfold next? at h
  split at h
  · simp at h
  · next e' rest hdrop =>
    have hhead := List.head?_dropWhile_not (fun e => decide (e.source ≠ f.node.name)) f.pending
    rw [hdrop] at hhead ⊢
    have hsource : e'.source = f.node.name := by simpa using hhead
    simp only [Option.some.injEq, Prod.mk.injEq] at h
    obtain ⟨rfl, rfl⟩ := h
    exact ⟨by simp [hsource, leaving], rfl, hsource⟩

end Frame

theorem pathOf_next {f g : Frame} {e : Edge} (h : f.next? = some (e, g)) (below : List Frame) :
    pathOf (g :: below) = pathOf (f :: below) := by
  obtain ⟨-, hnode, -⟩ := Frame.leaving_of_next?_some h
  simp [hnode]

namespace Setup

/-- What a turn leads to from a stack and the progress so far, with all that holds in each case. -/
inductive Turns (setup : Setup) : List Frame → Progress → Turn → Prop
  | done (p : Progress) : Turns setup [] p (.done p)
  | pop {f : Frame} {below : List Frame} {p : Progress} (hnext : f.next? = none) :
      Turns setup (f :: below) p (.go below p)
  | skip {f g : Frame} {e : Edge} {below : List Frame} {p : Progress}
      (hnext : f.next? = some (e, g)) (hskip : follows g.node e p.state = false) :
      Turns setup (f :: below) p (.go (g :: below) p)
  | cycle {f g : Frame} {e : Edge} {below : List Frame} {p : Progress}
      (hnext : f.next? = some (e, g)) (hfollow : follows g.node e p.state = true)
      (hpath : e.target ∈ pathOf (g :: below)) :
      Turns setup (f :: below) p (.stopped (.cycleDetected setup.workflow.name e.target
        ((pathOf (g :: below)).reverse.dropWhile (· ≠ e.target))) p)
  | fail {f g : Frame} {e : Edge} {below : List Frame} {p q : Progress} {cause : Failure}
      (hnext : f.next? = some (e, g)) (hfollow : follows g.node e p.state = true)
      (hpath : e.target ∉ pathOf (g :: below))
      (hdispatch : setup.dispatch e.target p = .stopped cause q) :
      Turns setup (f :: below) p (.stopped cause q)
  | push {f g : Frame} {e : Edge} {below : List Frame} {p q : Progress} {n : Node}
      (hnext : f.next? = some (e, g)) (hfollow : follows g.node e p.state = true)
      (hpath : e.target ∉ pathOf (g :: below)) (hdispatch : setup.dispatch e.target p = .ok n q) :
      Turns setup (f :: below) p
        (.go ({ node := n, pending := setup.workflow.edges } :: g :: below) q)

theorem turns_turn (setup : Setup) (stack : List Frame) (p : Progress) :
    Turns setup stack p (setup.turn stack p) := by
  unfold turn
  split
  · exact .done p
  · next f below =>
    split
    · next hnext => exact .pop hnext
    · next e g hnext =>
      split
      · next hfollow =>
        unfold follow
        split
        · next hpath =>
          rw [cycleFrom_eq]
          exact .cycle hnext hfollow ((onPath_iff _ _).1 hpath)
        · next hpath =>
          rw [onPath_iff] at hpath
          split
          · next hdispatch => exact .fail hnext hfollow hpath hdispatch
          · next hdispatch => exact .push hnext hfollow hpath hdispatch
      · next hskip => exact .skip hnext (Bool.eq_false_iff.2 hskip)

theorem turn_of_next {f g : Frame} {e : Edge} (setup : Setup) (below : List Frame) (p : Progress)
    (hnext : f.next? = some (e, g)) :
    setup.turn (f :: below) p =
      if follows g.node e p.state then setup.follow e.target (g :: below) p
      else .go (g :: below) p := by
  simp [turn, hnext]

theorem follow_ne_go (setup : Setup) (target : String) (stack : List Frame) (p q : Progress) :
    setup.follow target stack p ≠ .go stack q := by
  intro h
  unfold follow at h
  split at h
  · cases h
  · split at h
    · cases h
    · simp at h

theorem turns_of_eq {setup : Setup} {stack : List Frame} {p : Progress} {t : Turn}
    (h : setup.turn stack p = t) : Turns setup stack p t :=
  h ▸ setup.turns_turn stack p

end Setup

end Flowscript
