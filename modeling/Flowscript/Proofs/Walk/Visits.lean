import Flowscript.Proofs.Walk.Causes

/-!
# The visits of a run

A run is made of visits. It enters nodes one after the other, each in the progress to which the
visits before have led, and then it goes through, or a further step is refused, or the work of the
node that it has entered last stops it. That is `exists_history`. What each visit makes of a part of
the progress, a run makes of it visit by visit, which is `History.folds`, and what each visit
appends to a record, a run appends, which is `History.appends`: so the variables of a run, its path,
its calls and its events are known once those of a single visit are.
-/

namespace Flowscript

/-- A node that a run enters, and the progress before. -/
structure Visit where
  node : Node
  before : Progress

@[simp] theorem Outcome.progress_ok {α : Type} (a : α) (p : Progress) :
    (ok a p).progress = p := rfl

@[simp] theorem Outcome.progress_stopped {α : Type} (cause : Failure) (p : Progress) :
    (stopped cause p : Outcome α).progress = p := rfl

/-- The outcome of a run whose walks have come to an outcome. -/
def Outcome.complete : Outcome Unit → Outcome Unit
  | ok _ p => .ok () (p.withState p.state.complete)
  | stopped cause p => .stopped cause p

namespace Setup

variable {setup : Setup} {p q r : Progress} {n : Node} {name : String} {cause : Failure}
  {visits more : List Visit} {o : Outcome Unit} {stack : List Frame}

/-! ## Single visits -/

theorem perform_of_dispatch (h : setup.dispatch name p = .ok n q) :
    n.name = name ∧ setup.perform n p = .ok n q := by
  have hcases := setup.dispatches_dispatch name p
  rw [h] at hcases
  cases hcases with
  | completed hnode hadmitted hwork =>
    exact ⟨(node?_eq_some hnode).2, by simp [perform, hwork]⟩

/-- A dispatch that is stopped is refused and changes nothing, or the work of its node is
stopped. -/
theorem dispatch_stopped (h : setup.dispatch name p = .stopped cause q) :
    (cause.isRefusal = true ∧ q = p) ∨ cause.isOfWork = true ∧
      ∃ n, n.name = name ∧ setup.workflow.node? name = some n ∧
        setup.perform n p = .stopped cause q := by
  have hcases := setup.dispatches_dispatch name p
  rw [h] at hcases
  cases hcases with
  | unknown hnode => exact .inl ⟨rfl, rfl⟩
  | refused hnode hrefusal =>
    obtain ⟨visits, rfl⟩ := exists_of_refusal? hrefusal
    exact .inl ⟨rfl, rfl⟩
  | @failed n _ _ hnode hadmitted hwork =>
    exact .inr ⟨isOfWork_of_work hwork, n, (node?_eq_some hnode).2, hnode, by simp [perform, hwork]⟩

/-- Whether a visit goes through, that is, the work of its node does not stop the run. -/
def goesThrough (setup : Setup) (v : Visit) : Bool :=
  (setup.perform v.node v.before).cause?.isNone

/-- A visit is the work of its node, and the report that this is done if the visit goes through. -/
theorem progress_perform (setup : Setup) (n : Node) (p : Progress) :
    (setup.perform n p).progress =
      if setup.goesThrough ⟨n, p⟩ then
        (setup.work n (setup.entered n p)).progress.report
          (.nodeCompleted setup.run setup.workflow.name n.name)
      else (setup.work n (setup.entered n p)).progress := by
  unfold goesThrough perform
  cases setup.work n (setup.entered n p) <;> rfl

/-- Whatever becomes of a visit, its node is entered, and but for its results nothing else is
changed. -/
theorem exists_state_perform (setup : Setup) (n : Node) (p : Progress) :
    ∃ vars output conditionErrors, (setup.perform n p).progress.state =
      { p.state.enter n.name with vars, output, conditionErrors } := by
  obtain ⟨vars, output, conditionErrors, hstate⟩ := setup.exists_state_work n (setup.entered n p)
  refine ⟨vars, output, conditionErrors, ?_⟩
  rw [progress_perform]
  split <;> exact hstate

theorem path_perform (setup : Setup) (n : Node) (p : Progress) :
    (setup.perform n p).progress.state.path = p.state.path.push n.name := by
  obtain ⟨vars, output, conditionErrors, hstate⟩ := setup.exists_state_perform n p
  rw [hstate, RunState.enter]

/-! ## Runs -/

/-- From some progress on, visits are made that all go through and lead to another progress. -/
inductive Visits (setup : Setup) (p : Progress) : List Visit → Progress → Prop
  | start : Visits setup p [] p
  | visit {visits : List Visit} {n : Node} {q r : Progress} (hvisits : Visits setup p visits q)
      (hdispatch : setup.dispatch n.name q = .ok n r) : Visits setup p (visits ++ [⟨n, q⟩]) r

/-- The visits of a stretch of a run, and its outcome. -/
inductive Stretch (setup : Setup) (p : Progress) : List Visit → Outcome Unit → Prop
  | through {visits : List Visit} {q : Progress} (hvisits : Visits setup p visits q) :
      Stretch setup p visits (.ok () q)
  | refused {visits : List Visit} {q : Progress} {cause : Failure}
      (hvisits : Visits setup p visits q) (hcause : cause.isRefusal = true) :
      Stretch setup p visits (.stopped cause q)
  | failed {visits : List Visit} {n : Node} {q r : Progress} {cause : Failure}
      (hvisits : Visits setup p visits q) (hcause : cause.isOfWork = true)
      (hnode : setup.workflow.node? n.name = some n)
      (hdispatch : setup.dispatch n.name q = .stopped cause r)
      (hperform : setup.perform n q = .stopped cause r) :
      Stretch setup p (visits ++ [⟨n, q⟩]) (.stopped cause r)

/-- The visits of a whole run, and its outcome. -/
def History (setup : Setup) (p : Progress) (visits : List Visit) (o : Outcome Unit) : Prop :=
  ∃ walks, setup.Stretch p visits walks ∧ o = walks.complete

namespace Visits

theorem single (hdispatch : setup.dispatch name p = .ok n q) : setup.Visits p [⟨n, p⟩] q := by
  obtain ⟨rfl, -⟩ := perform_of_dispatch hdispatch
  exact .visit .start hdispatch

theorem append (h : setup.Visits p visits q) (hmore : setup.Visits q more r) :
    setup.Visits p (visits ++ more) r := by
  induction hmore with
  | start => simpa using h
  | visit _ hdispatch ih => simpa using ih.visit hdispatch

theorem appendStretch (h : setup.Visits p visits q) (hmore : setup.Stretch q more o) :
    setup.Stretch p (visits ++ more) o := by
  cases hmore with
  | through hvisits => exact .through (h.append hvisits)
  | refused hvisits hcause => exact .refused (h.append hvisits) hcause
  | failed hvisits hcause hnode hdispatch hperform =>
    rw [← List.append_assoc]
    exact .failed (h.append hvisits) hcause hnode hdispatch hperform

end Visits

/-- A stretch that goes through may be followed by another. -/
theorem Stretch.append (h : setup.Stretch p visits (.ok () q)) (hmore : setup.Stretch q more o) :
    setup.Stretch p (visits ++ more) o := by
  cases h with
  | through hvisits => exact hvisits.appendStretch hmore

/-! ## The visits of walks -/

theorem exists_stretch_of_dispatch (h : setup.dispatch name p = .stopped cause q) :
    ∃ visits, setup.Stretch p visits (.stopped cause q) := by
  obtain ⟨hcause, rfl⟩ | ⟨hcause, n, rfl, hnode, hperform⟩ := dispatch_stopped h
  · exact ⟨[], .refused .start hcause⟩
  · exact ⟨[⟨n, p⟩], .failed .start hcause hnode h hperform⟩

theorem exists_stretch_finish (setup : Setup) (stack : List Frame) (p : Progress) :
    ∃ visits, setup.Stretch p visits (setup.finish stack p) := by
  fun_induction finish setup stack p with
  | case1 stack p q hturn =>
    cases turns_of_eq hturn
    exact ⟨[], .through .start⟩
  | case2 stack p cause q hturn =>
    cases turns_of_eq hturn with
    | cycle => exact ⟨[], .refused .start rfl⟩
    | fail hnext hfollow hpath hdispatch => exact exists_stretch_of_dispatch hdispatch
  | case3 stack p next q hturn ih =>
    obtain ⟨visits, hstretch⟩ := ih
    cases turns_of_eq hturn with
    | pop | skip => exact ⟨visits, hstretch⟩
    | push hnext hfollow hpath hdispatch =>
      exact ⟨_, (Visits.single hdispatch).appendStretch hstretch⟩

theorem exists_stretch_walk (setup : Setup) (entry : String) (p : Progress) :
    ∃ visits, setup.Stretch p visits (setup.walk entry p) := by
  unfold walk
  split
  · next hdispatch => exact exists_stretch_of_dispatch hdispatch
  · next n q hdispatch =>
    obtain ⟨visits, hstretch⟩ :=
      setup.exists_stretch_finish [{ node := n, pending := setup.workflow.edges }] q
    exact ⟨_, (Visits.single hdispatch).appendStretch hstretch⟩

theorem exists_stretch_walkAll (setup : Setup) (entries : List Node) (p : Progress) :
    ∃ visits, setup.Stretch p visits (setup.walkAll entries p) := by
  induction entries generalizing p with
  | nil => exact ⟨[], .through .start⟩
  | cons n more ih =>
    obtain ⟨visits, hwalk⟩ := setup.exists_stretch_walk n.name p
    rw [walkAll]
    generalize setup.walk n.name p = first at hwalk
    cases first with
    | stopped cause q => exact ⟨visits, hwalk⟩
    | ok u q =>
      obtain ⟨later, hmore⟩ := ih q
      exact ⟨visits ++ later, hwalk.append hmore⟩

/-- Every run has a history. -/
theorem exists_history (setup : Setup) (p : Progress) :
    ∃ visits, setup.History p visits (setup.execute p) := by
  unfold execute
  split
  · exact ⟨[], _, .refused .start rfl, rfl⟩
  · next entries =>
    obtain ⟨visits, hwalks⟩ := setup.exists_stretch_walkAll setup.workflow.inputs p
    refine ⟨visits, _, hwalks, ?_⟩
    cases setup.walkAll setup.workflow.inputs p <;> rfl

/-! ## Visits that go through -/

theorem goesThrough_of_dispatch (h : setup.dispatch name p = .ok n q) :
    setup.goesThrough ⟨n, p⟩ = true := by
  simp [goesThrough, (perform_of_dispatch h).2, Outcome.cause?]

theorem Visits.exists_dispatch (h : setup.Visits p visits q) {v : Visit} (hv : v ∈ visits) :
    ∃ r, setup.dispatch v.node.name v.before = .ok v.node r := by
  induction h with
  | start => cases hv
  | visit _ hdispatch ih =>
    obtain hv | hv := List.mem_append.1 hv
    · exact ih hv
    · obtain rfl := List.mem_singleton.1 hv
      exact ⟨_, hdispatch⟩

/-- Before its last visit, all visits of a run go through. -/
theorem History.goesThrough_of_mem_dropLast (h : setup.History p visits o) {v : Visit}
    (hv : v ∈ visits.dropLast) : setup.goesThrough v = true := by
  obtain ⟨walks, hwalks, -⟩ := h
  have hdispatch : ∃ r, setup.dispatch v.node.name v.before = .ok v.node r := by
    cases hwalks with
    | through hvisits | refused hvisits =>
      exact hvisits.exists_dispatch (List.dropLast_subset _ hv)
    | failed hvisits =>
      rw [List.dropLast_concat] at hv
      exact hvisits.exists_dispatch hv
  exact goesThrough_of_dispatch hdispatch.choose_spec

/-- The last visit does not go through exactly if the run is stopped in its dispatch. -/
theorem History.goesThrough_eq_false_iff (h : setup.History p visits o) {v : Visit}
    (hv : v ∈ visits.getLast?) : setup.goesThrough v = false ↔
      ∃ cause q, o = .stopped cause q ∧
        setup.dispatch v.node.name v.before = .stopped cause q := by
  obtain ⟨walks, hwalks, rfl⟩ := h
  cases hwalks with
  | through hvisits | refused hvisits =>
    obtain ⟨r, hdispatch⟩ := hvisits.exists_dispatch (List.mem_of_getLast? hv)
    simp [hdispatch, show setup.goesThrough v = true from goesThrough_of_dispatch hdispatch]
  | @failed visits n q r cause _ _ _ hdispatch hperform =>
    obtain rfl : (⟨n, q⟩ : Visit) = v := by simpa using hv
    simp [hdispatch, goesThrough, hperform, Outcome.cause?, Outcome.complete]

/-- A visit of a run goes through, or the work of its node stops the run. -/
theorem History.cases_of_mem (h : setup.History p visits o) {v : Visit} (hv : v ∈ visits) :
    (∃ q, setup.dispatch v.node.name v.before = .ok v.node q) ∨
      ∃ cause q, o = .stopped cause q ∧ setup.perform v.node v.before = .stopped cause q := by
  obtain ⟨walks, hwalks, rfl⟩ := h
  cases hwalks with
  | through hvisits | refused hvisits => exact .inl (hvisits.exists_dispatch hv)
  | failed hvisits _ _ _ hperform =>
    obtain hv | hv := List.mem_append.1 hv
    · exact .inl (hvisits.exists_dispatch hv)
    · obtain rfl := List.mem_singleton.1 hv
      exact .inr ⟨_, _, rfl, hperform⟩

/-! ## What visits add up to -/

section

variable {σ : Type} (view : Progress → σ) (step : σ → Visit → σ)
  (hstep : ∀ v, view (setup.perform v.node v.before).progress = step (view v.before) v)

include hstep

theorem Visits.folds (h : setup.Visits p visits q) : view q = visits.foldl step (view p) := by
  induction h with
  | start => rfl
  | @visit visits n q r _ hdispatch ih =>
    have hvisit := hstep ⟨n, q⟩
    dsimp only at hvisit
    rw [(perform_of_dispatch hdispatch).2, ih] at hvisit
    rw [List.foldl_concat]
    exact hvisit

theorem Stretch.folds (h : setup.Stretch p visits o) :
    view o.progress = visits.foldl step (view p) := by
  cases h with
  | through hvisits | refused hvisits => exact hvisits.folds view step hstep
  | @failed visits n q r cause hvisits _ _ _ hperform =>
    have hvisit := hstep ⟨n, q⟩
    dsimp only at hvisit
    rw [hperform, hvisits.folds view step hstep] at hvisit
    rw [List.foldl_concat]
    exact hvisit

/-- What each visit makes of a view of the progress, a run makes of it visit by visit, if it does
not matter to the view that the run is completed. -/
theorem History.folds (hcomplete : ∀ p, view (p.withState p.state.complete) = view p)
    (h : setup.History p visits o) : view o.progress = visits.foldl step (view p) := by
  obtain ⟨walks, hwalks, rfl⟩ := h
  cases walks with
  | ok u q => exact (hcomplete q).trans (hwalks.folds view step hstep)
  | stopped cause q => exact hwalks.folds view step hstep

end

section

variable {β : Type} (view : Progress → List β) {part : Visit → List β}
  (hpart : ∀ v, view (setup.perform v.node v.before).progress = view v.before ++ part v)

include hpart

theorem Stretch.appends (h : setup.Stretch p visits o) :
    view o.progress = view p ++ visits.flatMap part := by
  rw [h.folds view (fun parts v => parts ++ part v) hpart, List.foldl_append_eq_append]
  rfl

/-- What each visit appends to a view of the progress, a run appends visit by visit, if it does not
matter to the view that the run is completed. -/
theorem History.appends (hcomplete : ∀ p, view (p.withState p.state.complete) = view p)
    (h : setup.History p visits o) : view o.progress = view p ++ visits.flatMap part := by
  rw [h.folds view (fun parts v => parts ++ part v) hpart hcomplete, List.foldl_append_eq_append]
  rfl

end

theorem Stretch.path (h : setup.Stretch p visits o) :
    o.progress.state.path.toList = p.state.path.toList ++ visits.map fun v => v.node.name := by
  rw [List.map_eq_flatMap]
  exact h.appends (fun p => p.state.path.toList) fun v => by simp [path_perform]

/-- The path of a run is that of its visits. -/
theorem History.path (h : setup.History p visits o) :
    o.progress.state.path.toList = p.state.path.toList ++ visits.map fun v => v.node.name := by
  obtain ⟨walks, hwalks, rfl⟩ := h
  cases walks <;> exact hwalks.path

end Setup

end Flowscript
