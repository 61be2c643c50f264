import Flowscript.Proofs.Walk.Steps

/-!
# What a run heads for

Between two dispatches a run only looks at edges and takes nodes off its stack. So at any time there
is one name that it heads for: that of its next input node, or the target of an edge that it
follows. If this name is on the stack there is a cycle, and otherwise it is dispatched. Where a run
goes wrong is told here by the name that it headed for, in both directions; and what each node that
it enters preserves holds wherever it heads for something. The main statements are
`HeadsFor.execute_eq_stopped`, `exists_headsFor_of_stopped` and `HeadsFor.holds`.
-/

namespace Flowscript

namespace Setup

variable {setup : Setup} {p q r : Progress} {entries : List Node} {entry name : String}
  {turns : Nat} {stack : List Frame} {cause : Failure}

/-! ## One walk after the other -/

theorem ComesToWalk.exists_mem (h : setup.ComesToWalk entries p entry q) :
    ∃ n ∈ entries, n.name = entry := by
  induction h with
  | first n more p => exact ⟨n, List.mem_cons_self, rfl⟩
  | later _ _ ih =>
    obtain ⟨n, hn, hname⟩ := ih
    exact ⟨n, List.mem_cons_of_mem _ hn, hname⟩

/-- What the walks preserve that a run has come to holds where the next of them starts. -/
theorem ComesToWalk.holds {P : Progress → Prop} (h : setup.ComesToWalk entries p entry q)
    (hstart : P p) (hwalks : ∀ before r s, setup.ComesToWalk entries p before r → P r →
      setup.walk before r = .ok () s → P s) : P q := by
  induction h with
  | first => exact hstart
  | @later n more p _ _ _ hwalk _ ih =>
    refine ih (hwalks _ _ _ (.first n more p) hstart hwalk) ?_
    intro before r s hcomes
    exact hwalks before r s (.later hwalk hcomes)

/-- What the walks preserve that a run comes to holds where all of them have gone through. -/
theorem holds_of_walkAll {P : Progress → Prop} (h : setup.walkAll entries p = .ok () q)
    (hstart : P p) (hwalks : ∀ before r s, setup.ComesToWalk entries p before r → P r →
      setup.walk before r = .ok () s → P s) : P q := by
  induction entries generalizing p with
  | nil =>
    cases h
    exact hstart
  | cons n more ih =>
    rw [walkAll] at h
    split at h
    · cases h
    · next hwalk =>
      refine ih h (hwalks _ _ _ (.first n more p) hstart hwalk) ?_
      intro before r s hcomes
      exact hwalks before r s (.later hwalk hcomes)

/-- A walk that is stopped stops the walks from all input nodes. -/
theorem ComesToWalk.walkAll_eq_stopped (h : setup.ComesToWalk entries p entry q)
    (hstopped : setup.walk entry q = .stopped cause r) :
    setup.walkAll entries p = .stopped cause r := by
  induction h with
  | first => simp only [walkAll, hstopped]
  | later hwalk _ ih => simp only [walkAll, hwalk, ih hstopped]

theorem ComesToWalk.execute_eq_stopped
    (h : setup.ComesToWalk setup.workflow.inputs p entry q)
    (hstopped : setup.walk entry q = .stopped cause r) : setup.execute p = .stopped cause r := by
  have hall := h.walkAll_eq_stopped hstopped
  unfold execute
  split
  · next hnil =>
    rw [hnil] at h
    cases h
  · rw [hall]

/-- What a walk has come to is how far it has got. -/
theorem Comes.finish_eq (h : setup.Comes entry p turns stack q) :
    setup.finish stack q = setup.walk entry p := by
  induction h with
  | entered hdispatch => simp only [walk, hdispatch]
  | @turn turns stack next q r _ hturn ih =>
    rw [← ih, setup.finish_eq_bind stack q, hturn]
    rfl

theorem Comes.walk_eq_stopped (h : setup.Comes entry p turns stack q)
    (hturn : setup.turn stack q = .stopped cause r) : setup.walk entry p = .stopped cause r := by
  rw [← h.finish_eq, finish_eq_bind, hturn]
  rfl

/-- A walk that goes through has emptied its stack. -/
theorem exists_comes_of_walk (h : setup.walk entry p = .ok () q) :
    ∃ turns, setup.Comes entry p turns [] q := by
  cases hdispatch : setup.dispatch entry p with
  | stopped cause r =>
    simp only [walk, hdispatch] at h
    cases h
  | ok n r =>
    obtain ⟨turns, stack, s, hcomes, hturn⟩ := exists_lastTurn hdispatch
    rw [h] at hturn
    cases turns_of_eq hturn with
    | done => exact ⟨turns, hcomes⟩

/-! ## The name that comes next -/

/-- A run that has come to some progress with a stack heads for a name. -/
inductive HeadsFor (setup : Setup) (p : Progress) : List Frame → Progress → String → Prop
  | input {entry : String} {q : Progress}
      (hwalk : setup.ComesToWalk setup.workflow.inputs p entry q) : HeadsFor setup p [] q entry
  | edge {entry : String} {turns : Nat} {f g : Frame} {e : Edge} {below : List Frame}
      {q r : Progress} (hwalk : setup.ComesToWalk setup.workflow.inputs p entry r)
      (hcomes : setup.Comes entry r turns (f :: below) q) (hnext : f.next? = some (e, g))
      (hfollow : follows g.node e q.state = true) : HeadsFor setup p (g :: below) q e.target

/-- A run is stopped where the name that it heads for, not being on the stack, cannot be
dispatched. -/
theorem HeadsFor.execute_eq_stopped (h : setup.HeadsFor p stack q name)
    (hpath : name ∉ pathOf stack) (hdispatch : setup.dispatch name q = .stopped cause r) :
    setup.execute p = .stopped cause r := by
  cases h with
  | input hwalk =>
    refine hwalk.execute_eq_stopped ?_
    simp only [walk, hdispatch]
  | @edge _ _ _ g e below _ _ hwalk hcomes hnext hfollow =>
    refine hwalk.execute_eq_stopped (hcomes.walk_eq_stopped ?_)
    have hoff : onPath e.target (g :: below) = false := by
      rw [← onPath_iff] at hpath
      exact Bool.eq_false_iff.mpr hpath
    rw [turn_of_next _ _ _ hnext, if_pos hfollow]
    simp [follow, hoff, hdispatch]

/-- A run that is stopped has no input node, or it heads for a name that is on the stack or cannot
be dispatched. -/
theorem exists_headsFor_of_stopped (h : setup.execute p = .stopped cause r) :
    (cause = .noInputNode setup.workflow.name ∧ r = p) ∨
      ∃ stack q name, setup.HeadsFor p stack q name ∧
        ((∃ path, cause = .cycleDetected setup.workflow.name name path ∧ r = q) ∨
          name ∉ pathOf stack ∧ setup.dispatch name q = .stopped cause r) := by
  by_cases hinputs : setup.workflow.inputs = []
  · simp only [execute, hinputs] at h
    cases h
    exact .inl ⟨rfl, rfl⟩
  right
  rw [execute_eq_bind _ _ hinputs] at h
  cases hall : setup.walkAll setup.workflow.inputs p with
  | ok u q =>
    rw [hall] at h
    cases h
  | stopped cause' q =>
    rw [hall] at h
    cases h
    obtain ⟨entry, r, hwalk, hstopped⟩ := exists_walk_of_walkAll hall
    obtain hdispatch | ⟨turns, stack, s, hcomes, hturn⟩ := exists_turn_of_walk hstopped
    · exact ⟨[], r, entry, .input hwalk, .inr ⟨List.not_mem_nil, hdispatch⟩⟩
    · cases turns_of_eq hturn with
      | cycle hnext hfollow hpath =>
        exact ⟨_, _, _, .edge hwalk hcomes hnext hfollow, .inl ⟨_, rfl, rfl⟩⟩
      | fail hnext hfollow hpath hdispatch =>
        exact ⟨_, _, _, .edge hwalk hcomes hnext hfollow, .inr ⟨hpath, hdispatch⟩⟩

/-- A limit stops a run exactly where it heads for the name of a node that may not be entered. -/
theorem execute_eq_visitLimitExceeded_iff {node : String} {visits : Nat} :
    setup.execute p = .stopped (.visitLimitExceeded node visits) q ↔
      ∃ stack, setup.HeadsFor p stack q node ∧ node ∉ pathOf stack ∧
        setup.workflow.defines node = true ∧
        setup.refusal? node q.state = some (.visitLimitExceeded node visits) := by
  constructor
  · intro h
    obtain ⟨hcause, -⟩ | ⟨stack, r, name, hheads, ⟨path, hcause, -⟩ | ⟨hpath, hdispatch⟩⟩ :=
      exists_headsFor_of_stopped h
    · cases hcause
    · cases hcause
    have hcases := setup.dispatches_dispatch name r
    rw [hdispatch] at hcases
    cases hcases with
    | @refused n _ hnode hrefusal =>
      obtain ⟨count, hcount⟩ := exists_of_refusal? hrefusal
      cases hcount
      obtain ⟨hmem, hname⟩ := node?_eq_some hnode
      exact ⟨stack, hheads, hpath, (setup.workflow.defines_iff _).mpr ⟨n, hmem, hname⟩, hrefusal⟩
    | failed hnode hadmitted hwork => cases isOfWork_of_work hwork
  · rintro ⟨stack, hheads, hpath, hdefined, hrefusal⟩
    refine hheads.execute_eq_stopped hpath ?_
    obtain ⟨n, hnode⟩ : ∃ n, setup.workflow.node? node = some n := by
      obtain ⟨n, hmem, hname⟩ := (setup.workflow.defines_iff node).mp hdefined
      exact Option.isSome_iff_exists.mp (List.find?_isSome.mpr ⟨n, hmem, by simpa using hname⟩)
    simp only [dispatch, hnode, hrefusal]

/-! ## The states on the way -/

/-- A run enters a node: it heads for its name, which is not on the stack, and no limit refuses
it. -/
structure Enters (setup : Setup) (p : Progress) (n : Node) (q : Progress) : Prop where
  heads : ∃ stack, setup.HeadsFor p stack q n.name ∧ n.name ∉ pathOf stack
  node : setup.workflow.node? n.name = some n
  admitted : setup.refusal? n.name q.state = none

/-- The states that a run goes through before it is over, one for each change that is made: a node
is entered, the fault of a condition is recorded, and the work of the node is done. -/
inductive Reaches (setup : Setup) (p : Progress) : RunState → Prop
  | start : Reaches setup p p.state
  | entered {n : Node} {q : Progress} (henters : setup.Enters p n q) :
      Reaches setup p (setup.entered n q).state
  | faulted {n : Node} {q : Progress} {expression : String} {fault : Condition.Fault}
      (henters : setup.Enters p n q) (hkind : n.kind = .condition)
      (hexpression : n.param "expression" "true" = expression)
      (hfault : Condition.holds q.state.scope expression.toList = .error fault) :
      Reaches setup p (setup.noteFault n expression fault (setup.entered n q)).state
  | visited {n : Node} {q : Progress} (henters : setup.Enters p n q) :
      Reaches setup p (setup.perform n q).progress.state

section

variable {P : RunState → Prop} (hstep : ∀ n q, setup.Enters p n q → P q.state →
  P (setup.perform n q).progress.state)

include hstep

theorem holds_of_dispatch {n : Node} (hheads : setup.HeadsFor p stack q name)
    (hpath : name ∉ pathOf stack) (hq : P q.state) (h : setup.dispatch name q = .ok n r) :
    P r.state := by
  have hcases := setup.dispatches_dispatch name q
  rw [h] at hcases
  obtain ⟨rfl, hperform⟩ := perform_of_dispatch h
  cases hcases with
  | completed hnode hadmitted =>
    have hr := hstep n q ⟨⟨stack, hheads, hpath⟩, hnode, hadmitted⟩ hq
    rwa [hperform] at hr

theorem Comes.holds (h : setup.Comes entry q turns stack r)
    (hwalk : setup.ComesToWalk setup.workflow.inputs p entry q) (hq : P q.state) : P r.state := by
  induction h with
  | entered hdispatch =>
    exact holds_of_dispatch hstep (.input hwalk) List.not_mem_nil hq hdispatch
  | turn hcomes hturn ih =>
    cases turns_of_eq hturn with
    | pop | skip => exact ih
    | push hnext hfollow hpath hdispatch =>
      exact holds_of_dispatch hstep (.edge hwalk hcomes hnext hfollow) hpath ih hdispatch

theorem holds_of_walk (hwalk : setup.ComesToWalk setup.workflow.inputs p entry q)
    (hq : P q.state) (h : setup.walk entry q = .ok () r) : P r.state := by
  obtain ⟨turns, hcomes⟩ := exists_comes_of_walk h
  exact hcomes.holds hstep hwalk hq

/-- What holds at the start of a run and is preserved where it enters a node holds wherever the run
heads for a name. -/
theorem HeadsFor.holds (hstart : P p.state) (h : setup.HeadsFor p stack q name) : P q.state := by
  have hentry {entry : String} {r : Progress}
      (hwalk : setup.ComesToWalk setup.workflow.inputs p entry r) : P r.state := by
    apply hwalk.holds (P := fun s => P s.state) hstart
    intro before s t hbefore hs
    exact holds_of_walk hstep hbefore hs
  cases h with
  | input hwalk => exact hentry hwalk
  | edge hwalk hcomes => exact hcomes.holds hstep hwalk (hentry hwalk)

end

theorem HeadsFor.reaches (h : setup.HeadsFor p stack q name) : setup.Reaches p q.state :=
  h.holds (fun _ _ henters _ => .visited henters) .start

/-- A run that is stopped leaves a state that it has reached. -/
theorem reaches_of_stopped (h : setup.execute p = .stopped cause r) :
    setup.Reaches p r.state := by
  obtain ⟨-, rfl⟩ | ⟨stack, q, name, hheads, ⟨path, -, rfl⟩ | ⟨hpath, hdispatch⟩⟩ :=
    exists_headsFor_of_stopped h
  · exact .start
  · exact hheads.reaches
  · have hcases := setup.dispatches_dispatch name q
    rw [hdispatch] at hcases
    cases hcases with
    | unknown | refused => exact hheads.reaches
    | @failed n _ _ hnode hadmitted hwork =>
      obtain ⟨-, rfl⟩ := node?_eq_some hnode
      have hperform : setup.perform n q = .stopped cause r := by simp [perform, hwork]
      have hreached := Reaches.visited ⟨⟨stack, hheads, hpath⟩, hnode, hadmitted⟩
      rwa [hperform] at hreached

/-- A run that goes through completes a state that it has reached. -/
theorem exists_reaches_of_ok (h : setup.execute p = .ok () q) :
    ∃ s, setup.Reaches p s ∧ q.state = s.complete := by
  unfold execute at h
  split at h
  · cases h
  · split at h
    · cases h
    · next r hall =>
      cases h
      refine ⟨r.state, ?_, rfl⟩
      apply holds_of_walkAll (P := fun s => setup.Reaches p s.state) hall .start
      intro before s t hwalk hs
      exact holds_of_walk (fun _ _ henters _ => .visited henters) hwalk hs

end Setup

end Flowscript
