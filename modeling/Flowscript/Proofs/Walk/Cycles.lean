import Flowscript.Proofs.Walk.Branching
import Flowscript.Proofs.Walk.Causes

/-!
# Cycles

A run that follows an edge back to the path is stopped and reports the names from the target of the
edge to the end of the path. They are a closed walk in the workflow: each leads to the next, and the
last to the first, by an edge that may be followed in the state in which the run is left. The main
statement is `closed_walk_of_cycleDetected`.
-/

namespace Flowscript

/-- An edge may be followed in a state if it has no condition, or if it leaves a condition node
whose stored truth is the one that it asks for. -/
def Edge.MayBeFollowed (w : Workflow) (s : RunState) (e : Edge) : Prop :=
  e.kind = .always ∨ ∃ c truth, w.node? e.source = some c ∧ c.kind = .condition ∧
    s.result? e.source = some (.bool truth) ∧ e.kind.followedOn truth = true

/-- The workflow has an edge from one name to another that may be followed in a state. -/
def Leads (w : Workflow) (s : RunState) (source target : String) : Prop :=
  ∃ e ∈ w.edges, e.source = source ∧ e.target = target ∧ e.MayBeFollowed w s

variable {w : Workflow} {s t : RunState} {e : Edge} {source target : String}

theorem Edge.MayBeFollowed.congr (h : e.MayBeFollowed w s)
    (hresult : t.result? e.source = s.result? e.source) : e.MayBeFollowed w t := by
  rcases h with halways | ⟨c, truth, hnode, hkind, htruth, hasked⟩
  · exact .inl halways
  · exact .inr ⟨c, truth, hnode, hkind, hresult.trans htruth, hasked⟩

theorem Leads.congr (h : Leads w s source target) (hresult : t.result? source = s.result? source) :
    Leads w t source target := by
  obtain ⟨e, hmem, rfl, rfl, hmay⟩ := h
  exact ⟨e, hmem, rfl, rfl, hmay.congr hresult⟩

/-- What holds of the names on the path of a walk, the latest first: they have been entered, the
conditions among them have a truth, and each was reached by an edge that may be followed still. -/
structure Linked (w : Workflow) (path : List String) (s : RunState) : Prop where
  entered {name : String} (hname : name ∈ path) : name ∈ s.path
  decided {name : String} {c : Node} (hname : name ∈ path) (hnode : w.node? name = some c)
    (hkind : c.kind = .condition) : ∃ truth, s.result? name = some (.bool truth)
  chain : path.IsChain fun target source => Leads w s source target

theorem Linked.tail {name : String} {path : List String} (h : Linked w (name :: path) s) :
    Linked w path s where
  entered hname := h.entered (List.mem_cons_of_mem name hname)
  decided hname := h.decided (List.mem_cons_of_mem name hname)
  chain := h.chain.tail

/-- An edge that is followed from the end of a path may be followed. -/
theorem Linked.leads {n : Node} {path : List String} (h : Linked w (n.name :: path) s)
    (hnode : w.node? n.name = some n) (hmem : e ∈ w.edges) (hsource : e.source = n.name)
    (hfollow : follows n e s = true) : Leads w s n.name e.target := by
  refine ⟨e, hmem, hsource, rfl, ?_⟩
  by_cases hedge : e.kind = .always
  · exact .inl hedge
  by_cases hkind : n.kind = .condition
  · obtain ⟨truth, htruth⟩ := h.decided List.mem_cons_self hnode hkind
    rw [Setup.follows_of_result? hkind htruth] at hfollow
    rw [← hsource] at hnode htruth
    exact .inr ⟨n, truth, hnode, hkind, htruth, hfollow⟩
  · rw [Setup.follows_of_not_condition s hkind hedge] at hfollow
    cases hfollow

namespace Setup

variable {setup : Setup} {p q r : Progress} {stack next : List Frame}

/-- A dispatch puts its name on the path; the results of the names below stay. -/
theorem linked_dispatch {name : String} {n : Node} {path : List String}
    (hdispatch : setup.dispatch name p = .ok n q)
    (hpath : Linked setup.workflow path p.state) (hfresh : name ∉ path)
    (hleads : ∀ source ∈ path.head?, Leads setup.workflow p.state source name) :
    Linked setup.workflow (name :: path) q.state := by
  have hentered := path_dispatch hdispatch
  have hresult {other : String} (hother : other ∈ path) :
      q.state.result? other = p.state.result? other := by
    have hkeep := setup.result?_dispatch_of_ne p (ne_of_mem_of_not_mem hother hfresh)
    rwa [hdispatch] at hkeep
  refine ⟨fun hname => ?_, fun hname hnode hkind => ?_, List.isChain_cons.mpr ⟨?_, ?_⟩⟩
  · rw [hentered, Array.mem_push]
    rcases List.mem_cons.mp hname with rfl | hname
    · exact .inr rfl
    · exact .inl (hpath.entered hname)
  · rcases List.mem_cons.mp hname with rfl | hname
    · obtain rfl := Option.some.inj ((dispatch_eq_ok hdispatch).symm.trans hnode)
      exact ⟨_, result?_dispatch_condition hkind hdispatch⟩
    · rw [hresult hname]
      exact hpath.decided hname hnode hkind
  · intro source hsource
    exact (hleads source hsource).congr (hresult (List.mem_of_mem_head? hsource))
  · refine hpath.chain.imp_of_mem_imp fun target source _ hsource hlink => ?_
    exact hlink.congr (hresult hsource)

theorem linked_turn (hform : WellFormed setup.workflow stack)
    (hlinked : Linked setup.workflow (pathOf stack) p.state)
    (hturn : setup.turn stack p = .go next q) :
    Linked setup.workflow (pathOf next) q.state := by
  cases turns_of_eq hturn with
  | pop => exact hlinked.tail
  | skip hnext => rwa [pathOf_next hnext]
  | @push f g e below _ _ n hnext hfollow hpath hdispatch =>
    obtain ⟨-, hname⟩ := node?_eq_some (dispatch_eq_ok hdispatch)
    obtain ⟨-, hnode, hsource⟩ := Frame.leaving_of_next?_some hnext
    obtain ⟨hmem, -⟩ := Frame.pending_of_next? hnext
    have hedge := hform.pending List.mem_cons_self hmem
    have hnext' := hform.next hnext
    rw [← pathOf_next hnext] at hlinked
    rw [pathOf_cons, hname]
    refine linked_dispatch hdispatch hlinked hpath fun source hhead => ?_
    obtain rfl : g.node.name = source := by simpa using hhead
    exact hlinked.leads (hnext'.defined List.mem_cons_self) hedge (hsource.trans (hnode ▸ rfl))
      hfollow

theorem Comes.linked {entry : String} {turns : Nat} (h : setup.Comes entry p turns stack q) :
    Linked setup.workflow (pathOf stack) q.state := by
  induction h with
  | entered hdispatch =>
    obtain ⟨-, hname⟩ := node?_eq_some (dispatch_eq_ok hdispatch)
    rw [pathOf_cons, hname]
    refine linked_dispatch hdispatch ⟨?_, ?_, .nil⟩ List.not_mem_nil ?_ <;> simp
  | turn hcomes hturn ih => exact linked_turn hcomes.wellFormed ih hturn

end Setup

/-- The names from `name` on in a list that contains it. -/
theorem exists_dropWhile_eq_cons {name : String} {names : List String} (h : name ∈ names) :
    ∃ more, names.dropWhile (· ≠ name) = name :: more := by
  induction names with
  | nil => cases h
  | cons first names ih =>
    by_cases hfirst : first = name
    · exact ⟨names, by simp [hfirst]⟩
    · obtain ⟨more, hmore⟩ := ih ((List.mem_cons.mp h).resolve_left (Ne.symm hfirst))
      exact ⟨more, by simpa [hfirst] using hmore⟩

namespace Setup

variable {setup : Setup} {p q r : Progress} {stack : List Frame} {workflow node : String}
  {path : List String}

theorem dispatch_ne_cycleDetected (setup : Setup) (name : String) (p q : Progress) :
    setup.dispatch name p ≠ .stopped (.cycleDetected workflow node path) q := by
  intro h
  rcases cause_of_dispatch h with ⟨hcause, -⟩ | hcause | hcause <;> cases hcause

/-- The turn that reports a cycle follows an edge back to the path and changes nothing. -/
theorem of_turn_eq_cycleDetected
    (h : setup.turn stack q = .stopped (.cycleDetected workflow node path) r) :
    r = q ∧ workflow = setup.workflow.name ∧ ∃ f g e below, stack = f :: below ∧
      f.next? = some (e, g) ∧ follows g.node e q.state = true ∧ node = e.target ∧
      e.target ∈ pathOf (g :: below) ∧
      path = (pathOf (g :: below)).reverse.dropWhile (· ≠ e.target) := by
  have hcases := turns_of_eq h
  cases hcases with
  | cycle hnext hfollow hpath =>
    exact ⟨rfl, rfl, _, _, _, _, rfl, hnext, hfollow, rfl, hpath, rfl⟩
  | fail hnext hfollow hpath hdispatch => exact absurd hdispatch (dispatch_ne_cycleDetected _ _ _ _)

/-- A run that reports a cycle does so in a turn of one of its walks. -/
theorem exists_turn_of_cycleDetected
    (h : setup.execute p = .stopped (.cycleDetected workflow node path) q) :
    ∃ entry r turns stack s, setup.ComesToWalk setup.workflow.inputs p entry r ∧
      setup.Comes entry r turns stack s ∧
      setup.turn stack s = .stopped (.cycleDetected workflow node path) q := by
  obtain hcause | ⟨entry, r, hwalk, hstopped⟩ := exists_walk_of_execute h
  · cases hcause
  obtain hdispatch | ⟨turns, stack, s, hcomes, hturn⟩ := exists_turn_of_walk hstopped
  · exact absurd hdispatch (dispatch_ne_cycleDetected _ _ _ _)
  · exact ⟨entry, r, turns, stack, s, hwalk, hcomes, hturn⟩

/-- What a run reports as a cycle is one. The report names the workflow; its names are different
names of nodes that the run has entered, the first of them `node`; each leads to the next, and the
last to `node`, by an edge that may be followed in the final state. The last name is that of the
node on top of the stack, and the final progress is the one that the walk had come to with this
stack, so that nothing was dispatched any more. -/
theorem closed_walk_of_cycleDetected
    (h : setup.execute p = .stopped (.cycleDetected workflow node path) q) :
    workflow = setup.workflow.name ∧ path.head? = some node ∧ path.Nodup ∧
      (∀ name ∈ path, setup.workflow.defines name = true ∧ name ∈ q.state.path) ∧
      (path ++ [node]).IsChain (Leads setup.workflow q.state) ∧
      ∃ entry r turns f below, setup.ComesToWalk setup.workflow.inputs p entry r ∧
        setup.Comes entry r turns (f :: below) q ∧
        setup.turn (f :: below) q = .stopped (.cycleDetected workflow node path) q ∧
        path.getLast? = some f.node.name := by
  obtain ⟨entry, r, turns, stack, s, hwalk, hcomes, hturn⟩ := exists_turn_of_cycleDetected h
  obtain ⟨rfl, rfl, f, g, e, below, rfl, hnext, hfollow, rfl, hpath, hreport⟩ :=
    of_turn_eq_cycleDetected hturn
  have hform := hcomes.wellFormed.next hnext
  have hlinked := hcomes.linked
  rw [← pathOf_next hnext] at hlinked
  have hsuffix : path <:+ (pathOf (g :: below)).reverse := hreport ▸ List.dropWhile_suffix _
  obtain ⟨more, hmore⟩ := exists_dropWhile_eq_cons (List.mem_reverse.mpr hpath)
  rw [← hreport] at hmore
  have hmem {name : String} (hname : name ∈ path) : name ∈ pathOf (g :: below) :=
    List.mem_reverse.mp (hsuffix.subset hname)
  have hlast : path.getLast? = some g.node.name := by
    obtain ⟨before, hbefore⟩ := hsuffix
    have hnames := congrArg List.getLast? hbefore
    rw [List.getLast?_append_of_ne_nil _ (by simp [hmore])] at hnames
    simpa using hnames
  obtain ⟨-, hnode, hsource⟩ := Frame.leaving_of_next?_some hnext
  obtain ⟨hedge, -⟩ := Frame.pending_of_next? hnext
  have hback : Leads setup.workflow q.state g.node.name e.target :=
    hlinked.leads (hform.defined List.mem_cons_self)
      (hcomes.wellFormed.pending List.mem_cons_self hedge) (hsource.trans (hnode ▸ rfl)) hfollow
  refine ⟨rfl, by simp [hmore], hsuffix.sublist.nodup (List.nodup_reverse.mpr hform.nodup),
    fun name hname => ⟨hform.defines (hmem hname), hlinked.entered (hmem hname)⟩, ?_,
    entry, r, turns, f, below, hwalk, hcomes, hturn, hnode ▸ hlast⟩
  refine List.isChain_append.mpr ⟨?_, .singleton _, fun source hfrom target hto => ?_⟩
  · exact (List.isChain_reverse.mpr hlinked.chain).suffix hsuffix
  · obtain rfl : g.node.name = source := by simpa [hlast] using hfrom
    obtain rfl : e.target = target := by simpa using hto
    exact hback

/-- A workflow whose condition leads back to its input. -/
def circular : Setup :=
  { workflow :=
      { name := "circular", nodes := [{ name := "in", kind := .input, params := ∅ }, gate]
        edges := [⟨"in", "gate", .always⟩, ⟨"gate", "in", .whenTrue⟩]
        vars := .ofList [("go", .string "yes")] }
    collaborators := .none, limits := .standard, run := ⟨"r"⟩ }

/-- How a run of the workflow ends. -/
def circularEnd : Outcome Unit :=
  circular.execute (.start (.fresh ∅ circular.workflow.vars) #[])

/-- The workflow, the node and the names of the cycle that a failure reports. -/
def reportedCycle? : Failure → Option (String × String × List String)
  | .cycleDetected workflow node path => some (workflow, node, path)
  | _ => none

theorem closed_walk_of_cycleDetected_circular :
    circularEnd =
      .stopped (.cycleDetected "circular" "in" ["in", "gate"]) circularEnd.progress ∧
    ["in", "gate", "in"].IsChain (Leads circular.workflow circularEnd.progress.state) := by
  have hcycle : circularEnd.cause?.bind reportedCycle? =
      some ("circular", "in", ["in", "gate"]) := by
    decide +kernel
  have hend : circularEnd =
      .stopped (.cycleDetected "circular" "in" ["in", "gate"]) circularEnd.progress := by
    obtain ⟨cause, hcause, hend⟩ := Outcome.exists_eq_stopped hcycle
    cases cause <;> cases hcause
    exact hend
  obtain ⟨-, -, -, -, hchain, -⟩ := closed_walk_of_cycleDetected hend
  exact ⟨hend, hchain⟩

end Setup

end Flowscript
