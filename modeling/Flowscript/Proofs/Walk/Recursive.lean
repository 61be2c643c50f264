import Flowscript.Proofs.Walk.Branching

/-!
# The recursive walk

A walk keeps a stack of frames, each with the edges it has not looked at yet. The same walk can be
told by recursion: a node is dispatched, and then each edge that leaves it is looked at in turn; a
followed edge is explored from its target, below the names through which it was reached. Where to
start and which edges to follow is said here anew, of the nodes and the variables themselves. The
main statement, `execute_eq_executeRecursively`, is that both make the same run: the same calls and
events, the same state, and the same cause where a run stops.
-/

namespace Flowscript

/-- Goes on with what follows a step, unless the step stopped the run. -/
def Outcome.andThen {α β : Type} (o : Outcome α) (next : Progress → Outcome β) : Outcome β :=
  match o with
  | .stopped cause p => .stopped cause p
  | .ok _ p => next p

@[simp] theorem Outcome.andThen_stopped {α β : Type} (cause : Failure) (p : Progress)
    (next : Progress → Outcome β) : (stopped cause p : Outcome α).andThen next = stopped cause p :=
  rfl

@[simp] theorem Outcome.andThen_ok {α β : Type} (a : α) (p : Progress)
    (next : Progress → Outcome β) : (ok a p).andThen next = next p := rfl

theorem Outcome.andThen_assoc {α β γ : Type} (o : Outcome α) (f : Progress → Outcome β)
    (g : Progress → Outcome γ) : (o.andThen f).andThen g = o.andThen fun p => (f p).andThen g := by
  cases o <;> rfl

/-- Whether a node takes an edge, as the variables stand. An edge with a condition is taken from a
condition node only, if its stored result, or false where it has none, is what the edge asks for. -/
def Node.takes (n : Node) (e : Edge) (vars : Object) : Bool :=
  e.kind = .always || n.kind = .condition &&
    e.kind.followedOn ((vars.get? (n.name ++ "_result")).any Value.truthy)

theorem follows_eq_takes (n : Node) (e : Edge) (s : RunState) :
    follows n e s = n.takes e s.vars := by
  unfold follows Node.takes RunState.result? resultKey
  cases e.kind <;> cases s.vars.get? (n.name ++ "_result") <;> simp [EdgeKind.followedOn]

/-- The nodes of a workflow whose names are not among those on a path. -/
def unvisited (w : Workflow) (path : List String) : Nat :=
  w.nodes.countP fun n => n.name ∉ path

theorem unvisited_cons_lt {w : Workflow} {name : String} {n : Node} {path : List String}
    (hn : w.node? name = some n) (hfresh : name ∉ path) :
    unvisited w (name :: path) < unvisited w path := by
  obtain ⟨hmem, rfl⟩ := node?_eq_some hn
  refine countP_lt_countP (a := n) (fun m => ?_) hmem ?_ ?_
  · simp only [List.mem_cons, not_or, decide_eq_true_eq]
    exact And.right
  · simp
  · simpa using hfresh

namespace Setup

mutual

/-- Dispatches the node of a name and then explores the edges that leave it. The names through
which it was reached are `above`, the latest first. -/
def explore (setup : Setup) (above : List String) (name : String) (_hfresh : name ∉ above)
    (p : Progress) : Outcome Unit :=
  match _h : setup.dispatch name p with
  | .stopped cause p => .stopped cause p
  | .ok n p => setup.exploreEdges n (name :: above) (setup.workflow.outgoing name) p
termination_by (unvisited setup.workflow above, 0)
decreasing_by exact .left _ _ (unvisited_cons_lt (dispatch_eq_ok _h) _hfresh)

/-- Looks at edges that leave a node, one after the other; each is decided on when it is reached.
The names on the path to the node, its own among them, are `path`, the latest first. -/
def exploreEdges (setup : Setup) (n : Node) (path : List String) (edges : List Edge)
    (p : Progress) : Outcome Unit :=
  match edges with
  | [] => .ok () p
  | e :: more =>
    if n.takes e p.state.vars then
      if h : e.target ∈ path then
        .stopped (.cycleDetected setup.workflow.name e.target
          (path.reverse.dropWhile (· ≠ e.target))) p
      else
        (setup.explore path e.target h p).andThen fun p => setup.exploreEdges n path more p
    else setup.exploreEdges n path more p
termination_by (unvisited setup.workflow path, edges.length)
decreasing_by all_goals exact .right _ (by simp)

end

/-- Explores a workflow from one node after the other. -/
def exploreAll (setup : Setup) (entries : List Node) (p : Progress) : Outcome Unit :=
  match entries with
  | [] => .ok () p
  | n :: more =>
    (setup.explore [] n.name List.not_mem_nil p).andThen fun p => setup.exploreAll more p

/-- Runs a workflow by recursion: explores it from each node that is an input, in the order of the
nodes. Where there is none the run is stopped at once, and where all goes through it is
completed. -/
def executeRecursively (setup : Setup) (p : Progress) : Outcome Unit :=
  let entries := setup.workflow.nodes.filter fun n => n.kind = .input
  if entries.isEmpty then .stopped (.noInputNode setup.workflow.name) p
  else
    (setup.exploreAll entries p).andThen fun p =>
      .ok () { p with state := { p.state with current := none, status := .completed } }

theorem explore_of_stopped {setup : Setup} {above : List String} {name : String} {p q : Progress}
    {cause : Failure} (hfresh : name ∉ above) (h : setup.dispatch name p = .stopped cause q) :
    setup.explore above name hfresh p = .stopped cause q := by
  rw [explore]
  split <;> simp_all

theorem explore_of_ok {setup : Setup} {above : List String} {name : String} {p q : Progress}
    {n : Node} (hfresh : name ∉ above) (h : setup.dispatch name p = .ok n q) :
    setup.explore above name hfresh p =
      setup.exploreEdges n (name :: above) (setup.workflow.outgoing name) q := by
  rw [explore]
  split <;> simp_all

theorem exploreEdges_of_skip {setup : Setup} {n : Node} {e : Edge} {p : Progress}
    (path : List String) (more : List Edge) (hskip : n.takes e p.state.vars = false) :
    setup.exploreEdges n path (e :: more) p = setup.exploreEdges n path more p := by
  rw [exploreEdges]
  simp [hskip]

theorem exploreEdges_of_cycle {setup : Setup} {n : Node} {e : Edge} {p : Progress}
    {path : List String} (more : List Edge) (htake : n.takes e p.state.vars = true)
    (hpath : e.target ∈ path) :
    setup.exploreEdges n path (e :: more) p =
      .stopped (.cycleDetected setup.workflow.name e.target
        (path.reverse.dropWhile (· ≠ e.target))) p := by
  rw [exploreEdges]
  simp [htake, hpath]

theorem exploreEdges_of_follow {setup : Setup} {n : Node} {e : Edge} {p : Progress}
    {path : List String} (more : List Edge) (htake : n.takes e p.state.vars = true)
    (hpath : e.target ∉ path) :
    setup.exploreEdges n path (e :: more) p =
      (setup.explore path e.target hpath p).andThen fun p =>
        setup.exploreEdges n path more p := by
  rw [exploreEdges]
  simp [htake, hpath]

/-- Explores what the frames of a stack have still to look at, from the topmost one down. These are
the recursive calls that a walk with this stack stands for. -/
def resume (setup : Setup) : List Frame → Progress → Outcome Unit
  | [], p => .ok () p
  | f :: below, p =>
    (setup.exploreEdges f.node (pathOf (f :: below)) f.leaving p).andThen (resume setup below)

/-- A turn leaves the same recursive calls ahead, or makes the one that stops the run. -/
theorem resume_turn (setup : Setup) (stack : List Frame) (p : Progress) :
    setup.resume stack p =
      match setup.turn stack p with
      | .done p => .ok () p
      | .stopped cause p => .stopped cause p
      | .go stack p => setup.resume stack p := by
  have hturn := setup.turns_turn stack p
  generalize setup.turn stack p = t at hturn
  cases hturn with
  | done => rfl
  | pop hnext =>
    rw [resume, Frame.leaving_of_next?_none hnext, exploreEdges]
    rfl
  | skip hnext hskip =>
    obtain ⟨hleaving, hnode, -⟩ := Frame.leaving_of_next?_some hnext
    rw [follows_eq_takes] at hskip
    simp only [resume, pathOf_cons, hleaving, ← hnode, exploreEdges_of_skip _ _ hskip]
  | cycle hnext hfollow hpath =>
    obtain ⟨hleaving, hnode, -⟩ := Frame.leaving_of_next?_some hnext
    rw [follows_eq_takes] at hfollow
    simp only [pathOf_cons] at hpath ⊢
    simp only [resume, pathOf_cons, hleaving, ← hnode, exploreEdges_of_cycle _ hfollow hpath,
      Outcome.andThen_stopped]
  | fail hnext hfollow hpath hdispatch =>
    obtain ⟨hleaving, hnode, -⟩ := Frame.leaving_of_next?_some hnext
    rw [follows_eq_takes] at hfollow
    rw [pathOf_cons] at hpath
    simp only [resume, pathOf_cons, hleaving, ← hnode, exploreEdges_of_follow _ hfollow hpath,
      explore_of_stopped hpath hdispatch, Outcome.andThen_stopped]
  | push hnext hfollow hpath hdispatch =>
    obtain ⟨hleaving, hnode, -⟩ := Frame.leaving_of_next?_some hnext
    rw [follows_eq_takes] at hfollow
    obtain ⟨-, hname⟩ := node?_eq_some (dispatch_eq_ok hdispatch)
    rw [pathOf_cons] at hpath
    simp only [resume, pathOf_cons, hleaving, ← hnode, exploreEdges_of_follow _ hfollow hpath,
      explore_of_ok hpath hdispatch, Outcome.andThen_assoc, Frame.leaving_all, hname]

theorem finish_eq_resume (setup : Setup) (stack : List Frame) (p : Progress) :
    setup.finish stack p = setup.resume stack p := by
  fun_induction finish setup stack p with
  | case1 stack p q hturn => rw [resume_turn, hturn]
  | case2 stack p cause q hturn => rw [resume_turn, hturn]
  | case3 stack p next q hturn ih => rw [resume_turn, hturn, ih]

theorem walk_eq_explore (setup : Setup) (entry : String) (p : Progress) :
    setup.walk entry p = setup.explore [] entry List.not_mem_nil p := by
  unfold walk
  split
  · next hdispatch => rw [explore_of_stopped _ hdispatch]
  · next n q hdispatch =>
    obtain ⟨-, hname⟩ := node?_eq_some (dispatch_eq_ok hdispatch)
    rw [finish_eq_resume, explore_of_ok _ hdispatch]
    simp only [resume, pathOf_cons, pathOf_nil, Frame.leaving_all, hname]
    cases setup.exploreEdges n [entry] (setup.workflow.outgoing entry) q <;> rfl

theorem walkAll_eq_exploreAll (setup : Setup) (entries : List Node) (p : Progress) :
    setup.walkAll entries p = setup.exploreAll entries p := by
  induction entries generalizing p with
  | nil => rfl
  | cons n more ih =>
    rw [walkAll, exploreAll, walk_eq_explore]
    cases setup.explore [] n.name List.not_mem_nil p with
    | stopped cause q => rfl
    | ok u q => exact ih q

theorem execute_eq_exploreAll {setup : Setup} (p : Progress)
    (hinputs : setup.workflow.inputs ≠ []) :
    setup.execute p = (setup.exploreAll setup.workflow.inputs p).andThen fun p =>
      .ok () (p.withState p.state.complete) := by
  unfold execute
  split
  · next hnil => exact absurd hnil hinputs
  · rw [walkAll_eq_exploreAll]
    cases setup.exploreAll setup.workflow.inputs p <;> rfl

/-- The run with a stack is the recursive run, whatever the workflow, the limits and the
collaborators are, and whatever state and earlier calls it starts from. -/
theorem execute_eq_executeRecursively (setup : Setup) (p : Progress) :
    setup.execute p = setup.executeRecursively p := by
  have hentries : (setup.workflow.nodes.filter fun n => n.kind = .input) = setup.workflow.inputs :=
    rfl
  unfold execute executeRecursively
  rw [hentries]
  cases setup.workflow.inputs with
  | nil => rfl
  | cons n more =>
    simp only [walkAll_eq_exploreAll, List.isEmpty_cons, Bool.false_eq_true, ↓reduceIte]
    cases setup.exploreAll (n :: more) p <;> rfl

end Setup

end Flowscript
