import Flowscript.Proofs.Walk.Steps

/-!
# The edges a run depends on

A walk passes over all edges of a workflow for each node on its path and looks at those that leave
the node. So it does not matter how the edges of different nodes are mixed, and edges that leave
nodes which a run does not enter matter not at all. Two walks of workflows that differ in this make
the same turns with frames that have the same edges to look at; `execute_withEdges` says it of whole
runs.
-/

namespace Flowscript

/-- Frames at one node with the same edges to look at, whatever other edges they pass over. -/
structure Frame.Alike (f g : Frame) : Prop where
  node : g.node = f.node
  leaving : g.leaving = f.leaving

/-- Frames that are alike have no further edge, or come to the same one and are alike behind it. -/
theorem Frame.Alike.next? {f g : Frame} (h : f.Alike g) :
    (f.next? = none ∧ g.next? = none) ∨ ∃ e f' g',
      f.next? = some (e, f') ∧ g.next? = some (e, g') ∧ f'.Alike g' := by
  have hleaving := h.leaving
  cases hf : f.next? with
  | none =>
    rw [Frame.leaving_of_next?_none hf] at hleaving
    cases hg : g.next? with
    | none => exact .inl ⟨rfl, rfl⟩
    | some next =>
      obtain ⟨hcons, -, -⟩ := Frame.leaving_of_next?_some hg
      cases hcons.symm.trans hleaving
  | some next =>
    obtain ⟨e, f'⟩ := next
    obtain ⟨hfcons, hfnode, -⟩ := Frame.leaving_of_next?_some hf
    rw [hfcons] at hleaving
    cases hg : g.next? with
    | none => cases (Frame.leaving_of_next?_none hg).symm.trans hleaving
    | some next =>
      obtain ⟨e', g'⟩ := next
      obtain ⟨hgcons, hgnode, -⟩ := Frame.leaving_of_next?_some hg
      obtain ⟨rfl, hbehind⟩ := List.cons.inj (hgcons.symm.trans hleaving)
      exact .inr ⟨_, f', g', rfl, rfl, by rw [hgnode, hfnode, h.node], hbehind⟩

theorem pathOf_of_alike {stack stack' : List Frame} (h : List.Forall₂ Frame.Alike stack stack') :
    pathOf stack' = pathOf stack := by
  induction h with
  | nil => rfl
  | cons hframe _ ih => rw [pathOf_cons, pathOf_cons, hframe.node, ih]

/-- Turns that lead to the same progress, and to stacks of frames that are alike. -/
inductive Turn.Alike : Turn → Turn → Prop
  | go {stack stack' : List Frame} (p : Progress) (h : List.Forall₂ Frame.Alike stack stack') :
      Alike (.go stack p) (.go stack' p)
  | done (p : Progress) : Alike (.done p) (.done p)
  | stopped (cause : Failure) (p : Progress) : Alike (.stopped cause p) (.stopped cause p)

namespace Setup

variable {setup : Setup} {edges : List Edge} {stack stack' : List Frame} {p : Progress}

/-- The setup whose workflow has other edges. -/
def withEdges (setup : Setup) (edges : List Edge) : Setup :=
  { setup with workflow := { setup.workflow with edges } }

/-- Whether the same edges leave the node of a name if the workflow has other edges. -/
def SameOutgoing (setup : Setup) (edges : List Edge) (name : String) : Prop :=
  (setup.withEdges edges).workflow.outgoing name = setup.workflow.outgoing name

theorem dispatch_withEdges (setup : Setup) (edges : List Edge) (name : String) (p : Progress) :
    (setup.withEdges edges).dispatch name p = setup.dispatch name p := rfl

theorem alike_entry {n : Node} (h : setup.SameOutgoing edges n.name) :
    Frame.Alike { node := n, pending := setup.workflow.edges }
      { node := n, pending := (setup.withEdges edges).workflow.edges } := by
  refine ⟨rfl, ?_⟩
  rw [Frame.leaving_all, Frame.leaving_all]
  exact h

/-- The node that a dispatch enters is on the path that it leads to. -/
theorem name_mem_path {name : String} {n : Node} {q : Progress}
    (h : setup.dispatch name p = .ok n q) : n.name ∈ q.state.path := by
  obtain ⟨-, rfl⟩ := node?_eq_some (dispatch_eq_ok h)
  simp [path_dispatch h]

theorem alike_follow (target : String) (hstack : List.Forall₂ Frame.Alike stack stack')
    (hsame : ∀ name ∈ (setup.follow target stack p).outcome.progress.state.path,
      setup.SameOutgoing edges name) :
    (setup.follow target stack p).Alike ((setup.withEdges edges).follow target stack' p) := by
  have hpath := pathOf_of_alike hstack
  have honPath : onPath target stack' = onPath target stack := by
    rw [Bool.eq_iff_iff, onPath_iff, onPath_iff, hpath]
  unfold follow at hsame ⊢
  rw [dispatch_withEdges, honPath, cycleFrom_eq, cycleFrom_eq, hpath]
  by_cases hcycle : onPath target stack = true
  · rw [if_pos hcycle, if_pos hcycle]
    exact .stopped _ _
  · rw [if_neg hcycle] at hsame
    rw [if_neg hcycle, if_neg hcycle]
    cases hdispatch : setup.dispatch target p with
    | stopped cause q => exact .stopped cause q
    | ok n q =>
      rw [hdispatch] at hsame
      exact .go q (.cons (alike_entry (hsame _ (name_mem_path hdispatch))) hstack)

theorem alike_turn (hstack : List.Forall₂ Frame.Alike stack stack')
    (hsame : ∀ name ∈ (setup.turn stack p).outcome.progress.state.path,
      setup.SameOutgoing edges name) :
    (setup.turn stack p).Alike ((setup.withEdges edges).turn stack' p) := by
  cases hstack with
  | nil => exact .done p
  | @cons f g below below' hframe hbelow =>
    obtain ⟨hf, hg⟩ | ⟨e, f', g', hf, hg, halike⟩ := hframe.next?
    · simp only [turn, hf, hg]
      exact .go p hbelow
    · rw [turn_of_next _ _ _ hf] at hsame ⊢
      rw [turn_of_next _ _ _ hg, halike.node]
      by_cases hfollow : follows f'.node e p.state = true
      · rw [if_pos hfollow] at hsame
        rw [if_pos hfollow, if_pos hfollow]
        exact alike_follow e.target (.cons halike hbelow) hsame
      · rw [if_neg hfollow, if_neg hfollow]
        exact .go p (.cons halike hbelow)

/-- The next turn of a walk enters no other nodes than the walk. -/
theorem alike_turn_of_finish (hstack : List.Forall₂ Frame.Alike stack stack')
    (hsame : ∀ name ∈ (setup.finish stack p).progress.state.path, setup.SameOutgoing edges name) :
    (setup.turn stack p).Alike ((setup.withEdges edges).turn stack' p) := by
  refine alike_turn hstack fun name hname => hsame name ?_
  rw [finish_eq_bind]
  exact mem_path_bind setup.prefix_path_goOn hname

theorem finish_withEdges (hstack : List.Forall₂ Frame.Alike stack stack')
    (hsame : ∀ name ∈ (setup.finish stack p).progress.state.path, setup.SameOutgoing edges name) :
    (setup.withEdges edges).finish stack' p = setup.finish stack p := by
  have hturn := alike_turn_of_finish hstack hsame
  fun_induction finish setup stack p generalizing stack' with
  | case1 stack p q hdone =>
    rw [hdone] at hturn
    rw [finish_eq_bind]
    generalize (setup.withEdges edges).turn stack' p = t at hturn ⊢
    cases hturn
    rfl
  | case2 stack p cause q hstopped =>
    rw [hstopped] at hturn
    rw [finish_eq_bind]
    generalize (setup.withEdges edges).turn stack' p = t at hturn ⊢
    cases hturn
    rfl
  | case3 stack p next q hgo ih =>
    rw [hgo] at hturn
    rw [finish_eq_bind]
    generalize (setup.withEdges edges).turn stack' p = t at hturn ⊢
    cases hturn with
    | go _ hnext =>
      exact ih hnext hsame (alike_turn_of_finish hnext hsame)

theorem walk_withEdges {entry : String}
    (hsame : ∀ name ∈ (setup.walk entry p).progress.state.path, setup.SameOutgoing edges name) :
    (setup.withEdges edges).walk entry p = setup.walk entry p := by
  rw [walk_eq_bind] at hsame
  rw [walk_eq_bind, walk_eq_bind, dispatch_withEdges]
  cases hdispatch : setup.dispatch entry p with
  | stopped cause q => rfl
  | ok n q =>
    have hentered := name_mem_path hdispatch
    rw [hdispatch] at hsame
    have hn := hsame n.name (mem_path_bind (fun _ => setup.prefix_path_finish _) hentered)
    exact finish_withEdges (.cons (alike_entry hn) .nil) hsame

theorem walkAll_withEdges {entries : List Node}
    (hsame : ∀ name ∈ (setup.walkAll entries p).progress.state.path,
      setup.SameOutgoing edges name) :
    (setup.withEdges edges).walkAll entries p = setup.walkAll entries p := by
  induction entries generalizing p with
  | nil => rfl
  | cons n more ih =>
    rw [walkAll_cons_eq_bind] at hsame
    rw [walkAll_cons_eq_bind, walkAll_cons_eq_bind, walk_withEdges fun name hname =>
      hsame name (mem_path_bind (fun _ => setup.prefix_path_walkAll more) hname)]
    cases hwalk : setup.walk n.name p with
    | stopped cause q => rfl
    | ok u q =>
      rw [hwalk] at hsame
      exact ih hsame

/-- A run is the same with other edges if the same edges leave each node that it enters, in the same
order: it ends in the same way and in the same state, after the same calls and events. -/
theorem execute_withEdges (setup : Setup) (edges : List Edge) (input vars : Object)
    (calls : Array Call)
    (hsame : ∀ name ∈ (setup.execute (.start (.fresh input vars) calls)).progress.state.path,
      (setup.withEdges edges).workflow.outgoing name = setup.workflow.outgoing name) :
    (setup.withEdges edges).execute (.start (.fresh input vars) calls) =
      setup.execute (.start (.fresh input vars) calls) := by
  by_cases hinputs : setup.workflow.inputs = []
  · have hother : (setup.withEdges edges).workflow.inputs = [] := hinputs
    rw [execute, execute, hinputs, hother]
    rfl
  · rw [execute_eq_bind _ _ hinputs] at hsame
    rw [execute_eq_bind _ _ hinputs, execute_eq_bind (setup.withEdges edges) _ hinputs]
    have hwalks := walkAll_withEdges fun name hname =>
      hsame name (mem_path_bind (fun _ _ => List.prefix_refl _) hname)
    exact congrArg (Outcome.bind · _) hwalks

/-- A workflow with a fork, in which one branch goes on. -/
def forked : Setup :=
  { workflow :=
      { name := "forked"
        nodes := [{ name := "in", kind := .input, params := ∅ },
          { name := "left", kind := .output, params := ∅ },
          { name := "right", kind := .output, params := ∅ },
          { name := "end", kind := .output, params := ∅ },
          { name := "idle", kind := .output, params := ∅ }]
        edges := [⟨"in", "left", .always⟩, ⟨"in", "right", .always⟩, ⟨"left", "end", .always⟩,
          ⟨"idle", "in", .always⟩]
        vars := ∅ }
    collaborators := .none, limits := .standard, run := ⟨"r"⟩ }

/-- Other edges of the workflow, with another one at the node that is never entered. -/
def regrouped : List Edge :=
  [⟨"left", "end", .always⟩, ⟨"idle", "idle", .always⟩, ⟨"in", "left", .always⟩,
    ⟨"in", "right", .always⟩]

theorem execute_withEdges_forked :
    (forked.execute (.start (.fresh ∅ ∅) #[])).progress.state.path =
      #["in", "left", "end", "right"] ∧
    (forked.withEdges regrouped).execute (.start (.fresh ∅ ∅) #[]) =
      forked.execute (.start (.fresh ∅ ∅) #[]) := by
  have hpath : (forked.execute (.start (.fresh ∅ ∅) #[])).progress.state.path =
      #["in", "left", "end", "right"] := by
    decide +kernel
  refine ⟨hpath, forked.execute_withEdges regrouped ∅ ∅ #[] ?_⟩
  rw [hpath]
  decide

end Setup

end Flowscript
