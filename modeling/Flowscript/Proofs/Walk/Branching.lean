import Flowscript.Proofs.Walk.Dispatches
import Flowscript.Proofs.Walk.Turns

/-!
# Branching

What a condition comes to is stored among the variables and looked up again for each edge that
leaves it, after whole walks below other edges. It is the same each time: as long as a node is on
the path it is not dispatched again, and no other node writes its result. The main statement,
`dispatch_decides`, is that the truth of a condition at its dispatch alone decides which edges are
followed from it, and that no other node has edges with a condition followed from it.
-/

namespace Flowscript

/-- Whether an edge of a kind is followed from a condition that came out as `truth`. -/
def EdgeKind.followedOn (truth : Bool) : EdgeKind → Bool
  | always => true
  | whenTrue => truth
  | whenFalse => !truth

/-- The progress after a turn. -/
def Turn.progress : Turn → Progress
  | go _ p => p
  | done p => p
  | stopped _ p => p

namespace Setup

/-- The stacks and the progress that a walk comes to from a stack on, as long as the frame that lies
on `below` is not taken off. -/
inductive StaysOn (setup : Setup) (below stack : List Frame) (p : Progress) :
    List Frame → Progress → Prop
  | start : StaysOn setup below stack p stack p
  | turn {s next : List Frame} {q r : Progress} (hstays : StaysOn setup below stack p s q)
      (hturn : setup.turn s q = .go next r) (hon : below.length < next.length) :
      StaysOn setup below stack p next r

/-- Whether a node lies on `below` in a stack. -/
def LiesOn (n : Node) (below stack : List Frame) : Prop :=
  ∃ above f, stack = above ++ f :: below ∧ f.node = n

theorem LiesOn.mem_pathOf {n : Node} {below stack : List Frame} (h : LiesOn n below stack) :
    n.name ∈ pathOf stack := by
  obtain ⟨above, f, rfl, rfl⟩ := h
  simp [pathOf]

theorem LiesOn.node_eq {n : Node} {below : List Frame} {f : Frame}
    (h : LiesOn n below (f :: below)) : f.node = n := by
  obtain ⟨above, g, hstack, rfl⟩ := h
  cases above with
  | nil =>
    cases hstack
    rfl
  | cons u above =>
    have hlength := congrArg List.length hstack
    simp at hlength
    omega

/-- A turn changes the topmost frame and puts one on it or takes it off; what lies below stays. -/
theorem LiesOn.turn {setup : Setup} {n : Node} {below stack next : List Frame} {p q : Progress}
    (h : LiesOn n below stack) (hturn : setup.turn stack p = .go next q)
    (hon : below.length < next.length) : LiesOn n below next := by
  obtain ⟨above, f, hstack, rfl⟩ := h
  cases turns_of_eq hturn with
  | pop hnext =>
    cases above with
    | nil =>
      cases hstack
      exact absurd hon (Nat.lt_irrefl _)
    | cons u above =>
      cases hstack
      exact ⟨above, f, rfl, rfl⟩
  | @skip _ g e _ _ hnext hskip =>
    obtain ⟨-, hnode, -⟩ := Frame.leaving_of_next?_some hnext
    cases above with
    | nil =>
      cases hstack
      exact ⟨[], g, rfl, hnode⟩
    | cons u above =>
      cases hstack
      exact ⟨g :: above, f, rfl, rfl⟩
  | @push _ g e _ _ _ m hnext hfollow hpath hdispatch =>
    obtain ⟨-, hnode, -⟩ := Frame.leaving_of_next?_some hnext
    cases above with
    | nil =>
      cases hstack
      exact ⟨[{ node := m, pending := setup.workflow.edges }], g, rfl, hnode⟩
    | cons u above =>
      cases hstack
      exact ⟨{ node := m, pending := setup.workflow.edges } :: g :: above, f, rfl, rfl⟩

/-- A turn dispatches no node of the path, so it keeps their results; so it does where it stops the
run. -/
theorem result?_turn {setup : Setup} {stack : List Frame} {p : Progress} {t : Turn} {name : String}
    (hturn : setup.turn stack p = t) (hname : name ∈ pathOf stack) :
    t.progress.state.result? name = p.state.result? name := by
  cases turns_of_eq hturn with
  | done | pop | skip | cycle => rfl
  | fail hnext hfollow hpath hdispatch | push hnext hfollow hpath hdispatch =>
    rw [pathOf_next hnext] at hpath
    have hresult := setup.result?_dispatch_of_ne p (ne_of_mem_of_not_mem hname hpath)
    rw [hdispatch] at hresult
    exact hresult

/-- While a node stays on the path, its result is the one it had there at first. -/
theorem StaysOn.result? {setup : Setup} {n : Node} {below stack s : List Frame} {p q : Progress}
    (hstays : setup.StaysOn below stack p s q) (hlies : LiesOn n below stack) :
    LiesOn n below s ∧ q.state.result? n.name = p.state.result? n.name := by
  induction hstays with
  | start => exact ⟨hlies, rfl⟩
  | turn _ hturn hon ih =>
    obtain ⟨hs, hresult⟩ := ih
    exact ⟨hs.turn hturn hon, (result?_turn hturn hs.mem_pathOf).trans hresult⟩

/-- The walk follows an edge from the frame that lies on `below`. -/
def Follows (setup : Setup) (below stack : List Frame) (p : Progress) (e : Edge) : Prop :=
  ∃ f g q, setup.StaysOn below stack p (f :: below) q ∧ f.next? = some (e, g) ∧
    setup.turn (f :: below) q = setup.follow e.target (g :: below) q

/-- From the dispatch of a condition on, as long as its frame lies on `below`, the truth that it
came to then decides on the edges that leave it. -/
structure Decides (setup : Setup) (c : Node) (truth : Bool) (below stack : List Frame)
    (p : Progress) : Prop where
  /-- The stored result stays, whatever nodes are dispatched meanwhile. -/
  stable {s : List Frame} {q : Progress} (hstays : setup.StaysOn below stack p s q) :
    q.state.vars.get? (c.name ++ "_result") = some (.bool truth)
  /-- It also stays where the run is stopped. -/
  stable_stopped {s : List Frame} {q r : Progress} {cause : Failure}
    (hstays : setup.StaysOn below stack p s q) (hturn : setup.turn s q = .stopped cause r) :
    r.state.vars.get? (c.name ++ "_result") = some (.bool truth)
  /-- An edge that is reached is followed exactly if its kind asks for that truth. -/
  turn_eq {f g : Frame} {e : Edge} {q : Progress}
    (hstays : setup.StaysOn below stack p (f :: below) q) (hnext : f.next? = some (e, g)) :
    setup.turn (f :: below) q =
      if e.kind.followedOn truth then setup.follow e.target (g :: below) q
      else .go (g :: below) q
  /-- Edges of both kinds are never followed. -/
  exclusive {d e : Edge} (hd : d.kind = .whenTrue) (he : e.kind = .whenFalse) :
    ¬ (setup.Follows below stack p d ∧ setup.Follows below stack p e)

theorem follows_of_result? {c : Node} {e : Edge} {s : RunState} {truth : Bool}
    (hkind : c.kind = .condition) (hresult : s.result? c.name = some (.bool truth)) :
    follows c e s = e.kind.followedOn truth := by
  unfold follows
  cases e.kind <;> simp [hkind, hresult, EdgeKind.followedOn, Value.truthy]

theorem follows_of_not_condition {n : Node} {e : Edge} (s : RunState) (hkind : n.kind ≠ .condition)
    (hedge : e.kind ≠ .always) : follows n e s = false := by
  unfold follows
  cases hk : e.kind with
  | always => exact absurd hk hedge
  | whenTrue | whenFalse => simp [hkind]

theorem decides_of_result? {setup : Setup} {c : Node} {truth : Bool} {below stack : List Frame}
    {p : Progress} (hkind : c.kind = .condition) (hlies : LiesOn c below stack)
    (hresult : p.state.result? c.name = some (.bool truth)) :
    Decides setup c truth below stack p := by
  have hstable {s : List Frame} {q : Progress} (hstays : setup.StaysOn below stack p s q) :
      LiesOn c below s ∧ q.state.result? c.name = some (.bool truth) :=
    ⟨(hstays.result? hlies).1, (hstays.result? hlies).2.trans hresult⟩
  have hturn {f g : Frame} {e : Edge} {q : Progress}
      (hstays : setup.StaysOn below stack p (f :: below) q) (hnext : f.next? = some (e, g)) :
      setup.turn (f :: below) q =
        if e.kind.followedOn truth then setup.follow e.target (g :: below) q
        else .go (g :: below) q := by
    obtain ⟨hlies, hresult⟩ := hstable hstays
    obtain ⟨-, hnode, -⟩ := Frame.leaving_of_next?_some hnext
    rw [turn_of_next setup below q hnext, hnode, hlies.node_eq,
      follows_of_result? hkind hresult]
  refine ⟨fun hstays => (hstable hstays).2, fun hstays hstopped => ?_, hturn, fun hd he => ?_⟩
  · obtain ⟨hlies, hresult⟩ := hstable hstays
    exact (result?_turn hstopped hlies.mem_pathOf).trans hresult
  · -- The truth asks for one kind only, so the turn that reaches the other edge skips it.
    rintro ⟨⟨f, g, q, hstays, hnext, hfollow⟩, f', g', q', hstays', hnext', hfollow'⟩
    rw [hturn hstays hnext, hd] at hfollow
    rw [hturn hstays' hnext', he] at hfollow'
    cases truth with
    | true => exact follow_ne_go _ _ _ _ _ hfollow'.symm
    | false => exact follow_ne_go _ _ _ _ _ hfollow.symm

/-- A walk that dispatches a condition goes on with its frame on top, and from then on the truth of
the condition at that moment decides on every edge that is reached from the frame, whatever lies
below and whatever is run meanwhile. From a node that is no condition, no edge with a condition is
ever followed. -/
theorem dispatch_decides (setup : Setup) :
    (∀ name c p q, c.kind = .condition → setup.dispatch name p = .ok c q →
      (∀ below, name ∉ pathOf below → setup.follow name below p =
        .go ({ node := c, pending := setup.workflow.edges } :: below) q) ∧
      ∀ below, setup.Decides c (c.truth p.state.scope) below
        ({ node := c, pending := setup.workflow.edges } :: below) q) ∧
    ∀ f g e below p, f.node.kind ≠ .condition → f.next? = some (e, g) → e.kind ≠ .always →
      setup.turn (f :: below) p = .go (g :: below) p := by
  constructor
  · intro name c p q hkind hdispatch
    refine ⟨fun below hpath => ?_, fun below => ?_⟩
    · rw [← onPath_iff, Bool.not_eq_true] at hpath
      simp [follow, hpath, hdispatch]
    · have hresult := result?_dispatch_condition hkind hdispatch
      obtain ⟨-, rfl⟩ := node?_eq_some (dispatch_eq_ok hdispatch)
      exact decides_of_result? hkind ⟨[], _, rfl, rfl⟩ hresult
  · intro f g e below p hother hnext hedge
    obtain ⟨-, hnode, -⟩ := Frame.leaving_of_next?_some hnext
    rw [turn_of_next setup below p hnext, hnode, follows_of_not_condition p.state hother hedge]
    rfl

/-- A condition that holds where the variable `go` is not empty. -/
def gate : Node :=
  { name := "gate", kind := .condition, params := .ofList [("expression", "$go")] }

/-- A workflow that has an edge of either kind from `gate` and a variable `go`. -/
def gated : Setup :=
  { workflow :=
      { name := "gated", nodes := [gate]
        edges := [⟨"gate", "open", .whenTrue⟩, ⟨"gate", "shut", .whenFalse⟩]
        vars := .ofList [("go", .string "yes")] }
    collaborators := .none, limits := .standard, run := ⟨"r"⟩ }

/-- The progress before `gate` is dispatched, with an empty input `go` that the variable hides. -/
def gateStart : Progress :=
  .start (.fresh (.ofList [("go", .string "")]) gated.workflow.vars) #[]

/-- The progress after `gate` is dispatched. -/
def gateDone : Progress :=
  (gated.conditionWork gate (gated.entered gate gateStart)).report
    (.nodeCompleted gated.run "gated" "gate")

/-- A workflow without conditions, in which an edge with a condition leaves an input. -/
def plain : Setup :=
  { gated with
    workflow :=
      { name := "plain", nodes := [{ name := "in", kind := .input, params := ∅ }]
        edges := [⟨"in", "out", .whenTrue⟩], vars := ∅ } }

/-- The frame of the input, with some edges ahead. -/
def plainFrame (pending : List Edge) : Frame :=
  { node := { name := "in", kind := .input, params := ∅ }, pending }

theorem dispatch_decides_gate :
    gated.dispatch "gate" gateStart = .ok gate gateDone ∧
    gate.truth gateStart.state.scope = true ∧
    gated.Decides gate (gate.truth gateStart.state.scope) []
      [{ node := gate, pending := gated.workflow.edges }] gateDone ∧
    plain.turn [plainFrame plain.workflow.edges] gateStart = .go [plainFrame []] gateStart := by
  have hdispatch : gated.dispatch "gate" gateStart = .ok gate gateDone := rfl
  have htruth : gate.truth gateStart.state.scope = true := by decide +kernel
  obtain ⟨-, hdecides⟩ := (dispatch_decides gated).1 "gate" gate _ _ rfl hdispatch
  obtain ⟨-, hplain⟩ := dispatch_decides plain
  exact ⟨hdispatch, htruth, hdecides [], hplain _ _ _ [] _ (by decide) rfl (by decide)⟩

end Setup

end Flowscript
