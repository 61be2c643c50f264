import Flowscript.Proofs.Walk.Headings

/-!
# Tallies of a run

A state keeps its visits twice, as the path and as a number for each name, and one limit looks at
the length of the path and the other at these numbers. In every state that a run from a fresh state
goes through the two agree, the limits are kept, and the state tells the end of its path as the
current node. So a limit stops a run exactly where the path would have become too long or would have
held a name too often. The main statement is `tallies_execute`.
-/

namespace Flowscript

namespace RunState

/-- The visits that a state counts are those on its path, and they are within the limits. -/
structure Tallied (limits : Limits) (s : RunState) : Prop where
  visits (name : String) : s.visits name = s.path.count name
  size_le : s.path.size ≤ limits.maxVisits
  count_le (hbound : limits.maxVisitsPerNode ≠ 0) (name : String) :
    s.path.count name ≤ limits.maxVisitsPerNode

/-- A state in which a run has not started, or is at the last node of its path. -/
structure Underway (s : RunState) : Prop where
  notStarted (hpath : s.path = #[]) : s.status = .notStarted ∧ s.current = none
  running {name : String} (hlast : s.path.back? = some name) :
    s.status = .running name ∧ s.current = some name

/-- The limit that the path of a state exceeds, plus one. Where it exceeds both, the limit on all
visits counts. -/
inductive Exceeds (limits : Limits) (s : RunState) (node : String) : Nat → Prop
  | all (hsize : limits.maxVisits < s.path.size) : Exceeds limits s node (limits.maxVisits + 1)
  | perNode (hsize : s.path.size ≤ limits.maxVisits) (hbound : limits.maxVisitsPerNode ≠ 0)
      (hcount : limits.maxVisitsPerNode < s.path.count node) :
      Exceeds limits s node (limits.maxVisitsPerNode + 1)

variable {limits : Limits} {s : RunState}

theorem tallied_fresh (limits : Limits) (input vars : Object) :
    (fresh input vars).Tallied limits where
  visits name := by simp [fresh, RunState.visits, Dict.getD]
  size_le := Nat.zero_le _
  count_le _ name := by simp [fresh]

theorem underway_fresh (input vars : Object) : (fresh input vars).Underway where
  notStarted _ := ⟨rfl, rfl⟩
  running hlast := nomatch hlast

theorem underway_enter (s : RunState) (node : String) : (s.enter node).Underway where
  notStarted hpath := by simp [enter] at hpath
  running hlast := by simpa [enter] using hlast

@[simp] theorem size_path_enter (s : RunState) (node : String) :
    (s.enter node).path.size = s.path.size + 1 := by
  simp [enter]

theorem count_path_enter (s : RunState) (node name : String) :
    (s.enter node).path.count name = s.path.count name + if node = name then 1 else 0 := by
  simp [enter, Array.count_push]

/-- Nothing but the path and the counted visits matters to the tallies. -/
theorem Tallied.congr {t : RunState} (h : s.Tallied limits) (hpath : t.path = s.path)
    (hcounts : t.visitCounts = s.visitCounts) : t.Tallied limits where
  visits name := by
    rw [hpath, ← h.visits, RunState.visits, RunState.visits, hcounts]
  size_le := hpath ▸ h.size_le
  count_le := hpath ▸ h.count_le

theorem Underway.congr {t : RunState} (h : s.Underway) (hpath : t.path = s.path)
    (hstatus : t.status = s.status) (hcurrent : t.current = s.current) : t.Underway where
  notStarted := by
    rw [hpath, hstatus, hcurrent]
    exact h.notStarted
  running := by
    rw [hpath, hstatus, hcurrent]
    exact h.running

end RunState

namespace Setup

open RunState

variable {setup : Setup} {p q : Progress} {s : RunState} {node : String} {visits : Nat}
  {input vars : Object} {calls : Array Call}

/-! ## Entering a node -/

theorem refusal?_eq_none_iff : setup.refusal? node s = none ↔
    s.path.size < setup.limits.maxVisits ∧
      (setup.limits.maxVisitsPerNode ≠ 0 → s.visits node < setup.limits.maxVisitsPerNode) := by
  unfold refusal?
  grind

theorem tallied_enter (h : s.Tallied setup.limits) (hadmitted : setup.refusal? node s = none) :
    (s.enter node).Tallied setup.limits := by
  obtain ⟨hsize, hcount⟩ := refusal?_eq_none_iff.mp hadmitted
  refine ⟨fun name => ?_, ?_, fun hbound name => ?_⟩
  · rw [visits_enter, count_path_enter, h.visits, h.visits]
    grind
  · rw [size_path_enter]
    omega
  · have hle := h.count_le hbound name
    have hlt := hcount hbound
    rw [h.visits] at hlt
    rw [count_path_enter]
    grind

/-- A limit refuses a node exactly if the state with this node entered would exceed it. -/
theorem refusal?_eq_some_iff (h : s.Tallied setup.limits) :
    setup.refusal? node s = some (.visitLimitExceeded node visits) ↔
      (s.enter node).Exceeds setup.limits node visits := by
  have hsize := h.size_le
  have hvisits := h.visits node
  have hentered := count_path_enter s node node
  rw [if_pos rfl] at hentered
  constructor
  · intro hrefusal
    unfold refusal? at hrefusal
    dsimp only at hrefusal
    split at hrefusal
    · next hall =>
      -- Within the limits, what is refused has just reached its limit.
      cases hrefusal
      have heq : s.path.size = setup.limits.maxVisits := by omega
      rw [heq]
      exact .all (by rw [size_path_enter]; omega)
    · next hall =>
      split at hrefusal
      · next hnode =>
        cases hrefusal
        obtain ⟨hbound, hle⟩ := hnode
        have hcount := h.count_le hbound node
        have heq : s.visits node = setup.limits.maxVisitsPerNode := by omega
        rw [heq]
        exact .perNode (by rw [size_path_enter]; omega) hbound (by omega)
      · cases hrefusal
  · intro hexceeds
    unfold refusal?
    cases hexceeds with
    | all hover =>
      rw [size_path_enter] at hover
      have heq : s.path.size = setup.limits.maxVisits := by omega
      simp [heq]
    | perNode hfree hbound hover =>
      rw [size_path_enter] at hfree
      have hcount := h.count_le hbound node
      have heq : s.visits node = setup.limits.maxVisitsPerNode := by omega
      simp [heq, hbound, Nat.not_le.mpr hfree]

/-! ## Whole runs -/

theorem tallied_perform {n : Node} (h : q.state.Tallied setup.limits)
    (hadmitted : setup.refusal? n.name q.state = none) :
    (setup.perform n q).progress.state.Tallied setup.limits := by
  obtain ⟨vars, output, conditionErrors, hstate⟩ := setup.exists_state_perform n q
  rw [hstate]
  exact (tallied_enter h hadmitted).congr rfl rfl

theorem underway_perform (setup : Setup) (n : Node) (q : Progress) :
    (setup.perform n q).progress.state.Underway := by
  obtain ⟨vars, output, conditionErrors, hstate⟩ := setup.exists_state_perform n q
  rw [hstate]
  exact (q.state.underway_enter n.name).congr rfl rfl rfl

theorem HeadsFor.tallied {stack : List Frame} {name : String}
    (h : setup.HeadsFor (.start (.fresh input vars) calls) stack q name) :
    q.state.Tallied setup.limits := by
  refine h.holds ?_ (tallied_fresh setup.limits input vars)
  intro n q henters hq
  exact tallied_perform hq henters.admitted

theorem Reaches.tallied (h : setup.Reaches (.start (.fresh input vars) calls) s) :
    s.Tallied setup.limits := by
  have henter {n : Node} {q : Progress}
      (henters : setup.Enters (.start (.fresh input vars) calls) n q) :
      q.state.Tallied setup.limits := by
    obtain ⟨stack, hheads, -⟩ := henters.heads
    exact hheads.tallied
  cases h with
  | start => exact tallied_fresh setup.limits input vars
  | entered henters => exact tallied_enter (henter henters) henters.admitted
  | faulted henters =>
    exact (tallied_enter (henter henters) henters.admitted).congr rfl rfl
  | visited henters => exact tallied_perform (henter henters) henters.admitted

theorem Reaches.underway (h : setup.Reaches (.start (.fresh input vars) calls) s) :
    s.Underway := by
  cases h with
  | start => exact underway_fresh input vars
  | @entered n q => exact q.state.underway_enter n.name
  | @faulted n q => exact (q.state.underway_enter n.name).congr rfl rfl rfl
  | @visited n q => exact setup.underway_perform n q

/-- In every state of a run from a fresh state the tallies agree and are within the limits, and the
state is that of a run that has not started or is at the last node of its path. A limit stops the
run exactly where it heads for a node, not on its stack, with which the state would exceed the
limit. A run that goes through completes such a state, a run that is stopped leaves it as it is, and
its end keeps the tallies. -/
theorem tallies_execute (setup : Setup) (input vars : Object) (calls : Array Call) :
    let start := Progress.start (.fresh input vars) calls
    (∀ s, setup.Reaches start s → s.Tallied setup.limits ∧ s.Underway) ∧
    (∀ node visits q, setup.execute start = .stopped (.visitLimitExceeded node visits) q ↔
      ∃ stack, setup.HeadsFor start stack q node ∧ node ∉ pathOf stack ∧
        setup.workflow.defines node = true ∧
        (q.state.enter node).Exceeds setup.limits node visits) ∧
    (∀ q, setup.execute start = .ok () q → q.state.status = .completed ∧ q.state.current = none ∧
      ∃ s, setup.Reaches start s ∧ q.state = s.complete) ∧
    (∀ cause q, setup.execute start = .stopped cause q → setup.Reaches start q.state) ∧
    (setup.execute start).finalState.Tallied setup.limits := by
  intro start
  have hreaches {s : RunState} (h : setup.Reaches start s) : s.Tallied setup.limits := h.tallied
  refine ⟨?_, ?_, ?_, ?_, ?_⟩
  · intro s h
    exact ⟨hreaches h, h.underway⟩
  · intro node visits q
    rw [execute_eq_visitLimitExceeded_iff]
    refine exists_congr fun stack => and_congr_right fun hheads => ?_
    rw [refusal?_eq_some_iff hheads.tallied]
  · intro q h
    obtain ⟨s, hs, hstate⟩ := exists_reaches_of_ok h
    exact ⟨by rw [hstate]; rfl, by rw [hstate]; rfl, s, hs, hstate⟩
  · intro cause q h
    exact reaches_of_stopped h
  · cases h : setup.execute start with
    | ok u q =>
      obtain ⟨s, hs, hstate⟩ := exists_reaches_of_ok h
      rw [Outcome.finalState, hstate]
      exact (hreaches hs).congr rfl rfl
    | stopped cause q => exact (hreaches (reaches_of_stopped h)).congr rfl rfl

/-- A workflow in which two ways lead to a node that may be entered once. -/
def strict : Setup :=
  { workflow :=
      { name := "strict"
        nodes := [{ name := "in", kind := .input, params := ∅ },
          { name := "left", kind := .output, params := ∅ },
          { name := "right", kind := .output, params := ∅ },
          { name := "join", kind := .output, params := ∅ }]
        edges := [⟨"in", "left", .always⟩, ⟨"in", "right", .always⟩, ⟨"left", "join", .always⟩,
          ⟨"right", "join", .always⟩]
        vars := ∅ }
    collaborators := .none
    limits := { Limits.standard with maxVisitsPerNode := 1 }
    run := ⟨"r"⟩ }

/-- How a run of the workflow ends. -/
def strictEnd : Outcome Unit :=
  strict.execute (.start (.fresh ∅ ∅) #[])

/-- The node and the number of its visits that a failure reports. -/
def reportedVisits? : Failure → Option (String × Nat)
  | .visitLimitExceeded node visits => some (node, visits)
  | _ => none

theorem tallies_execute_strict :
    strictEnd = .stopped (.visitLimitExceeded "join" 2) strictEnd.progress ∧
    strictEnd.progress.state.visits "join" = 1 ∧
    strictEnd.progress.state.status = .running "right" ∧
    (strictEnd.progress.state.enter "join").Exceeds strict.limits "join" 2 := by
  have hpath : strictEnd.progress.state.path = #["in", "left", "join", "right"] := by
    decide +kernel
  have hvisits : strictEnd.cause?.bind reportedVisits? = some ("join", 2) := by
    decide +kernel
  have hend : strictEnd = .stopped (.visitLimitExceeded "join" 2) strictEnd.progress := by
    obtain ⟨cause, hcause, hend⟩ := Outcome.exists_eq_stopped hvisits
    cases cause <;> cases hcause
    exact hend
  obtain ⟨hstates, hlimit, -, hstopped, -⟩ := strict.tallies_execute ∅ ∅ #[]
  obtain ⟨htallied, hunderway⟩ := hstates _ (hstopped _ _ hend)
  obtain ⟨stack, -, -, -, hexceeds⟩ := (hlimit _ _ _).mp hend
  obtain ⟨hstatus, -⟩ := hunderway.running (by rw [hpath]; rfl)
  exact ⟨hend, by rw [htallied.visits, hpath]; rfl, hstatus, hexceeds⟩

end Setup

end Flowscript
