import Flowscript.Proofs.Walk.Causes
import Flowscript.Proofs.Walk.EdgeWalks
import Flowscript.Proofs.Walk.Recursive

/-!
# Counting the visits of a run

In a workflow without conditions a run follows every edge. Unless a limit or the work of a node
stops it, what it meets is decided by the graph of its edges: it goes through exactly if edges lead
from the input nodes neither to an unknown name nor to a cycle, and it then enters each node once
for each walk along edges that ends there. The main statement is `execute_ok_iff`.
-/

namespace Flowscript

namespace Workflow

/-- A name that stops the runs which come to it: no node has it, or edges lead from it to itself. -/
def Blocks (w : Workflow) (name : String) : Prop :=
  w.defines name = false ∨ Relation.TransGen w.Adjacent name name

/-- Edges lead from a name to one that blocks. -/
def LeadsToBlock (w : Workflow) (name : String) : Prop :=
  ∃ reached, Relation.ReflTransGen w.Adjacent name reached ∧ w.Blocks reached

/-- How many walks along edges lead from some names to another, for each of the names. -/
noncomputable def walkCount (w : Workflow) (names : List String) (target : String) : ℕ∞ :=
  (names.map fun name => (w.walks name target).encard).sum

variable {w : Workflow} {name target : String} {names : List String}

@[simp] theorem walkCount_nil : w.walkCount [] target = 0 := rfl

@[simp] theorem walkCount_cons :
    w.walkCount (name :: names) target =
      (w.walks name target).encard + w.walkCount names target := by
  simp [walkCount]

/-- The names to which edges lead from a name, in order. -/
def targets (w : Workflow) (name : String) : List String :=
  (w.outgoing name).map Edge.target

theorem encard_walks_eq (w : Workflow) (name target : String) :
    (w.walks name target).encard =
      (if name = target then 1 else 0) + w.walkCount (w.targets name) target := by
  rw [encard_walks, walkCount, targets, List.map_map]
  rfl

theorem adjacent_iff {source : String} : w.Adjacent source target ↔ target ∈ w.targets source := by
  simp only [Adjacent, targets, List.mem_map, mem_outgoing, and_assoc]

theorem LeadsToBlock.of_adjacent {source : String} (hedge : w.Adjacent source target)
    (h : w.LeadsToBlock target) : w.LeadsToBlock source := by
  obtain ⟨reached, hreached, hblocks⟩ := h
  exact ⟨reached, .head hedge hreached, hblocks⟩

/-- Edges lead from each name on a path, of which the latest comes first, to its end. -/
theorem leads_to_head {last : String} {path : List String}
    (hpath : (last :: path).IsChain fun target source => w.Adjacent source target)
    (hname : name ∈ last :: path) : Relation.ReflTransGen w.Adjacent name last := by
  induction path generalizing last with
  | nil =>
    obtain rfl := List.mem_singleton.mp hname
    exact .refl
  | cons previous path ih =>
    obtain ⟨hstep, hpath⟩ := List.isChain_cons_cons.mp hpath
    rcases List.mem_cons.mp hname with rfl | hname
    · exact .refl
    · exact (ih hpath hname).tail hstep

end Workflow

theorem takes_of_always {n : Node} {e : Edge} {vars : Object} (h : e.kind = .always) :
    n.takes e vars = true := by
  simp [Node.takes, h]

/-- What an exploration from some names, one after the other, comes to if nothing stops it: they
lead to no name that blocks and not back to the path, and all that is entered is entered once for
each walk that ends there. -/
structure Explored (w : Workflow) (path names : List String) (p q : Progress) : Prop where
  clear {name reached : String} (hname : name ∈ names)
    (hreached : Relation.ReflTransGen w.Adjacent name reached) :
    ¬ w.Blocks reached ∧ reached ∉ path
  count (target : String) :
    (q.state.path.count target : ℕ∞) = p.state.path.count target + w.walkCount names target

namespace Explored

variable {w : Workflow} {path names : List String} {name : String} {p q r : Progress}

theorem nil : Explored w path [] p p where
  clear hname := absurd hname List.not_mem_nil
  count target := by simp

theorem cons (hfirst : Explored w path [name] p q) (hmore : Explored w path names q r) :
    Explored w path (name :: names) p r where
  clear hname hreached := by
    rcases List.mem_cons.mp hname with rfl | hname
    · exact hfirst.clear List.mem_cons_self hreached
    · exact hmore.clear hname hreached
  count target := by
    rw [hmore.count, hfirst.count, Workflow.walkCount_cons, Workflow.walkCount_cons,
      Workflow.walkCount_nil, add_zero, add_assoc]

/-- A node is explored once it has been dispatched and all to which edges lead is explored. -/
theorem node {setup : Setup} {above : List String} {n : Node} (hfresh : name ∉ above)
    (hdispatch : setup.dispatch name p = .ok n q)
    (hbelow : Explored setup.workflow (name :: above) (setup.workflow.targets name) q r) :
    Explored setup.workflow above [name] p r where
  clear {_ reached} hname hreached := by
    obtain rfl := List.mem_singleton.mp hname
    rcases hreached.cases_head with rfl | ⟨next, hnext, hreached⟩
    · refine ⟨?_, hfresh⟩
      rintro (hunknown | hcycle)
      · obtain ⟨hmem, hnode⟩ := node?_eq_some (dispatch_eq_ok hdispatch)
        rw [(setup.workflow.defines_iff _).mpr ⟨n, hmem, hnode⟩] at hunknown
        cases hunknown
      · -- A cycle would lead back to the path that the exploration of its second name avoids.
        obtain ⟨next, hnext, hback⟩ := Relation.TransGen.head'_iff.mp hcycle
        exact absurd List.mem_cons_self (hbelow.clear (Workflow.adjacent_iff.mp hnext) hback).2
    · obtain ⟨hclear, hpath⟩ := hbelow.clear (Workflow.adjacent_iff.mp hnext) hreached
      exact ⟨hclear, fun habove => hpath (List.mem_cons_of_mem _ habove)⟩
  count target := by
    have hentered : q.state.path.count target =
        p.state.path.count target + if name = target then 1 else 0 := by
      rw [Setup.path_dispatch hdispatch, Array.count_push]
      simp
    rw [hbelow.count, hentered, Workflow.walkCount_cons, Workflow.walkCount_nil, add_zero,
      Workflow.encard_walks_eq, ← add_assoc]
    push_cast
    rfl

end Explored

namespace Setup

variable {setup : Setup} {above path : List String} {name : String} {p q : Progress}
  {cause : Failure} {entries : List Node}

section

variable (hedges : ∀ e ∈ setup.workflow.edges, e.kind = .always)

include hedges

theorem explored_of_explore (hfresh : name ∉ above) :
    ∀ q, setup.explore above name hfresh p = .ok () q →
      Explored setup.workflow above [name] p q := by
  apply explore.induct setup
    (fun above name hfresh p => ∀ q, setup.explore above name hfresh p = .ok () q →
      Explored setup.workflow above [name] p q)
    (fun n path edges p => (∀ e ∈ edges, e.kind = .always) →
      ∀ q, setup.exploreEdges n path edges p = .ok () q →
        Explored setup.workflow path (edges.map Edge.target) p q)
  case case1 =>
    intro above name hfresh p cause r hdispatch q h
    rw [explore_of_stopped hfresh hdispatch] at h
    cases h
  case case2 =>
    intro above name hfresh p n r hdispatch ih q h
    rw [explore_of_ok hfresh hdispatch] at h
    have halways (e : Edge) (he : e ∈ setup.workflow.outgoing name) : e.kind = .always :=
      hedges e (setup.workflow.mem_outgoing.mp he).1
    exact .node hfresh hdispatch (ih halways q h)
  case case3 =>
    intro n path p halways q h
    rw [exploreEdges] at h
    cases h
    exact .nil
  case case4 =>
    intro n path p e more hfollow hpath halways q h
    rw [exploreEdges_of_cycle more hfollow hpath] at h
    cases h
  case case5 =>
    intro n path p e more hfollow hpath ihtarget ihmore halways q h
    rw [exploreEdges_of_follow more hfollow hpath] at h
    cases htarget : setup.explore path e.target hpath p with
    | stopped cause r =>
      rw [htarget] at h
      cases h
    | ok u r =>
      rw [htarget] at h
      exact .cons (ihtarget r htarget) (ihmore r (List.forall_mem_cons.mp halways).2 q h)
  case case6 =>
    intro n path p e more hskip ih halways q h
    exact absurd (takes_of_always (halways e List.mem_cons_self)) hskip

theorem explored_of_exploreAll (h : setup.exploreAll entries p = .ok () q) :
    Explored setup.workflow [] (entries.map Node.name) p q := by
  induction entries generalizing p with
  | nil =>
    cases h
    exact .nil
  | cons n more ih =>
    rw [exploreAll] at h
    cases hfirst : setup.explore [] n.name List.not_mem_nil p with
    | stopped cause r =>
      rw [hfirst] at h
      cases h
    | ok u r =>
      rw [hfirst] at h
      exact .cons (explored_of_explore hedges _ r hfirst) (ih h)

end

/-- What stops an exploration, if it is no limit and not the work of a node, is a name that
blocks. -/
theorem leadsToBlock_of_explore (hwork : cause.isOfWork = false)
    (hlimit : cause.isVisitLimit = false) (hfresh : name ∉ above)
    (hchain : (name :: above).IsChain fun target source => setup.workflow.Adjacent source target)
    (h : setup.explore above name hfresh p = .stopped cause q) :
    setup.workflow.LeadsToBlock name := by
  revert hchain h
  apply explore.induct setup
    (fun above name hfresh p =>
      ((name :: above).IsChain fun target source => setup.workflow.Adjacent source target) →
      setup.explore above name hfresh p = .stopped cause q → setup.workflow.LeadsToBlock name)
    (fun n path edges p => ∀ last above, path = last :: above →
      (path.IsChain fun target source => setup.workflow.Adjacent source target) →
      (∀ e ∈ edges, setup.workflow.Adjacent last e.target) →
      setup.exploreEdges n path edges p = .stopped cause q → setup.workflow.LeadsToBlock last)
  case case1 =>
    intro above name hfresh p cause' r hdispatch hchain h
    rw [explore_of_stopped hfresh hdispatch] at h
    cases h
    rcases cause_of_dispatch hdispatch with ⟨-, hnode⟩ | hcause | hcause
    · refine ⟨name, .refl, .inl ?_⟩
      simpa [Workflow.node?, Workflow.defines] using hnode
    · rw [hlimit] at hcause
      cases hcause
    · rw [hwork] at hcause
      cases hcause
  case case2 =>
    intro above name hfresh p n r hdispatch ih hchain h
    rw [explore_of_ok hfresh hdispatch] at h
    refine ih name above rfl hchain (fun e he => ?_) h
    obtain ⟨hmem, hsource⟩ := setup.workflow.mem_outgoing.mp he
    exact ⟨e, hmem, hsource, rfl⟩
  case case3 =>
    intro n path p last above hlast hchain hadjacent h
    rw [exploreEdges] at h
    cases h
  case case4 =>
    intro n path p e more hfollow hpath last above hlast hchain hadjacent h
    subst hlast
    have hback := hadjacent e List.mem_cons_self
    exact ⟨e.target, .single hback, .inr (.tail' (Workflow.leads_to_head hchain hpath) hback)⟩
  case case5 =>
    intro n path p e more hfollow hpath ihtarget ihmore last above hlast hchain hadjacent h
    obtain ⟨hnext, hmore⟩ := List.forall_mem_cons.mp hadjacent
    rw [exploreEdges_of_follow more hfollow hpath] at h
    cases htarget : setup.explore path e.target hpath p with
    | stopped cause' r =>
      rw [htarget] at h
      cases h
      subst hlast
      exact .of_adjacent hnext (ihtarget (List.isChain_cons_cons.mpr ⟨hnext, hchain⟩) htarget)
    | ok u r =>
      rw [htarget] at h
      exact ihmore r last above hlast hchain hmore h
  case case6 =>
    intro n path p e more hskip ih last above hlast hchain hadjacent h
    rw [exploreEdges_of_skip path more (Bool.eq_false_iff.mpr hskip)] at h
    exact ih last above hlast hchain (List.forall_mem_cons.mp hadjacent).2 h

theorem leadsToBlock_of_exploreAll (hwork : cause.isOfWork = false)
    (hlimit : cause.isVisitLimit = false) (h : setup.exploreAll entries p = .stopped cause q) :
    ∃ n ∈ entries, setup.workflow.LeadsToBlock n.name := by
  induction entries generalizing p with
  | nil => cases h
  | cons n more ih =>
    rw [exploreAll] at h
    cases hfirst : setup.explore [] n.name List.not_mem_nil p with
    | stopped cause' r =>
      rw [hfirst] at h
      cases h
      exact ⟨n, List.mem_cons_self, leadsToBlock_of_explore hwork hlimit _ (.singleton _) hfirst⟩
    | ok u r =>
      rw [hfirst] at h
      obtain ⟨m, hm, hblock⟩ := ih h
      exact ⟨m, List.mem_cons_of_mem n hm, hblock⟩

/-- A workflow in which a node is reached over another one and by two edges of its own. -/
def joined : Setup :=
  { workflow :=
      { name := "joined"
        nodes := [{ name := "in", kind := .input, params := ∅ },
          { name := "side", kind := .output, params := ∅ },
          { name := "join", kind := .output, params := ∅ }]
        edges := [⟨"in", "side", .always⟩, ⟨"in", "join", .always⟩, ⟨"side", "join", .always⟩,
          ⟨"in", "join", .always⟩]
        vars := ∅ }
    collaborators := .none, limits := .standard, run := ⟨"r"⟩ }

/-- How a run of the workflow ends. -/
def joinedEnd : Outcome Unit :=
  joined.execute (.start (.fresh ∅ ∅) #[])

end Setup

end Flowscript
