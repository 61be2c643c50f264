import Flowscript.Proofs.Run.Scopes
import Flowscript.Proofs.Walk.Lockstep

/-!
# Inputs that variables hide

A variable hides an input of the same name. A run never loses a variable, so what is hidden from the
first node is hidden from all that follow, and a caller cannot change a run through names that the
workflow defines: two inputs that differ only in these make the same run, which is
`execute_withInput`.
-/

namespace Flowscript

/-- The progress of a run with another input. -/
def Progress.withInput (p : Progress) (input : Object) : Progress :=
  p.withState { p.state with input }

/-- The outcome of a run with another input. -/
def Outcome.withInput {α : Type} (o : Outcome α) (input : Object) : Outcome α :=
  match o with
  | ok a p => .ok a (p.withInput input)
  | stopped cause p => .stopped cause (p.withInput input)

/-- Where an input differs from that of a run, the variables hide it. -/
def Progress.Hides (p : Progress) (input : Object) : Prop :=
  ∀ name, p.state.vars.get? name = none → input.get? name = p.state.input.get? name

theorem Progress.Hides.agrees {p : Progress} {input : Object} (h : p.Hides input) :
    p.state.scope.Agrees (p.withInput input).state.scope := by
  refine ⟨rfl, fun name => ?_⟩
  cases hvar : p.state.vars.get? name with
  | some v => simp [Scope.lookup, RunState.scope, withInput, withState, hvar]
  | none => simp [Scope.lookup, RunState.scope, withInput, withState, hvar, h name hvar]

namespace Setup

variable {setup : Setup} {p : Progress} {input : Object}

/-! ## What nodes read -/

theorem consult_withInput {ι ω : Type} (setup : Setup) (node callee : String)
    (c : Collaborator ι ω) (call : Call) (x : ι) (p : Progress) (input : Object) :
    setup.consult node callee c call x (p.withInput input) =
      (setup.consult node callee c call x p).withInput input := by
  unfold consult
  dsimp only [Progress.withInput, Progress.withState, RunState.trace]
  split <;> rfl

theorem storing_withInput (node : String) (o : Outcome Value) (input : Object) :
    storing node (o.withInput input) = (storing node o).withInput input := by
  cases o <;> rfl

theorem work_withInput (n : Node) (h : p.Hides input) :
    setup.work n (p.withInput input) = (setup.work n p).withInput input := by
  have hresolve := Parameter.resolve_of_agrees h.agrees
  cases hkind : n.kind with
  | input => simp only [work, hkind]; rfl
  | output =>
    simp only [work, hkind, outputWork, hresolve]
    rfl
  | condition =>
    simp only [work, hkind, conditionWork, Condition.holds_of_agrees h.agrees]
    split <;> rfl
  | agent =>
    simp only [work, hkind, agentWork, hresolve]
    split
    · rfl
    · rw [consult_withInput, storing_withInput]
  | function =>
    simp only [work, hkind, functionWork, hresolve]
    split
    · rfl
    · split
      · rw [consult_withInput, storing_withInput]
      · rfl
  | prompt =>
    simp only [work, hkind, promptWork, request_of_agrees h.agrees]
    split
    · rfl
    · rw [consult_withInput]
      cases setup.consult _ _ _ _ _ p <;> rfl

theorem perform_withInput (n : Node) (h : p.Hides input) :
    setup.perform n (p.withInput input) = (setup.perform n p).withInput input := by
  have hentered : setup.entered n (p.withInput input) =
      (setup.entered n p).withInput input := rfl
  have hwork : setup.work n ((setup.entered n p).withInput input) =
      (setup.work n (setup.entered n p)).withInput input := work_withInput n h
  unfold perform
  rw [hentered, hwork]
  cases setup.work n (setup.entered n p) <;> rfl

theorem dispatch_withInput (name : String) (h : p.Hides input) :
    setup.dispatch name (p.withInput input) = (setup.dispatch name p).withInput input := by
  have hrefusal : setup.refusal? name (p.withInput input).state =
      setup.refusal? name p.state := rfl
  unfold dispatch
  rw [hrefusal]
  split
  · rfl
  · next n hnode =>
    split
    · rfl
    · exact perform_withInput n h

/-! ## What nodes leave -/

/-- The work of a node takes no variable away. -/
theorem get?_vars_of_work {n : Node} {name : String}
    (h : (setup.work n p).progress.state.vars.get? name = none) :
    p.state.vars.get? name = none := by
  have hwork := setup.works_work n p
  generalize setup.work n p = o at hwork h
  cases hwork with
  | input | refused | failed | output => exact h
  | condition =>
    rw [Outcome.progress_ok, state_conditionWork, Dict.get?_insert] at h
    split at h
    · cases h
    · exact h
  | answered =>
    rw [Outcome.progress_ok, Progress.state_setResult, RunState.vars_setResult,
      Dict.get?_insert] at h
    split at h
    · cases h
    · exact h

theorem hides_work (n : Node) (h : p.Hides input) : (setup.work n p).progress.Hides input := by
  obtain ⟨vars, output, conditionErrors, hstate⟩ := setup.exists_state_work n p
  intro name hname
  have hbefore := h name (get?_vars_of_work hname)
  rw [hstate]
  exact hbefore

theorem hides_dispatch (setup : Setup) (name : String) (h : p.Hides input) :
    (setup.dispatch name p).progress.Hides input := by
  unfold dispatch
  split
  · exact h
  · next n hnode =>
    split
    · exact h
    · rw [progress_perform]
      split <;> exact hides_work n (p := setup.entered n p) h

/-! ## Runs -/

/-- The progress of two runs that is the same but for the input, in what the variables hide. -/
def Mirrors (input : Object) (p q : Progress) : Prop :=
  q = p.withInput input ∧ p.Hides input

theorem eq_withInput_of_matches {α : Type} {o o' : Outcome α}
    (h : o.Matches (Mirrors input) o') : o' = o.withInput input := by
  cases h with
  | ok a hend => rw [hend.1, Outcome.withInput]
  | stopped cause hend => rw [hend.1, Outcome.withInput]

theorem lockstep_mirrors (setup : Setup) (input : Object) :
    Lockstep (Mirrors input) setup setup where
  workflow := rfl
  follows := by
    rintro p _ ⟨rfl, -⟩ n e
    rfl
  complete := by
    rintro p _ ⟨rfl, h⟩
    exact ⟨rfl, h⟩
  dispatch := by
    rintro p _ ⟨rfl, h⟩ name
    have hafter := setup.hides_dispatch name h
    rw [dispatch_withInput name h]
    generalize setup.dispatch name p = o at hafter ⊢
    cases o with
    | ok n q => exact .ok n ⟨rfl, hafter⟩
    | stopped cause q => exact .stopped cause ⟨rfl, hafter⟩

/-- A caller cannot override the variables of a workflow. Two inputs that differ only in names of
variables make the same run: it ends in the same way, with the same path, variables, output and
recorded errors, after the same calls and events, and all that differs in its state is the input
itself. -/
theorem execute_withInput (setup : Setup) {input other vars : Object} (calls : Array Call)
    (h : ∀ name, vars.get? name = none → other.get? name = input.get? name) :
    setup.execute (.start (.fresh other vars) calls) =
      (setup.execute (.start (.fresh input vars) calls)).withInput other := by
  have hstart : Mirrors other (.start (.fresh input vars) calls)
      (.start (.fresh other vars) calls) := ⟨rfl, h⟩
  exact eq_withInput_of_matches ((setup.lockstep_mirrors other).execute hstart)

/-- A workflow that knows whom it greets and asks where. -/
def greeting : Setup :=
  { workflow :=
      { name := "greeting"
        nodes := [{ name := "in", kind := .input, params := ∅ },
          { name := "known", kind := .condition, params := .ofList [("expression", "$name")] },
          { name := "who", kind := .output
            params := .ofList [("key", "who"), ("value", "$name")] },
          { name := "where", kind := .output
            params := .ofList [("key", "where"), ("value", "$city")] }]
        edges := [⟨"in", "known", .always⟩, ⟨"known", "who", .whenTrue⟩,
          ⟨"who", "where", .always⟩]
        vars := .ofList [("name", .string "Ada")] }
    collaborators := .none, limits := .standard, run := ⟨"r"⟩ }

theorem execute_withInput_greeting :
    let vars := greeting.workflow.vars
    let honest : Object := .ofList [("city", .string "Oslo")]
    let pretending : Object := .ofList [("city", .string "Oslo"), ("name", .string "")]
    let o := greeting.execute (.start (.fresh pretending vars) #[])
    (∀ name, vars.get? name = none → pretending.get? name = honest.get? name) ∧
      o = (greeting.execute (.start (.fresh honest vars) #[])).withInput pretending ∧
      o.progress.state.path = #["in", "known", "who", "where"] ∧
      (o.progress.state.output.get? "who").bind Value.string? = some "Ada" := by
  intro vars honest pretending o
  have hhidden : ∀ name, vars.get? name = none → pretending.get? name = honest.get? name := by
    intro name hname
    have hne : name ≠ "name" := by
      rintro rfl
      cases hname
    simp [pretending, honest, Dict.ofList, hne]
  refine ⟨hhidden, greeting.execute_withInput #[] hhidden, ?_, ?_⟩
  · decide +kernel
  · decide +kernel

end Setup

end Flowscript
