import Flowscript.Engine
import Flowscript.Proofs.Workflow.Definitions

/-!
# Exported definitions

A workflow that was read from a text has ascending keys, whatever its literals and parameters are,
so its exported definition is read as this workflow exactly if its variables are not nested too
deeply and their doubles read back; and then running the definition is running the workflow. A
variable may break this: a literal of very many digits is infinite, which JSON cannot say. The main
statement is `readJson_exported_iff`.
-/

namespace Flowscript

/-! ## What texts define -/

namespace Literal

theorem ordered_items (cs : List Char) : (Value.list (items cs)).Ordered := by
  refine Value.itemsOrdered_iff.mpr fun v hv => ?_
  obtain ⟨item, -, rfl⟩ := List.mem_map.mp hv
  trivial

theorem ordered_of_object? {cs : List Char} {members : Object} (h : object? cs = some members) :
    (Value.object members).Ordered := by
  unfold object? at h
  split at h
  · obtain ⟨v, hv, hmembers⟩ := Option.bind_eq_some_iff.mp h
    obtain ⟨j, -, hj⟩ := Option.bind_eq_some_iff.mp hv
    rw [Value.object?_eq_some hmembers] at hj
    exact (Value.denoted_of_ofJson? j hj).ordered
  · cases h

/-- Of the forms of a literal, lists and objects have parts. -/
theorem ordered_value (cs : List Char) : (value cs).Ordered := by
  unfold value
  split
  · trivial
  dsimp only
  split_ifs
  · trivial
  · trivial
  split
  · trivial
  split
  · trivial
  split
  · exact ordered_items _
  split
  · next hobject => exact ordered_of_object? hobject
  · trivial

end Literal

/-- The keys ascend of what a statement defines. -/
def Statement.Ordered : Statement → Prop
  | .variable _ value => value.Ordered
  | .connection _ => True
  | .node n => n.params.Ascending

namespace Statement

theorem ascending_of_definition {cs : List Char} {kind : NodeKind} {params : Dict String}
    (h : definition cs = .ok (kind, params)) : params.Ascending := by
  unfold definition at h
  split at h
  · cases h
  split at h
  · cases h
  dsimp only at h
  split at h
  · cases h
  · cases h
    exact Dict.ascending_ofList _

theorem ReadAs.ordered {line : List Char} {statement : Statement} (h : ReadAs line statement) :
    statement.Ordered := by
  cases h with
  | assignment => exact Literal.ordered_value _
  | connection => trivial
  | definition _ _ _ _ _ _ hdefinition => exact ascending_of_definition hdefinition

end Statement

namespace Workflow

variable {w : Workflow} {text : String}

namespace Ordered

theorem named (name : String) : (Workflow.named name).Ordered where
  params := List.forall_mem_nil _
  vars := ⟨Dict.ascending_empty, trivial⟩

theorem setVariable (h : w.Ordered) {name : String} {value : Value} (hvalue : value.Ordered) :
    (w.setVariable name value).Ordered where
  params := h.params
  vars := by
    refine ⟨h.vars.1.insert name value, Value.membersOrdered_iff.mpr fun m hm => ?_⟩
    rcases Dict.eq_or_mem_of_mem_insertEntry hm with rfl | hm
    · exact hvalue
    · exact Value.membersOrdered_iff.mp h.vars.2 m hm

theorem insertNode (h : w.Ordered) {node : Node} (hnode : node.params.Ascending) :
    (w.insertNode node).Ordered where
  params n hn := by
    rcases mem_insertInto hn with rfl | hn
    · exact hnode
    · exact h.params n hn
  vars := h.vars

theorem extend (h : w.Ordered) : (statement : Statement) → statement.Ordered →
    (w.extend statement).Ordered
  | .variable _ _, hvalue => h.setVariable hvalue
  | .connection _, _ => ⟨h.params, h.vars⟩
  | .node _, hparams => h.insertNode hparams

end Ordered

theorem ordered_of_read (h : read text = .ok w) : w.Ordered :=
  of_read Ordered.named (fun hw hread => hw.extend _ hread.ordered) h

end Workflow

/-! ## Catalogs -/

namespace Workflow

variable {w : Workflow} {text : String}

theorem get?_catalog_workflowKey (w : Workflow) :
    w.catalog.get? (CatalogEntry.workflowKey w.name) = some (.ofWorkflow w) := by
  rw [catalog, Dict.ofList_concat, Dict.get?_insert, if_pos rfl]

theorem get?_parameters_ofWorkflow (w : Workflow) :
    (CatalogEntry.ofWorkflow w).parameters.get? "workflow_def" = some w.toJsonText := by
  simp [CatalogEntry.ofWorkflow, Dict.ofList]

/-- The variables are read back if each of them is, with room for the workflow around them. -/
theorem readJson_toJsonText_iff_forall (h : w.Ordered) :
    readJson w.toJsonText = .ok w ↔
      ∀ m ∈ w.vars.entries, m.2.depth ≤ 125 ∧ ∀ x ∈ m.2.floats, Json.ReadsBack x := by
  have hdepth : (Value.object w.vars).depth ≤ Value.depthLimit - 1 ↔
      ∀ m ∈ w.vars.entries, m.2.depth ≤ 125 :=
    Nat.succ_le_succ_iff.trans Value.membersDepth_le_iff
  have hfloats : (∀ x ∈ (Value.object w.vars).floats, Json.ReadsBack x) ↔
      ∀ m ∈ w.vars.entries, ∀ x ∈ m.2.floats, Json.ReadsBack x := by
    constructor
    · intro h m hm x hx
      exact h x (Value.mem_membersFloats.mpr ⟨m, hm, hx⟩)
    · intro h x hx
      obtain ⟨m, hm, hx⟩ := Value.mem_membersFloats.mp hx
      exact h m hm x hx
  rw [readJson_toJsonText_iff h, hdepth, hfloats]
  exact forall₂_and.symm

theorem runDefinition_of_readJson {definition : String} (h : readJson definition = .ok w)
    (engine : Engine) (id : RunId) (input : Object) :
    engine.runDefinition id definition input = (engine.register w).run id w.name input := by
  rw [Engine.runDefinition, h]

/-- The catalog of a workflow that was read from a text has its definition, which is read as this
workflow exactly if each variable has a depth that JSON texts allow and doubles that read back. Then
running the definition is running the workflow of the text. -/
theorem readJson_exported_iff (h : read text = .ok w) :
    ∃ entry definition,
      w.catalog.get? (CatalogEntry.workflowKey w.name) = some entry ∧
      entry.parameters.get? "workflow_def" = some definition ∧
      (readJson definition = .ok w ↔
        ∀ m ∈ w.vars.entries, m.2.depth ≤ 125 ∧ ∀ x ∈ m.2.floats, Json.ReadsBack x) ∧
      (readJson definition = .ok w → ∀ (engine : Engine) (id : RunId) (input : Object),
        engine.runDefinition id definition input =
          (engine.registerText text).2.run id w.name input) := by
  refine ⟨.ofWorkflow w, w.toJsonText, w.get?_catalog_workflowKey, w.get?_parameters_ofWorkflow,
    readJson_toJsonText_iff_forall (ordered_of_read h), fun hread engine id input => ?_⟩
  rw [runDefinition_of_readJson hread, Engine.registerText, h]

/-- A workflow with a double that reads back. -/
def halved : String := "workflow: W\nv := 0.5\nin: input()"

theorem readJson_exported_iff_halved :
    ∃ w entry definition, read halved = .ok w ∧
      w.catalog.get? (CatalogEntry.workflowKey w.name) = some entry ∧
      entry.parameters.get? "workflow_def" = some definition ∧ readJson definition = .ok w := by
  obtain ⟨w, hw, hvars⟩ : ∃ w ∈ (read halved).toOption, ∀ m ∈ w.vars.entries,
      m.2.depth ≤ 125 ∧ ∀ x ∈ m.2.floats, Json.ReadsBack x := by
    decide +kernel
  have hread := eq_ok_of_mem_toOption hw
  obtain ⟨entry, definition, hentry, hdefinition, hiff, -⟩ := readJson_exported_iff hread
  exact ⟨w, entry, definition, hread, hentry, hdefinition, hiff.mpr hvars⟩

/-- The text of a workflow with a number of more digits than a double has room for. -/
def overflowing : List Char :=
  "workflow: W\nv := 1".toList ++ List.replicate 309 '0' ++ ".0".toList

/-- The number is infinite, and the definition says null instead. -/
theorem readJson_exported_ne_overflowing :
    ∃ w w' entry definition, read (.ofList overflowing) = .ok w ∧
      w.catalog.get? (CatalogEntry.workflowKey w.name) = some entry ∧
      entry.parameters.get? "workflow_def" = some definition ∧
      readJson definition = .ok w' ∧ w' ≠ w ∧
      (w.vars.get? "v").map Value.typeName = some "float" ∧
      (w'.vars.get? "v").map Value.typeName = some "null" := by
  have hlines : read (.ofList overflowing) = ofLines (significantLines overflowing) := by
    rw [read, String.toList_ofList]
  obtain ⟨w, hw, hfloat, w', hw', hnull⟩ :
      ∃ w ∈ (ofLines (significantLines overflowing)).toOption,
        (w.vars.get? "v").map Value.typeName = some "float" ∧
          ∃ w' ∈ ofJson? w.toJson, (w'.vars.get? "v").map Value.typeName = some "null" := by
    decide +kernel
  have hread : readJson w.toJsonText = .ok w' := by
    rw [readJson_toJsonText, Option.mem_def.mp hw', Option.elim_some]
  have hne : w' ≠ w := by
    rintro rfl
    exact absurd (hfloat.symm.trans hnull) (by decide)
  exact ⟨w, w', .ofWorkflow w, w.toJsonText, hlines.trans (eq_ok_of_mem_toOption hw),
    w.get?_catalog_workflowKey, w.get?_parameters_ofWorkflow, hread, hne, hfloat, hnull⟩

end Workflow

end Flowscript
