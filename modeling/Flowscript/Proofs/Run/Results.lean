import Flowscript.Proofs.Condition.Parsing
import Flowscript.Proofs.Condition.Substitution
import Flowscript.Proofs.Run.ParameterValues
import Flowscript.Proofs.Run.Scopes
import Flowscript.Proofs.Run.Templates
import Flowscript.Proofs.Workflow.Reading

/-!
# Who can read the result of a node

The result of a node is a variable that is named after the node. A parameter may refer to any name,
but a template knows no names with points or closing braces, and a condition none but those of
letters, digits and underscores, while a node may have any name. So the result of a node is read
by templates and conditions if they know its name, and otherwise no template or condition depends on
it. The main statement is `readers_of_read`.
-/

namespace Flowscript

/-- Whether a value is a text, a truth value or an integer. -/
def Value.isPlain : Value → Bool
  | .string _ | .bool _ | .int _ => true
  | .null | .float _ | .list _ | .object _ => false

theorem toList_resultKey (node : String) :
    (resultKey node).toList = node.toList ++ "_result".toList :=
  String.toList_append

theorem toList_resultKey_ne_nil (node : String) : (resultKey node).toList ≠ [] := by
  simp [toList_resultKey]

/-! ## Names of nodes -/

theorem Workflow.name_of_mem_nodes {text : String} {w : Workflow} (h : Workflow.read text = .ok w) :
    ∀ n ∈ w.nodes, n.name.toList ≠ [] ∧ Text.Trimmed n.name.toList := by
  refine Workflow.of_read
    (P := fun w => ∀ n ∈ w.nodes, n.name.toList ≠ [] ∧ Text.Trimmed n.name.toList)
    (fun name n hn => absurd hn List.not_mem_nil) (fun hw hread n hn => ?_) h
  cases hread with
  | assignment | connection => exact hw n hn
  | definition _ _ _ _ _ hname =>
    rcases Workflow.mem_insertInto hn with rfl | hn
    · obtain ⟨htrim, hne⟩ := Statement.toList_of_name hname
      exact ⟨hne, htrim ▸ Text.trimmed_trim _⟩
    · exact hw n hn

/-! ## Scopes with a result -/

namespace RunState

variable (s : RunState) (node : String)

theorem lookup_setResult (v : Value) :
    (s.setResult node v).scope.lookup (resultKey node) = some v := by
  simp [Scope.lookup, scope, setResult]

/-- A result is not among the names that lack some character of its own. -/
theorem agreesOn_setResult {p : Char → Prop} (h : ∃ c ∈ node.toList, ¬ p c) (v v' : Value) :
    (s.setResult node v).scope.AgreesOn p (s.setResult node v').scope := by
  have hget {name : String} (hname : ∀ c ∈ name.toList, p c) :
      (s.setResult node v').vars.get? name = (s.setResult node v).vars.get? name := by
    have hne : name ≠ resultKey node := by
      rintro rfl
      obtain ⟨c, hc, hbad⟩ := h
      rw [toList_resultKey] at hname
      exact hbad (hname c (List.mem_append_left _ hc))
    simp [setResult, hne]
  refine ⟨hget, fun hname => ?_⟩
  unfold Scope.lookup
  rw [show (s.setResult node v').scope.vars.get? _ = _ from hget hname]
  rfl

end RunState

/-! ## The three readers -/

namespace Parameter

/-- A reference stands for the value of whatever name is behind the dollar sign. -/
theorem resolve_reference {scope : Scope} {name : String} {v : Value}
    (h : scope.lookup name = some v) : resolve scope ("$" ++ name) = v := by
  refine resolve_eq_iff.mpr (.text (fun members hobject => ?_)
    (.replaced (Scope.lookup_eq_some_iff.mp h)))
  -- The text of an object starts with another character.
  simpa using hobject.opens

end Parameter

namespace Template

/-- A placeholder with a name that templates know is replaced by the text of its value. -/
theorem rendered_reference {scope : Scope} {name : String} {v : Value} (hne : name.toList ≠ [])
    (htrimmed : Text.Trimmed name.toList) (hname : ∀ c ∈ name.toList, IsNameChar c)
    (hlookup : scope.lookup name = some v) (hv : v.isPlain = true) :
    Setup.rendered scope ("\x7b\x7b" ++ name ++ "\x7d\x7d") = v.display := by
  have htext : ("\x7b\x7b" ++ name ++ "\x7d\x7d").toList = placeholder name.toList ++ [] := by
    simp [placeholder]
  have hpoint : '.' ∉ name.toList := fun hmem => (hname _ hmem).1 rfl
  have hbrace : '\x7d' ∉ name.toList := fun hmem => (hname _ hmem).2 rfl
  have hdenotes : Denotes scope (Text.trim name.toList) v := by
    rw [htrimmed.trim_eq]
    refine .name hpoint ?_
    rwa [String.ofList_toList, ← Scope.lookup_eq_some_iff]
  have hnull : v ≠ .null := by
    rintro rfl
    cases hv
  rw [Setup.rendered, htext, render_placeholder_append hne hbrace,
    replaces_iff.mp (.value hdenotes hnull), render, List.append_nil, String.ofList_toList]

end Template

namespace Condition

theorem parse_literal (l : Literal) : parse [.literal l] = .ok (.literal l) :=
  parse_tokens (.last (l := .or) (.last (l := .and) (.chain (.last (l := .compare) (.literal l)))))
    (Nat.zero_le _)

theorem exists_literal?_of_isPlain {v : Value} (h : v.isPlain = true) :
    ∃ l, literal? (some v) = some l ∧ l.truthy = v.truthy := by
  cases v with
  | string | bool | int => exact ⟨_, rfl, rfl⟩
  | null | float | list | object => cases h

/-- A reference to a name that conditions know is true if its value is. -/
theorem holds_reference {scope : Scope} {name : String} {v : Value} (hne : name.toList ≠ [])
    (hname : ∀ c ∈ name.toList, isNameChar c = true) (hlookup : scope.lookup name = some v)
    (hv : v.isPlain = true) : holds scope ("$" ++ name).toList = .ok v.truthy := by
  obtain ⟨l, hl, htruthy⟩ := exists_literal?_of_isPlain hv
  have hsubstitute : substitute scope ("$" ++ name).toList = rendered (some v) := by
    have hreference := substitute_reference scope hne hname Boundary.done
    rw [String.ofList_toList, hlookup, substitute, List.append_nil, List.append_nil] at hreference
    rw [String.toList_append]
    exact hreference
  have htokens : tokens (rendered (some v)) = .ok [.literal l] := by
    have hspelled := tokensOf_of_spells (spells_rendered hl) Boundary.done
      (rendered (some v)).length
    rw [List.append_nil] at hspelled
    rw [tokens, hspelled, tokensOf]
    rfl
  rw [holds, hsubstitute, evaluate, htokens]
  simp only [parse_literal, Expr.eval, htruthy]

end Condition

/-! ## Results of nodes -/

/-- Who can read the result of a node, whatever else there is in the state of the run. -/
structure Readers (s : RunState) (node : String) : Prop where
  /-- Parameters read every result. -/
  parameter (v : Value) :
    Parameter.resolve (s.setResult node v).scope ("$" ++ resultKey node) = v
  /-- Templates read a result if they know its name. -/
  template (hname : ∀ c ∈ node.toList, Template.IsNameChar c) {v : Value}
      (hv : v.isPlain = true) :
    Setup.rendered (s.setResult node v).scope ("\x7b\x7b" ++ resultKey node ++ "\x7d\x7d") =
      v.display
  /-- No template depends on another result. -/
  template_blind (hname : ∃ c ∈ node.toList, ¬ Template.IsNameChar c) (v v' : Value)
      (template : String) :
    Setup.rendered (s.setResult node v').scope template =
      Setup.rendered (s.setResult node v).scope template
  /-- Conditions read a result if they know its name. -/
  condition (hname : ∀ c ∈ node.toList, Condition.isNameChar c = true) {v : Value}
      (hv : v.isPlain = true) :
    Condition.holds (s.setResult node v).scope ("$" ++ resultKey node).toList = .ok v.truthy
  /-- No condition depends on another result. -/
  condition_blind (hname : ∃ c ∈ node.toList, ¬ Condition.isNameChar c = true) (v v' : Value)
      (expression : List Char) :
    Condition.holds (s.setResult node v').scope expression =
      Condition.holds (s.setResult node v).scope expression

/-- The characters of the key of a result are those of the node, and more that all readers know. -/
theorem forall_mem_resultKey {p : Char → Prop} [DecidablePred p] {node : String}
    (hnode : ∀ c ∈ node.toList, p c) (hsuffix : "_result".toList.all (p ·) = true) :
    ∀ c ∈ (resultKey node).toList, p c := by
  rw [toList_resultKey]
  refine List.forall_mem_append.mpr ⟨hnode, fun c hc => ?_⟩
  exact of_decide_eq_true (List.all_eq_true.mp hsuffix c hc)

/-- The result of each node of a workflow that is read from a text can be read by parameters, and by
templates and conditions exactly if they know the characters of its name. -/
theorem readers_of_read {text : String} {w : Workflow} {n : Node}
    (h : Workflow.read text = .ok w) (hn : n ∈ w.nodes) (s : RunState) : Readers s n.name := by
  obtain ⟨hne, htrimmed⟩ := Workflow.name_of_mem_nodes h n hn
  have hkey := toList_resultKey_ne_nil n.name
  refine ⟨fun v => Parameter.resolve_reference (s.lookup_setResult n.name v),
    fun hname v hv => ?_, fun hname v v' template => ?_, fun hname v hv => ?_,
    fun hname v v' => Condition.holds_of_agreesOn (s.agreesOn_setResult n.name hname v v')⟩
  · have htrim : Text.Trimmed (resultKey n.name).toList := by
      have happend := htrimmed.append (b := "_result".toList) (by decide) hne (by decide) []
      rwa [List.append_nil, ← toList_resultKey] at happend
    exact Template.rendered_reference hkey htrim (forall_mem_resultKey hname (by decide))
      (s.lookup_setResult n.name v) hv
  · exact congrArg String.ofList
      (Template.render_of_agreesOn (s.agreesOn_setResult n.name hname v v') _)
  · exact Condition.holds_reference hkey (forall_mem_resultKey hname (by decide))
      (s.lookup_setResult n.name v) hv

/-- A workflow of nodes whose names some readers do not know. -/
def strange : String :=
  "workflow: W\nmy-check: condition()\nv1.check: condition()"

theorem readers_of_read_strange : ∃ w n, Workflow.read strange = .ok w ∧ n ∈ w.nodes ∧
    n.name = "my-check" ∧ ∀ s, Readers s n.name := by
  obtain ⟨w, hw, n, hn, hname⟩ :
      ∃ w ∈ (Workflow.read strange).toOption, ∃ n ∈ w.nodes, n.name = "my-check" := by
    decide +kernel
  have hread := eq_ok_of_mem_toOption hw
  exact ⟨w, n, hread, hn, hname, fun s => readers_of_read hread hn s⟩

/-- The condition `$my-check_result` has no value, and the placeholder of `v1.check_result` stays as
it is, though both results are true. -/
theorem unread_results_strange : ∃ w, Workflow.read strange = .ok w ∧
    (∃ n ∈ w.nodes, n.name = "my-check") ∧ (∃ n ∈ w.nodes, n.name = "v1.check") ∧
    Condition.holds ((RunState.fresh ∅ ∅).setResult "my-check" (.bool true)).scope
      "$my-check_result".toList ≠ .ok true ∧
    Setup.rendered ((RunState.fresh ∅ ∅).setResult "v1.check" (.bool true)).scope
      "\x7b\x7bv1.check_result\x7d\x7d" = "\x7b\x7bv1.check_result\x7d\x7d" := by
  obtain ⟨w, hw, hdashed, hdotted⟩ : ∃ w ∈ (Workflow.read strange).toOption,
      (∃ n ∈ w.nodes, n.name = "my-check") ∧ ∃ n ∈ w.nodes, n.name = "v1.check" := by
    decide +kernel
  refine ⟨w, eq_ok_of_mem_toOption hw, hdashed, hdotted, fun htrue => ?_, by decide +kernel⟩
  have hnone : (Condition.holds ((RunState.fresh ∅ ∅).setResult "my-check" (.bool true)).scope
      "$my-check_result".toList).toOption = none := by
    decide +kernel
  rw [htrue] at hnone
  cases hnone

end Flowscript
