import Mathlib.Data.List.Forall2
import Flowscript.Workflow.Reader

/-!
# What is read

The text of a workflow is its meaningful lines: a header, which names the workflow, and lines that
are each read as a statement. A text is accepted exactly if all of these lines can be read, and then
it makes what the statements make of the named workflow, one after the other. So what names alone
have and statements keep, every workflow has that is read from a text.
-/

namespace Flowscript

theorem exists_of_bind_eq_ok {ε α β : Type} {r : Except ε α} {next : α → Except ε β} {b : β}
    (h : (r >>= next) = .ok b) : ∃ a, r = .ok a ∧ next a = .ok b := by
  cases r with
  | error => cases h
  | ok a => exact ⟨a, rfl, h⟩

theorem eq_ok_of_mem_toOption {ε α : Type} {r : Except ε α} {a : α} (h : a ∈ r.toOption) :
    r = .ok a := by
  cases r with
  | error => cases h
  | ok _ => rw [Option.mem_some.mp h]

/-! ## Single lines -/

namespace Statement

/-- What a line may be read as: a variable if it has the mark of one, else a connection if it has an
operator, else a node if it has a colon and parentheses. -/
inductive ReadAs (line : List Char) : Statement → Prop
  | assignment {left right : List Char} {name : String}
      (hcut : Text.cut? [':', '='] line = some (left, right))
      (hname : Statement.name .unnamedVariable left = .ok name) :
      ReadAs line (.variable name (Literal.value (Text.trim right)))
  | connection {edges : List Edge} (hcut : Text.cut? [':', '='] line = none)
      (hconnection : Connection.isConnection line = true)
      (hedges : Connection.edges line = .ok edges) : ReadAs line (.connection edges)
  | definition {left right : List Char} {n : Node} (hcut : Text.cut? [':', '='] line = none)
      (hconnection : Connection.isConnection line = false)
      (hcolon : Text.cutAt? ':' line = some (left, right)) (hopen : '(' ∈ line)
      (hclose : ')' ∈ line) (hname : Statement.name .unnamedNode left = .ok n.name)
      (hdefinition : Statement.definition (Text.trim right) = .ok (n.kind, n.params)) :
      ReadAs line (.node n)

theorem readAs_of_read {line : List Char} {statement : Statement}
    (h : read line = .ok statement) : ReadAs line statement := by
  unfold read at h
  split at h
  · next hcut =>
    obtain ⟨name, hname, hstatement⟩ := exists_of_bind_eq_ok h
    cases hstatement
    exact .assignment hcut hname
  next hcut =>
  split at h
  · next hconnection =>
    unfold readConnection at h
    split at h
    · cases h
    · next hedges =>
      cases h
      exact .connection hcut hconnection hedges
  next hconnection =>
  split at h
  · next hcolon =>
    split at h
    · next hparens =>
      obtain ⟨name, hname, hrest⟩ := exists_of_bind_eq_ok h
      obtain ⟨⟨kind, params⟩, hdefinition, hstatement⟩ := exists_of_bind_eq_ok hrest
      cases hstatement
      rw [Bool.and_eq_true, List.contains_iff_mem, List.contains_iff_mem] at hparens
      exact .definition hcut (Bool.eq_false_iff.mpr hconnection) hcolon hparens.1 hparens.2 hname
        hdefinition
    · cases h
  · cases h

/-- A name is not empty, and there are no blanks around it. -/
theorem toList_of_name {unnamed : LineFault} {cs : List Char} {s : String}
    (h : name unnamed cs = .ok s) : s.toList = Text.trim cs ∧ s.toList ≠ [] := by
  unfold name at h
  split at h
  · cases h
  · next hne =>
    cases h
    rw [String.toList_ofList]
    exact ⟨rfl, hne⟩

end Statement

/-! ## Texts -/

/-- The lines of a text that mean something, without the blanks around them. -/
def meaningfulLines (cs : List Char) : List (List Char) :=
  (trimmedLines cs).filter isSignificant

theorem map_snd_significantLines (cs : List Char) :
    (significantLines cs).map Prod.snd = meaningfulLines cs := by
  have hfilter (lines : List (List Char)) (start : Nat) :
      ((lines.zipIdx start).filter fun numbered => isSignificant numbered.1).map Prod.fst =
        lines.filter isSignificant := by
    induction lines generalizing start with
    | nil => rfl
    | cons line lines ih =>
      rw [List.zipIdx_cons, List.filter_cons, List.filter_cons]
      split
      · rw [List.map_cons, ih]
      · exact ih _
  rw [significantLines, List.map_map]
  exact hfilter _ 1

/-- Lines that are read as some statements. -/
def Reads : List (List Char) → List Statement → Prop :=
  List.Forall₂ fun line statement => Statement.read line = .ok statement

namespace Workflow

variable {text : String} {w w' : Workflow}

theorem foldlM_extendByLine_eq_ok_iff {lines : List (Nat × List Char)} :
    lines.foldlM extendByLine w = .ok w' ↔
      ∃ statements, Reads (lines.map Prod.snd) statements ∧ statements.foldl extend w = w' := by
  induction lines generalizing w with
  | nil =>
    constructor
    · intro h
      exact ⟨[], .nil, Except.ok.inj h⟩
    · rintro ⟨statements, ⟨⟩, rfl⟩
      rfl
  | cons line lines ih =>
    rw [List.foldlM_cons, extendByLine]
    cases hline : Statement.read line.2 with
    | error fault =>
      constructor
      · intro h
        cases h
      · rintro ⟨statements, _ | ⟨hread, -⟩, -⟩
        cases hline.symm.trans hread
    | ok statement =>
      refine Iff.trans ih ⟨?_, ?_⟩
      · rintro ⟨statements, hreads, hfold⟩
        exact ⟨statement :: statements, .cons hline hreads, hfold⟩
      · rintro ⟨_, _ | ⟨hread, hreads⟩, hfold⟩
        cases hline.symm.trans hread
        exact ⟨_, hreads, hfold⟩

/-- A text is read as a workflow exactly if its first line names one and the others are read as
statements that make the workflow. -/
theorem read_eq_ok_iff : read text = .ok w ↔
    ∃ header body name statements, meaningfulLines text.toList = header :: body ∧
      headerName header = .ok name ∧ Reads body statements ∧
        statements.foldl extend (named name) = w := by
  rw [read, ← map_snd_significantLines]
  cases significantLines text.toList with
  | nil => simp [ofLines]
  | cons line lines =>
    rw [ofLines, List.map_cons]
    cases hname : headerName line.2 with
    | error fault =>
      constructor
      · intro h
        cases h
      · rintro ⟨header, body, name, statements, hlines, hheader, -⟩
        cases hlines
        cases hname.symm.trans hheader
    | ok name =>
      refine Iff.trans foldlM_extendByLine_eq_ok_iff ⟨?_, ?_⟩
      · rintro ⟨statements, hreads, hfold⟩
        exact ⟨_, _, name, statements, rfl, hname, hreads, hfold⟩
      · rintro ⟨header, body, name', statements, hlines, hheader, hreads, hfold⟩
        cases hlines
        cases hname.symm.trans hheader
        exact ⟨statements, hreads, hfold⟩

/-- What workflows with nothing but a name have and statements keep, workflows of texts have. -/
theorem of_read {P : Workflow → Prop} (hnamed : ∀ name, P (named name))
    (hextend : ∀ {w : Workflow} {line : List Char} {statement : Statement}, P w →
      Statement.ReadAs line statement → P (w.extend statement))
    (h : read text = .ok w) : P w := by
  obtain ⟨header, body, name, statements, -, -, hreads, rfl⟩ := read_eq_ok_iff.mp h
  have hfold (w : Workflow) (hw : P w) : P (statements.foldl extend w) := by
    unfold Reads at hreads
    clear h
    induction hreads generalizing w with
    | nil => exact hw
    | cons hread _ ih => exact ih _ (hextend hw (Statement.readAs_of_read hread))
  exact hfold _ (hnamed name)

theorem mem_insertInto {node n : Node} {nodes : List Node} (h : n ∈ (insertInto node nodes).2) :
    n = node ∨ n ∈ nodes := by
  induction nodes with
  | nil => exact .inl (List.mem_singleton.mp h)
  | cons first more ih =>
    rw [insertInto] at h
    split at h
    · exact (List.mem_cons.mp h).imp_right (List.mem_cons_of_mem _)
    · rcases List.mem_cons.mp h with rfl | h
      · exact .inr List.mem_cons_self
      · exact (ih h).imp_right (List.mem_cons_of_mem _)

theorem insertInto_of_not_mem {n : Node} {nodes : List Node}
    (h : n.name ∉ nodes.map Node.name) : insertInto n nodes = (false, nodes ++ [n]) := by
  induction nodes with
  | nil => rfl
  | cons m nodes ih =>
    obtain ⟨hne, hnodes⟩ := List.ne_and_not_mem_of_not_mem_cons h
    rw [insertInto, if_neg (Ne.symm hne), ih hnodes]
    rfl

end Workflow

end Flowscript
