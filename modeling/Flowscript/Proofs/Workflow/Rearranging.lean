import Flowscript.Proofs.Workflow.Connections
import Flowscript.Proofs.Workflow.Reading

/-!
# Rearranging lines

A line behind the header is an assignment, a connection or a definition, which the marks in the line
alone tell. Statements of different kinds change different parts of a workflow, so only the order
within each kind matters: texts with the same header and the same lines of each kind, however these
are mixed and laid out, are read as the same workflow. The main statement is `read_of_rearranged`.
-/

namespace Flowscript

/-- The kinds of lines behind the header: they define variables, edges and nodes. -/
inductive LineKind where
  | assignment
  | connection
  | definition
  deriving DecidableEq

/-- The kind of a line, told from the marks that it contains. -/
def lineKind? (line : List Char) : Option LineKind :=
  if [':', '='] <:+: line then some .assignment
  else if ¬ Connection.Free line then some .connection
  else if ':' ∈ line ∧ '(' ∈ line ∧ ')' ∈ line then some .definition
  else none

namespace Statement

/-- The kind of the lines that make a statement. -/
def lineKind : Statement → LineKind
  | .variable .. => .assignment
  | .connection .. => .connection
  | .node .. => .definition

/-- A line is read as a statement of its own kind. -/
theorem lineKind?_of_read {line : List Char} {statement : Statement}
    (h : read line = .ok statement) : lineKind? line = some statement.lineKind := by
  unfold lineKind?
  cases readAs_of_read h with
  | assignment hcut =>
    have hmark : [':', '='] <:+: line := by
      by_contra hnone
      rw [Text.cut?_eq_none hnone] at hcut
      cases hcut
    rw [if_pos hmark]
    rfl
  | connection hcut hconnection =>
    have hoperator : ¬ Connection.Free line := by
      rw [← Connection.isConnection_eq_false_iff, hconnection]
      exact Bool.noConfusion
    rw [if_neg (Text.cut?_eq_none_iff.mp hcut), if_pos hoperator]
    rfl
  | definition hcut hconnection hcolon hopen hclose =>
    have hmark : ':' ∈ line := by
      by_contra hnone
      rw [Text.cutAt?_of_not_mem hnone] at hcolon
      cases hcolon
    have hfree := Connection.isConnection_eq_false_iff.mp hconnection
    rw [if_neg (Text.cut?_eq_none_iff.mp hcut), if_neg (not_not.mpr hfree),
      if_pos ⟨hmark, hopen, hclose⟩]
    rfl

end Statement

/-! ## Lines of one kind -/

/-- The lines of a kind, in order. -/
def linesOf (kind : LineKind) (lines : List (List Char)) : List (List Char) :=
  lines.filter fun line => lineKind? line = some kind

/-- The statements of a kind, in order. -/
def statementsOf (kind : LineKind) (statements : List Statement) : List Statement :=
  statements.filter fun statement => statement.lineKind = kind

variable {lines lines' : List (List Char)} {statements statements' : List Statement}

theorem mem_linesOf {kind : LineKind} {line : List Char} :
    line ∈ linesOf kind lines ↔ line ∈ lines ∧ lineKind? line = some kind := by
  simp [linesOf]

/-- The lines of a kind are read as the statements of this kind. -/
theorem Reads.ofKind (h : Reads lines statements) (kind : LineKind) :
    Reads (linesOf kind lines) (statementsOf kind statements) := by
  refine List.rel_filter (fun line statement hread => ?_) h
  have hkind := Statement.lineKind?_of_read hread
  simp [hkind]

theorem Reads.unique (h : Reads lines statements) (h' : Reads lines statements') :
    statements = statements' := by
  refine List.right_unique_forall₂' (fun line statement statement' hread hread' => ?_) h h'
  exact Except.ok.inj (hread.symm.trans hread')

/-- Lines that can each be read are read together. -/
theorem exists_reads (h : ∀ line ∈ lines, ∃ statement, Statement.read line = .ok statement) :
    ∃ statements, Reads lines statements := by
  induction lines with
  | nil => exact ⟨[], .nil⟩
  | cons line lines ih =>
    obtain ⟨⟨statement, hread⟩, hlines⟩ := List.forall_mem_cons.mp h
    obtain ⟨statements, hreads⟩ := ih hlines
    exact ⟨statement :: statements, .cons hread hreads⟩

theorem Reads.exists_read (h : Reads lines statements) {line : List Char} (hline : line ∈ lines) :
    ∃ statement, Statement.read line = .ok statement := by
  induction h with
  | nil => cases hline
  | cons hread _ ih =>
    rcases List.mem_cons.mp hline with rfl | hline
    · exact ⟨_, hread⟩
    · exact ih hline

namespace Workflow

/-! ## Parts of a workflow -/

/-- A part of workflows that statements of one kind change and no others, and which they make of
nothing but this part. -/
structure MadeBy {σ : Type} (part : Workflow → σ) (kind : LineKind) : Prop where
  congr {w w' : Workflow} (statement : Statement) (h : part w = part w') :
    part (w.extend statement) = part (w'.extend statement)
  other (w : Workflow) {statement : Statement} (h : statement.lineKind ≠ kind) :
    part (w.extend statement) = part w

namespace MadeBy

variable {σ : Type} {part : Workflow → σ} {kind : LineKind}

theorem foldl_congr (hpart : MadeBy part kind) {w w' : Workflow} (h : part w = part w')
    (statements : List Statement) :
    part (statements.foldl extend w) = part (statements.foldl extend w') := by
  induction statements generalizing w w' with
  | nil => exact h
  | cons statement statements ih => exact ih (hpart.congr statement h)

/-- Statements of other kinds may be left out. -/
theorem foldl_statementsOf (hpart : MadeBy part kind) (statements : List Statement)
    (w : Workflow) :
    part ((statementsOf kind statements).foldl extend w) = part (statements.foldl extend w) := by
  induction statements generalizing w with
  | nil => rfl
  | cons statement statements ih =>
    by_cases hkind : statement.lineKind = kind
    · have hkept : statementsOf kind (statement :: statements) =
          statement :: statementsOf kind statements :=
        List.filter_cons_of_pos (decide_eq_true hkind)
      rw [hkept]
      exact ih _
    · have hdropped : statementsOf kind (statement :: statements) =
          statementsOf kind statements :=
        List.filter_cons_of_neg (by simpa using hkind)
      rw [hdropped, ih]
      exact hpart.foldl_congr (hpart.other w hkind).symm statements

end MadeBy

/-- No statement changes the name. -/
theorem madeBy_name (kind : LineKind) : MadeBy name kind where
  congr statement h := by cases statement <;> exact h
  other w statement _ := by cases statement <;> rfl

theorem madeBy_vars : MadeBy vars .assignment where
  congr statement h := by
    cases statement with
    | «variable» name value => exact congrArg (·.insert name value) h
    | connection | node => exact h
  other w statement h := by
    cases statement with
    | «variable» => exact absurd rfl h
    | connection | node => rfl

theorem madeBy_edges : MadeBy edges .connection where
  congr statement h := by
    cases statement with
    | connection edges => exact congrArg (· ++ edges) h
    | «variable» | node => exact h
  other w statement h := by
    cases statement with
    | connection => exact absurd rfl h
    | «variable» | node => rfl

theorem madeBy_nodes : MadeBy nodes .definition where
  congr statement h := by
    cases statement with
    | node n => exact congrArg (fun nodes => (insertInto n nodes).2) h
    | «variable» | connection => exact h
  other w statement h := by
    cases statement with
    | node => exact absurd rfl h
    | «variable» | connection => rfl

/-- Statements with the same of each kind, in whatever order, make the same workflow. -/
theorem foldl_extend_congr
    (h : ∀ kind, statementsOf kind statements = statementsOf kind statements') (w : Workflow) :
    statements.foldl extend w = statements'.foldl extend w := by
  have hsame {σ : Type} {part : Workflow → σ} {kind : LineKind} (hpart : MadeBy part kind) :
      part (statements.foldl extend w) = part (statements'.foldl extend w) := by
    rw [← hpart.foldl_statementsOf, h kind, hpart.foldl_statementsOf]
  have hname := hsame (madeBy_name .definition)
  have hnodes := hsame madeBy_nodes
  have hedges := hsame madeBy_edges
  have hvars := hsame madeBy_vars
  cases hw : statements.foldl extend w
  cases hw' : statements'.foldl extend w
  rw [hw, hw'] at hname hnodes hedges hvars
  rw [mk.injEq]
  exact ⟨hname, hnodes, hedges, hvars⟩

/-! ## Texts -/

/-- Whether a text is one with its lines rearranged: it has the same header and the same lines of
each kind in the same order. Blanks around lines, blank lines and comments do not count. -/
structure Rearranged (text text' : String) : Prop where
  header : (meaningfulLines text'.toList).head? = (meaningfulLines text.toList).head?
  /-- Behind the header, each line is of some kind. -/
  kinds : ∀ line ∈ (meaningfulLines text'.toList).tail, lineKind? line ≠ none
  lines (kind : LineKind) : linesOf kind (meaningfulLines text'.toList).tail =
    linesOf kind (meaningfulLines text.toList).tail

variable {text text' : String} {w : Workflow}

/-- A text with the lines of one that is read as a workflow, rearranged, is read as the same. -/
theorem read_of_rearranged (h : read text = .ok w) (hsame : Rearranged text text') :
    read text' = .ok w := by
  obtain ⟨header, body, name, statements, htext, hname, hreads, rfl⟩ := read_eq_ok_iff.mp h
  obtain ⟨hheader, hkinds, hlines⟩ := hsame
  rw [htext, List.head?_cons] at hheader
  obtain ⟨body', htext'⟩ := List.head?_eq_some_iff.mp hheader
  simp only [htext, htext', List.tail_cons] at hkinds hlines
  have hreadable : ∀ line ∈ body', ∃ statement, Statement.read line = .ok statement := by
    intro line hline
    obtain ⟨kind, hkind⟩ := Option.ne_none_iff_exists'.mp (hkinds line hline)
    have hmem : line ∈ linesOf kind body' := mem_linesOf.mpr ⟨hline, hkind⟩
    rw [hlines kind] at hmem
    exact hreads.exists_read (mem_linesOf.mp hmem).1
  obtain ⟨statements', hreads'⟩ := exists_reads hreadable
  have hstatements (kind : LineKind) :
      statementsOf kind statements' = statementsOf kind statements :=
    (hreads'.ofKind kind).unique (hlines kind ▸ hreads.ofKind kind)
  exact read_eq_ok_iff.mpr ⟨header, body', name, statements', htext', hname, hreads',
    foldl_extend_congr hstatements _⟩

/-- A workflow whose variable is overwritten and whose node is redefined. -/
def orderly : String :=
  "workflow: W\nv := 1\nv := 2\nn: input()\nn: output()\nn --> m"

/-- The same lines, mixed, commented and laid out in another way. -/
def shuffled : String :=
  "#\r\n\r\n workflow: W\r\nn --> m\r\nn: input()\r\nv := 1 \r\n\tn: output()\r\nv := 2"

theorem read_of_rearranged_shuffled : ∃ w, read orderly = .ok w ∧ Rearranged orderly shuffled ∧
    read shuffled = .ok w ∧ w.nodes.map Node.kind = [.output] := by
  obtain ⟨w, hw, hnodes⟩ :
      ∃ w ∈ (read orderly).toOption, w.nodes.map Node.kind = [.output] := by
    decide +kernel
  have hread : read orderly = .ok w := eq_ok_of_mem_toOption hw
  have hsame : Rearranged orderly shuffled := by
    refine ⟨by decide +kernel, by decide +kernel, fun kind => ?_⟩
    cases kind <;> decide +kernel
  exact ⟨w, hread, hsame, read_of_rearranged hread hsame, hnodes⟩

end Workflow

end Flowscript
