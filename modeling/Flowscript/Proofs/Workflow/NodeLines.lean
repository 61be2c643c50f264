import Flowscript.Proofs.Workflow.Lines

/-!
# Lines that define nodes

A line defines a node if it is a name, a colon, the keyword of a kind and a list of parameters in
parentheses, from the first opening one to the last closing one. The line need not end there: text
behind the last parenthesis is accepted and means nothing. So of the lines that define nodes, those
that end with a parenthesis are the ones that carry no such text. The main statement is
`nodeLines_of_read`.
-/

namespace Flowscript

/-- The texts that a line that defines a node is cut into: in front of its first colon, from there
to the first parenthesis, between the parentheses, and behind the last one. -/
structure NodeParts where
  name : List Char
  keyword : List Char
  params : List Char
  trailing : List Char

namespace NodeParts

/-- What stands behind the colon. -/
def definition (p : NodeParts) : List Char :=
  p.keyword ++ '(' :: (p.params ++ ')' :: p.trailing)

/-- The line of some parts. -/
def line (p : NodeParts) : List Char :=
  p.name ++ ':' :: p.definition

/-- The parts without the text behind the last parenthesis. -/
def strict (p : NodeParts) : NodeParts :=
  { p with trailing := [] }

/-- The parts define a node, if they are cut in the right places: the name is the text before the
colon and the kind that of the keyword, without the blanks around them. -/
structure Defines (p : NodeParts) (n : Node) : Prop where
  colon : ':' ∉ p.name
  name : Text.trim p.name = n.name.toList
  nonempty : n.name ≠ ""
  keyword : Text.trim p.keyword = n.kind.keyword.toList
  params : Params.read p.params = n.params
  trailing : ')' ∉ p.trailing

variable {p : NodeParts} {n : Node}

theorem Defines.strict (h : p.Defines n) : p.strict.Defines n :=
  { h with trailing := List.not_mem_nil }

theorem Defines.open_not_mem (h : p.Defines n) : '(' ∉ p.keyword := by
  intro hopen
  obtain ⟨before, after, hkeyword, hbefore, hafter⟩ := Text.exists_eq_append_trim p.keyword
  rw [hkeyword, h.keyword, List.append_assoc, List.mem_append, List.mem_append] at hopen
  rcases hopen with hopen | hopen | hopen
  · cases hbefore _ hopen
  · revert hopen
    cases n.kind <;> decide
  · cases hafter _ hopen

/-- Nothing stands behind the last parenthesis exactly if the line ends with it. -/
theorem Defines.trailing_eq_nil_iff (h : p.Defines n) :
    p.trailing = [] ↔ p.line.getLast? = some ')' := by
  have hlast : p.line.getLast? = (')' :: p.trailing).getLast? := by
    have hsplit : p.line =
        p.name ++ ':' :: (p.keyword ++ '(' :: p.params) ++ ')' :: p.trailing := by
      simp [line, definition]
    rw [hsplit, List.getLast?_append_of_ne_nil _ (List.cons_ne_nil _ _)]
  rw [hlast]
  cases htrailing : p.trailing with
  | nil => simp
  | cons c more =>
    have hne : (c :: more).getLast? ≠ some ')' := fun heq =>
      h.trailing (htrailing ▸ List.mem_of_getLast? heq)
    simpa using hne

/-- Blanks around the definition do not matter. -/
theorem trim_definition (p : NodeParts) : Text.trim p.definition =
    Text.trimLeft p.keyword ++ '(' :: (p.params ++ ')' :: Text.trimRight p.trailing) := by
  have hleft := Text.trimLeft_append_cons p.keyword (c := '(') rfl (p.params ++ ')' :: p.trailing)
  have hright := Text.trimRight_append_cons
    (Text.trimLeft p.keyword ++ '(' :: p.params) (c := ')') rfl p.trailing
  rw [definition, Text.trim, hleft]
  simpa using hright

end NodeParts

/-- A line that defines a node: it has neither the mark of a variable nor an operator, and it
consists of parts that define the node. -/
structure IsNodeLine (line : List Char) (n : Node) : Prop where
  unassigned : ¬ [':', '='] <:+: line
  free : Connection.Free line
  parts : ∃ p : NodeParts, p.Defines n ∧ p.line = line

namespace Statement

variable {p : NodeParts} {n : Node} {line : List Char}

theorem definition_of_defines (h : p.Defines n) :
    definition (Text.trim p.definition) = .ok (n.kind, n.params) := by
  have hopen : '(' ∉ Text.trimLeft p.keyword := fun hmem =>
    h.open_not_mem ((List.dropWhile_suffix _).mem hmem)
  have hclose : ')' ∉ Text.trimRight p.trailing := fun hmem =>
    h.trailing ((List.rdropWhile_prefix _ _).mem hmem)
  have hkeyword : Text.trim (Text.trimLeft p.keyword) = n.kind.keyword.toList := by
    rw [Text.trim_trimLeft, h.keyword]
  simp only [definition, p.trim_definition, Text.cutAt?_append hopen,
    Text.cutLast?_append p.params hclose, hkeyword, String.ofList_toList,
    NodeKind.ofKeyword?_keyword, h.params]

/-- A definition that can be read is cut into the parts of a node line, whatever the name. -/
theorem exists_parts_of_definition (left : List Char) {right : List Char} {kind : NodeKind}
    {params : Dict String} (h : definition (Text.trim right) = .ok (kind, params)) :
    ∃ p : NodeParts, p.name = left ∧ p.definition = right ∧
      Text.trim p.keyword = kind.keyword.toList ∧ Params.read p.params = params ∧
        ')' ∉ p.trailing := by
  obtain ⟨before, after, hright, hbefore, hafter⟩ := Text.exists_eq_append_trim right
  unfold definition at h
  split at h
  · cases h
  next keyword inner hopen =>
  split at h
  · cases h
  next inside trailing hclose =>
  dsimp only at h
  split at h
  · cases h
  next hkind =>
  cases h
  obtain ⟨htrim, -⟩ := Text.of_cutAt?_eq_some hopen
  obtain ⟨rfl, htrailing⟩ := Text.of_cutLast?_eq_some hclose
  have hkeyword : String.ofList (Text.trim keyword) = kind.keyword := by
    have hfound := List.find?_some hkind
    exact (of_decide_eq_true hfound).symm
  refine ⟨⟨left, before ++ keyword, inside, trailing ++ after⟩, rfl, ?_, ?_, rfl, ?_⟩
  · rw [hright, htrim]
    simp [NodeParts.definition]
  · rw [Text.trim_append_of_blank hbefore, ← hkeyword, String.toList_ofList]
  · intro hmem
    rcases List.mem_append.mp hmem with hmem | hmem
    · exact htrailing hmem
    · cases hafter _ hmem

/-- A line is read as a node exactly if it defines it. -/
theorem read_eq_ok_node_iff : read line = .ok (.node n) ↔ IsNodeLine line n := by
  constructor
  · intro h
    cases readAs_of_read h with
    | @definition left right _ hcut hconnection hcolon _ _ hname hdefinition =>
      obtain ⟨htrim, hne⟩ := toList_of_name hname
      obtain ⟨rfl, hleft⟩ := Text.of_cutAt?_eq_some hcolon
      obtain ⟨p, rfl, rfl, hkeyword, hparams, htrailing⟩ :=
        exists_parts_of_definition left hdefinition
      refine ⟨Text.cut?_eq_none_iff.mp hcut, Connection.isConnection_eq_false_iff.mp hconnection,
        p, ⟨hleft, htrim.symm, ?_, hkeyword, hparams, htrailing⟩, rfl⟩
      intro hempty
      exact hne (String.toList_eq_nil_iff.mpr hempty)
  · rintro ⟨hunassigned, hfree, p, hdefines, rfl⟩
    have hconnection := Connection.isConnection_eq_false_iff.mpr hfree
    have hcolon := Text.cutAt?_append hdefines.colon p.definition
    have hparens : (p.line.contains '(' && p.line.contains ')') = true := by
      simp [NodeParts.line, NodeParts.definition]
    have hleft : name .unnamedNode p.name = .ok n.name :=
      name_of_trim hdefines.name hdefines.nonempty
    rw [← NodeParts.line] at hcolon
    simp only [read, Text.cut?_eq_none hunassigned, hconnection, hcolon, hparens, readNode, hleft,
      definition_of_defines hdefines, if_true]
    rfl

/-- Without the text behind the last parenthesis, a line that defines a node defines the same
node. -/
theorem read_strict (h : IsNodeLine p.line n) (hp : p.Defines n) :
    read p.strict.line = .ok (.node n) := by
  have hprefix : p.strict.line <+: p.line :=
    ⟨p.trailing, by simp [NodeParts.line, NodeParts.definition, NodeParts.strict]⟩
  refine read_eq_ok_node_iff.mpr ⟨?_, ?_, p.strict, hp.strict, rfl⟩
  · intro hmark
    exact h.unassigned (hmark.trans hprefix.isInfix)
  · intro kind hoperator
    exact h.free kind (hoperator.trans hprefix.isInfix)

end Statement

namespace Workflow

variable {text : String} {w : Workflow}

/-- Of the lines of an accepted text, those that are taken as definitions of nodes are a name, a
colon, the keyword of a kind and a list of parameters in parentheses, with text behind the last
parenthesis that means nothing. There is no such text exactly if a parenthesis ends the line. -/
theorem nodeLines_of_read (h : read text = .ok w) :
    ∃ header body name statements, meaningfulLines text.toList = header :: body ∧
      headerName header = .ok name ∧ statements.foldl extend (named name) = w ∧
      List.Forall₂ (fun line statement => Statement.read line = .ok statement ∧
        ∀ n, (statement = .node n ↔ IsNodeLine line n) ∧
          ∀ p : NodeParts, p.Defines n → p.line = line →
            (p.trailing = [] ↔ line.getLast? = some ')') ∧
            (statement = .node n → Statement.read p.strict.line = .ok (.node n)))
        body statements := by
  obtain ⟨header, body, name, statements, hlines, hname, hreads, hfold⟩ := read_eq_ok_iff.mp h
  refine ⟨header, body, name, statements, hlines, hname, hfold, hreads.imp ?_⟩
  intro line statement hread
  have htaken (n : Node) : statement = .node n ↔ IsNodeLine line n := by
    rw [← Statement.read_eq_ok_node_iff, hread, Except.ok.injEq]
  refine ⟨hread, fun n => ⟨htaken n, ?_⟩⟩
  rintro p hp rfl
  refine ⟨hp.trailing_eq_nil_iff, ?_⟩
  intro hnode
  exact Statement.read_strict ((htaken n).mp hnode) hp

/-- A workflow whose nodes are defined by lines that go on behind their parameters. -/
def chatty : String := "workflow: W\nin: input() (here\nask: agent(name=\")\") once\nin --> ask"

/-- The definition of the agent. -/
def chattyParts : NodeParts :=
  { name := "ask".toList, keyword := " agent".toList, params := "name=\")\"".toList
    trailing := " once".toList }

/-- The agent. -/
def chattyNode : Node :=
  { name := "ask", kind := .agent, params := .ofList [("name", ")")] }

theorem defines_chattyParts : chattyParts.Defines chattyNode where
  colon := by decide
  name := by decide
  nonempty := by decide
  keyword := by decide
  params := by rfl
  trailing := by decide

theorem nodeLines_of_read_chatty :
    ∃ w, read chatty = .ok w ∧
      IsNodeLine chattyParts.line chattyNode ∧ chattyParts.line.getLast? ≠ some ')' ∧
      Statement.read chattyParts.strict.line = .ok (.node chattyNode) := by
  obtain ⟨w, hread⟩ : ∃ w, read chatty = .ok w := ⟨_, rfl⟩
  obtain ⟨header, body, name, statements, hlines, -, -, htaken⟩ := nodeLines_of_read hread
  have hbody : meaningfulLines chatty.toList =
      ["workflow: W".toList, "in: input() (here".toList, chattyParts.line,
        "in --> ask".toList] := by
    decide
  obtain ⟨rfl, rfl⟩ := List.cons.inj (hbody.symm.trans hlines)
  obtain _ | ⟨-, _ | ⟨⟨hask, hline⟩, -⟩⟩ := htaken
  have hnode : Statement.read chattyParts.line = .ok (.node chattyNode) := rfl
  obtain rfl := Except.ok.inj (hask.symm.trans hnode)
  obtain ⟨hiff, hparts⟩ := hline chattyNode
  obtain ⟨hlast, hstrict⟩ := hparts chattyParts defines_chattyParts rfl
  refine ⟨w, hread, hiff.mp rfl, ?_, hstrict rfl⟩
  intro hend
  cases hlast.mpr hend

/-- The text of a workflow with a word behind the parameters of its node. -/
def garbled : String := "workflow: W\nin: input() garbage\n"

/-- The line is taken as the definition of a node, though no list of parameters ends it. -/
theorem exists_nodeLine_garbled :
    ∃ w line, read garbled = .ok w ∧ line ∈ meaningfulLines garbled.toList ∧
      Statement.read line = .ok (.node { name := "in", kind := .input, params := ∅ }) ∧
      ¬ ∃ p n, NodeParts.Defines p n ∧ p.line = line ∧ p.trailing = [] := by
  obtain ⟨w, hread⟩ : ∃ w, read garbled = .ok w := ⟨_, rfl⟩
  refine ⟨w, "in: input() garbage".toList, hread, by decide, rfl, ?_⟩
  rintro ⟨p, n, hp, hline, htrailing⟩
  have hend := hp.trailing_eq_nil_iff.mp htrailing
  rw [hline] at hend
  exact absurd hend (by decide)

end Workflow

end Flowscript
