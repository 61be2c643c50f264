import Flowscript.Proofs.Workflow.Chains
import Flowscript.Proofs.Workflow.Literals
import Flowscript.Proofs.Workflow.Reading

/-!
# Writing lines

Variables, nodes and edges are written on a line of their own each. Which of them a line defines is
told from the marks it contains, so that the names may not contain the marks that would make another
line of it. A line is read as the statement that was written, and a text of several lines as their
statements in order.
-/

namespace Flowscript

/-- A name of a workflow, a node or a variable: text of one line, without blanks around it. -/
structure IsName (s : String) : Prop where
  nonempty : s ≠ ""
  trimmed : Text.Trimmed s.toList
  line : '\n' ∉ s.toList

theorem IsName.toList_ne_nil {s : String} (h : IsName s) : s.toList ≠ [] :=
  fun hnil => h.nonempty (String.toList_eq_nil_iff.mp hnil)

/-- A name at the front of a line: one that contains no mark which tells lines apart and does not
make the line a comment. -/
structure IsPlainName (s : String) : Prop extends IsName s where
  unassigned : ¬ [':', '='] <:+: s.toList
  free : Connection.Free s.toList
  uncommented : s.toList.head? ≠ some '#'

theorem IsPlainName.isEnd {s : String} (h : IsPlainName s) : Connection.IsEnd s :=
  ⟨h.nonempty, h.trimmed, h.free⟩

instance (s : String) : Decidable (IsName s) :=
  decidable_of_iff (s ≠ "" ∧ Text.Trimmed s.toList ∧ '\n' ∉ s.toList)
    ⟨fun ⟨hne, htrimmed, hline⟩ => ⟨hne, htrimmed, hline⟩,
      fun h => ⟨h.nonempty, h.trimmed, h.line⟩⟩

instance (s : String) : Decidable (IsPlainName s) :=
  decidable_of_iff (IsName s ∧ ¬ [':', '='] <:+: s.toList ∧ Connection.Free s.toList ∧
      s.toList.head? ≠ some '#')
    ⟨fun ⟨hname, hunassigned, hfree, huncommented⟩ => ⟨hname, hunassigned, hfree, huncommented⟩,
      fun h => ⟨h.toIsName, h.unassigned, h.free, h.uncommented⟩⟩

/-- The line that defines a variable by a literal. -/
def variableLine (name : String) (literal : List Char) : List Char :=
  name.toList ++ ' ' :: ([':', '='] ++ ' ' :: literal)

/-- The line that defines a node. -/
def nodeLine (n : Node) : List Char :=
  n.name.toList ++ ':' :: ' ' :: (n.kind.keyword.toList ++ '(' :: (Params.text n.params ++ [')']))

/-- The line that defines an edge. -/
def edgeLine (e : Edge) : List Char :=
  e.source.toList ++ ' ' :: (e.kind.operator.toList ++ ' ' :: e.target.toList)

namespace Statement

variable {s : String}

theorem name_of_trim {unnamed : LineFault} {cs : List Char} (hcs : Text.trim cs = s.toList)
    (hs : s ≠ "") : name unnamed cs = .ok s := by
  unfold name
  split
  · next hnil =>
    rw [hcs] at hnil
    exact absurd (String.toList_eq_nil_iff.mp hnil) hs
  · rw [hcs, String.ofList_toList]

theorem read_variableLine {literal : List Char} (hname : IsPlainName s)
    (hliteral : Text.Trimmed literal) :
    read (variableLine s literal) = .ok (.variable s (Literal.value literal)) := by
  have hcut : Text.cut? [':', '='] (variableLine s literal) =
      some (s.toList ++ [' '], ' ' :: literal) :=
    Text.cut?_append (by decide) (by decide) hname.unassigned (' ' :: literal)
  have hleft : name .unnamedVariable (s.toList ++ [' ']) = .ok s :=
    name_of_trim hname.trimmed.trim_append_space hname.nonempty
  simp only [read, hcut, readVariable, hleft, hliteral.trim_space_cons]
  rfl

theorem read_edgeLine {e : Edge} (hsource : IsPlainName e.source) (htarget : IsPlainName e.target) :
    read (edgeLine e) = .ok (.connection [e]) := by
  have hcut : Text.cut? [':', '='] (edgeLine e) = none := by
    refine Text.cut?_eq_none ?_
    rw [edgeLine, Text.infix_append_cons_iff (by decide) (by decide),
      Text.infix_append_cons_iff (by decide) (by decide)]
    rintro (h | h | h)
    · exact hsource.unassigned h
    · revert h
      cases e.kind <;> decide
    · exact htarget.unassigned h
  obtain ⟨hconnection, hedges⟩ := Connection.edges_spaced e hsource.isEnd htarget.isEnd
  rw [← edgeLine] at hconnection hedges
  simp only [read, hcut, hconnection, readConnection, hedges, if_true]

/-- What is behind the colon of a node line. -/
theorem definition_of_kind (kind : NodeKind) {params : Dict String}
    (hkeys : ∀ key ∈ params.keys, Params.IsKey key) (hascending : params.Ascending) :
    definition (kind.keyword.toList ++ '(' :: (Params.text params ++ [')'])) =
      .ok (kind, params) := by
  have hopen : '(' ∉ kind.keyword.toList := by cases kind <;> decide
  have htrim : Text.Trimmed kind.keyword.toList := by cases kind <;> decide
  simp only [definition, Text.cutAt?_append hopen,
    Text.cutLast?_append (Params.text params) (List.not_mem_nil), htrim.trim_eq,
    String.ofList_toList, NodeKind.ofKeyword?_keyword, Params.read_text hkeys hascending]

theorem read_nodeLine {n : Node} (hname : IsName n.name) (hcolon : ':' ∉ n.name.toList)
    (hkeys : ∀ key ∈ n.params.keys, Params.IsKey key) (hascending : n.params.Ascending)
    (hunassigned : ¬ [':', '='] <:+: nodeLine n) (hfree : Connection.Free (nodeLine n)) :
    read (nodeLine n) = .ok (.node n) := by
  have hconnection : Connection.isConnection (nodeLine n) = false :=
    Connection.isConnection_eq_false_iff.mpr hfree
  have hcut : Text.cutAt? ':' (nodeLine n) = some (n.name.toList, _) :=
    Text.cutAt?_append hcolon _
  have hparens : ((nodeLine n).contains '(' && (nodeLine n).contains ')') = true := by
    simp [nodeLine]
  have hleft : name .unnamedNode n.name.toList = .ok n.name :=
    name_of_trim hname.trimmed.trim_eq hname.nonempty
  have hright : Text.Trimmed
      (n.kind.keyword.toList ++ '(' :: Params.text n.params ++ [')']) := by
    refine Text.Trimmed.append ?_ (by decide) ?_ (by simp) _ <;> cases n.kind <;> decide
  rw [List.append_assoc, List.cons_append] at hright
  simp only [read, Text.cut?_eq_none hunassigned, hconnection, hcut, hparens, readNode, hleft,
    hright.trim_space_cons, definition_of_kind n.kind hkeys hascending, if_true]
  rfl

end Statement

/-! ## Texts of several lines -/

/-- A line that means something and that trimming leaves as it is. -/
structure IsLine (line : List Char) : Prop where
  trimmed : Text.Trimmed line
  newline : '\n' ∉ line
  significant : isSignificant line = true

/-- A line that starts with a name and ends without a blank. -/
theorem isLine_of_name {s : String} (hname : IsPlainName s) (between last : List Char)
    (hbetween : '\n' ∉ between) (hlast : Text.Trimmed last) (hne : last ≠ [])
    (hnewline : '\n' ∉ last) : IsLine (s.toList ++ between ++ last) := by
  have hs := hname.toList_ne_nil
  refine ⟨hname.trimmed.append hlast hs hne between, ?_, ?_⟩
  · simp [hname.line, hbetween, hnewline]
  · simp [isSignificant, hname.uncommented, hs]

theorem meaningfulLines_terminated {lines : List (List Char)} (h : ∀ line ∈ lines, IsLine line) :
    meaningfulLines (lines.flatMap (· ++ ['\n'])) = lines := by
  have htrimmed : trimmedLines (lines.flatMap (· ++ ['\n'])) = lines ++ [[]] := by
    rw [trimmedLines, Text.pieces_terminated fun line hline => (h line hline).newline,
      List.map_append]
    have hlines : lines.map Text.trim = lines.map id :=
      List.map_congr_left fun line hline => (h line hline).trimmed
    rw [hlines, List.map_id]
    rfl
  have hfilter : lines.filter isSignificant = lines :=
    List.filter_eq_self.mpr fun line hline => (h line hline).significant
  rw [meaningfulLines, htrimmed, List.filter_append, hfilter]
  exact List.append_nil lines

end Flowscript
