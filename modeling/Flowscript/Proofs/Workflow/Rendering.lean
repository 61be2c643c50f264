import Flowscript.Proofs.Workflow.Lines

/-!
# Rendering workflows

A workflow is rendered as a header and one line for each variable, node and edge. If its names hold
no marks that would make other lines of these, the text is read as the workflow with what the
literals of its variables denote; nodes and edges stand in the same order. So a workflow is read
back exactly if its objects are: if no more containers are nested in them than a JSON text may have,
and their doubles are what JSON takes the texts of the doubles for. The main statement is
`read_render_iff`.
-/

namespace Flowscript

/-- A node whose line can be read back. -/
structure Node.IsWritable (n : Node) : Prop where
  name : IsPlainName n.name
  colon : ':' ∉ n.name.toList
  keys : ∀ key ∈ n.params.keys, Params.IsKey key
  ascending : n.params.Ascending
  line : ∀ entry ∈ n.params.entries, '\n' ∉ entry.1.toList ∧ '\n' ∉ entry.2.toList
  unassigned : ¬ [':', '='] <:+: nodeLine n
  free : Connection.Free (nodeLine n)

instance (n : Node) : Decidable n.IsWritable :=
  decidable_of_iff (IsPlainName n.name ∧ ':' ∉ n.name.toList ∧
      (∀ key ∈ n.params.keys, Params.IsKey key) ∧ n.params.Ascending ∧
      (∀ entry ∈ n.params.entries, '\n' ∉ entry.1.toList ∧ '\n' ∉ entry.2.toList) ∧
      ¬ [':', '='] <:+: nodeLine n ∧ Connection.Free (nodeLine n))
    ⟨fun ⟨hname, hcolon, hkeys, hascending, hline, hunassigned, hfree⟩ =>
        ⟨hname, hcolon, hkeys, hascending, hline, hunassigned, hfree⟩,
      fun h => ⟨h.name, h.colon, h.keys, h.ascending, h.line, h.unassigned, h.free⟩⟩

namespace Workflow

/-- A workflow that can be written line by line. -/
structure IsWritable (w : Workflow) : Prop where
  name : IsName w.name
  nodup : (w.nodes.map Node.name).Nodup
  nodes : ∀ n ∈ w.nodes, n.IsWritable
  edges : ∀ e ∈ w.edges, IsPlainName e.source ∧ IsPlainName e.target
  ascending : w.vars.Ascending
  vars : ∀ entry ∈ w.vars.entries, IsPlainName entry.1 ∧ entry.2.HasLiteral

/-- The line that names a workflow. -/
def headerLine (name : String) : List Char :=
  "workflow:".toList ++ [' '] ++ name.toList

/-- The lines behind the header: variables, nodes and edges. -/
def bodyLines (w : Workflow) : List (List Char) :=
  w.vars.entries.map (fun entry => variableLine entry.1 entry.2.literal) ++
    (w.nodes.map nodeLine ++ w.edges.map edgeLine)

/-- The text of a workflow. -/
def render (w : Workflow) : String :=
  String.ofList ((headerLine w.name :: w.bodyLines).flatMap (· ++ ['\n']))

/-- What the lines behind the header state. -/
def statements (w : Workflow) : List Statement :=
  w.vars.entries.map (fun entry => .variable entry.1 (Literal.value entry.2.literal)) ++
    (w.nodes.map .node ++ w.edges.map fun e => .connection [e])

variable {w : Workflow}

/-! ## Lines -/

theorem isLine_headerLine {name : String} (h : IsName name) : IsLine (headerLine name) := by
  have hprefix : IsPlainName "workflow:" := ⟨⟨by decide, by decide, by decide⟩, by decide,
    fun kind => by cases kind <;> decide, by decide⟩
  exact isLine_of_name hprefix [' '] name.toList (by decide) h.trimmed h.toList_ne_nil h.line

theorem isLine_variableLine {name : String} {v : Value} (hname : IsPlainName name)
    (hv : v.HasLiteral) : IsLine (variableLine name v.literal) := by
  have hline := isLine_of_name hname [' ', ':', '=', ' '] v.literal (by decide) hv.trimmed
    hv.literal_ne_nil hv.newline_not_mem
  simpa [variableLine] using hline

theorem isLine_edgeLine {e : Edge} (hsource : IsPlainName e.source)
    (htarget : IsPlainName e.target) : IsLine (edgeLine e) := by
  have hbetween : '\n' ∉ ' ' :: (e.kind.operator.toList ++ [' ']) := by cases e.kind <;> decide
  have hline := isLine_of_name hsource _ e.target.toList hbetween htarget.trimmed
    htarget.toList_ne_nil htarget.line
  simpa [edgeLine] using hline

theorem isLine_nodeLine {n : Node} (h : n.IsWritable) : IsLine (nodeLine n) := by
  have hkeyword : '\n' ∉ n.kind.keyword.toList := by cases n.kind <;> decide
  have hparams := Params.not_mem_text (by decide) h.line
  have hline := isLine_of_name h.name
    (':' :: ' ' :: (n.kind.keyword.toList ++ '(' :: Params.text n.params)) [')']
    (by simp [hkeyword, hparams]) (by decide) (by decide) (by decide)
  simpa [nodeLine] using hline

theorem isLine_of_mem_lines (h : w.IsWritable) :
    ∀ line ∈ headerLine w.name :: w.bodyLines, IsLine line := by
  intro line hline
  rcases List.mem_cons.mp hline with rfl | hline
  · exact isLine_headerLine h.name
  rcases List.mem_append.mp hline with hline | hline
  · obtain ⟨entry, hentry, rfl⟩ := List.mem_map.mp hline
    exact isLine_variableLine (h.vars entry hentry).1 (h.vars entry hentry).2
  rcases List.mem_append.mp hline with hline | hline
  · obtain ⟨n, hn, rfl⟩ := List.mem_map.mp hline
    exact isLine_nodeLine (h.nodes n hn)
  · obtain ⟨e, he, rfl⟩ := List.mem_map.mp hline
    exact isLine_edgeLine (h.edges e he).1 (h.edges e he).2

/-! ## Statements -/

theorem headerName_headerLine {name : String} (h : IsName name) :
    headerName (headerLine name) = .ok name := by
  have hline : headerLine name = "workflow:".toList ++ ' ' :: name.toList :=
    List.append_assoc _ _ _
  have hprefix : "workflow:".toList.isPrefixOf (headerLine name) = true :=
    List.isPrefixOf_iff_prefix.mpr ⟨' ' :: name.toList, hline.symm⟩
  have hrest : (headerLine name).drop "workflow:".toList.length = ' ' :: name.toList := by
    rw [hline, List.drop_left]
  rw [headerName, hprefix, hrest]
  exact Statement.name_of_trim h.trimmed.trim_space_cons h.nonempty

/-- Each line is read as what it states. -/
theorem reads_bodyLines (h : w.IsWritable) : Reads w.bodyLines w.statements := by
  have hmap {α : Type} {items : List α} {line : α → List Char} {statement : α → Statement}
      (hread : ∀ item ∈ items, Statement.read (line item) = .ok (statement item)) :
      Reads (items.map line) (items.map statement) := by
    rw [Reads, List.forall₂_map_left_iff, List.forall₂_map_right_iff, List.forall₂_same]
    exact hread
  refine List.rel_append (hmap fun entry hentry => ?_)
    (List.rel_append (hmap fun n hn => ?_) (hmap fun e he => ?_))
  · exact Statement.read_variableLine (h.vars entry hentry).1 (h.vars entry hentry).2.trimmed
  · have hn := h.nodes n hn
    exact Statement.read_nodeLine hn.name.toIsName hn.colon hn.keys hn.ascending hn.unassigned
      hn.free
  · exact Statement.read_edgeLine (h.edges e he).1 (h.edges e he).2

theorem foldl_extend_variables (entries : List (String × Value)) (w : Workflow) :
    (entries.map fun entry => Statement.variable entry.1 entry.2).foldl extend w =
      { w with vars := entries.foldl (fun d entry => d.insert entry.1 entry.2) w.vars } := by
  induction entries generalizing w with
  | nil => rfl
  | cons entry entries ih => exact ih _

/-- Nodes with new names of their own each are added in order. -/
theorem foldl_extend_nodes {nodes : List Node} {w : Workflow}
    (h : ((w.nodes ++ nodes).map Node.name).Nodup) :
    (nodes.map Statement.node).foldl extend w = { w with nodes := w.nodes ++ nodes } := by
  induction nodes generalizing w with
  | nil => simp
  | cons n nodes ih =>
    have hfresh : n.name ∉ w.nodes.map Node.name := by
      intro hmem
      rw [List.map_append, List.nodup_append] at h
      exact h.2.2 _ hmem _ List.mem_cons_self rfl
    have hstep : extend w (.node n) = { w with nodes := w.nodes ++ [n] } := by
      rw [extend, insertNode, putNode, insertInto_of_not_mem hfresh]
      rfl
    rw [List.map_cons, List.foldl_cons, hstep, ih (by simpa using h)]
    simp

theorem foldl_extend_edges (edges : List Edge) (w : Workflow) :
    (edges.map fun e => Statement.connection [e]).foldl extend w =
      { w with edges := w.edges ++ edges } := by
  induction edges generalizing w with
  | nil => simp
  | cons e edges ih =>
    rw [List.map_cons, List.foldl_cons, extend, ih]
    simp [addEdges]

theorem foldl_extend_statements (h : w.IsWritable) :
    w.statements.foldl extend (named w.name) =
      { w with vars := w.vars.map fun v => Literal.value v.literal } := by
  let entries := w.vars.entries.map fun entry => (entry.1, Literal.value entry.2.literal)
  have hascending : (⟨entries⟩ : Object).Ascending := by
    simpa [entries, Dict.Ascending, Dict.keys, Function.comp_def] using h.ascending
  have hvariables : (w.vars.entries.map fun entry =>
      Statement.variable entry.1 (Literal.value entry.2.literal)).foldl extend (named w.name) =
        { named w.name with vars := ⟨entries⟩ } := by
    have hentries := foldl_extend_variables entries (named w.name)
    rw [List.map_map] at hentries
    refine hentries.trans ?_
    exact congrArg (fun vars => { named w.name with vars }) (Dict.ofList_of_ascending hascending)
  rw [statements, List.foldl_append, List.foldl_append, hvariables,
    foldl_extend_nodes (by simpa [named] using h.nodup), foldl_extend_edges]
  rfl

/-- A rendered workflow is read as the workflow with the values that the literals of its variables
denote. -/
theorem read_render (h : w.IsWritable) :
    read w.render = .ok { w with vars := w.vars.map fun v => Literal.value v.literal } := by
  have hlines : meaningfulLines w.render.toList = headerLine w.name :: w.bodyLines := by
    rw [render, String.toList_ofList]
    exact meaningfulLines_terminated (isLine_of_mem_lines h)
  exact read_eq_ok_iff.mpr ⟨_, _, w.name, w.statements, hlines, headerName_headerLine h.name,
    reads_bodyLines h, foldl_extend_statements h⟩

theorem read_render_eq_ok_iff (h : w.IsWritable) :
    read w.render = .ok w ↔
      ∀ entry ∈ w.vars.entries, Literal.value entry.2.literal = entry.2 := by
  have hvalues : w.vars.map (fun v => Literal.value v.literal) = w.vars ↔
      ∀ entry ∈ w.vars.entries, Literal.value entry.2.literal = entry.2 := by
    obtain ⟨entries⟩ := w.vars
    have hmap := List.map_inj_left (l := entries) (g := id)
      (f := fun entry => (entry.1, Literal.value entry.2.literal))
    rw [List.map_id] at hmap
    simpa [Dict.map, Prod.ext_iff] using hmap
  rw [read_render h, ← hvalues]
  obtain ⟨name, nodes, edges, vars⟩ := w
  simp

/-- Reading a rendered workflow gives back the workflow exactly if the JSON texts of its objects can
be read: if they nest no more containers than a JSON text may, and their doubles are finite and are
what JSON takes their texts for. -/
theorem read_render_iff (h : w.IsWritable) :
    read w.render = .ok w ↔
      ∀ entry ∈ w.vars.entries, ∀ members, entry.2 = .object members →
        entry.2.depth ≤ Value.depthLimit ∧ ∀ x ∈ entry.2.floats, Json.ReadsBack x := by
  rw [read_render_eq_ok_iff h]
  exact forall₂_congr fun entry hentry => Literal.value_literal_iff (h.vars entry hentry).2

/-- A workflow with a variable of each kind and an edge to a name that no node has. -/
def sample : Workflow where
  name := "sample: 1"
  nodes := [{ name := "in", kind := .input, params := ∅ },
    { name := "ask me", kind := .prompt
      params := ⟨[("system", "be \"brief\""), ("user", "a\\b, $n (now)")]⟩ }]
  edges := [⟨"in", "ask me", .always⟩, ⟨"ask me", "nowhere", .whenTrue⟩]
  vars := ⟨[("items", .list (["a b", "c"].map .string)), ("n", .int (-3)),
    ("o", .object ⟨[("k", .float 0.5), ("l", .list [.null])]⟩), ("on", .bool true),
    ("s", .string "x := \"y\" --> z")]⟩

theorem isWritable_sample : sample.IsWritable where
  name := by decide
  nodup := by decide
  nodes := by decide
  edges := by decide
  ascending := by decide
  vars := by
    have hobject : (Value.object ⟨[("k", .float 0.5), ("l", .list [.null])]⟩).Ordered :=
      ⟨by decide, trivial, ⟨trivial, trivial⟩, trivial⟩
    have hlist : (Value.list (["a b", "c"].map .string)).HasLiteral :=
      .list (by decide) (by decide) (by decide) (by decide)
    intro entry hentry
    simp only [sample, List.mem_cons, List.not_mem_nil, or_false] at hentry
    rcases hentry with rfl | rfl | rfl | rfl | rfl
    · exact ⟨by decide, hlist⟩
    · exact ⟨by decide, .int _⟩
    · exact ⟨by decide, .object hobject⟩
    · exact ⟨by decide, .bool _⟩
    · exact ⟨by decide, .string (by decide)⟩

theorem read_render_iff_sample : sample.IsWritable ∧ read sample.render = .ok sample := by
  refine ⟨isWritable_sample, (read_render_iff isWritable_sample).mpr ?_⟩
  intro entry hentry members hmembers
  simp only [sample, List.mem_cons, List.not_mem_nil, or_false] at hentry
  rcases hentry with rfl | rfl | rfl | rfl | rfl
  · cases hmembers
  · cases hmembers
  · exact ⟨by decide, by decide +kernel⟩
  · cases hmembers
  · cases hmembers

/-- A workflow with no more than one variable `v`, an object. -/
def holding (members : Object) : Workflow where
  name := "W"
  nodes := []
  edges := []
  vars := ⟨[("v", .object members)]⟩

theorem isWritable_holding {members : Object} (h : (Value.object members).Ordered) :
    (holding members).IsWritable where
  name := (by decide : IsName "W")
  nodup := List.nodup_nil
  nodes := by simp [holding]
  edges := by simp [holding]
  ascending := List.pairwise_singleton _ _
  vars := by
    intro entry hentry
    obtain rfl := List.mem_singleton.mp hentry
    exact ⟨(by decide : IsPlainName "v"), .object h⟩

/-- An object whose only double is not the one that its JSON text is taken for. -/
def misread : Object :=
  ⟨[("k", .float (.ofBits 4158027847206421151))]⟩

/-- Objects around each other, each the only member of the next. -/
def nested : Nat → Object
  | 0 => ∅
  | n + 1 => ⟨[("k", .object (nested n))]⟩

theorem ordered_nested (n : Nat) : (Value.object (nested n)).Ordered := by
  induction n with
  | zero => exact ⟨List.Pairwise.nil, trivial⟩
  | succ n ih => exact ⟨List.pairwise_singleton _ _, ih, trivial⟩

theorem depth_nested (n : Nat) : (Value.object (nested n)).depth = n + 1 := by
  induction n with
  | zero => rfl
  | succ n ih =>
    have hstep : (Value.object (nested (n + 1))).depth =
        max (Value.object (nested n)).depth 0 + 1 := rfl
    rw [hstep, ih, Nat.max_zero]

/-- An object with a double that is misread, and one with more levels than a JSON text may have. -/
theorem read_render_ne_holding :
    ((holding misread).IsWritable ∧ read (holding misread).render ≠ .ok (holding misread)) ∧
    ((holding (nested 127)).IsWritable ∧
      read (holding (nested 127)).render ≠ .ok (holding (nested 127))) := by
  have hobject {members : Object} (h : (Value.object members).Ordered)
      (hread : read (holding members).render = .ok (holding members)) :
      (Value.object members).depth ≤ Value.depthLimit ∧
        ∀ x ∈ (Value.object members).floats, Json.ReadsBack x := by
    have hliteral := (read_render_eq_ok_iff (isWritable_holding h)).mp hread _ List.mem_cons_self
    exact (Literal.value_literal_iff (.object h)).mp hliteral members rfl
  have hmisread : (Value.object misread).Ordered := ⟨List.pairwise_singleton _ _, trivial, trivial⟩
  refine ⟨⟨isWritable_holding hmisread, fun hread => ?_⟩,
    isWritable_holding (ordered_nested 127), fun hread => ?_⟩
  · have hback := (hobject hmisread hread).2 _ List.mem_cons_self
    revert hback
    decide +kernel
  · have hdepth := (hobject (ordered_nested 127) hread).1
    rw [depth_nested] at hdepth
    exact absurd hdepth (by decide)

end Workflow

end Flowscript
