import Flowscript.Proofs.Dict
import Flowscript.Proofs.Workflow.Chains
import Flowscript.Proofs.Workflow.Rearranging

/-!
# What definitions of nodes build

A workflow is built by defining nodes one after the other. A name keeps the place of its first
definition and the node of its last, so that no two nodes have one name and a node is found under
its name. A text defines the nodes of its lines in this way, and the names that a line can give are
neither blank nor do they contain the marks that tell its parts apart. The main statement is
`holds_definitions`.
-/

namespace Flowscript

/-- The node that a statement defines. -/
def Statement.node? : Statement → Option Node
  | .node n => some n
  | .variable .. | .connection .. => none

namespace Workflow

/-- The workflow that definitions of nodes build, one after the other. -/
def built (name : String) (definitions : List Node) : Workflow :=
  definitions.foldl insertNode (named name)

/-- The last definition of a name. -/
def lastDefinition? (definitions : List Node) (name : String) : Option Node :=
  definitions.reverse.find? fun n => n.name = name

/-- What a workflow holds after some definitions of nodes. -/
structure Holds (w : Workflow) (definitions : List Node) : Prop where
  /-- The nodes stand in the order in which their names were defined first. -/
  order : w.nodes.map Node.name = (definitions.map Node.name).eraseDups
  /-- No two nodes have one name. -/
  nodup : (w.nodes.map Node.name).Nodup
  /-- Each node is the last definition of its name. -/
  last : ∀ n ∈ w.nodes, lastDefinition? definitions n.name = some n
  /-- The last definition of a name is found under it. -/
  found (name : String) : w.node? name = lastDefinition? definitions name

/-- The names in a workflow are not blank and have no blanks around them, no name of a node has a
colon and no end of an edge an operator. -/
structure WellNamed (w : Workflow) : Prop where
  nodes : ∀ n ∈ w.nodes, n.name ≠ "" ∧ Text.Trimmed n.name.toList ∧ ':' ∉ n.name.toList
  vars : ∀ name ∈ w.vars.keys, name ≠ "" ∧ Text.Trimmed name.toList
  edges : ∀ e ∈ w.edges, Connection.IsEnd e.source ∧ Connection.IsEnd e.target

variable {w : Workflow} {node : Node} {nodes definitions : List Node}

/-! ## One definition -/

theorem map_name_insertInto (node : Node) (nodes : List Node) :
    (insertInto node nodes).2.map Node.name =
      if node.name ∈ nodes.map Node.name then nodes.map Node.name
      else nodes.map Node.name ++ [node.name] := by
  induction nodes with
  | nil => simp [insertInto]
  | cons first more ih => grind [insertInto]

theorem find?_insertInto (node : Node) (nodes : List Node) (name : String) :
    ((insertInto node nodes).2.find? fun n => n.name = name) =
      if node.name = name then some node else nodes.find? fun n => n.name = name := by
  induction nodes with
  | nil => grind [insertInto]
  | cons first more ih => grind [insertInto]

/-- A definition tells whether the name was defined before. -/
theorem insertInto_fst (node : Node) (nodes : List Node) :
    (insertInto node nodes).1 = true ↔ node.name ∈ nodes.map Node.name := by
  induction nodes with
  | nil => simp [insertInto]
  | cons first more ih => grind [insertInto]

/-- Where no two nodes have one name, each is found under its own. -/
theorem find?_of_nodup (h : (nodes.map Node.name).Nodup) (hnode : node ∈ nodes) :
    (nodes.find? fun n => n.name = node.name) = some node := by
  induction nodes with
  | nil => cases hnode
  | cons first more ih =>
    obtain ⟨hfirst, hmore⟩ := List.nodup_cons.mp h
    rcases List.mem_cons.mp hnode with rfl | hnode
    · simp
    · have hne : first.name ≠ node.name := fun heq => hfirst (heq ▸ List.mem_map_of_mem hnode)
      rw [List.find?_cons_of_neg (by simpa using hne), ih hmore hnode]

/-! ## Definitions one after the other -/

theorem lastDefinition?_concat (definitions : List Node) (node : Node) (name : String) :
    lastDefinition? (definitions ++ [node]) name =
      if node.name = name then some node else lastDefinition? definitions name := by
  rw [lastDefinition?, List.reverse_concat, List.find?_cons]
  split <;> simp_all [lastDefinition?]

theorem eraseDups_concat (names : List String) (name : String) :
    (names ++ [name]).eraseDups =
      if name ∈ names then names.eraseDups else names.eraseDups ++ [name] := by
  have hone : [name].eraseDups = [name] := rfl
  rw [List.eraseDups_append]
  split <;> simp_all [List.removeAll]

namespace Holds

theorem mem_names_iff (h : w.Holds definitions) {name : String} :
    name ∈ w.nodes.map Node.name ↔ ∃ d ∈ definitions, d.name = name := by
  rw [h.order, List.mem_eraseDups, List.mem_map]

theorem of_nodup (horder : w.nodes.map Node.name = (definitions.map Node.name).eraseDups)
    (hnodup : (w.nodes.map Node.name).Nodup)
    (hfound : ∀ name, w.node? name = lastDefinition? definitions name) : w.Holds definitions where
  order := horder
  nodup := hnodup
  last n hn := by
    rw [← hfound]
    exact find?_of_nodup hnodup hn
  found := hfound

theorem named (name : String) : (Workflow.named name).Holds [] :=
  of_nodup rfl .nil fun _ => rfl

/-- One more definition keeps the place of its name, if it has one. -/
theorem insertNode (h : w.Holds definitions) (node : Node) :
    (w.insertNode node).Holds (definitions ++ [node]) := by
  have hnames : (w.insertNode node).nodes.map Node.name =
      if node.name ∈ w.nodes.map Node.name then w.nodes.map Node.name
      else w.nodes.map Node.name ++ [node.name] :=
    map_name_insertInto node w.nodes
  refine of_nodup ?_ ?_ fun name => ?_
  · rw [hnames, List.map_append, List.map_singleton, eraseDups_concat, ← h.order]
    simp only [h.mem_names_iff, List.mem_map]
  · rw [hnames]
    split
    · exact h.nodup
    · next hnew =>
      refine List.nodup_append.mpr ⟨h.nodup, List.nodup_cons.mpr ⟨List.not_mem_nil, .nil⟩, ?_⟩
      intro old hold new hnew'
      rw [List.mem_singleton.mp hnew']
      exact fun heq => hnew (heq ▸ hold)
  · rw [lastDefinition?_concat, ← h.found]
    exact find?_insertInto node w.nodes name

/-- Statements define the nodes of those among them that define one. -/
theorem foldl_extend (h : w.Holds definitions) (statements : List Statement) :
    (statements.foldl extend w).Holds (definitions ++ statements.filterMap Statement.node?) := by
  induction statements generalizing w definitions with
  | nil => simpa using h
  | cons statement statements ih =>
    cases statement with
    | node n =>
      have hnext := ih (h.insertNode n)
      rw [List.append_assoc] at hnext
      exact hnext
    | «variable» name value =>
      have hset : (w.setVariable name value).Holds definitions :=
        ⟨h.order, h.nodup, h.last, h.found⟩
      exact ih hset
    | connection edges =>
      have hadd : (w.addEdges edges).Holds definitions := ⟨h.order, h.nodup, h.last, h.found⟩
      exact ih hadd

theorem foldl_insertNode (h : w.Holds definitions) (nodes : List Node) :
    (nodes.foldl Workflow.insertNode w).Holds (definitions ++ nodes) := by
  have hnodes := h.foldl_extend (nodes.map Statement.node)
  have hall : (nodes.map Statement.node).filterMap Statement.node? = nodes := by
    simp [List.filterMap_map, Function.comp_def, Statement.node?]
  rwa [List.foldl_map, hall] at hnodes

end Holds

/-! ## The names of a text -/

namespace WellNamed

theorem named (name : String) : (Workflow.named name).WellNamed where
  nodes := List.forall_mem_nil _
  vars := List.forall_mem_nil _
  edges := List.forall_mem_nil _

theorem ne_and_trimmed_of_name {unnamed : LineFault} {cs : List Char} {s : String}
    (h : Statement.name unnamed cs = .ok s) : s ≠ "" ∧ Text.Trimmed s.toList := by
  obtain ⟨htrim, hne⟩ := Statement.toList_of_name h
  refine ⟨fun hempty => hne (String.toList_eq_nil_iff.mpr hempty), ?_⟩
  rw [htrim]
  exact Text.trimmed_trim cs

/-- What a line states gives names of this kind. -/
theorem extend (h : w.WellNamed) {line : List Char} {statement : Statement}
    (hread : Statement.ReadAs line statement) : (w.extend statement).WellNamed := by
  cases hread with
  | @assignment left right name _ hname =>
    refine ⟨h.nodes, fun key hkey => ?_, h.edges⟩
    rcases Dict.mem_keys_insert.mp hkey with rfl | hkey
    · exact ne_and_trimmed_of_name hname
    · exact h.vars key hkey
  | @connection edges _ hconnection hedges =>
    refine ⟨h.nodes, h.vars, fun e he => ?_⟩
    rcases List.mem_append.mp he with he | he
    · exact h.edges e he
    · obtain ⟨es, hes, hexpands⟩ | ⟨missing, hrefuses⟩ := Connection.expands_or_refuses hconnection
      · cases hedges.symm.trans hes
        exact hexpands.ends e he
      · cases hedges.symm.trans hrefuses.edges
  | @definition left right n _ _ hcolon _ _ hname _ =>
    refine ⟨fun m hm => ?_, h.vars, h.edges⟩
    rcases mem_insertInto hm with rfl | hm
    · obtain ⟨hne, htrimmed⟩ := ne_and_trimmed_of_name hname
      have hleft : ':' ∉ left := (Text.of_cutAt?_eq_some hcolon).2
      refine ⟨hne, htrimmed, fun hmem => hleft ?_⟩
      rw [(Statement.toList_of_name hname).1] at hmem
      exact Text.mem_of_mem_trim hmem
    · exact h.nodes m hm

end WellNamed

theorem wellNamed_of_read {text : String} (h : read text = .ok w) : w.WellNamed :=
  of_read WellNamed.named (fun hw hread => hw.extend hread) h

/-! ## Workflows that are built -/

/-- Of whatever definitions a workflow is built, with whatever other statements of a text between
them, it holds in the place of each first definition of a name the last one. A further definition
tells whether the name has one, and the names of a text can be told apart from what is around
them. -/
theorem holds_definitions :
    (∀ name definitions, (built name definitions).Holds definitions ∧
      ∀ node, ((built name definitions).putNode node).2 = built name (definitions ++ [node]) ∧
        (((built name definitions).putNode node).1 = true ↔
          ∃ d ∈ definitions, d.name = node.name)) ∧
    ∀ text w, read text = .ok w → w.WellNamed ∧
      ∃ header body statements, meaningfulLines text.toList = header :: body ∧
        Reads body statements ∧ w.Holds (statements.filterMap Statement.node?) := by
  constructor
  · intro name definitions
    have hholds : (built name definitions).Holds definitions :=
      (Holds.named name).foldl_insertNode definitions
    refine ⟨hholds, fun node => ?_⟩
    refine ⟨?_, (insertInto_fst node _).trans hholds.mem_names_iff⟩
    rw [built, built, List.foldl_append]
    rfl
  · intro text w h
    obtain ⟨header, body, name, statements, hlines, -, hreads, rfl⟩ := read_eq_ok_iff.mp h
    have hholds := (Holds.named name).foldl_extend statements
    exact ⟨wellNamed_of_read h, header, body, statements, hlines, hreads, hholds⟩

/-- A node that calls an agent. -/
def caller (agent : String) : Node :=
  { name := "a", kind := .agent, params := .ofList [("name", agent)] }

/-- A text that defines a node again, in another way. -/
def redefining : String :=
  "workflow: W\n a : agent(name=\"one\")\nb: input()\nv := 1\na: agent(name=\"two\")\nb-->a"

theorem holds_definitions_redefining :
    ∃ w, read redefining = .ok w ∧ w.WellNamed ∧ w.nodes.map Node.name = ["a", "b"] ∧
      w.node? "a" = some (caller "two") ∧
      ((built "W" [caller "one"]).putNode (caller "two")).1 = true := by
  obtain ⟨w, hread⟩ : ∃ w, read redefining = .ok w := ⟨_, rfl⟩
  obtain ⟨hbuilt, htexts⟩ := holds_definitions
  obtain ⟨hnames, header, body, statements, hlines, hreads, hholds⟩ := htexts redefining w hread
  have hbody : meaningfulLines redefining.toList =
      ["workflow: W".toList, "a : agent(name=\"one\")".toList, "b: input()".toList,
        "v := 1".toList, "a: agent(name=\"two\")".toList, "b-->a".toList] := by
    decide
  obtain ⟨rfl, rfl⟩ := List.cons.inj (hbody.symm.trans hlines)
  have hknown : Reads ["a : agent(name=\"one\")".toList, "b: input()".toList, "v := 1".toList,
        "a: agent(name=\"two\")".toList, "b-->a".toList]
      [.node (caller "one"), .node { name := "b", kind := .input, params := ∅ },
        .variable "v" (.int 1), .node (caller "two"),
        .connection [{ source := "b", target := "a", kind := .always }]] :=
    .cons rfl (.cons rfl (.cons rfl (.cons rfl (.cons rfl .nil))))
  obtain rfl := hreads.unique hknown
  refine ⟨w, hread, hnames, hholds.order.trans (by decide), (hholds.found "a").trans rfl, ?_⟩
  exact ((hbuilt "W" [caller "one"]).2 _).2.mpr ⟨_, List.mem_cons_self, rfl⟩

end Workflow

end Flowscript
