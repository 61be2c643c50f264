import Flowscript.Proofs.Json.Records
import Flowscript.Proofs.Value.Forms
import Flowscript.Proofs.Workflow.Reading
import Flowscript.Workflow.Json

/-!
# Definitions that are read back

The JSON text of a workflow is read as this workflow exactly if its variables are not nested too
deeply and each of their doubles is what its own text is taken for. What was read from a JSON text
meets all of this but the latter, so a definition whose doubles read back stays as it is from the
first text on. The main statements are `readJson_toJsonText_iff` and
`readJson_toJsonText_of_readJson`.
-/

namespace Flowscript

theorem dict?_textsToJson {texts : Dict String} (h : texts.Ascending) :
    Json.dict? Json.text? (textsToJson texts) = some texts :=
  Json.dict?_record h fun _ _ => rfl

theorem Json.WellFormed.record {members : List (String × Json)}
    (h : ∀ m ∈ members, m.2.WellFormed) : (Json.record members).WellFormed := by
  refine .object fun m hm => ?_
  obtain ⟨member, hmember, rfl⟩ := List.mem_map.mp hm
  exact h member hmember

theorem wellFormed_textsToJson (texts : Dict String) : (textsToJson texts).WellFormed := by
  refine Json.WellFormed.record fun m hm => ?_
  obtain ⟨entry, -, rfl⟩ := List.mem_map.mp hm
  exact .string _

namespace Node

theorem wellFormed_toJson (n : Node) : n.toJson.WellFormed := by
  refine Json.WellFormed.record ?_
  simp only [List.forall_mem_cons]
  exact ⟨.string _, .string _, wellFormed_textsToJson n.params, List.forall_mem_nil _⟩

theorem ofJson?_toJson {n : Node} (h : n.params.Ascending) : ofJson? n.toJson = some n := by
  have hfields : n.toJson.fields? ["name", "type", "params"] =
      some [some (.text n.name), some (.text n.kind.keyword), some (textsToJson n.params)] :=
    Json.fields?_record rfl (by decide)
  simp [ofJson?, hfields, Json.text, Json.text?, NodeKind.ofJson?, Json.name?,
    NodeKind.ofKeyword?_keyword, Json.orDefault?, dict?_textsToJson h]

theorem ascending_of_ofJson? {j : Json} {n : Node} (h : ofJson? j = some n) :
    n.params.Ascending := by
  unfold ofJson? at h
  split at h
  · simp only [Option.bind_eq_bind, Option.bind_eq_some_iff] at h
    obtain ⟨_, -, _, -, params, hparams, hnode⟩ := h
    obtain rfl := Option.some.inj hnode
    exact Json.of_orDefault? Dict.ascending_empty Json.ascending_of_dict? hparams
  · cases h

end Node

namespace Edge

theorem wellFormed_toJson (e : Edge) : e.toJson.WellFormed := by
  refine Json.WellFormed.record ?_
  simp only [List.forall_mem_cons]
  exact ⟨.string _, .string _, .string _, List.forall_mem_nil _⟩

theorem ofJson?_toJson (e : Edge) : ofJson? e.toJson = some e := by
  have hfields : e.toJson.fields? ["source", "target", "type"] =
      some [some (.text e.source), some (.text e.target), some (.text e.kind.operator)] :=
    Json.fields?_record rfl (by decide)
  simp [ofJson?, hfields, Json.text, Json.text?, EdgeKind.ofJson?, Json.name?,
    EdgeKind.ofOperator?_operator]

end Edge

/-- The object that a printed object is read as, exactly if this is read as a value. -/
theorem Object.decode?_toJson_iff {room : Nat} {o : Object} (h : (Value.object o).Ordered) :
    Object.decode? room o.toJson = some o ↔
      (Value.object o).depth ≤ room ∧ ∀ x ∈ (Value.object o).floats, Json.ReadsBack x := by
  rw [← Value.ofJson?_toJson_iff room _ h, Object.decode?, Value.decode?_eq_ofJson?, Object.toJson]
  constructor
  · intro hread
    obtain ⟨v, hv, hobject⟩ := Option.bind_eq_some_iff.mp hread
    exact Value.object?_eq_some hobject ▸ hv
  · intro hread
    rw [hread]
    rfl

theorem Object.denoted_of_decode? {room : Nat} {j : Json} {o : Object}
    (h : Object.decode? room j = some o) : (Value.object o).Denoted room := by
  obtain ⟨v, hv, hobject⟩ := Option.bind_eq_some_iff.mp h
  rw [Value.decode?_eq_ofJson?, Value.object?_eq_some hobject] at hv
  exact Value.denoted_of_ofJson? j hv

namespace Workflow

variable {w : Workflow} {text : String}

/-- The keys ascend, of the parameters of each node and of each object in the variables. -/
structure Ordered (w : Workflow) : Prop where
  params : ∀ n ∈ w.nodes, n.params.Ascending
  vars : (Value.object w.vars).Ordered

theorem wellFormed_toJson (w : Workflow) : w.toJson.WellFormed := by
  refine Json.WellFormed.record ?_
  simp only [List.forall_mem_cons]
  refine ⟨.string _, .array fun j hj => ?_, .array fun j hj => ?_, Value.wellFormed_toJson _,
    List.forall_mem_nil _⟩
  · obtain ⟨n, -, rfl⟩ := List.mem_map.mp hj
    exact n.wellFormed_toJson
  · obtain ⟨e, -, rfl⟩ := List.mem_map.mp hj
    exact e.wellFormed_toJson

theorem ofJson?_toJson (h : w.Ordered) :
    ofJson? w.toJson =
      (Object.decode? (Value.depthLimit - 1) w.vars.toJson).map fun vars => { w with vars } := by
  have hfields : w.toJson.fields? ["name", "nodes", "edges", "variables"] =
      some [some (.text w.name), some (.array (w.nodes.map Node.toJson)),
        some (.array (w.edges.map Edge.toJson)), some w.vars.toJson] :=
    Json.fields?_record rfl (by decide)
  have hnodes : Json.list? Node.ofJson? (.array (w.nodes.map Node.toJson)) = some w.nodes :=
    Json.list?_array fun n hn => Node.ofJson?_toJson (h.params n hn)
  have hedges : Json.list? Edge.ofJson? (.array (w.edges.map Edge.toJson)) = some w.edges :=
    Json.list?_array fun e _ => e.ofJson?_toJson
  simp only [ofJson?, hfields, Json.text, Json.text?, Json.orDefault?, hnodes, hedges,
    Option.bind_eq_bind, Option.bind_some]
  cases Object.decode? (Value.depthLimit - 1) w.vars.toJson <;> rfl

theorem readJson_toJsonText (w : Workflow) :
    readJson w.toJsonText = (ofJson? w.toJson).elim (.error .malformedJson) .ok := by
  rw [readJson, toJsonText, Json.toText, String.toList_ofList,
    Json.read?_compact w.wellFormed_toJson, Option.bind_some]
  cases ofJson? w.toJson <;> rfl

/-- The JSON text of a workflow is read as this workflow exactly if its variables are not nested too
deeply and their doubles read back. -/
theorem readJson_toJsonText_iff (h : w.Ordered) :
    readJson w.toJsonText = .ok w ↔
      (Value.object w.vars).depth ≤ Value.depthLimit - 1 ∧
        ∀ x ∈ (Value.object w.vars).floats, Json.ReadsBack x := by
  rw [readJson_toJsonText, ofJson?_toJson h, ← Object.decode?_toJson_iff h.vars]
  cases hvars : Object.decode? (Value.depthLimit - 1) w.vars.toJson with
  | none => simp
  | some vars =>
    constructor
    · intro hw
      exact congrArg (some ·.vars) (Except.ok.inj hw)
    · intro hw
      obtain rfl := Option.some.inj hw
      rfl

/-- What was read from a JSON text has ascending keys, and its variables leave room for the workflow
around them. -/
theorem ordered_and_denoted_of_readJson (h : readJson text = .ok w) :
    w.Ordered ∧ (Value.object w.vars).Denoted (Value.depthLimit - 1) := by
  have hempty : (Value.object (.ofList [])).Denoted (Value.depthLimit - 1) :=
    .object (List.forall_mem_nil _)
  obtain ⟨j, -, hj⟩ : ∃ j, Json.read? text.toList = some j ∧ ofJson? j = some w := by
    unfold readJson at h
    split at h
    · cases h
    · next hread =>
      obtain rfl := Except.ok.inj h
      exact Option.bind_eq_some_iff.mp hread
  unfold ofJson? at hj
  split at hj
  · simp only [Option.bind_eq_bind, Option.bind_eq_some_iff] at hj
    obtain ⟨_, -, nodes, hnodes, _, -, vars, hvars, hw⟩ := hj
    obtain rfl := Option.some.inj hw
    have hdenoted : (Value.object vars).Denoted (Value.depthLimit - 1) :=
      Json.of_orDefault? (P := fun vars => (Value.object vars).Denoted (Value.depthLimit - 1))
        hempty Object.denoted_of_decode? hvars
    refine ⟨⟨?_, hdenoted.ordered⟩, hdenoted⟩
    exact Json.of_orDefault? (P := fun nodes => ∀ n ∈ nodes, n.params.Ascending)
      (List.forall_mem_nil _) (Json.forall_mem_of_list? Node.ascending_of_ofJson?) hnodes
  · cases hj

/-- What was read from a JSON text is read from its own text again, and has this text again, if the
finite doubles in it read back. -/
theorem readJson_toJsonText_of_readJson (h : readJson text = .ok w)
    (hfloats : ∀ x ∈ (Value.object w.vars).floats, x.isFinite = true →
      Json.float? (String.ofList (Layout.json64.double x)) = some x) :
    readJson w.toJsonText = .ok w ∧
      (readJson w.toJsonText).map toJsonText = .ok w.toJsonText := by
  obtain ⟨hordered, hdenoted⟩ := ordered_and_denoted_of_readJson h
  have hread : readJson w.toJsonText = .ok w :=
    (readJson_toJsonText_iff hordered).mpr ⟨hdenoted.depth_le, fun x hx =>
      ⟨hdenoted.finite x hx, hfloats x hx (hdenoted.finite x hx)⟩⟩
  refine ⟨hread, ?_⟩
  rw [hread]
  rfl

/-- A definition with its fields in another order, one that means nothing, one that is missing, and
a key that repeats. -/
def untidy : String :=
  "\x7b\"variables\":\x7b\"x\":1,\"x\":2.5\x7d," ++
    "\"nodes\":[\x7b\"type\":\"input\",\"at\":0,\"name\":\"n\"\x7d],\"name\":\"W\"\x7d"

/-- The same definition as it is printed. -/
def tidy : String :=
  "\x7b\"name\":\"W\"," ++
    "\"nodes\":[\x7b\"name\":\"n\",\"type\":\"input\",\"params\":\x7b\x7d\x7d],\"edges\":[]," ++
    "\"variables\":\x7b\"x\":2.5\x7d\x7d"

theorem readJson_toJsonText_of_readJson_untidy :
    ∃ w, readJson untidy = .ok w ∧ w.toJsonText = tidy ∧ readJson tidy = .ok w := by
  obtain ⟨w, hw, htidy, hfloats⟩ : ∃ w ∈ (readJson untidy).toOption,
      w.toJsonText = tidy ∧ ∀ x ∈ (Value.object w.vars).floats, Json.ReadsBack x := by
    decide +kernel
  have hread : readJson untidy = .ok w := eq_ok_of_mem_toOption hw
  have hstable := readJson_toJsonText_of_readJson hread fun x hx _ => (hfloats x hx).2
  exact ⟨w, hread, htidy, htidy ▸ hstable.1⟩

end Workflow

end Flowscript
