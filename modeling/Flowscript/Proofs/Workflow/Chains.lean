import Flowscript.Proofs.Text.Trimming
import Flowscript.Proofs.Workflow.Connections
import Flowscript.Proofs.Workflow.Refusing

/-!
# Expanding chains

A chain of names means one edge for each of its operators, whatever blanks are around the names.
Conversely every line with an operator is such a chain, whose pieces contain no operators: either it
means these edges, or one of its pieces is blank, and then the line refuses the whole text. The main
statement is `edges_of_chain`.
-/

namespace Flowscript.Connection

variable {cs first : List Char} {links : List (EdgeKind × List Char)} {source : String}

/-- A name that an edge can have at its ends. -/
structure IsEnd (s : String) : Prop where
  nonempty : s ≠ ""
  trimmed : Text.Trimmed s.toList
  free : Free s.toList

instance (s : String) : Decidable (IsEnd s) :=
  decidable_of_iff (s ≠ "" ∧ Text.Trimmed s.toList ∧ Free s.toList)
    ⟨fun ⟨hne, htrimmed, hfree⟩ => ⟨hne, htrimmed, hfree⟩,
      fun h => ⟨h.nonempty, h.trimmed, h.free⟩⟩

/-- A name with the blanks around it. -/
structure Padded where
  before : List Char
  name : String
  after : List Char

/-- A name as it is written, with the blanks around it. -/
def Padded.text (p : Padded) : List Char :=
  p.before ++ p.name.toList ++ p.after

/-- A chain of names as it is written, with the blanks around the names. -/
def paddedChain (first : Padded) (links : List (EdgeKind × Padded)) : List Char :=
  chain first.text (links.map fun link => (link.1, link.2.text))

/-- A padded name that can be an end: around the name are blanks only. -/
structure Padded.IsEnd (p : Padded) : Prop where
  before : ∀ c ∈ p.before, Text.isBlank c = true
  name : Connection.IsEnd p.name
  after : ∀ c ∈ p.after, Text.isBlank c = true

/-- A piece in which there is no name, but only blanks. -/
def Unnamed (piece : List Char) : Prop :=
  ∀ c ∈ piece, Text.isBlank c = true

/-- The edges of a chain of names: one for each operator, from the name before it to the name
behind it. -/
def joined (source : String) : List (EdgeKind × String) → List Edge
  | [] => []
  | (kind, target) :: more => { source, target, kind } :: joined target more

/-! ## Texts without operators -/

theorem not_mem_operator {c : Char} (hc : Text.isBlank c = true) (kind : EdgeKind) :
    c ∉ kind.operator.toList := by
  intro hmem
  have hmarks : kind.operator.toList.all (!Text.isBlank ·) = true := by cases kind <;> decide
  simpa [hc] using List.all_eq_true.mp hmarks c hmem

theorem free_of_forall_isBlank (h : ∀ c ∈ cs, Text.isBlank c = true) : Free cs := by
  induction cs with
  | nil => exact free_nil
  | cons c cs ih =>
    obtain ⟨hc, hcs⟩ := List.forall_mem_cons.mp h
    exact free_nil.append_cons (ih hcs) (not_mem_operator hc)

/-- Blanks around a text without operators do not make one. -/
theorem Free.padded {before after : List Char} (h : Free cs)
    (hbefore : ∀ c ∈ before, Text.isBlank c = true)
    (hafter : ∀ c ∈ after, Text.isBlank c = true) : Free (before ++ cs ++ after) := by
  have hleft : Free (before ++ cs) := by
    induction before with
    | nil => exact h
    | cons c before ih =>
      obtain ⟨hc, hbefore⟩ := List.forall_mem_cons.mp hbefore
      exact free_nil.append_cons (ih hbefore) (not_mem_operator hc)
  cases after with
  | nil => simpa using hleft
  | cons c after =>
    obtain ⟨hc, hafter⟩ := List.forall_mem_cons.mp hafter
    exact hleft.append_cons (free_of_forall_isBlank hafter) (not_mem_operator hc)

theorem Free.of_infix {part : List Char} (h : Free cs) (hpart : part <:+: cs) : Free part :=
  fun kind hkind => h kind (hkind.trans hpart)

/-! ## Edges -/

theorem kinds_joined (source : String) (targets : List (EdgeKind × String)) :
    (joined source targets).map Edge.kind = targets.map Prod.fst := by
  induction targets generalizing source with
  | nil => rfl
  | cons target targets ih => rw [joined, List.map_cons, List.map_cons, ih]

theorem targets_joined (source : String) (targets : List (EdgeKind × String)) :
    (joined source targets).map Edge.target = targets.map Prod.snd := by
  induction targets generalizing source with
  | nil => rfl
  | cons target targets ih => rw [joined, List.map_cons, List.map_cons, ih]

theorem sources_joined (source : String) (targets : List (EdgeKind × String)) :
    (joined source targets).map Edge.source = (source :: targets.map Prod.snd).dropLast := by
  induction targets generalizing source with
  | nil => rfl
  | cons target targets ih =>
    rw [joined, List.map_cons, ih, List.map_cons, List.dropLast_cons_cons]

/-- Each target is the source of the next edge. -/
theorem isChain_joined (source : String) (targets : List (EdgeKind × String)) :
    (joined source targets).IsChain fun e next => e.target = next.source := by
  induction targets generalizing source with
  | nil => exact .nil
  | cons target targets ih =>
    cases targets with
    | nil => exact .singleton _
    | cons next targets => exact .cons_cons rfl (ih target.2)

/-- The name that a piece holds. -/
def label (piece : List Char) : String :=
  String.ofList (Text.trim piece)

theorem toList_label (piece : List Char) : (label piece).toList = Text.trim piece :=
  String.toList_ofList

/-- The operators of a chain with the names behind them. -/
def labels (links : List (EdgeKind × List Char)) : List (EdgeKind × String) :=
  links.map fun link => (link.1, label link.2)

theorem map_fst_labels (links : List (EdgeKind × List Char)) :
    (labels links).map Prod.fst = links.map Prod.fst := by
  simp [labels]

theorem map_snd_labels (links : List (EdgeKind × List Char)) :
    (labels links).map Prod.snd = (links.map Prod.snd).map label := by
  simp [labels]

theorem label_padded {p : Padded} (h : p.IsEnd) : label p.text = p.name := by
  rw [label, Padded.text, h.name.trimmed.trim_padded h.before h.after, String.ofList_toList]

theorem label_ne_empty {piece : List Char} (h : ¬ Unnamed piece) : label piece ≠ "" := by
  intro hempty
  have htrim : Text.trim piece = [] := by rw [← toList_label, hempty, String.toList_empty]
  exact h (Text.trim_eq_nil_iff.mp htrim)

theorem isEnd_label {piece : List Char} (hfree : Free piece) (hnamed : ¬ Unnamed piece) :
    IsEnd (label piece) where
  nonempty := label_ne_empty hnamed
  trimmed := toList_label piece ▸ Text.trimmed_trim piece
  free := by
    obtain ⟨before, after, hpiece, -⟩ := Text.exists_eq_append_trim piece
    rw [toList_label]
    exact hfree.of_infix ⟨before, after, hpiece.symm⟩

theorem name_of_unnamed {piece : List Char} (missing : End) (h : Unnamed piece) :
    name missing piece = .error missing := by
  rw [name, Text.trim_eq_nil_iff.mpr h]

theorem name_of_named {piece : List Char} (missing : End) (h : ¬ Unnamed piece) :
    name missing piece = .ok (label piece) := by
  unfold name
  split
  · next hnil => exact absurd (Text.trim_eq_nil_iff.mp hnil) h
  · rfl

theorem edgesFrom_of_named (h : ∀ link ∈ links, ¬ Unnamed link.2) :
    edgesFrom source links = .ok (joined source (labels links)) := by
  induction links generalizing source with
  | nil => rfl
  | cons link links ih =>
    obtain ⟨hlink, hlinks⟩ := List.forall_mem_cons.mp h
    rw [edgesFrom, name_of_named .target hlink]
    simp only [bind, Except.bind, ih hlinks]
    rfl

theorem edgesFrom_of_unnamed (h : ∃ link ∈ links, Unnamed link.2) :
    edgesFrom source links = .error .target := by
  induction links generalizing source with
  | nil => simp at h
  | cons link links ih =>
    rw [edgesFrom]
    by_cases hlink : Unnamed link.2
    · rw [name_of_unnamed .target hlink]
      rfl
    · have hlinks := ((List.exists_mem_cons_iff _ _ _).mp h).resolve_left hlink
      rw [name_of_named .target hlink]
      simp only [bind, Except.bind, ih hlinks]

theorem Padded.IsEnd.free {p : Padded} (h : p.IsEnd) : Free p.text :=
  h.name.free.padded h.before h.after

theorem Padded.IsEnd.named {p : Padded} (h : p.IsEnd) : ¬ Unnamed p.text := by
  intro hunnamed
  refine h.name.nonempty ?_
  rw [← label_padded h, label, Text.trim_eq_nil_iff.mpr hunnamed]

section

variable (hpieces : pieces cs = (first, links))

include hpieces

theorem edges_of_named (hfirst : ¬ Unnamed first) (hlinks : ∀ link ∈ links, ¬ Unnamed link.2) :
    edges cs = .ok (joined (label first) (labels links)) := by
  simp only [edges, hpieces, name_of_named .source hfirst]
  exact edgesFrom_of_named hlinks

theorem edges_of_unnamed_source (hfirst : Unnamed first) : edges cs = .error .source := by
  simp only [edges, hpieces, name_of_unnamed .source hfirst]
  rfl

theorem edges_of_unnamed_target (hfirst : ¬ Unnamed first)
    (hlinks : ∃ link ∈ links, Unnamed link.2) : edges cs = .error .target := by
  simp only [edges, hpieces, name_of_named .source hfirst]
  exact edgesFrom_of_unnamed hlinks

end

section

variable {first : Padded} {links : List (EdgeKind × Padded)} (hfirst : first.IsEnd)
  (hlinks : ∀ link ∈ links, link.2.IsEnd)

include hfirst hlinks

theorem pieces_padded : pieces (paddedChain first links) =
    (first.text, links.map fun link => (link.1, link.2.text)) := by
  refine pieces_chain hfirst.free fun link hlink => ?_
  obtain ⟨padded, hpadded, rfl⟩ := List.mem_map.mp hlink
  exact (hlinks padded hpadded).free

theorem isConnection_padded (hne : links ≠ []) : isConnection (paddedChain first links) = true := by
  simpa [isConnection, pieces_padded hfirst hlinks] using hne

/-- The edges of a chain of names with blanks around them. -/
theorem edges_padded : edges (paddedChain first links) =
    .ok (joined first.name (links.map fun link => (link.1, link.2.name))) := by
  have hnamed : ∀ link ∈ links.map fun link => (link.1, link.2.text), ¬ Unnamed link.2 := by
    intro link hlink
    obtain ⟨padded, hpadded, rfl⟩ := List.mem_map.mp hlink
    exact (hlinks padded hpadded).named
  have hlabels : labels (links.map fun link => (link.1, link.2.text)) =
      links.map fun link => (link.1, link.2.name) := by
    rw [labels, List.map_map]
    exact List.map_congr_left fun link hlink =>
      congrArg (link.1, ·) (label_padded (hlinks link hlink))
  rw [edges_of_named (pieces_padded hfirst hlinks) hfirst.named hnamed, label_padded hfirst,
    hlabels]

end

/-- A chain of two names, with a space on either side of the operator, is one edge between them. -/
theorem edges_spaced (e : Edge) (hsource : IsEnd e.source) (htarget : IsEnd e.target) :
    isConnection (e.source.toList ++ ' ' :: (e.kind.operator.toList ++ ' ' :: e.target.toList)) =
        true ∧
      edges (e.source.toList ++ ' ' :: (e.kind.operator.toList ++ ' ' :: e.target.toList)) =
        .ok [e] := by
  let first : Padded := { before := [], name := e.source, after := [' '] }
  let last : Padded := { before := [' '], name := e.target, after := [] }
  have hspace : ∀ c ∈ [' '], Text.isBlank c = true := List.forall_mem_singleton.mpr rfl
  have hfirst : first.IsEnd := ⟨List.forall_mem_nil _, hsource, hspace⟩
  have hlinks : ∀ link ∈ [(e.kind, last)], link.2.IsEnd :=
    List.forall_mem_singleton.mpr ⟨hspace, htarget, List.forall_mem_nil _⟩
  have htext : e.source.toList ++ ' ' :: (e.kind.operator.toList ++ ' ' :: e.target.toList) =
      paddedChain first [(e.kind, last)] := by
    simp [first, last, paddedChain, chain, Padded.text]
  rw [htext, isConnection_padded hfirst hlinks (List.cons_ne_nil _ _), edges_padded hfirst hlinks]
  exact ⟨rfl, rfl⟩

/-! ## Lines with operators -/

/-- The edges of a chain of pieces: one for each operator, from the name in the piece before it to
the name in the piece behind it, so that each target is the source of the next edge. -/
structure Expands (first : List Char) (links : List (EdgeKind × List Char)) (es : List Edge) :
    Prop where
  kinds : es.map Edge.kind = links.map Prod.fst
  sources : es.map Edge.source = ((first :: links.map Prod.snd).dropLast).map label
  targets : es.map Edge.target = (links.map Prod.snd).map label
  connected : es.IsChain fun e next => e.target = next.source
  ends : ∀ e ∈ es, IsEnd e.source ∧ IsEnd e.target

/-- A line that means no edges, because a piece of it has no name. This is an invalid connection,
and the line refuses every text in which it comes behind lines that make a workflow. -/
structure Refuses (line first : List Char) (links : List (EdgeKind × List Char)) (missing : End) :
    Prop where
  edges : edges line = .error missing
  unnamed : (missing = .source ∧ Unnamed first) ∨
    (missing = .target ∧ ¬ Unnamed first ∧ ∃ link ∈ links, Unnamed link.2)
  failure (n : Nat) : (LineFault.missingEnd missing).failure n =
    .invalidConnection n ("connection is missing its " ++ missing.word ++ " node")
  text (hline : ¬ [':', '='] <:+: line) {before : List (Nat × List Char)} {w : Workflow}
    (hbefore : Workflow.ofLines before = .ok w) (n : Nat) (others : List (Nat × List Char)) :
    Workflow.ofLines (before ++ (n, line) :: others) =
      .error ((LineFault.missingEnd missing).failure n)

theorem expands_joined (hfirst : Free first) (hlinks : ∀ link ∈ links, Free link.2)
    (hnamed : ¬ Unnamed first) (hallNamed : ∀ link ∈ links, ¬ Unnamed link.2) :
    Expands first links (joined (label first) (labels links)) where
  kinds := by rw [kinds_joined, map_fst_labels]
  sources := by rw [sources_joined, map_snd_labels, List.map_dropLast, List.map_cons]
  targets := by rw [targets_joined, map_snd_labels]
  connected := isChain_joined _ _
  ends := by
    have hends : ∀ s ∈ label first :: (labels links).map Prod.snd, IsEnd s := by
      refine List.forall_mem_cons.mpr ⟨isEnd_label hfirst hnamed, fun s hs => ?_⟩
      rw [map_snd_labels, List.map_map] at hs
      obtain ⟨link, hlink, rfl⟩ := List.mem_map.mp hs
      exact isEnd_label (hlinks link hlink) (hallNamed link hlink)
    intro e he
    have hsource : e.source ∈ (label first :: (labels links).map Prod.snd).dropLast :=
      sources_joined _ _ ▸ List.mem_map_of_mem he
    have htarget : e.target ∈ (labels links).map Prod.snd :=
      targets_joined _ _ ▸ List.mem_map_of_mem he
    exact ⟨hends _ (List.mem_of_mem_dropLast hsource), hends _ (List.mem_cons_of_mem _ htarget)⟩

theorem read_eq_missingEnd {line : List Char} {missing : End}
    (hoperator : isConnection line = true) (hedges : edges line = .error missing)
    (hline : ¬ [':', '='] <:+: line) : Statement.read line = .error (.missingEnd missing) := by
  simp only [Statement.read, Text.cut?_eq_none hline, hoperator, Statement.readConnection, hedges,
    if_true]

/-- A line with an operator means the edges of its pieces, if there is a name in each. -/
theorem expands_or_refuses {line : List Char} (hoperator : isConnection line = true) :
    (∃ es, edges line = .ok es ∧ Expands (pieces line).1 (pieces line).2 es) ∨
      ∃ missing, Refuses line (pieces line).1 (pieces line).2 missing := by
  have htext {missing : End} (hedges : edges line = .error missing)
      (hline : ¬ [':', '='] <:+: line) {before : List (Nat × List Char)} {w : Workflow}
      (hbefore : Workflow.ofLines before = .ok w) (n : Nat) (others : List (Nat × List Char)) :=
    Workflow.ofLines_of_error (n := n) hbefore (read_eq_missingEnd hoperator hedges hline) others
  -- The first piece without a name decides which end is missing.
  by_cases hsource : Unnamed (pieces line).1
  · have hedges := edges_of_unnamed_source rfl hsource
    exact .inr ⟨.source, hedges, .inl ⟨rfl, hsource⟩, fun _ => rfl, htext hedges⟩
  by_cases htarget : ∃ link ∈ (pieces line).2, Unnamed link.2
  · have hedges := edges_of_unnamed_target rfl hsource htarget
    exact .inr ⟨.target, hedges, .inr ⟨rfl, hsource, htarget⟩, fun _ => rfl, htext hedges⟩
  · have hnamed : ∀ link ∈ (pieces line).2, ¬ Unnamed link.2 := by simpa using htarget
    obtain ⟨hfirst, hlinks⟩ := free_pieces line
    exact .inl ⟨_, edges_of_named rfl hsource hnamed, expands_joined hfirst hlinks hsource hnamed⟩

/-- Names with operators between them mean one edge for each operator, from the name before it to
the name behind it, whatever blanks are around them. Conversely, a line with an operator in it is a
chain of pieces without operators: either it means the edges of this chain, or a piece has no name
in it, and then the line means none and refuses the text. -/
theorem edges_of_chain :
    (∀ (first : Padded) (links : List (EdgeKind × Padded)), links ≠ [] → first.IsEnd →
      (∀ link ∈ links, link.2.IsEnd) →
      isConnection (paddedChain first links) = true ∧
        edges (paddedChain first links) =
          .ok (joined first.name (links.map fun link => (link.1, link.2.name)))) ∧
    (∀ line : List Char, (∃ kind : EdgeKind, kind.operator.toList <:+: line) →
      ∃ first links, links ≠ [] ∧ chain first links = line ∧ Free first ∧
        (∀ link ∈ links, Free link.2) ∧
        ((∃ es, edges line = .ok es ∧ Expands first links es) ∨
          ∃ missing, Refuses line first links missing)) := by
  constructor
  · intro first links hne hfirst hlinks
    exact ⟨isConnection_padded hfirst hlinks hne, edges_padded hfirst hlinks⟩
  · intro line hoperator
    have hconnection : isConnection line = true := by
      rw [← Bool.not_eq_false, isConnection_eq_false_iff]
      exact fun hfree => hoperator.elim hfree
    obtain ⟨hfirst, hlinks⟩ := free_pieces line
    have hne : (pieces line).2 ≠ [] := by simpa [isConnection] using hconnection
    exact ⟨_, _, hne, chain_pieces line, hfirst, hlinks, expands_or_refuses hconnection⟩

/-- A name that ends like an operator starts. -/
def dashed : Padded :=
  { before := [], name := "a-", after := [] }

/-- Names behind it, one of which starts like an operator, with blanks around some operators. -/
def bordering : List (EdgeKind × Padded) :=
  [(.always, { before := [], name := "=b", after := [' '] }),
    (.whenTrue, { before := ['\t'], name := "c", after := [] })]

theorem edges_of_chain_bordering :
    bordering ≠ [] ∧ dashed.IsEnd ∧ (∀ link ∈ bordering, link.2.IsEnd) ∧
    edges "a--->=b ==>\tc".toList = .ok
      [{ source := "a-", target := "=b", kind := .always },
        { source := "=b", target := "c", kind := .whenTrue }] ∧
    ∀ others, Workflow.ofLines ([(1, "workflow: W".toList), (2, "x --> y".toList)] ++
        (3, "a --> ==> b".toList) :: others) =
      .error (.invalidConnection 3 "connection is missing its target node") := by
  have hfirst : dashed.IsEnd := ⟨by simp [dashed], by decide, by simp [dashed]⟩
  have hlinks : ∀ link ∈ bordering, link.2.IsEnd := by
    refine List.forall_mem_cons.mpr ⟨⟨by simp, by decide, by simp; decide⟩, ?_⟩
    exact List.forall_mem_singleton.mpr ⟨by simp; decide, by decide, by simp⟩
  obtain ⟨hjoined, hline⟩ := edges_of_chain
  refine ⟨by simp [bordering], hfirst, hlinks,
    (hjoined dashed bordering (by simp [bordering]) hfirst hlinks).2, fun others => ?_⟩
  -- The piece between the operators is blank, so the line means no edges.
  have hmissing : edges "a --> ==> b".toList = .error .target := rfl
  obtain ⟨_, _, -, -, -, -, ⟨es, hes, -⟩ | ⟨missing, hrefuses⟩⟩ :=
    hline "a --> ==> b".toList ⟨.always, by decide⟩
  · cases hes.symm.trans hmissing
  · cases hrefuses.edges.symm.trans hmissing
    exact hrefuses.text (by decide) rfl 3 others

end Flowscript.Connection
