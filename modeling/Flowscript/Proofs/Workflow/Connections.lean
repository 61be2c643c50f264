import Flowscript.Proofs.Text.Cutting
import Flowscript.Workflow.Connection

/-!
# Chains of connections

A chain is put together from pieces of text with operators between them. If no piece contains an
operator, reading the chain finds the pieces and the operators again, however the pieces border on
the operators; and every text is such a chain.
-/

namespace Flowscript.Connection

/-- No operator occurs in a text. -/
def Free (cs : List Char) : Prop :=
  ∀ kind : EdgeKind, ¬ kind.operator.toList <:+: cs

instance (cs : List Char) : Decidable (Free cs) :=
  decidable_of_iff (∀ kind ∈ EdgeKind.all, ¬ kind.operator.toList <:+: cs)
    ⟨fun h kind => h kind (by cases kind <;> decide), fun h kind _ => h kind⟩

/-- A chain of pieces, each but the first behind an operator. -/
def chain (first : List Char) (links : List (EdgeKind × List Char)) : List Char :=
  first ++ links.flatMap fun link => link.1.operator.toList ++ link.2

variable {cs first before : List Char}

theorem Free.append_cons {c : Char} {after : List Char} (hbefore : Free before)
    (hafter : Free after) (hc : ∀ kind : EdgeKind, c ∉ kind.operator.toList) :
    Free (before ++ c :: after) := by
  intro kind h
  have hne : kind.operator.toList ≠ [] := by cases kind <;> decide
  rcases (Text.infix_append_cons_iff (hc kind) hne).mp h with h | h
  · exact hbefore kind h
  · exact hafter kind h

theorem free_nil : Free [] := by
  intro kind
  cases kind <;> decide

/-- A character at which no operator starts belongs to the first piece. -/
theorem pieces_cons {c : Char} (h : ∀ kind : EdgeKind, ¬ kind.operator.toList <+: c :: cs) :
    pieces (c :: cs) = (c :: (pieces cs).1, (pieces cs).2) := by
  rw [pieces.eq_def]
  split
  · next heq => exact absurd ⟨_, heq.symm⟩ (h .always)
  · next heq => exact absurd ⟨_, heq.symm⟩ (h .whenTrue)
  · next heq => exact absurd ⟨_, heq.symm⟩ (h .whenFalse)
  · next heq =>
    obtain ⟨rfl, rfl⟩ := List.cons.inj heq
    rfl
  · next heq => cases heq

theorem pieces_operator (kind : EdgeKind) (cs : List Char) :
    pieces (kind.operator.toList ++ cs) = ([], (kind, (pieces cs).1) :: (pieces cs).2) := by
  cases kind <;> simp [EdgeKind.operator, pieces]

/-- No operator starts in text without one and reaches into the operator behind it: the last
character of an operator stands nowhere else in one. -/
theorem not_prefix_append_operator {c : Char} (h : Free (c :: cs)) (kind other : EdgeKind)
    (after : List Char) :
    ¬ other.operator.toList <+: c :: (cs ++ (kind.operator.toList ++ after)) := by
  intro hprefix
  rcases cs with _ | ⟨d, _ | ⟨e, cs⟩⟩
  · cases other <;> cases kind <;> simp [EdgeKind.operator] at hprefix
  · cases other <;> cases kind <;> simp [EdgeKind.operator] at hprefix
  · refine h other (List.IsPrefix.isInfix ?_)
    cases other <;> simpa [EdgeKind.operator] using hprefix

theorem Free.tail {c : Char} (h : Free (c :: cs)) : Free cs :=
  fun kind hkind => h kind (hkind.trans (List.suffix_cons c cs).isInfix)

theorem pieces_of_free (h : Free cs) : pieces cs = (cs, []) := by
  induction cs with
  | nil => rfl
  | cons c cs ih => rw [pieces_cons fun kind hkind => h kind hkind.isInfix, ih h.tail]

/-- Text is empty, or an operator stands at its front, or a character at which no operator
starts. -/
theorem induction_pieces {P : List Char → Prop} (nil : P [])
    (operator : ∀ (kind : EdgeKind) (cs : List Char), P cs → P (kind.operator.toList ++ cs))
    (cons : ∀ (c : Char) (cs : List Char),
      (∀ kind : EdgeKind, ¬ kind.operator.toList <+: c :: cs) → P cs → P (c :: cs))
    (cs : List Char) : P cs := by
  fun_induction pieces cs with
  | case1 rest _ _ _ ih => exact operator .always rest ih
  | case2 rest _ _ _ ih => exact operator .whenTrue rest ih
  | case3 rest _ _ _ ih => exact operator .whenFalse rest ih
  | case4 c rest halways htrue hfalse _ _ _ ih =>
    refine cons c rest (fun kind hprefix => ?_) ih
    obtain ⟨after, heq⟩ := hprefix
    cases kind with
    | always => exact halways after (List.cons.inj heq).1.symm (List.cons.inj heq).2.symm
    | whenTrue => exact htrue after (List.cons.inj heq).1.symm (List.cons.inj heq).2.symm
    | whenFalse => exact hfalse after (List.cons.inj heq).1.symm (List.cons.inj heq).2.symm
  | case5 => exact nil

theorem free_cons_iff {c : Char} :
    Free (c :: cs) ↔ (∀ kind : EdgeKind, ¬ kind.operator.toList <+: c :: cs) ∧ Free cs := by
  simp only [Free, List.infix_cons_iff, not_or]
  exact forall_and

/-- Text is a connection exactly if an operator occurs in it. -/
theorem isConnection_eq_false_iff : isConnection cs = false ↔ Free cs := by
  constructor
  · intro h
    induction cs using induction_pieces with
    | nil => exact free_nil
    | operator kind cs =>
      rw [isConnection, pieces_operator] at h
      cases h
    | cons c cs hskip ih =>
      rw [isConnection, pieces_cons hskip] at h
      exact free_cons_iff.mpr ⟨hskip, ih h⟩
  · intro h
    rw [isConnection, pieces_of_free h]
    rfl

theorem pieces_append_operator (h : Free before) (kind : EdgeKind) (cs : List Char) :
    pieces (before ++ (kind.operator.toList ++ cs)) =
      (before, (kind, (pieces cs).1) :: (pieces cs).2) := by
  induction before with
  | nil => exact pieces_operator kind cs
  | cons c before ih =>
    have hskip := pieces_cons fun other => not_prefix_append_operator h kind other cs
    rw [List.cons_append, hskip, ih h.tail]

/-- The pieces of a chain are those that it was put together from. -/
theorem pieces_chain {links : List (EdgeKind × List Char)} (hfirst : Free first)
    (hlinks : ∀ link ∈ links, Free link.2) : pieces (chain first links) = (first, links) := by
  induction links generalizing first with
  | nil => simpa [chain] using pieces_of_free hfirst
  | cons link links ih =>
    obtain ⟨hlink, hlinks⟩ := List.forall_mem_cons.mp hlinks
    have hrest := ih hlink hlinks
    rw [chain] at hrest
    simp only [chain, List.flatMap_cons, List.append_assoc, pieces_append_operator hfirst, hrest]

theorem chain_cons (first : List Char) (kind : EdgeKind) (piece : List Char)
    (links : List (EdgeKind × List Char)) :
    chain first ((kind, piece) :: links) =
      first ++ (kind.operator.toList ++ chain piece links) := by
  simp [chain]

/-- The pieces of a text and the operators between them make the text again. -/
theorem chain_pieces (cs : List Char) : chain (pieces cs).1 (pieces cs).2 = cs := by
  induction cs using induction_pieces with
  | nil => rfl
  | operator kind cs ih => rw [pieces_operator, chain_cons, ih, List.nil_append]
  | cons c cs hskip ih =>
    rw [pieces_cons hskip]
    exact congrArg (c :: ·) ih

/-- No operator occurs in a piece. -/
theorem free_pieces (cs : List Char) :
    Free (pieces cs).1 ∧ ∀ link ∈ (pieces cs).2, Free link.2 := by
  induction cs using induction_pieces with
  | nil => exact ⟨free_nil, List.forall_mem_nil _⟩
  | operator kind cs ih =>
    rw [pieces_operator]
    exact ⟨free_nil, List.forall_mem_cons.mpr ih⟩
  | cons c cs hskip ih =>
    obtain ⟨hfirst, hlinks⟩ := ih
    rw [pieces_cons hskip]
    refine ⟨free_cons_iff.mpr ⟨fun kind hkind => hskip kind (hkind.trans ?_), hfirst⟩, hlinks⟩
    -- The first piece stands at the front of the text.
    rw [List.cons_prefix_cons]
    exact ⟨rfl, _, chain_pieces cs⟩

end Flowscript.Connection
