import Flowscript.Proofs.Settings.References
import Flowscript.Proofs.Text.Cutting

/-!
# Expanding references

A text is put together from texts without references and from references between them, each closed
by a brace; behind these there may be one that is not closed. Expanding leaves the texts as they are
and replaces each reference by the value of its variable, which is not read again, or by the
reference. What is not closed is treated as if it were, so it does not stay as it is. The main
statement is `expand_written`.
-/

namespace Flowscript.Settings

/-- A reference as it stands in a text. -/
def reference (name : List Char) : List Char :=
  '$' :: '{' :: (name ++ ['}'])

/-- What takes the place of a reference. -/
def replacement (env : Dict String) (name : List Char) : List Char :=
  (env.get? (String.ofList name)).elim (reference name) String.toList

/-- A text and references with a text behind each. -/
def written (first : List Char) (more : List (List Char × List Char)) : List Char :=
  first ++ more.flatMap fun part => reference part.1 ++ part.2

/-- Texts and names that can be told apart. -/
structure Separable (first : List Char) (more : List (List Char × List Char)) : Prop where
  names : ∀ part ∈ more, '}' ∉ part.1
  texts : ∀ text ∈ first :: more.map Prod.snd, ¬ Refers text

instance : DecidablePred Refers :=
  fun cs => inferInstanceAs (Decidable (['$', '{'] <:+: cs))

variable {env : Dict String} {c : Char} {cs after name text first : List Char}
  {more : List (List Char × List Char)}

/-! ## Expanding from left to right -/

theorem expand_cons (h : ¬ ['$', '{'] <+: c :: cs) : expand env (c :: cs) = c :: expand env cs := by
  have hpieces : pieces (c :: cs) = .char c :: pieces cs := by
    rw [pieces]
    rintro rest rfl rfl
    exact h ⟨rest, rfl⟩
  rw [expand, hpieces]
  rfl

theorem text_reference (env : Dict String) (name : List Char) :
    (Piece.reference name).text env = replacement env name := by
  rw [Piece.text, replacement]
  cases env.get? (String.ofList name) with
  | some value => rfl
  | none => rfl

/-- A reference ends at the first closing brace. -/
theorem expand_reference_append (hname : '}' ∉ name) (after : List Char) :
    expand env (reference name ++ after) = replacement env name ++ expand env after := by
  have htext : reference name ++ after = '$' :: '{' :: (name ++ '}' :: after) := by
    simp [reference]
  rw [htext, expand, pieces, Text.takeWhile_ne_append hname, Text.dropWhile_ne_append hname,
    List.flatMap_cons, text_reference]
  rfl

/-- Without a closing brace the rest of the text is the name. -/
theorem expand_unclosed (hname : '}' ∉ name) :
    expand env ('$' :: '{' :: name) = replacement env name := by
  have hchars : ∀ c ∈ name, decide (c ≠ '}') = true :=
    fun c hc => decide_eq_true (ne_of_mem_of_not_mem hc hname)
  rw [expand, pieces, List.takeWhile_eq_self_iff.mpr hchars,
    List.dropWhile_eq_nil_iff.mpr hchars, List.flatMap_cons, text_reference, List.drop_nil, pieces,
    List.flatMap_nil, List.append_nil]

/-- A text without references stays as it is, also in front of other text, if it does not make a
reference with that. -/
theorem expand_text_append (h : ¬ Refers text) (hafter : after.head? ≠ some '{') :
    expand env (text ++ after) = text ++ expand env after := by
  induction text with
  | nil => rfl
  | cons c text ih =>
    obtain ⟨hfirst, hlater⟩ := not_or.mp (refers_cons_iff.not.mp h)
    have hskip : ¬ ['$', '{'] <+: c :: (text ++ after) := by
      rintro ⟨rest, heq⟩
      obtain ⟨hc, hrest⟩ := List.cons.inj heq
      cases text with
      | nil => exact hafter (congrArg List.head? hrest.symm)
      | cons d text => exact hfirst ⟨hc.symm, congrArg List.head? hrest.symm⟩
    rw [List.cons_append, expand_cons hskip, ih hlater, List.cons_append]

/-! ## Texts in parts -/

theorem Separable.tail {part : List Char × List Char} (h : Separable first (part :: more)) :
    Separable part.2 more where
  names := (List.forall_mem_cons.mp h.names).2
  texts := (List.forall_mem_cons.mp h.texts).2

/-- The parts of a text are expanded each for itself, also in front of other text. -/
theorem expand_written_append (h : Separable first more) (hafter : after.head? ≠ some '{') :
    expand env (written first more ++ after) =
      first ++ (more.flatMap fun part => replacement env part.1 ++ part.2) ++ expand env after := by
  induction more generalizing first with
  | nil =>
    have hfirst := h.texts first List.mem_cons_self
    simpa [written] using expand_text_append hfirst hafter
  | cons part more ih =>
    have hfirst := h.texts first List.mem_cons_self
    have hname := h.names part List.mem_cons_self
    have hhead : (reference part.1 ++ (written part.2 more ++ after)).head? ≠ some '{' := by
      rintro ⟨⟩
    have hsplit : written first (part :: more) ++ after =
        first ++ (reference part.1 ++ (written part.2 more ++ after)) := by
      simp [written]
    rw [hsplit, expand_text_append hfirst hhead, expand_reference_append hname, ih h.tail]
    simp

theorem expand_of_separable (h : Separable first more) :
    expand env (written first more) =
      first ++ more.flatMap fun part => replacement env part.1 ++ part.2 := by
  have hexpand : expand env (written first more ++ []) = _ := expand_written_append h (by simp)
  have hnil : expand env [] = [] := expand_of_not_refers not_refers_nil env
  simpa [hnil] using hexpand

theorem Separable.cons (h : Separable first more) (hname : '}' ∉ name) :
    Separable [] ((name, first) :: more) where
  names := List.forall_mem_cons.mpr ⟨hname, h.names⟩
  texts := List.forall_mem_cons.mpr ⟨not_refers_nil, h.texts⟩

theorem written_nil_cons (name first : List Char) (more : List (List Char × List Char)) :
    written [] ((name, first) :: more) = reference name ++ written first more := by
  simp [written]

theorem separable_nil : Separable [] [] :=
  ⟨List.forall_mem_nil _, by simp [not_refers_nil]⟩

/-- Each text has parts, and behind them one reference at most that is not closed. -/
theorem exists_written (cs : List Char) :
    ∃ first more, Separable first more ∧ (cs = written first more ∨
      ∃ name, '}' ∉ name ∧ cs = written first more ++ '$' :: '{' :: name) := by
  fun_induction pieces cs with
  | case1 => exact ⟨[], [], separable_nil, .inl rfl⟩
  | case2 rest ih =>
    by_cases hclosed : '}' ∈ rest
    · obtain ⟨name, after, rfl, hname⟩ := List.eq_append_cons_of_mem hclosed
      rw [Text.dropWhile_ne_append hname, List.drop_one, List.tail_cons] at ih
      obtain ⟨first, more, hseparable, hafter⟩ := ih
      refine ⟨[], (name, first) :: more, hseparable.cons hname, ?_⟩
      rw [written_nil_cons]
      rcases hafter with rfl | ⟨last, hlast, rfl⟩
      · exact .inl (by simp [reference])
      · exact .inr ⟨last, hlast, by simp [reference]⟩
    · exact ⟨[], [], separable_nil, .inr ⟨rest, hclosed, rfl⟩⟩
  | case3 c rest hother ih =>
    obtain ⟨first, more, hseparable, hrest⟩ := ih
    obtain ⟨hfirst, hmore⟩ := List.forall_mem_cons.mp hseparable.texts
    -- Where the text opened a reference with the character, the whole would start with one.
    have hopens : ¬ Refers (c :: first) := by
      rw [refers_cons_iff, not_or]
      refine ⟨?_, hfirst⟩
      rintro ⟨rfl, hbrace⟩
      obtain ⟨tail, rfl⟩ := List.head?_eq_some_iff.mp hbrace
      rcases hrest with rfl | ⟨name, -, rfl⟩
      · exact hother _ rfl rfl
      · exact hother _ rfl rfl
    refine ⟨c :: first, more, ⟨hseparable.names, List.forall_mem_cons.mpr ⟨hopens, hmore⟩⟩, ?_⟩
    rcases hrest with rfl | ⟨name, hname, rfl⟩
    · exact .inl rfl
    · exact .inr ⟨name, hname, rfl⟩

/-- Expanding replaces references and nothing else. -/
theorem expand_written (env : Dict String) :
    (∀ cs, ∃ first more, Separable first more ∧ (cs = written first more ∨
      ∃ name, '}' ∉ name ∧ cs = written first more ++ '$' :: '{' :: name)) ∧
    (∀ first more, Separable first more → expand env (written first more) =
      first ++ more.flatMap fun part => replacement env part.1 ++ part.2) ∧
    (∀ first more, Separable first more →
      (∀ part ∈ more, env.get? (String.ofList part.1) = none) →
      expand env (written first more) = written first more) ∧
    ∀ first more name, Separable first more → '}' ∉ name →
      expand env (written first more ++ '$' :: '{' :: name) =
        expand env (written first more) ++ replacement env name := by
  refine ⟨exists_written, fun _ _ => expand_of_separable, fun first more h hunset => ?_,
    fun first more name h hname => ?_⟩
  · rw [expand_of_separable h, written]
    refine congrArg (first ++ ·) (List.flatMap_congr fun part hpart => ?_)
    rw [replacement, hunset part hpart, Option.elim_none]
  · rw [expand_written_append h (by simp), expand_unclosed hname, expand_of_separable h]

/-- A variable whose value looks like a reference. -/
def referring : Dict String := ⟨[("A", "$\x7bB\x7d"), ("B", "b")]⟩

/-- References without a name and with a line break in it, next to dollar signs and braces. -/
def referringParts : List (List Char × List Char) :=
  [(['A'], ['$']), ([], ['}']), (['\n', 'C'], ['{'])]

theorem expand_written_referring :
    Separable ['$', ' ', '$'] referringParts ∧
      written ['$', ' ', '$'] referringParts =
        "$ $$\x7bA\x7d$$\x7b\x7d\x7d$\x7b\nC\x7d\x7b".toList ∧
      expand referring (written ['$', ' ', '$'] referringParts) =
        "$ $$\x7bB\x7d$$\x7b\x7d\x7d$\x7b\nC\x7d\x7b".toList := by
  have hseparable : Separable ['$', ' ', '$'] referringParts := ⟨by decide, by decide⟩
  refine ⟨hseparable, by decide, ?_⟩
  rw [(expand_written referring).2.1 _ _ hseparable]
  decide

/-- A reference that is not closed gets a brace, although its variable is not set. -/
theorem expand_unclosed_ne :
    (∅ : Dict String).get? "A" = none ∧ expand ∅ ['$', '{', 'A'] = ['$', '{', 'A', '}'] ∧
      expand ∅ ['$', '{', 'A'] ≠ ['$', '{', 'A'] := by
  have hexpand : expand ∅ ['$', '{', 'A'] = ['$', '{', 'A', '}'] := expand_unclosed (by decide)
  exact ⟨rfl, hexpand, by simp [hexpand]⟩

end Flowscript.Settings
