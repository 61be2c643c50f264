import Flowscript.Proofs.Run.Lookups
import Flowscript.Proofs.Text.Trimming
import Flowscript.Run.Template

/-!
# Templates in parts

A template is put together from texts and from placeholders between them. Rendering leaves the texts
as they are and replaces each placeholder by itself, by what its expression and the scope alone
settle, whatever the values contain: what is put in is not read again. The main statement is
`render_woven`.
-/

namespace Flowscript.Template

/-- An expression as it stands in a template. -/
def placeholder (e : List Char) : List Char :=
  '{' :: '{' :: (e ++ ['}', '}'])

/-- A template of a text and of placeholders with a text behind each. -/
def woven (first : List Char) (more : List (List Char × List Char)) : List Char :=
  first ++ more.flatMap fun part => placeholder part.1 ++ part.2

/-- Texts and expressions that can be told apart: an expression is not empty and does not end
early, and no text opens a placeholder, by itself or with the one behind it. -/
structure Separable (first : List Char) (more : List (List Char × List Char)) : Prop where
  expressions : ∀ part ∈ more, part.1 ≠ [] ∧ '}' ∉ part.1
  texts : ∀ text ∈ first :: more.map Prod.snd, ¬ ['{', '{'] <:+: text
  ends : ∀ text ∈ (first :: more.map Prod.snd).dropLast, text.getLast? ≠ some '{'

/-- What an expression without blanks around it stands for. With a point in it, it is a path that
starts from a variable; else it is a name, of which the empty text takes the place where nothing has
it. -/
inductive Denotes (scope : Scope) (x : List Char) : Value → Prop
  | path {v : Value} (hpoint : '.' ∈ x) (h : scope.LeadsTo x v) : Denotes scope x v
  | name {v : Value} (hpoint : '.' ∉ x) (h : scope.Holds (String.ofList x) v) : Denotes scope x v
  | missing (hpoint : '.' ∉ x) (h : ∀ v, ¬ scope.Holds (String.ofList x) v) :
      Denotes scope x (.string "")

/-- What takes the place of an expression: the text of its value, or the placeholder as it is where
there is no value, or null. -/
inductive Replaces (scope : Scope) (e : List Char) : List Char → Prop
  | value {v : Value} (h : Denotes scope (Text.trim e) v) (hv : v ≠ .null) :
      Replaces scope e v.display.toList
  | kept (h : ∀ v, Denotes scope (Text.trim e) v → v = .null) : Replaces scope e (placeholder e)

variable {scope : Scope} {e text first : List Char} {more : List (List Char × List Char)}

/-! ## Placeholders -/

theorem value?_eq_some_iff {x : List Char} {v : Value} :
    value? scope x = some v ↔ Denotes scope x v := by
  unfold value?
  split
  · next hpoint =>
    rw [List.contains_iff_mem] at hpoint
    rw [Scope.lookupPath_eq_some_iff]
    constructor
    · exact .path hpoint
    · rintro (⟨-, h⟩ | ⟨hnone, -⟩ | ⟨hnone, -⟩)
      · exact h
      · exact absurd hpoint hnone
      · exact absurd hpoint hnone
  · next hpoint =>
    rw [List.contains_iff_mem] at hpoint
    rw [Option.some_inj]
    constructor
    · intro h
      cases hlookup : scope.lookup (String.ofList x) with
      | some w =>
        rw [hlookup] at h
        obtain rfl : w = v := h
        exact .name hpoint (Scope.lookup_eq_some_iff.mp hlookup)
      | none =>
        rw [hlookup] at h
        obtain rfl : Value.string "" = v := h
        exact .missing hpoint (Scope.lookup_eq_none_iff.mp hlookup)
    · rintro (⟨hsome, -⟩ | ⟨-, h⟩ | ⟨-, h⟩)
      · exact absurd hsome hpoint
      · rw [Scope.lookup_eq_some_iff.mpr h, Option.getD_some]
      · rw [Scope.lookup_eq_none_iff.mpr h, Option.getD_none]

/-- An expression is replaced by one text only. -/
theorem replaces_iff : Replaces scope e text ↔ replacement scope e = text := by
  have hvalue {v : Value} (h : Denotes scope (Text.trim e) v) (hv : v ≠ .null) :
      replacement scope e = v.display.toList := by
    rw [replacement, value?_eq_some_iff.mpr h]
    cases v <;> first | exact absurd rfl hv | rfl
  have hkept (h : ∀ v, Denotes scope (Text.trim e) v → v = .null) :
      replacement scope e = placeholder e := by
    rw [replacement]
    cases hfound : value? scope (Text.trim e) with
    | none => rfl
    | some v =>
      obtain rfl := h v (value?_eq_some_iff.mp hfound)
      rfl
  constructor
  · rintro (⟨h, hv⟩ | h)
    · exact hvalue h hv
    · exact hkept h
  · rintro rfl
    by_cases h : ∃ v, Denotes scope (Text.trim e) v ∧ v ≠ .null
    · obtain ⟨v, h, hv⟩ := h
      rw [hvalue h hv]
      exact .value h hv
    · simp only [not_exists, not_and, not_not] at h
      rw [hkept h]
      exact .kept h

/-! ## Rendering from left to right -/

theorem render_cons {c : Char} {cs : List Char} (h : ¬ ['{', '{'] <+: c :: cs) :
    render scope (c :: cs) = c :: render scope cs := by
  rw [render]
  rintro rest rfl rfl
  exact h ⟨rest, rfl⟩

theorem placeholder?_append (hne : e ≠ []) (he : '}' ∉ e) (after : List Char) :
    placeholder? (e ++ '}' :: '}' :: after) = some (e, after) := by
  unfold placeholder?
  rw [Text.takeWhile_ne_append he, Text.dropWhile_ne_append he]
  cases e with
  | nil => exact absurd rfl hne
  | cons => rfl

theorem render_placeholder_append (hne : e ≠ []) (he : '}' ∉ e) (after : List Char) :
    render scope (placeholder e ++ after) = replacement scope e ++ render scope after := by
  have hplaceholder := placeholder?_append hne he after
  have htext : placeholder e ++ after = '{' :: '{' :: (e ++ '}' :: '}' :: after) := by
    simp [placeholder]
  rw [htext, render]
  split
  · next hfound =>
    cases hfound.symm.trans hplaceholder
    rfl
  · next hmissing => cases hmissing.symm.trans hplaceholder

/-- A text that opens no placeholder stays as it is. -/
theorem render_text (h : ¬ ['{', '{'] <:+: text) : render scope text = text := by
  induction text with
  | nil => rw [render]
  | cons c text ih =>
    obtain ⟨hfirst, hlater⟩ := not_or.mp (List.infix_cons_iff.not.mp h)
    rw [render_cons hfirst, ih hlater]

/-- So it does in front of other text, if it does not open a placeholder with that. -/
theorem render_text_append (h : ¬ ['{', '{'] <:+: text) (hend : text.getLast? ≠ some '{')
    (after : List Char) : render scope (text ++ after) = text ++ render scope after := by
  induction text with
  | nil => rfl
  | cons c text ih =>
    obtain ⟨hfirst, hlater⟩ := not_or.mp (List.infix_cons_iff.not.mp h)
    have hskip : ¬ ['{', '{'] <+: c :: (text ++ after) := by
      cases text with
      | nil =>
        rintro ⟨rest, heq⟩
        exact hend (congrArg some (List.cons.inj heq).1.symm)
      | cons d text => simpa using hfirst
    have htail : text.getLast? ≠ some '{' := by
      cases text with
      | nil => simp
      | cons d text => simpa using hend
    rw [List.cons_append, render_cons hskip, ih hlater htail]
    rfl

/-! ## Templates in parts -/

theorem Separable.ends_cons {part : List Char × List Char} (h : Separable first (part :: more)) :
    first.getLast? ≠ some '{' ∧
      ∀ text ∈ (part.2 :: more.map Prod.snd).dropLast, text.getLast? ≠ some '{' := by
  have hends := h.ends
  rw [List.map_cons, List.dropLast_cons_cons] at hends
  exact List.forall_mem_cons.mp hends

theorem Separable.tail {part : List Char × List Char} (h : Separable first (part :: more)) :
    Separable part.2 more where
  expressions := (List.forall_mem_cons.mp h.expressions).2
  texts := (List.forall_mem_cons.mp h.texts).2
  ends := h.ends_cons.2

theorem render_of_separable (h : Separable first more) : render scope (woven first more) =
    first ++ more.flatMap fun part => replacement scope part.1 ++ part.2 := by
  induction more generalizing first with
  | nil =>
    have hfirst := h.texts first List.mem_cons_self
    simpa [woven] using render_text hfirst
  | cons part more ih =>
    have hfirst := h.texts first List.mem_cons_self
    obtain ⟨hend, -⟩ := h.ends_cons
    obtain ⟨hne, he⟩ := h.expressions part List.mem_cons_self
    have hrest := ih h.tail
    rw [woven] at hrest
    rw [woven, render_text_append hfirst hend, List.flatMap_cons, List.append_assoc,
      render_placeholder_append hne he, hrest, List.flatMap_cons, List.append_assoc]

/-- Each expression of a template is replaced by the one text that takes its place in the scope, and
everything else stays as it is. -/
theorem render_woven (scope : Scope) :
    (∀ e text, Replaces scope e text ↔ replacement scope e = text) ∧
    ∀ first more, Separable first more → render scope (woven first more) =
      first ++ more.flatMap fun part => replacement scope part.1 ++ part.2 :=
  ⟨fun _ _ => replaces_iff, fun _ _ => render_of_separable⟩

/-- A scope with values that look like placeholders. -/
def teasing : Scope where
  input := ⟨[("x", .string "hidden"), ("y", .string "\x7b\x7bx\x7d\x7d")]⟩
  vars :=
    ⟨[("n", .null), ("user", .object ⟨[("city", .string "Oslo")]⟩),
      ("x", .string "\x7b\x7by\x7d\x7d")]⟩

/-- Names and paths with a value, without one and with null, between texts with single braces. -/
def teasingParts : List (List Char × List Char) :=
  [(" x ".toList, ['}']), (['y'], []), (['{', 'z'], ['-']), ("user.city".toList, []),
    ("user.zip".toList, []), (['n'], ['{'])]

theorem render_woven_teasing :
    Separable ['a', '{', ' '] teasingParts ∧
    woven ['a', '{', ' '] teasingParts =
      ("a\x7b \x7b\x7b x \x7d\x7d\x7d\x7b\x7by\x7d\x7d\x7b\x7b\x7bz\x7d\x7d-" ++
        "\x7b\x7buser.city\x7d\x7d\x7b\x7buser.zip\x7d\x7d\x7b\x7bn\x7d\x7d\x7b").toList ∧
    render teasing (woven ['a', '{', ' '] teasingParts) =
      ("a\x7b \x7b\x7by\x7d\x7d\x7d\x7b\x7bx\x7d\x7d-Oslo" ++
        "\x7b\x7buser.zip\x7d\x7d\x7b\x7bn\x7d\x7d\x7b").toList := by
  have hseparable : Separable ['a', '{', ' '] teasingParts :=
    ⟨by decide, by decide, by decide⟩
  refine ⟨hseparable, by decide +kernel, ?_⟩
  rw [(render_woven teasing).2 _ _ hseparable]
  decide +kernel

end Flowscript.Template
