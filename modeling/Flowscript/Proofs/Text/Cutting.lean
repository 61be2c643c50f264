import Mathlib.Data.List.Infix
import Flowscript.Text.Cut

/-!
# Cutting text at a mark

A cut at the first or the last mark finds the parts that the text was put together from, if the mark
does not occur earlier or later; the pieces between all marks are the texts that were joined, if the
mark occurs in none of them. The same holds of the longest front part of one kind of characters.
-/

namespace Flowscript.Text

variable {mark : Char} {before after cs : List Char}

section

variable {p : Char → Bool} (hcs : ∀ c ∈ cs, p c = true) (hafter : ∀ c ∈ after.head?, p c = false)

include hcs hafter

theorem takeWhile_append_of_ends : (cs ++ after).takeWhile p = cs := by
  rw [List.takeWhile_append_of_pos hcs]
  cases after with
  | nil => simp
  | cons c after => simp [hafter c rfl]

theorem dropWhile_append_of_ends : (cs ++ after).dropWhile p = after := by
  rw [List.dropWhile_append_of_pos hcs]
  cases after with
  | nil => rfl
  | cons c after => simp [hafter c rfl]

end

theorem takeWhile_ne_append (h : mark ∉ cs) (after : List Char) :
    (cs ++ mark :: after).takeWhile (· ≠ mark) = cs :=
  takeWhile_append_of_ends (fun _ hc => decide_eq_true (ne_of_mem_of_not_mem hc h)) (by simp)

theorem dropWhile_ne_append (h : mark ∉ cs) (after : List Char) :
    (cs ++ mark :: after).dropWhile (· ≠ mark) = mark :: after :=
  dropWhile_append_of_ends (fun _ hc => decide_eq_true (ne_of_mem_of_not_mem hc h)) (by simp)

theorem cutAt?_append (h : mark ∉ before) (after : List Char) :
    cutAt? mark (before ++ mark :: after) = some (before, after) := by
  induction before with
  | nil => simp [cutAt?]
  | cons c before ih =>
    obtain ⟨hc, hbefore⟩ := List.ne_and_not_mem_of_not_mem_cons h
    simp [cutAt?, Ne.symm hc, ih hbefore]

theorem cutAt?_of_not_mem (h : mark ∉ cs) : cutAt? mark cs = none := by
  induction cs with
  | nil => rfl
  | cons c cs ih =>
    obtain ⟨hc, hcs⟩ := List.ne_and_not_mem_of_not_mem_cons h
    rw [cutAt?, if_neg (Ne.symm hc), ih hcs, Option.map_none]

theorem of_cutAt?_eq_some (h : cutAt? mark cs = some (before, after)) :
    cs = before ++ mark :: after ∧ mark ∉ before := by
  have hmark : mark ∈ cs := by
    by_contra hnone
    rw [cutAt?_of_not_mem hnone] at h
    cases h
  obtain ⟨first, rest, rfl, hfirst⟩ := List.eq_append_cons_of_mem hmark
  rw [cutAt?_append hfirst] at h
  cases h
  exact ⟨rfl, hfirst⟩

theorem cutLast?_of_not_mem (h : mark ∉ cs) : cutLast? mark cs = none := by
  induction cs with
  | nil => rfl
  | cons c cs ih =>
    obtain ⟨hc, hcs⟩ := List.ne_and_not_mem_of_not_mem_cons h
    simp [cutLast?, Ne.symm hc, ih hcs]

theorem cutLast?_append (before : List Char) (h : mark ∉ after) :
    cutLast? mark (before ++ mark :: after) = some (before, after) := by
  induction before with
  | nil => simp [cutLast?, cutLast?_of_not_mem h]
  | cons c before ih => simp [cutLast?, ih]

theorem of_cutLast?_eq_some (h : cutLast? mark cs = some (before, after)) :
    cs = before ++ mark :: after ∧ mark ∉ after := by
  have hmark : mark ∈ cs.reverse := by
    rw [List.mem_reverse]
    by_contra hnone
    rw [cutLast?_of_not_mem hnone] at h
    cases h
  obtain ⟨last, rest, hreverse, hlast⟩ := List.eq_append_cons_of_mem hmark
  obtain rfl : cs = rest.reverse ++ mark :: last.reverse := by
    simpa using congrArg List.reverse hreverse
  rw [cutLast?_append _ (by simpa using hlast)] at h
  cases h
  exact ⟨rfl, by simpa using hlast⟩

/-- The first piece ends at the first mark. -/
theorem exists_pieces_eq_cons (mark : Char) (cs : List Char) :
    ∃ first more, pieces mark cs = first :: more ∧ mark ∉ first ∧ first ⊆ cs := by
  induction cs with
  | nil => exact ⟨[], [], rfl, List.not_mem_nil, List.Subset.refl _⟩
  | cons c cs ih =>
    obtain ⟨first, more, hpieces, hmark, hsubset⟩ := ih
    rw [pieces, hpieces]
    split
    · exact ⟨[], _, rfl, List.not_mem_nil, List.nil_subset _⟩
    · next hc =>
      refine ⟨c :: first, more, rfl, ?_, List.cons_subset_cons c hsubset⟩
      exact List.not_mem_cons_of_ne_of_not_mem (Ne.symm hc) hmark

theorem pieces_of_not_mem (h : mark ∉ cs) : pieces mark cs = [cs] := by
  induction cs with
  | nil => rfl
  | cons c cs ih =>
    obtain ⟨hc, hcs⟩ := List.ne_and_not_mem_of_not_mem_cons h
    simp [pieces, Ne.symm hc, ih hcs]

theorem pieces_append (h : mark ∉ cs) (after : List Char) :
    pieces mark (cs ++ mark :: after) = cs :: pieces mark after := by
  induction cs with
  | nil => simp [pieces]
  | cons c cs ih =>
    obtain ⟨hc, hcs⟩ := List.ne_and_not_mem_of_not_mem_cons h
    simp [pieces, Ne.symm hc, ih hcs]

/-- Texts that end with a mark each: behind the last mark stands an empty piece. -/
theorem pieces_terminated {texts : List (List Char)} (h : ∀ cs ∈ texts, mark ∉ cs) :
    pieces mark (texts.flatMap (· ++ [mark])) = texts ++ [[]] := by
  induction texts with
  | nil => rfl
  | cons cs texts ih =>
    obtain ⟨hcs, htexts⟩ := List.forall_mem_cons.mp h
    simp [pieces_append hcs, ih htexts]

theorem pieces_intercalate {first : List Char} {more : List (List Char)}
    (h : ∀ cs ∈ first :: more, mark ∉ cs) :
    pieces mark ([mark].intercalate (first :: more)) = first :: more := by
  induction more generalizing first with
  | nil => simpa using pieces_of_not_mem (h first List.mem_cons_self)
  | cons next more ih =>
    obtain ⟨hfirst, hmore⟩ := List.forall_mem_cons.mp h
    rw [List.intercalate_cons_cons, List.append_assoc, List.singleton_append, pieces_append hfirst,
      ih hmore]

/-- The pieces of a text and the marks between them make the text again. -/
theorem intercalate_pieces (mark : Char) (cs : List Char) :
    [mark].intercalate (pieces mark cs) = cs := by
  induction cs with
  | nil => rfl
  | cons c cs ih =>
    obtain ⟨first, more, hpieces, -, -⟩ := exists_pieces_eq_cons mark cs
    rw [hpieces] at ih
    rw [pieces, hpieces]
    split
    · next hc => simp [ih, hc]
    · cases more with
      | nil => simpa using ih
      | cons next more => simpa using ih

theorem not_mem_of_mem_pieces {piece : List Char} (h : piece ∈ pieces mark cs) : mark ∉ piece := by
  induction cs generalizing piece with
  | nil =>
    obtain rfl := List.mem_singleton.mp h
    exact List.not_mem_nil
  | cons c cs ih =>
    obtain ⟨first, more, hpieces, hfirst, -⟩ := exists_pieces_eq_cons mark cs
    rw [pieces, hpieces] at h
    rw [hpieces] at ih
    split at h
    · rcases List.mem_cons.mp h with rfl | h
      · exact List.not_mem_nil
      · exact ih h
    · next hc =>
      rcases List.mem_cons.mp h with rfl | h
      · exact List.not_mem_cons_of_ne_of_not_mem (Ne.symm hc) hfirst
      · exact ih (List.mem_cons_of_mem first h)

/-- A list whose items are set off by more than a mark is one whose items start with the rest. -/
theorem intercalate_cons_cons_eq {α : Type} (mark : α) (gap first : List α) (more : List (List α)) :
    (mark :: gap).intercalate (first :: more) =
      [mark].intercalate (first :: more.map (gap ++ ·)) := by
  have hjoin (separator first : List α) (more : List (List α)) :
      separator.intercalate (first :: more) = first ++ more.flatMap (separator ++ ·) := by
    induction more generalizing first with
    | nil => simp
    | cons next more ih => simp [ih]
  rw [hjoin, hjoin, List.flatMap_map]
  simp

theorem not_mem_intercalate {c : Char} {gap : List Char} {texts : List (List Char)}
    (hgap : c ∉ gap) (h : ∀ cs ∈ texts, c ∉ cs) : c ∉ gap.intercalate texts := by
  induction texts with
  | nil => simp
  | cons cs texts ih =>
    obtain ⟨hcs, htexts⟩ := List.forall_mem_cons.mp h
    cases texts with
    | nil => simpa using hcs
    | cons next texts => simpa [hcs, hgap] using ih htexts

@[simp] theorem between?_append (left right : Char) (inner : List Char) :
    between? left right (left :: (inner ++ [right])) = some inner := by
  simp [between?]

theorem between?_cons_of_ne {left c : Char} (h : c ≠ left) (right : Char) (cs : List Char) :
    between? left right (c :: cs) = none := by
  simp [between?, h]

theorem between?_eq_some_iff {left right : Char} {inner : List Char} :
    between? left right cs = some inner ↔ cs = left :: (inner ++ [right]) := by
  constructor
  · intro h
    cases cs with
    | nil => cases h
    | cons c cs =>
      obtain ⟨hends, hinner⟩ := Option.ite_none_right_eq_some.mp h
      obtain ⟨rfl, hlast⟩ := by simpa using hends
      rw [← Option.some.inj hinner, List.dropLast_append_getLast? _ hlast]
  · rintro rfl
    exact between?_append left right inner

/-! ## Marks of several characters -/

section

variable {mark : List Char}

/-- A mark that stands at the front of a text, but not across a character that it does not have,
ends in front of that character. -/
theorem prefix_of_prefix_append_cons (before : List Char) {c : Char} (hc : c ∉ mark)
    (h : mark <+: before ++ c :: after) : mark <+: before := by
  have hother : before ++ [c] <+: before ++ c :: after := ⟨after, by simp⟩
  rcases List.prefix_or_prefix_of_prefix h hother with hmark | hlong
  · rcases List.prefix_concat_iff.mp hmark with rfl | hmark
    · exact absurd List.mem_concat_self hc
    · exact hmark
  · exact absurd (hlong.subset List.mem_concat_self) hc

/-- A mark does not occur across a character that it does not have. -/
theorem infix_append_cons_iff {c : Char} (hc : c ∉ mark) (hmark : mark ≠ []) :
    mark <:+: before ++ c :: after ↔ mark <:+: before ∨ mark <:+: after := by
  constructor
  · intro h
    induction before with
    | nil =>
      rcases List.infix_cons_iff.mp h with h | h
      · exact absurd (List.prefix_nil.mp (prefix_of_prefix_append_cons [] hc h)) hmark
      · exact .inr h
    | cons d before ih =>
      rcases List.infix_cons_iff.mp h with h | h
      · exact .inl (prefix_of_prefix_append_cons (d :: before) hc h).isInfix
      · exact (ih h).imp_left fun h => h.trans (List.suffix_cons d before).isInfix
  · rintro (h | h)
    · exact h.trans (List.prefix_append before _).isInfix
    · exact h.trans ⟨before ++ [c], [], by simp⟩

theorem cut?_cons {c : Char} (h : ¬ mark <+: c :: cs) :
    cut? mark (c :: cs) = (cut? mark cs).map fun parts => (c :: parts.1, parts.2) := by
  have hfirst : mark.isPrefixOf (c :: cs) = false :=
    Bool.eq_false_iff.mpr fun hprefix => h (List.isPrefixOf_iff_prefix.mp hprefix)
  simp [cut?, hfirst]

theorem cut?_eq_none (h : ¬ mark <:+: cs) : cut? mark cs = none := by
  induction cs with
  | nil =>
    have hmark : mark ≠ [] := fun hnil => h (hnil ▸ List.nil_infix)
    simp [cut?, hmark]
  | cons c cs ih =>
    obtain ⟨hfirst, hlater⟩ := not_or.mp (List.infix_cons_iff.not.mp h)
    rw [cut?_cons hfirst, ih hlater, Option.map_none]

theorem cut?_eq_none_iff : cut? mark cs = none ↔ ¬ mark <:+: cs := by
  refine ⟨fun hnone hmark => ?_, cut?_eq_none⟩
  induction cs with
  | nil =>
    obtain rfl := List.infix_nil.mp hmark
    cases hnone
  | cons c cs ih =>
    by_cases hfirst : mark <+: c :: cs
    · rw [cut?, if_pos (List.isPrefixOf_iff_prefix.mpr hfirst)] at hnone
      cases hnone
    · rw [cut?_cons hfirst, Option.map_eq_none_iff] at hnone
      exact ih hnone ((List.infix_cons_iff.mp hmark).resolve_left hfirst)

/-- A cut finds the mark behind a character that the mark does not have, if it does not occur
earlier. -/
theorem cut?_append {c : Char} (hc : c ∉ mark) (hmark : mark ≠ []) (h : ¬ mark <:+: before)
    (after : List Char) :
    cut? mark (before ++ c :: (mark ++ after)) = some (before ++ [c], after) := by
  induction before with
  | nil =>
    have hfirst : ¬ mark <+: c :: (mark ++ after) := fun hprefix =>
      hmark (List.prefix_nil.mp (prefix_of_prefix_append_cons [] hc hprefix))
    obtain ⟨m, more, rfl⟩ := List.exists_cons_of_ne_nil hmark
    rw [List.nil_append, cut?_cons hfirst]
    simp [cut?]
  | cons d before ih =>
    obtain ⟨hfirst, hlater⟩ := not_or.mp (List.infix_cons_iff.not.mp h)
    have hnot : ¬ mark <+: d :: (before ++ c :: (mark ++ after)) := fun hprefix =>
      hfirst (prefix_of_prefix_append_cons (d :: before) hc hprefix)
    rw [List.cons_append, cut?_cons hnot, ih hlater, Option.map_some]
    rfl

end

end Flowscript.Text
