import Mathlib.Data.List.DropRight
import Flowscript.Text.Blank

/-!
# Trimmed text

Text is trimmed if trimming leaves it as it is, which means that it neither starts nor ends with a
blank. Trimming takes away the blanks around trimmed text, and nothing else.
-/

namespace Flowscript.Text

/-- Text that trimming leaves as it is. -/
def Trimmed (cs : List Char) : Prop :=
  trim cs = cs

instance (cs : List Char) : Decidable (Trimmed cs) :=
  inferInstanceAs (Decidable (trim cs = cs))

variable {a b cs before after : List Char} {c : Char}

theorem toNat_of_isBlank (h : isBlank c = true) : c.toNat ≤ 32 ∨ 0x85 ≤ c.toNat := by
  simp only [isBlank, Bool.or_eq_true, Bool.and_eq_true, decide_eq_true_eq, beq_iff_eq] at h
  omega

theorem trimRight_eq_rdropWhile (cs : List Char) : trimRight cs = cs.rdropWhile isBlank := rfl

theorem mem_of_mem_trim (h : c ∈ trim cs) : c ∈ cs := by
  rw [trim, trimRight_eq_rdropWhile] at h
  exact (List.dropWhile_suffix isBlank).mem ((List.rdropWhile_prefix isBlank _).mem h)

/-- Text is what trimming leaves of it, between blanks. -/
theorem exists_eq_append_trim (cs : List Char) :
    ∃ before after, cs = before ++ trim cs ++ after ∧ (∀ c ∈ before, isBlank c = true) ∧
      ∀ c ∈ after, isBlank c = true := by
  refine ⟨cs.takeWhile isBlank, (trimLeft cs).rtakeWhile isBlank, ?_, ?_, ?_⟩
  · rw [trim, trimRight_eq_rdropWhile, List.append_assoc, List.rdropWhile_append_rtakeWhile,
      trimLeft, List.takeWhile_append_dropWhile]
  · intro c hc
    exact List.mem_takeWhile_imp hc
  · intro c hc
    exact List.mem_rtakeWhile_imp hc

/-- A character that is no blank ends the blanks in front of a text. -/
theorem trimLeft_append_cons (before : List Char) (hc : isBlank c = false) (after : List Char) :
    trimLeft (before ++ c :: after) = trimLeft before ++ c :: after := by
  rw [trimLeft, List.dropWhile_append, trimLeft]
  split
  · next hnone => simp [List.isEmpty_iff.mp hnone, hc]
  · rfl

theorem trimRight_append_cons (before : List Char) (hc : isBlank c = false) (after : List Char) :
    trimRight (before ++ c :: after) = before ++ c :: trimRight after := by
  have hleft := trimLeft_append_cons after.reverse hc before.reverse
  rw [trimLeft, trimLeft] at hleft
  simp [trimRight, hleft]

theorem trim_trimLeft (cs : List Char) : trim (trimLeft cs) = trim cs := by
  rw [trim, trim, trimLeft, trimLeft, List.dropWhile_idempotent]

/-- Blanks in front of a text do not matter. -/
theorem trim_append_of_blank (h : ∀ c ∈ before, isBlank c = true) (cs : List Char) :
    trim (before ++ cs) = trim cs := by
  rw [trim, trim, trimLeft, List.dropWhile_append_of_pos h, trimLeft]

theorem trim_eq_nil_iff : trim cs = [] ↔ ∀ c ∈ cs, isBlank c = true := by
  constructor
  · intro htrim
    obtain ⟨before, after, hcs, hbefore, hafter⟩ := exists_eq_append_trim cs
    rw [hcs, htrim, List.append_nil]
    exact List.forall_mem_append.mpr ⟨hbefore, hafter⟩
  · intro h
    rw [← List.append_nil cs, trim_append_of_blank h]
    rfl

theorem trimLeft_eq_self (h : ∀ c ∈ cs.head?, isBlank c = false) : trimLeft cs = cs := by
  cases cs with
  | nil => rfl
  | cons c cs => simp [trimLeft, h c rfl]

theorem trimRight_eq_self (h : ∀ c ∈ cs.getLast?, isBlank c = false) : trimRight cs = cs := by
  rw [trimRight_eq_rdropWhile, List.rdropWhile_eq_self_iff]
  intro hne
  simpa using h (cs.getLast hne) (List.getLast?_eq_some_getLast hne)

/-- Text that neither starts nor ends with a blank is trimmed. -/
theorem trimmed_of_ends (hfirst : ∀ c ∈ cs.head?, isBlank c = false)
    (hlast : ∀ c ∈ cs.getLast?, isBlank c = false) : Trimmed cs := by
  rw [Trimmed, trim, trimLeft_eq_self hfirst, trimRight_eq_self hlast]

theorem trimmed_of_forall (h : ∀ c ∈ cs, isBlank c = false) : Trimmed cs :=
  trimmed_of_ends (fun c hc => h c (List.mem_of_mem_head? hc))
    fun c hc => h c (List.mem_of_mem_getLast? hc)

theorem trimmed_enclosed {first last : Char} (hfirst : isBlank first = false)
    (hlast : isBlank last = false) (cs : List Char) : Trimmed (first :: (cs ++ [last])) := by
  refine trimmed_of_ends ?_ ?_
  · rintro _ ⟨⟩
    exact hfirst
  · rw [← List.cons_append, List.getLast?_append_of_ne_nil _ (by simp)]
    rintro _ ⟨⟩
    exact hlast

/-- Trimmed text stays as it is if it is trimmed again. -/
theorem trimmed_trim (cs : List Char) : Trimmed (trim cs) := by
  rw [trim, trimRight_eq_rdropWhile]
  refine trimmed_of_ends (fun c hc => ?_) (fun c hc => ?_)
  · obtain ⟨more, hmore⟩ := List.rdropWhile_prefix isBlank (trimLeft cs)
    have hfirst : (trimLeft cs).head? = some c := by
      rw [← hmore, List.head?_append, Option.mem_def.mp hc, Option.some_or]
    have hhead := List.head?_dropWhile_not isBlank cs
    rw [← trimLeft, hfirst] at hhead
    simpa using hhead
  · obtain ⟨hne, rfl⟩ := List.mem_getLast?_eq_getLast hc
    exact Bool.eq_false_iff.mpr (List.rdropWhile_last_not isBlank _ hne)

namespace Trimmed

theorem trim_eq (h : Trimmed cs) : trim cs = cs := h

theorem first (h : Trimmed cs) : ∀ c ∈ cs.head?, isBlank c = false := by
  intro c hc
  by_contra hblank
  obtain ⟨more, rfl⟩ : ∃ more, cs = c :: more := by
    cases cs with
    | nil => cases hc
    | cons d more => exact ⟨more, by rw [Option.mem_some.mp hc]⟩
  -- Trimming loses the first character, so it does not give back the whole text.
  have hleft : trimLeft (c :: more) = trimLeft more :=
    List.dropWhile_cons_of_pos (Bool.not_eq_false _ ▸ hblank)
  have hshort : (trim (c :: more)).length ≤ more.length := by
    rw [trim, hleft, trimRight_eq_rdropWhile]
    exact (List.rdropWhile_prefix isBlank _).length_le.trans
      (List.dropWhile_suffix isBlank).length_le
  rw [h] at hshort
  exact absurd hshort (by simp)

theorem last (h : Trimmed cs) : ∀ c ∈ cs.getLast?, isBlank c = false := by
  intro c hc
  have hright : cs.rdropWhile isBlank = cs := by
    have htrim : trimRight (trimLeft cs) = cs := h
    rwa [trimLeft_eq_self h.first, trimRight_eq_rdropWhile] at htrim
  rw [List.rdropWhile_eq_self_iff] at hright
  obtain ⟨hne, rfl⟩ := List.mem_getLast?_eq_getLast hc
  simpa using hright hne

/-- What stands between two trimmed texts does not matter. -/
theorem append (ha : Trimmed a) (hb : Trimmed b) (hane : a ≠ []) (hbne : b ≠ [])
    (between : List Char) : Trimmed (a ++ between ++ b) := by
  refine trimmed_of_ends ?_ ?_
  · rw [List.append_assoc, List.head?_append_of_ne_nil _ hane]
    exact ha.first
  · rw [List.getLast?_append_of_ne_nil _ hbne]
    exact hb.last

/-- Trimming takes away the blanks around trimmed text. -/
theorem trim_padded (h : Trimmed cs) (hbefore : ∀ c ∈ before, isBlank c = true)
    (hafter : ∀ c ∈ after, isBlank c = true) : trim (before ++ cs ++ after) = cs := by
  have hright (text : List Char) : trimRight (text ++ after) = trimRight text := by
    rw [trimRight, List.reverse_append, List.dropWhile_append_of_pos]
    · rfl
    · simpa using hafter
  have hleft : trimLeft (before ++ (cs ++ after)) = trimLeft (cs ++ after) :=
    List.dropWhile_append_of_pos hbefore
  rw [List.append_assoc, trim, hleft]
  cases cs with
  | nil =>
    have hnone : trimLeft after = [] := by simpa [trimLeft] using hafter
    simp [hnone, trimRight]
  | cons c cs =>
    have hstays : trimLeft (c :: cs ++ after) = c :: cs ++ after := trimLeft_eq_self h.first
    rw [hstays, hright, trimRight_eq_self h.last]

theorem trim_space_cons (h : Trimmed cs) : trim (' ' :: cs) = cs := by
  have hpadded : trim ([' '] ++ cs ++ []) = cs :=
    h.trim_padded (List.forall_mem_singleton.mpr rfl) (by simp)
  simpa using hpadded

theorem trim_append_space (h : Trimmed cs) : trim (cs ++ [' ']) = cs := by
  have hpadded : trim ([] ++ cs ++ [' ']) = cs :=
    h.trim_padded (by simp) (List.forall_mem_singleton.mpr rfl)
  exact hpadded

end Trimmed

end Flowscript.Text
