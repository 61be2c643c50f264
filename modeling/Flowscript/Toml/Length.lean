import Flowscript.Toml.Scalar
import Flowscript.Toml.Text

/-!
# What the readers of TOML leave

Every reader of a text or a scalar leaves less than it was given, so readers can be repeated.
-/

namespace Flowscript.Toml

theorem length_dropWhile_le (p : Char → Bool) (cs : List Char) :
    (cs.dropWhile p).length ≤ cs.length :=
  (List.dropWhile_sublist p).length_le

theorem exists_of_prepend {c : Char} {result : Option (List Char × List Char)}
    {text rest : List Char} (h : prepend c result = some (text, rest)) :
    ∃ inner, result = some (inner, rest) := by
  simp only [prepend, Option.map_eq_some_iff, Prod.mk.injEq] at h
  obtain ⟨⟨inner, after⟩, hresult, -, rfl⟩ := h
  exact ⟨inner, hresult⟩

theorem exists_of_bind_prepend {c? : Option Char} {result : Option (List Char × List Char)}
    {text rest : List Char} (h : (c?.bind fun c => prepend c result) = some (text, rest)) :
    ∃ inner, result = some (inner, rest) := by
  obtain ⟨_, _, h⟩ := Option.bind_eq_some_iff.1 h
  exact exists_of_prepend h

theorem length_basicText_lt {cs text rest : List Char} (h : basicText cs = some (text, rest)) :
    rest.length < cs.length := by
  fun_induction basicText cs generalizing text with
  | case1 => simp_all
  | case2 a b c d cs ih =>
    obtain ⟨inner, hinner⟩ := exists_of_bind_prepend h
    have := ih hinner
    simp only [List.length_cons]
    omega
  | case3 a b c d e f g h' cs ih =>
    obtain ⟨inner, hinner⟩ := exists_of_bind_prepend h
    have := ih hinner
    simp only [List.length_cons]
    omega
  | case4 e cs _ _ ih =>
    obtain ⟨inner, hinner⟩ := exists_of_bind_prepend h
    have := ih hinner
    simp only [List.length_cons]
    omega
  | case5 c cs _ _ _ _ _ ih =>
    obtain ⟨inner, hinner⟩ := exists_of_prepend h
    have := ih hinner
    simp only [List.length_cons]
    omega
  | case6 => simp at h
  | case7 => simp at h

theorem length_literalText_lt {cs text rest : List Char} (h : literalText cs = some (text, rest)) :
    rest.length < cs.length := by
  fun_induction literalText cs generalizing text with
  | case1 => simp at h
  | case2 => simp_all
  | case3 c cs _ _ ih =>
    obtain ⟨inner, hinner⟩ := exists_of_prepend h
    have := ih hinner
    simp only [List.length_cons]
    omega
  | case4 => simp at h

theorem length_closing_le (quote : Char) (cs : List Char) :
    (closing quote cs).2.length ≤ cs.length := by
  unfold closing
  split
  · split
    · simp only [List.length_cons]
      omega
    · split <;> simp
  · split <;> simp
  · simp

theorem length_skipLineBreak_le (cs : List Char) : (skipLineBreak cs).length ≤ cs.length := by
  unfold skipLineBreak
  split
  · simp
  · simp only [List.length_cons]
    omega
  · exact Nat.le_refl _

theorem length_basicLines_lt {joining : Bool} {cs text rest : List Char}
    (h : basicLines joining cs = some (text, rest)) : rest.length < cs.length := by
  fun_induction basicLines joining cs generalizing text with
  | case1 cs ih =>
    have := ih h
    simp only [List.length_cons]
    omega
  | case2 joining cs _ ih =>
    obtain ⟨inner, hinner⟩ := exists_of_prepend h
    have := ih hinner
    simp only [List.length_cons]
    omega
  | case3 joining cs =>
    simp only [Option.some.injEq] at h
    have := length_closing_le '"' cs
    simp only [h] at this
    simp only [List.length_cons]
    omega
  | case4 joining a b c d cs ih =>
    obtain ⟨inner, hinner⟩ := exists_of_bind_prepend h
    have := ih hinner
    simp only [List.length_cons]
    omega
  | case5 joining a b c d e f g h' cs ih =>
    obtain ⟨inner, hinner⟩ := exists_of_bind_prepend h
    have := ih hinner
    simp only [List.length_cons]
    omega
  | case6 joining e cs _ _ _ ih =>
    have := ih h
    simp only [List.length_cons] at this ⊢
    omega
  | case7 joining e cs _ _ _ ih =>
    obtain ⟨inner, hinner⟩ := exists_of_bind_prepend h
    have := ih hinner
    simp only [List.length_cons]
    omega
  | case8 joining c cs _ _ _ _ _ _ ih =>
    have := ih h
    simp only [List.length_cons]
    omega
  | case9 joining c cs _ _ _ _ _ _ _ ih =>
    obtain ⟨inner, hinner⟩ := exists_of_prepend h
    have := ih hinner
    simp only [List.length_cons]
    omega
  | case10 => simp at h
  | case11 => simp at h

theorem length_literalLines_lt {cs text rest : List Char}
    (h : literalLines cs = some (text, rest)) : rest.length < cs.length := by
  fun_induction literalLines cs generalizing text with
  | case1 cs ih =>
    obtain ⟨inner, hinner⟩ := exists_of_prepend h
    have := ih hinner
    simp only [List.length_cons]
    omega
  | case2 a b c cs =>
    simp only [Option.some.injEq] at h
    have := length_closing_le apostrophe cs
    simp only [h] at this
    simp only [List.length_cons]
    omega
  | case3 a b c cs _ _ _ ih =>
    obtain ⟨inner, hinner⟩ := exists_of_prepend h
    have := ih hinner
    simp only [List.length_cons] at this ⊢
    omega
  | case4 => simp at h
  | case5 => simp at h

theorem length_lineText?_lt {cs text rest : List Char} (h : lineText? cs = some (text, rest)) :
    rest.length < cs.length := by
  unfold lineText? at h
  split at h
  · have := length_basicText_lt h
    simp only [List.length_cons]
    omega
  · split at h
    · have := length_literalText_lt h
      simp only [List.length_cons]
      omega
    · simp at h
  · simp at h

theorem length_text?_lt {cs text rest : List Char} (h : text? cs = some (text, rest)) :
    rest.length < cs.length := by
  unfold text? at h
  split at h
  · rename_i cs
    have := length_basicLines_lt h
    have := length_skipLineBreak_le cs
    simp only [List.length_cons]
    omega
  · have := length_basicText_lt h
    simp only [List.length_cons]
    omega
  · rename_i a b c cs _ _
    split at h
    · have := length_literalLines_lt h
      have := length_skipLineBreak_le cs
      simp only [List.length_cons]
      omega
    · split at h
      · have := length_literalText_lt h
        simp only [List.length_cons] at this ⊢
        omega
      · simp at h
  · split at h
    · have := length_literalText_lt h
      simp only [List.length_cons]
      omega
    · simp at h
  · simp at h

theorem scalar?_nil : scalar? [] = none := by decide

theorem length_readScalar?_lt {cs rest : List Char} {item : Item}
    (h : readScalar? cs = some (item, rest)) : rest.length < cs.length := by
  have hword : cs.takeWhile isWordChar ≠ [] := by
    intro hnil
    simp [readScalar?, hnil, scalar?_nil] at h
  have hsum : (cs.takeWhile isWordChar).length + (cs.dropWhile isWordChar).length = cs.length := by
    rw [← List.length_append, List.takeWhile_append_dropWhile]
  have hpos := List.length_pos_iff.2 hword
  simp only [readScalar?] at h
  split at h
  · simp at h
  · simp only [Option.some.injEq, Prod.mk.injEq] at h
    rw [← h.2]
    omega
  · rename_i clock after _ hclock
    have hafter : after.length ≤ (cs.dropWhile isWordChar).length := by
      unfold clockBehindBlank? at hclock
      split at hclock
      · rename_i cs' hcs
        split at hclock
        · simp only [Option.some.injEq, Prod.mk.injEq] at hclock
          have := length_dropWhile_le isWordChar cs'
          rw [hcs, ← hclock.2]
          simp only [List.length_cons]
          omega
        · simp at hclock
      · simp at hclock
    split at h
    · simp only [Option.some.injEq, Prod.mk.injEq] at h
      rw [← h.2]
      omega
    · simp only [Option.some.injEq, Prod.mk.injEq] at h
      rw [← h.2]
      omega

end Flowscript.Toml
