import Mathlib.Algebra.Group.Nat.Defs
import Flowscript.Proofs.Decimal.Printing
import Flowscript.Proofs.Text.Cutting
import Flowscript.Toml.Scalar

/-!
# TOML numbers that are read back

A natural number in decimal digits is no time and no floating point number, and so is read as the
integer it was written for, as long as 63 bits hold it. The main statement is `readScalar?_ofNat`.
-/

namespace Flowscript.Toml

variable {cs rest : List Char} {c : Char} {n : Nat}

theorem mem_of_twoDigits? (h : twoDigits? cs = some (n, rest)) (hc : c ∈ rest) : c ∈ cs := by
  unfold twoDigits? at h
  split at h
  · split at h
    · cases h
      exact List.mem_cons_of_mem _ (List.mem_cons_of_mem _ hc)
    · cases h
  · cases h

theorem mem_of_bounded? {least greatest : Nat} (h : bounded? least greatest cs = some (n, rest))
    (hc : c ∈ rest) : c ∈ cs := by
  obtain ⟨found, hdigits, hbounds⟩ := Option.bind_eq_some_iff.mp h
  dsimp only at hbounds
  split at hbounds
  · cases hbounds
    exact mem_of_twoDigits? hdigits hc
  · cases hbounds

section

variable (h : Digits.isRun cs = true)

include h

theorem afterDate?_of_isRun : afterDate? cs = none := by
  have hdigits := (Digits.isRun_iff.mp h).2
  unfold afterDate?
  split
  · have hdash := hdigits '-' (by simp)
    cases hdash
  · rfl

theorem afterTime?_of_isRun : afterTime? cs = none := by
  have hdigits := (Digits.isRun_iff.mp h).2
  unfold afterTime?
  split
  · rename_i hhour
    have hcolon := hdigits ':' (mem_of_bounded? hhour List.mem_cons_self)
    cases hcolon
  · rfl

theorem isTime_of_isRun : isTime cs = false := by
  simp [isTime, afterDate?_of_isRun h, afterTime?_of_isRun h]

theorem unsigned_of_isRun : unsigned cs = cs := by
  rw [unsigned, Digits.signed_of_isRun h]

/-- Digits are no word with another character. -/
theorem ne_of_isRun {word : List Char} (hc : c ∈ word) (hother : c.isDigit = false) :
    cs ≠ word := by
  rintro rfl
  rw [(Digits.isRun_iff.mp h).2 c hc] at hother
  cases hother

theorem float?_of_isRun : float? cs = none := by
  have hdigits := (Digits.isRun_iff.mp h).2
  have hgroup : ∀ c ∈ cs, inGroup c = true := fun c hc => by simp [inGroup, hdigits c hc]
  have hinf : cs ≠ ['i', 'n', 'f'] := ne_of_isRun h List.mem_cons_self rfl
  have hnan : cs ≠ ['n', 'a', 'n'] := ne_of_isRun h List.mem_cons_self rfl
  have hbehind : cs.dropWhile inGroup = [] := List.dropWhile_eq_nil_iff.mpr hgroup
  simp [float?, unsigned_of_isRun h, hinf, hnan, hbehind, isFraction, isPower]

theorem isGrouped_of_isRun : isGrouped Char.isDigit cs = true := by
  obtain ⟨hne, hdigits⟩ := Digits.isRun_iff.mp h
  fun_induction isGrouped Char.isDigit cs with
  | case1 => exact absurd rfl hne
  | case2 c => exact hdigits c List.mem_cons_self
  | case3 c rest ih => cases hdigits '_' (List.mem_cons_of_mem _ List.mem_cons_self)
  | case4 c rest hone _ ih =>
    obtain ⟨hc, hrest⟩ := List.forall_mem_cons.mp hdigits
    rw [hc, Bool.true_and]
    exact ih (Digits.isRun_iff.mpr ⟨hone, hrest⟩) hone hrest

theorem ungrouped_of_isRun : ungrouped cs = cs := by
  refine List.filter_eq_self.mpr fun c hc => decide_eq_true fun hunderscore => ?_
  have hdigit := (Digits.isRun_iff.mp h).2 c hc
  rw [hunderscore] at hdigit
  cases hdigit

end

theorem int64?_ofNat (h : n < 2 ^ 63) : Digits.int64? (Digits.ofNat n) = some (.ofNat n) := by
  have hvalue : (Int64.ofNat n).toInt = n := Int64.toInt_ofNat_of_lt h
  have hread := Digits.int64?_ofInt (.ofNat n)
  rw [hvalue] at hread
  exact hread

theorem integer?_ofNat (h : n < 2 ^ 63) : integer? (Digits.ofNat n) = some (.ofNat n) := by
  have hwhole := Digits.isWhole_ofNat n
  have hdigits : isWhole (unsigned (Digits.ofNat n)) = true := by
    simp [unsigned_of_isRun hwhole.run, isWhole, isGrouped_of_isRun hwhole.run, hwhole.zero]
  unfold integer?
  split
  · rename_i hword
    exact absurd hword (ne_of_isRun hwhole.run (c := 'x') (by simp) rfl)
  · rename_i hword
    exact absurd hword (ne_of_isRun hwhole.run (c := 'o') (by simp) rfl)
  · rename_i hword
    exact absurd hword (ne_of_isRun hwhole.run (c := 'b') (by simp) rfl)
  · rw [if_pos hdigits, ungrouped_of_isRun hwhole.run, int64?_ofNat h]

theorem scalar?_ofNat (h : n < 2 ^ 63) :
    scalar? (Digits.ofNat n) = some (.integer (.ofNat n)) := by
  have hrun := Digits.isRun_ofNat n
  have htrue : Digits.ofNat n ≠ ['t', 'r', 'u', 'e'] := ne_of_isRun hrun List.mem_cons_self rfl
  have hfalse : Digits.ofNat n ≠ ['f', 'a', 'l', 's', 'e'] :=
    ne_of_isRun hrun List.mem_cons_self rfl
  simp [scalar?, htrue, hfalse, isTime_of_isRun hrun, float?_of_isRun hrun, integer?_ofNat h]

/-- A number at the end of a line is read back. -/
theorem readScalar?_ofNat (h : n < 2 ^ 63) (more : List Char) :
    readScalar? (Digits.ofNat n ++ '\n' :: more) =
      some (.integer (.ofNat n), '\n' :: more) := by
  have hchars : ∀ c ∈ Digits.ofNat n, isWordChar c = true := fun c hc => by
    simp [isWordChar, Char.isAlphanum, Digits.isDigit_of_mem_ofNat hc]
  have hends : ∀ c ∈ ('\n' :: more).head?, isWordChar c = false := by simp [isWordChar]
  have hclock : clockBehindBlank? ('\n' :: more) = none := rfl
  simp only [readScalar?, Text.takeWhile_append_of_ends hchars hends,
    Text.dropWhile_append_of_ends hchars hends, scalar?_ofNat h, hclock]

end Flowscript.Toml
