import Mathlib.Data.List.TakeWhile
import Flowscript.Json.Decode
import Flowscript.Proofs.Decimal.Printing
import Flowscript.Proofs.Text.Cutting
import Flowscript.Value.Json

/-!
# Numbers in JSON

The numbers of a JSON text are words, so that they end where no word goes on. Integers and finite
doubles are written as numbers. An integer denotes itself; the text of a double denotes no integer,
having a point or a power of ten.
-/

namespace Flowscript.Json

theorem isWordChar_of_isDigit {c : Char} (h : c.isDigit = true) : isWordChar c = true := by
  simp [isWordChar, Char.isAlphanum, h]

theorem isWordChar_of_isRun {cs : List Char} (h : Digits.isRun cs = true) :
    ∀ c ∈ cs, isWordChar c = true :=
  fun c hc => isWordChar_of_isDigit ((Digits.isRun_iff.mp h).2 c hc)

theorem isWordChar_of_isExponent {cs : List Char} (h : isExponent cs = true) :
    ∀ c ∈ cs, isWordChar c = true := by
  cases cs with
  | nil => simp
  | cons c cs =>
    simp only [isExponent, Bool.and_eq_true, Bool.or_eq_true, decide_eq_true_eq] at h
    obtain ⟨hc, hdigits⟩ := h
    refine List.forall_mem_cons.mpr ⟨by rcases hc with rfl | rfl <;> rfl, ?_⟩
    unfold Digits.signed at hdigits
    split at hdigits
    · exact List.forall_mem_cons.mpr ⟨rfl, isWordChar_of_isRun hdigits⟩
    · exact List.forall_mem_cons.mpr ⟨rfl, isWordChar_of_isRun hdigits⟩
    · exact isWordChar_of_isRun hdigits

theorem isWordChar_of_afterFraction? {cs rest : List Char} (h : afterFraction? cs = some rest)
    (hrest : ∀ c ∈ rest, isWordChar c = true) : ∀ c ∈ cs, isWordChar c = true := by
  unfold afterFraction? at h
  split at h
  · next digits =>
    split at h
    · cases h
    · cases h
      refine List.forall_mem_cons.mpr ⟨rfl, fun c hc => ?_⟩
      rw [← List.takeWhile_append_dropWhile (p := Char.isDigit) (l := digits)] at hc
      rcases List.mem_append.mp hc with hc | hc
      · exact isWordChar_of_isDigit (List.mem_takeWhile_imp hc)
      · exact hrest c hc
  · cases h
    exact hrest

theorem isWordChar_of_isMagnitude {cs : List Char} (h : isMagnitude cs = true) :
    cs ≠ [] ∧ ∀ c ∈ cs, isWordChar c = true := by
  have hsplit := List.takeWhile_append_dropWhile (p := Char.isDigit) (l := cs)
  simp only [isMagnitude, Bool.and_eq_true, decide_eq_true_eq] at h
  obtain ⟨⟨hwhole, -⟩, htail⟩ := h
  refine ⟨?_, fun c hc => ?_⟩
  · rintro rfl
    exact hwhole rfl
  · rw [← hsplit] at hc
    rcases List.mem_append.mp hc with hc | hc
    · exact isWordChar_of_isDigit (List.mem_takeWhile_imp hc)
    · split at htail
      · next hfraction =>
        exact isWordChar_of_afterFraction? hfraction (isWordChar_of_isExponent htail) c hc
      · cases htail

theorem isWordChar_of_isNumber {cs : List Char} (h : isNumber cs = true) :
    cs ≠ [] ∧ ∀ c ∈ cs, isWordChar c = true := by
  unfold isNumber at h
  split at h
  · exact ⟨by simp, List.forall_mem_cons.mpr ⟨rfl, (isWordChar_of_isMagnitude h).2⟩⟩
  · exact isWordChar_of_isMagnitude h

/-- Digits in front of what is no digit are the whole part of a number. -/
theorem isMagnitude_append {whole tail : List Char} (hwhole : Digits.IsWhole whole)
    (htail : ∀ c ∈ tail.head?, c.isDigit = false) {rest : List Char}
    (hfraction : afterFraction? tail = some rest) (hexponent : isExponent rest = true) :
    isMagnitude (whole ++ tail) = true := by
  obtain ⟨hne, hdigits⟩ := Digits.isRun_iff.mp hwhole.run
  simp only [isMagnitude, Text.takeWhile_append_of_ends hdigits htail,
    Text.dropWhile_append_of_ends hdigits htail, hfraction, hexponent, Bool.and_true,
    Bool.and_eq_true, Bool.or_eq_true, decide_eq_true_eq]
  exact ⟨hne, hwhole.zero⟩

theorem isMagnitude_of_isWhole {cs : List Char} (h : Digits.IsWhole cs) :
    isMagnitude cs = true := by
  have happend : isMagnitude (cs ++ []) = true := isMagnitude_append h (by simp) rfl rfl
  simpa using happend

theorem afterFraction?_point {fraction rest : List Char} (hfraction : Digits.isRun fraction = true)
    (hrest : ∀ c ∈ rest.head?, c.isDigit = false) :
    afterFraction? ('.' :: (fraction ++ rest)) = some rest := by
  obtain ⟨hne, hdigits⟩ := Digits.isRun_iff.mp hfraction
  simp [afterFraction?, Text.takeWhile_append_of_ends hdigits hrest,
    Text.dropWhile_append_of_ends hdigits hrest, hne]

theorem isMagnitude_of_written {cs : List Char} (h : Layout.Written cs) :
    isMagnitude cs = true := by
  cases h with
  | point hwhole hfraction =>
    have hafter : afterFraction? ('.' :: (_ ++ [])) = some [] :=
      afterFraction?_point hfraction (by simp)
    rw [List.append_nil] at hafter
    exact isMagnitude_append hwhole (by rintro _ ⟨⟩; rfl) hafter rfl
  | @power d fraction power hd hfraction hpower =>
    have hwhole : Digits.IsWhole [d] :=
      ⟨Digits.isRun_iff.mpr ⟨by simp, by simpa using hd⟩, by by_cases h : d = '0' <;> simp [h]⟩
    have hexponent : isExponent ('e' :: power) = true := by simpa [isExponent] using hpower
    have hend : ∀ c ∈ ('e' :: power).head?, c.isDigit = false := by rintro _ ⟨⟩; rfl
    rcases hfraction with rfl | ⟨ds, hds, rfl⟩
    · exact isMagnitude_append hwhole hend rfl hexponent
    · exact isMagnitude_append hwhole (by rintro _ ⟨⟩; rfl) (afterFraction?_point hds hend)
        hexponent

theorem isNumber_of_isMagnitude {cs : List Char} (h : isMagnitude cs = true) :
    isNumber cs = true := by
  unfold isNumber
  split
  · cases h
  · exact h

theorem isNumber_ofInt (i : Int) : isNumber (Digits.ofInt i) = true := by
  have hmagnitude := isMagnitude_of_isWhole (Digits.isWhole_ofNat i.natAbs)
  unfold Digits.ofInt
  split
  · exact hmagnitude
  · exact isNumber_of_isMagnitude hmagnitude

theorem integer?_ofInt (i : Int) : integer? (String.ofList (Digits.ofInt i)) = some i := by
  have hzero : String.ofList (Digits.ofInt i) ≠ "-0" := by
    intro h
    have hi := Digits.int?_ofInt i
    rw [← String.toList_inj, String.toList_ofList] at h
    rw [h] at hi
    obtain rfl := Option.some.inj hi
    cases h
  rw [integer?, if_neg hzero, String.toList_ofList, Digits.int?_ofInt]

theorem exists_isDigit_of_written {cs : List Char} (h : Layout.Written cs) :
    ∃ d ds, cs = d :: ds ∧ d.isDigit = true := by
  cases h with
  | point hwhole =>
    obtain ⟨hne, hdigits⟩ := Digits.isRun_iff.mp hwhole.run
    obtain ⟨d, ds, rfl⟩ := List.exists_cons_of_ne_nil hne
    exact ⟨d, _, rfl, hdigits d List.mem_cons_self⟩
  | power hd => exact ⟨_, _, rfl, hd⟩

/-- A point or a power of ten makes a number that is no integer. -/
theorem int?_of_written {cs : List Char} (h : Layout.Written cs) :
    Digits.int? cs = none ∧ Digits.int? ('-' :: cs) = none := by
  have hrun : Digits.isRun cs = false := by
    refine Bool.eq_false_iff.mpr fun hrun => ?_
    have hdigits := (Digits.isRun_iff.mp hrun).2
    cases h with
    | point => exact absurd (hdigits '.' (by simp)) (by decide)
    | power => exact absurd (hdigits 'e' (by simp)) (by decide)
  have hsigned : Digits.signed cs = (false, cs) := by
    obtain ⟨d, ds, rfl, hd⟩ := exists_isDigit_of_written h
    unfold Digits.signed
    split
    · next heq =>
      cases heq
      cases hd
    · next heq =>
      cases heq
      cases hd
    · rfl
  constructor
  · simp [Digits.int?, hsigned, hrun]
  · simp [Digits.int?, Digits.signed, hrun]

section

variable {x : Float} (hx : x.isFinite = true)

include hx

theorem written_json64 :
    ∃ body, Layout.Written body ∧
      (Layout.json64.double x = body ∨ Layout.json64.double x = '-' :: body) :=
  Layout.written_double Layout.json64 rfl (by decide) hx

theorem isNumber_double : isNumber (Layout.json64.double x) = true := by
  obtain ⟨body, hbody, htext | htext⟩ := written_json64 hx
  · rw [htext]
    exact isNumber_of_isMagnitude (isMagnitude_of_written hbody)
  · rw [htext]
    exact isMagnitude_of_written hbody

theorem integer?_double : integer? (String.ofList (Layout.json64.double x)) = none := by
  unfold integer?
  split
  · rfl
  · rw [String.toList_ofList]
    obtain ⟨body, hbody, htext | htext⟩ := written_json64 hx
    · rw [htext]
      exact (int?_of_written hbody).1
    · rw [htext]
      exact (int?_of_written hbody).2

end

end Flowscript.Json
