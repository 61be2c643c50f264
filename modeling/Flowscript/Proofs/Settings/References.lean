import Mathlib.Data.List.Infix
import Flowscript.Proofs.Decimal.Printing
import Flowscript.Proofs.Toml.Texts
import Flowscript.Settings

/-!
# References to variables

A text without references stays as it is when references are replaced, and what a variable holds
gets into each text that refers to it. Written settings have references just when one of their texts
has. The main statements are `expand_of_not_refers`, `mem_expand` and `refers_toText_iff`.
-/

namespace Flowscript.Settings

variable {c : Char} {cs rest : List Char}

/-- A text has a reference. -/
def Refers (cs : List Char) : Prop :=
  ['$', '{'] <:+: cs

theorem not_refers_nil : ¬ Refers [] := by
  simp [Refers]

theorem refers_cons_iff : Refers (c :: cs) ↔ c = '$' ∧ cs.head? = some '{' ∨ Refers cs := by
  rw [Refers, List.infix_cons_iff]
  refine or_congr_left ?_
  cases cs <;> simp [List.cons_prefix_cons, eq_comm]

/-! ## Replacing references -/

theorem pieces_of_not_refers (h : ¬ Refers cs) : pieces cs = cs.map .char := by
  fun_induction pieces cs with
  | case1 => rfl
  | case2 rest ih => exact absurd (refers_cons_iff.mpr (.inl ⟨rfl, rfl⟩)) h
  | case3 c rest _ ih =>
    rw [List.map_cons, ih fun hrest => h (refers_cons_iff.mpr (.inr hrest))]

theorem expand_of_not_refers (h : ¬ Refers cs) (env : Dict String) : expand env cs = cs := by
  rw [expand, pieces_of_not_refers h, List.flatMap_map]
  exact List.flatMap_singleton' cs

/-- What a variable holds gets into a text that refers to it. -/
theorem mem_expand {env : Dict String} {name value : String} (hname : name ∈ references cs)
    (hvalue : env.get? name = some value) (hc : c ∈ value.toList) : c ∈ expand env cs := by
  obtain ⟨piece, hpiece, hreference⟩ := List.mem_filterMap.mp hname
  refine List.mem_flatMap.mpr ⟨piece, hpiece, ?_⟩
  cases piece with
  | char d => cases hreference
  | reference letters =>
    rw [← Option.some.inj hreference] at hvalue
    simpa only [Piece.text, hvalue] using hc

/-! ## References in written settings -/

theorem refers_append_of_not_mem (h : '$' ∉ cs) : Refers (cs ++ rest) ↔ Refers rest := by
  induction cs with
  | nil => rfl
  | cons c cs ih =>
    have hc : c ≠ '$' := fun hc => h (hc ▸ List.mem_cons_self)
    rw [List.cons_append, refers_cons_iff, ih fun hcs => h (List.mem_cons_of_mem _ hcs)]
    simp [hc]

theorem refers_append_cons_iff (hdollar : c ≠ '$') (hbrace : c ≠ '{') :
    Refers (cs ++ c :: rest) ↔ Refers cs ∨ Refers rest := by
  induction cs with
  | nil => simp [refers_cons_iff, hdollar, not_refers_nil]
  | cons d cs ih =>
    have hhead : (cs ++ c :: rest).head? = some '{' ↔ cs.head? = some '{' := by
      cases cs <;> simp [hbrace]
    rw [List.cons_append, refers_cons_iff, refers_cons_iff, hhead, ih, or_assoc]

open Toml

theorem not_mem_escape_ofNat : ∀ n < 128, '$' ∉ escape (Char.ofNat n) := by
  decide +kernel

theorem not_mem_escape (h : Escaped c) : '$' ∉ escape c := by
  have hescape := not_mem_escape_ofNat c.toNat h.toNat_lt
  rwa [Char.ofNat_toNat] at hescape

theorem ne_of_escaped (h : Escaped c) : c ≠ '$' ∧ c ≠ '{' := by
  constructor <;>
  · rintro rfl
    revert h
    simp [Escaped, isControl, isPlain]

section

variable {lines : Bool} {allowed row : Nat} {body : List Char}

theorem head?_body_iff (h : Body lines allowed row cs body) :
    body.head? = some '{' ↔ cs.head? = some '{' := by
  cases h with
  | nil => rfl
  | escape hc _ => simp [head?_escape hc, (ne_of_escaped hc).2]
  | quote _ _ => rfl
  | char _ _ _ _ => rfl

/-- Between double quotes, references stand as they are. -/
theorem refers_body_iff (h : Body lines allowed row cs body) : Refers body ↔ Refers cs := by
  induction h with
  | nil => rfl
  | escape hc _ ih =>
    rw [refers_append_of_not_mem (not_mem_escape hc), ih, refers_cons_iff]
    simp [(ne_of_escaped hc).1]
  | quote _ h ih => rw [refers_cons_iff, refers_cons_iff, ih, head?_body_iff h]
  | char _ _ _ h ih => rw [refers_cons_iff, refers_cons_iff, ih, head?_body_iff h]

end

theorem refers_between_iff {opening body text ending : List Char} {quote : Char}
    (hquote : quote ≠ '$' ∧ quote ≠ '{') (hopening : '$' ∉ opening) (hending : '$' ∉ ending)
    (hbody : Refers body ↔ Refers text) :
    Refers (opening ++ body ++ quote :: ending ++ rest) ↔ Refers text ∨ Refers rest := by
  rw [List.append_assoc, List.append_assoc, refers_append_of_not_mem hopening, List.cons_append,
    refers_append_cons_iff hquote.1 hquote.2, refers_append_of_not_mem hending, hbody]

theorem not_mem_openLines {quote : Char} (hquote : quote ≠ '$') (cs : List Char) :
    '$' ∉ openLines quote cs := by
  unfold openLines
  split <;> simp [Ne.symm hquote]

theorem refers_quoted_iff : Refers (quoted cs ++ rest) ↔ Refers cs ∨ Refers rest := by
  have hquote : '"' ≠ '$' ∧ '"' ≠ '{' := by decide
  have hapostrophe : apostrophe ≠ '$' ∧ apostrophe ≠ '{' := by decide
  have hbody (lines : Bool) (allowed : Nat) :
      Refers (quotedChars lines allowed 0 cs) ↔ Refers cs :=
    refers_body_iff (body_quotedChars lines allowed 0 cs)
  unfold quoted
  split
  · have hopening : '$' ∉ ['"'] := by decide
    exact refers_between_iff hquote hopening List.not_mem_nil (hbody false 0)
  · have hopening : '$' ∉ [apostrophe] := by decide
    exact refers_between_iff hapostrophe hopening List.not_mem_nil Iff.rfl
  · have hending : '$' ∉ List.replicate 2 '"' := by decide
    exact refers_between_iff hquote (not_mem_openLines hquote.1 cs) hending (hbody true 2)
  · have hending : '$' ∉ List.replicate 2 apostrophe := by decide
    exact refers_between_iff hapostrophe (not_mem_openLines hapostrophe.1 cs) hending Iff.rfl

theorem refers_textLine_iff {key text : String} (hkey : '$' ∉ key.toList) :
    Refers (textLine key text ++ rest) ↔ Refers text.toList ∨ Refers rest := by
  have hopening : '$' ∉ key.toList ++ " = ".toList := by simp [hkey]
  rw [textLine, List.append_assoc, List.append_assoc, refers_append_of_not_mem hopening,
    refers_quoted_iff, refers_append_of_not_mem (by decide)]

theorem refers_numberLine_iff {key : String} {n : Nat} (hkey : '$' ∉ key.toList) :
    Refers (numberLine key n ++ rest) ↔ Refers rest := by
  refine refers_append_of_not_mem fun hmem => ?_
  simp [numberLine, hkey] at hmem
  cases Digits.isDigit_of_mem_ofNat hmem

theorem refers_headerLine_iff {key : String} (hkey : '$' ∉ key.toList) :
    Refers (headerLine key ++ rest) ↔ Refers rest := by
  refine refers_append_of_not_mem fun hmem => ?_
  simp [headerLine, hkey] at hmem

theorem refers_toText_iff (s : Settings) :
    Refers s.toText.toList ↔
      Refers s.filter.toList ∨ Refers s.directory.toList ∨ Refers s.extension.toList := by
  have hbreak (rest : List Char) : Refers ('\n' :: rest) ↔ Refers rest := by
    simp [refers_cons_iff]
  rw [toText, String.toList_ofList]
  simp only [List.append_assoc]
  rw [refers_headerLine_iff (by decide), refers_numberLine_iff (by decide),
    refers_numberLine_iff (by decide), refers_numberLine_iff (by decide), List.cons_append,
    hbreak, List.nil_append, refers_headerLine_iff (by decide), refers_textLine_iff (by decide),
    List.cons_append, hbreak, List.nil_append, refers_headerLine_iff (by decide),
    refers_textLine_iff (by decide)]
  have hlast : Refers (textLine "extension" s.extension ++ []) ↔ _ :=
    refers_textLine_iff (by decide)
  rw [List.append_nil] at hlast
  simp [hlast, not_refers_nil]

end Flowscript.Settings
