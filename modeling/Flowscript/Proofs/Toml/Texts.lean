import Mathlib.Tactic.SplitIfs
import Flowscript.Toml.Length
import Flowscript.Toml.Writer

/-!
# TOML texts that are read back

What is written between quotes is read as the text it was written for, in whatever form that is. The
main statement is `text?_quoted`.
-/

namespace Flowscript.Toml

theorem prepend_some (c : Char) (text rest : List Char) :
    prepend c (some (text, rest)) = some (c :: text, rest) := rfl

/-! ## Characters as they are -/

theorem toNat_of_isControl {c : Char} (h : isControl c = true) : c.toNat < 32 ∨ c.toNat = 127 := by
  simp only [isControl, isPlain, Bool.and_eq_true, Bool.not_eq_true', Bool.or_eq_false_iff,
    Bool.and_eq_false_iff, decide_eq_false_iff_not, decide_eq_true_eq] at h
  omega

theorem isPlain_of_not_isControl {c : Char} (h : isControl c = false) (hline : c ≠ '\n') :
    isPlain c = true := by
  simpa [isControl, hline] using h

theorem isPlain_or_of_any {c : Char} {cs : List Char} (h : cs.any isControl = false)
    (hc : c ∈ cs) : isPlain c = true ∨ c = '\n' := by
  by_cases hline : c = '\n'
  · exact .inr hline
  · have hcontrol : isControl c = false := by simpa using List.any_eq_false.mp h c hc
    exact .inl (isPlain_of_not_isControl hcontrol hline)

theorem ne_return_of_isPlain {c : Char} (h : isPlain c = true) : c ≠ Char.ofNat 13 := by
  rintro rfl
  cases h

/-! ## Escapes -/

/-- The escapes of a character. -/
inductive Escapes (c : Char) : List Char → Prop where
  | letter {e : Char} (h : escaped? e = some c) : Escapes c ['\\', e]
  | digits {x y z w : Char} (h : character? [x, y, z, w] = some c) :
      Escapes c ['\\', 'u', x, y, z, w]

theorem hex4_upper : ∀ n < 128, ((Json.hex4 n).map Char.toUpper).length = 4 ∧
    character? ((Json.hex4 n).map Char.toUpper) = some (Char.ofNat n) := by
  decide +kernel

theorem escapes_escape {c : Char} (h : c.toNat < 128) : Escapes c (escape c) := by
  unfold escape
  split_ifs with hquote hbackslash htab hline hreturn hback hfeed
  · subst hquote
    exact .letter rfl
  · subst hbackslash
    exact .letter rfl
  · subst htab
    exact .letter rfl
  · subst hline
    exact .letter rfl
  · subst hreturn
    exact .letter rfl
  · have hc : Char.ofNat 8 = c := by rw [← hback, Char.ofNat_toNat]
    exact hc ▸ .letter rfl
  · have hc : Char.ofNat 12 = c := by rw [← hfeed, Char.ofNat_toNat]
    exact hc ▸ .letter rfl
  · obtain ⟨hlength, hvalue⟩ := hex4_upper c.toNat h
    rw [Char.ofNat_toNat] at hvalue
    generalize (Json.hex4 c.toNat).map Char.toUpper = digits at hlength hvalue
    match digits, hlength, hvalue with
    | [_, _, _, _], _, hvalue => exact .digits hvalue

theorem ne_of_escaped? {c d e : Char} (h : escaped? e = some c) (hd : escaped? d = none) :
    e ≠ d := by
  rintro rfl
  rw [h] at hd
  cases hd

theorem endsLine_of_escaped? {c e : Char} (h : escaped? e = some c) (rest : List Char) :
    endsLine (e :: rest) = false := by
  have hblank : e ≠ ' ' := ne_of_escaped? h rfl
  have htab : e ≠ '\t' := ne_of_escaped? h rfl
  have hline : e ≠ '\n' := ne_of_escaped? h rfl
  have hreturn : e ≠ '\r' := ne_of_escaped? h rfl
  simp [endsLine, hblank, htab, hline, hreturn]

theorem basicText_escapes {c : Char} {text : List Char} (h : Escapes c text) (rest : List Char) :
    basicText (text ++ rest) = prepend c (basicText rest) := by
  cases h with
  | digits h => simp [basicText, h]
  | @letter e h =>
    have hshort : e ≠ 'u' := ne_of_escaped? h rfl
    have hlong : e ≠ 'U' := ne_of_escaped? h rfl
    simp [basicText, hshort, hlong, h]

theorem basicLines_escapes {c : Char} {text : List Char} (h : Escapes c text) (rest : List Char) :
    basicLines false (text ++ rest) = prepend c (basicLines false rest) := by
  cases h with
  | digits h => simp [basicLines, h]
  | @letter e h =>
    have hshort : e ≠ 'u' := ne_of_escaped? h rfl
    have hlong : e ≠ 'U' := ne_of_escaped? h rfl
    simp [basicLines, hshort, hlong, endsLine_of_escaped? h, h]

/-- A character that is written as an escape, at least in some places. -/
def Escaped (c : Char) : Prop :=
  c = '"' ∨ c = '\\' ∨ c = '\t' ∨ c = '\n' ∨ isControl c = true

theorem Escaped.toNat_lt {c : Char} (h : Escaped c) : c.toNat < 128 := by
  rcases h with rfl | rfl | rfl | rfl | hcontrol
  · decide
  · decide
  · decide
  · decide
  · have := toNat_of_isControl hcontrol
    omega

theorem Escaped.escapes {c : Char} (h : Escaped c) : Escapes c (escape c) :=
  escapes_escape h.toNat_lt

/-! ## What stands between double quotes -/

/-- Characters and how they stand between double quotes, of which `allowed` may stand in a row for
themselves; `row` is how many of them stand before. A line break may stand for itself where `lines`
is true. -/
inductive Body (lines : Bool) (allowed : Nat) : Nat → List Char → List Char → Prop where
  | nil {row : Nat} : Body lines allowed row [] []
  | escape {row : Nat} {c : Char} {cs body : List Char} (hc : Escaped c)
      (h : Body lines allowed 0 cs body) : Body lines allowed row (c :: cs) (escape c ++ body)
  | quote {row : Nat} {cs body : List Char} (hrow : row < allowed)
      (h : Body lines allowed (row + 1) cs body) :
      Body lines allowed row ('"' :: cs) ('"' :: body)
  | char {row : Nat} {c : Char} {cs body : List Char} (hquote : c ≠ '"') (hbackslash : c ≠ '\\')
      (hc : isPlain c = true ∨ lines = true ∧ c = '\n') (h : Body lines allowed 0 cs body) :
      Body lines allowed row (c :: cs) (c :: body)

theorem body_quotedChars (lines : Bool) (allowed row : Nat) (cs : List Char) :
    Body lines allowed row cs (quotedChars lines allowed row cs) := by
  fun_induction quotedChars lines allowed row cs with
  | case1 => exact .nil
  | case2 row rest hrow ih => exact .quote hrow ih
  | case3 row rest hrow ih => exact .escape (.inl rfl) ih
  | case4 row c rest hquote hline ih =>
    simp only [Bool.and_eq_true, decide_eq_true_eq] at hline
    refine .char hquote ?_ (.inr hline) ih
    rw [hline.2]
    decide
  | case5 row c rest hquote hline hescape ih =>
    refine .escape (.inr ?_) ih
    simpa [or_assoc] using hescape
  | case6 row c rest hquote hline hescape ih =>
    simp only [Bool.or_eq_true, decide_eq_true_eq, not_or, Bool.not_eq_true] at hescape
    obtain ⟨⟨⟨hbackslash, -⟩, hnewline⟩, hcontrol⟩ := hescape
    exact .char hquote hbackslash (.inl (isPlain_of_not_isControl hcontrol hnewline)) ih

section

variable {lines : Bool} {allowed row : Nat} {c : Char} {cs body rest : List Char}

theorem head?_escape (h : Escaped c) (rest : List Char) :
    (escape c ++ rest).head? = some '\\' := by
  have hescapes := h.escapes
  generalize escape c = text at hescapes
  cases hescapes <;> rfl

/-- A body starts with a quote only where one may stand for itself. -/
theorem Body.of_head? (h : Body lines allowed row (c :: cs) body)
    (hstart : (body ++ rest).head? = some '"') : c = '"' ∧ row < allowed := by
  cases h with
  | escape hc h =>
    rw [List.append_assoc, head?_escape hc] at hstart
    cases hstart
  | quote hrow h => exact ⟨rfl, hrow⟩
  | char hquote _ _ h => exact absurd (Option.some.inj hstart) hquote

theorem basicText_plain (hquote : c ≠ '"') (hbackslash : c ≠ '\\') (hplain : isPlain c = true) :
    basicText (c :: rest) = prepend c (basicText rest) := by
  simp [basicText, hbackslash, hplain]

/-- Text between double quotes on one line is read back. -/
theorem Body.basicText (h : Body false 0 row cs body) (rest : List Char) :
    basicText (body ++ '"' :: rest) = some (cs, rest) := by
  induction h with
  | nil => rfl
  | escape hc _ ih => rw [List.append_assoc, basicText_escapes hc.escapes, ih, prepend_some]
  | quote hrow => exact absurd hrow (Nat.not_lt_zero _)
  | char hquote hbackslash hc _ ih =>
    have hplain := hc.resolve_right fun hline => Bool.false_ne_true hline.1
    rw [List.cons_append, basicText_plain hquote hbackslash hplain, ih, prepend_some]

theorem closing_eq {quote : Char} {rest : List Char} (h : rest.head? ≠ some quote) :
    closing quote rest = ([], rest) ∧ closing quote (quote :: rest) = ([quote], rest) ∧
      closing quote (quote :: quote :: rest) = ([quote, quote], rest) := by
  cases rest with
  | nil => simp [closing]
  | cons a rest =>
    have ha : a ≠ quote := fun heq => h (congrArg some heq)
    cases rest <;> simp [closing, ha]

theorem basicLines_closing (rest : List Char) :
    basicLines false ('"' :: '"' :: '"' :: rest) = some (closing '"' rest) := by
  rw [basicLines]

theorem basicLines_plain (hquote : c ≠ '"') (hbackslash : c ≠ '\\')
    (hplain : isPlain c = true ∨ c = '\n') :
    basicLines false (c :: rest) = prepend c (basicLines false rest) := by
  rcases hplain with hplain | rfl
  · have hreturn := ne_return_of_isPlain hplain
    simp [basicLines, hquote, hbackslash, hplain, hreturn]
  · simp [basicLines]

theorem basicLines_quote (h : ∀ after, rest ≠ '"' :: '"' :: after) :
    basicLines false ('"' :: rest) = prepend '"' (basicLines false rest) := by
  rw [basicLines] <;> simp [isPlain, h]

/-- Behind a quote, two more come only with the closing ones: it is one of at most two quotes before
those. -/
theorem Body.eq_nil_or_of_quotes {after : List Char} (h : Body true 2 (row + 1) cs body)
    (hstart : body ++ rest = '"' :: '"' :: after) :
    cs = [] ∧ body = [] ∨ cs = ['"'] ∧ body = ['"'] := by
  have hfirst := congrArg List.head? hstart
  cases h with
  | nil => exact .inl ⟨rfl, rfl⟩
  | escape hc _ =>
    rw [List.append_assoc, head?_escape hc] at hfirst
    cases hfirst
  | @quote _ cs body hrow h =>
    have hsecond := congrArg List.head? (List.cons.inj hstart).2
    match cs, h with
    | [], .nil => exact .inr ⟨rfl, rfl⟩
    | c :: cs, h =>
      have hmore := (h.of_head? hsecond).2
      omega
  | char hquote _ _ _ => exact absurd (Option.some.inj hfirst) hquote

/-- Text between three double quotes each is read back. -/
theorem Body.basicLines (h : Body true 2 row cs body) (hrest : rest.head? ≠ some '"') :
    basicLines false (body ++ '"' :: '"' :: '"' :: rest) = some (cs, rest) := by
  obtain ⟨hnone, hone, htwo⟩ := closing_eq hrest
  induction h with
  | nil => rw [List.nil_append, basicLines_closing, hnone]
  | escape hc _ ih => rw [List.append_assoc, basicLines_escapes hc.escapes, ih, prepend_some]
  | @quote row cs body hrow h ih =>
    rw [List.cons_append]
    -- Where two more quotes follow, the three are the first of those that end the text.
    by_cases hstart : ∃ after, body ++ '"' :: '"' :: '"' :: rest = '"' :: '"' :: after
    · obtain ⟨after, hstart⟩ := hstart
      rcases h.eq_nil_or_of_quotes hstart with ⟨rfl, rfl⟩ | ⟨rfl, rfl⟩
      · exact (basicLines_closing _).trans (congrArg some hone)
      · exact (basicLines_closing _).trans (congrArg some htwo)
    · rw [basicLines_quote (not_exists.mp hstart), ih, prepend_some]
  | char hquote hbackslash hc _ ih =>
    rw [List.cons_append, basicLines_plain hquote hbackslash (hc.imp_right And.right), ih,
      prepend_some]

end

/-! ## Literal text -/

section

variable {run : Nat} {c : Char} {cs rest : List Char}

/-- Text between single quotes is read back. -/
theorem literalText_append (h : ∀ c ∈ cs, isPlain c = true ∧ c ≠ apostrophe) (rest : List Char) :
    literalText (cs ++ apostrophe :: rest) = some (cs, rest) := by
  induction cs with
  | nil => rfl
  | cons c cs ih =>
    obtain ⟨⟨hplain, hc⟩, hcs⟩ := List.forall_mem_cons.mp h
    rw [List.cons_append, literalText, if_neg hc, if_pos hplain, ih hcs, prepend_some]

theorem le_longestRun (mark : Char) (run : Nat) (cs : List Char) :
    run ≤ longestRun mark run cs := by
  induction cs generalizing run with
  | nil => exact Nat.le_refl _
  | cons c cs ih =>
    rw [longestRun]
    split
    · exact Nat.le_of_succ_le (ih (run + 1))
    · exact Nat.le_max_left _ _

theorem not_mem_of_longestRun_eq_zero {mark : Char} (h : longestRun mark run cs = 0) :
    mark ∉ cs := by
  induction cs generalizing run with
  | nil => exact List.not_mem_nil
  | cons c cs ih =>
    rw [longestRun] at h
    split at h
    · have := le_longestRun mark (run + 1) cs
      omega
    · rename_i hc
      have hcs : longestRun mark 0 cs = 0 := by omega
      exact List.not_mem_cons_of_ne_of_not_mem (Ne.symm hc) (ih hcs)

theorem literalLines_closing (rest : List Char) :
    literalLines (apostrophe :: apostrophe :: apostrophe :: rest) =
      some (closing apostrophe rest) := by
  rw [literalLines, if_pos ⟨rfl, rfl, rfl⟩]
  exact fun hreturn _ => absurd hreturn (by decide)

/-- A character that does not start the closing quotes is taken as it is. -/
theorem literalLines_cons (hplain : isPlain c = true ∨ c = '\n')
    (h : c = apostrophe → ∀ after, rest ≠ apostrophe :: apostrophe :: after) :
    literalLines (c :: rest) = prepend c (literalLines rest) := by
  have hreturn : c ≠ '\r' := by
    rcases hplain with hplain | rfl
    · exact ne_return_of_isPlain hplain
    · decide
  match rest with
  | [] => simp [literalLines, prepend]
  | [a] => simp [literalLines, prepend, hreturn]
  | a :: b :: rest =>
    have hopen : ¬ (c = apostrophe ∧ a = apostrophe ∧ b = apostrophe) := by
      rintro ⟨hc, rfl, rfl⟩
      exact h hc rest rfl
    have htaken : (decide (c = '\n') || isPlain c) = true := by
      rcases hplain with hplain | rfl
      · rw [hplain, Bool.or_true]
      · rfl
    rw [literalLines, if_neg hopen, if_pos htaken]
    exact fun hc _ => hreturn hc

/-- Behind a single quote, two more come only with the closing ones: it is one of at most two quotes
before those. -/
theorem eq_nil_or_of_apostrophes {after : List Char}
    (hrun : longestRun apostrophe (run + 1) cs ≤ 2)
    (h : cs ++ rest = apostrophe :: apostrophe :: after) : cs = [] ∨ cs = [apostrophe] := by
  match cs, h with
  | [], _ => exact .inl rfl
  | [d], h => exact .inr (congrArg (fun c => [c]) (List.cons.inj h).1)
  | d :: e :: es, h =>
    obtain ⟨hd, h⟩ := List.cons.inj h
    obtain ⟨he, -⟩ := List.cons.inj h
    rw [longestRun, if_pos hd, longestRun, if_pos he] at hrun
    have := le_longestRun apostrophe (run + 1 + 1 + 1) es
    omega

/-- Text between three single quotes each is read back. -/
theorem literalLines_append (hrest : rest.head? ≠ some apostrophe)
    (hplain : ∀ c ∈ cs, isPlain c = true ∨ c = '\n') (hrun : longestRun apostrophe run cs ≤ 2) :
    literalLines (cs ++ apostrophe :: apostrophe :: apostrophe :: rest) = some (cs, rest) := by
  obtain ⟨hnone, hone, htwo⟩ := closing_eq hrest
  induction cs generalizing run with
  | nil => rw [List.nil_append, literalLines_closing, hnone]
  | cons c cs ih =>
    obtain ⟨hc, hcs⟩ := List.forall_mem_cons.mp hplain
    rw [longestRun] at hrun
    by_cases hquote : c = apostrophe
    · rw [if_pos hquote] at hrun
      by_cases hstart :
          ∃ after, cs ++ apostrophe :: apostrophe :: apostrophe :: rest =
            apostrophe :: apostrophe :: after
      · obtain ⟨after, hstart⟩ := hstart
        subst hquote
        rcases eq_nil_or_of_apostrophes hrun hstart with rfl | rfl
        · exact (literalLines_closing _).trans (congrArg some hone)
        · exact (literalLines_closing _).trans (congrArg some htwo)
      · rw [List.cons_append, literalLines_cons hc (fun _ => not_exists.mp hstart), ih hcs hrun,
          prepend_some]
    · rw [if_neg hquote] at hrun
      rw [List.cons_append, literalLines_cons hc (fun h => absurd h hquote),
        ih hcs (Nat.le_trans (Nat.le_max_right _ _) hrun), prepend_some]

end

/-! ## Texts in quotes -/

section

variable {cs rest : List Char}

theorem text?_basic (h : ∀ after, rest ≠ '"' :: '"' :: after) :
    text? ('"' :: rest) = basicText rest := by
  rw [text?]
  exact fun after hcons => h after hcons

theorem text?_literal (h : ∀ after, rest ≠ apostrophe :: apostrophe :: after) :
    text? (apostrophe :: rest) = literalText rest := by
  match rest with
  | [] | [_] => rfl
  | a :: b :: rest =>
    have hopen : ¬ (apostrophe = apostrophe ∧ a = apostrophe ∧ b = apostrophe) := by
      rintro ⟨-, rfl, rfl⟩
      exact h rest rfl
    exact (if_neg hopen).trans (if_pos rfl)

theorem skipLineBreak_of_head? (h : ∀ c ∈ cs.head?, isPlain c = true) :
    skipLineBreak cs = cs := by
  unfold skipLineBreak
  split
  · cases h _ rfl
  · cases h _ rfl
  · rfl

/-- A line break is written behind the opening quotes just when the text has one, and skipped. -/
theorem skipLineBreak_openLines (h : '\n' ∉ cs → ∀ c ∈ rest.head?, isPlain c = true) :
    skipLineBreak ((if cs.contains '\n' then ['\n'] else []) ++ rest) = rest := by
  split
  · rfl
  · rename_i hcs
    rw [List.contains_iff_mem] at hcs
    exact skipLineBreak_of_head? (h hcs)

theorem text?_basicLines (h : '\n' ∉ cs → ∀ c ∈ rest.head?, isPlain c = true) :
    text? (openLines '"' cs ++ rest) = basicLines false rest :=
  congrArg (basicLines false) (skipLineBreak_openLines h)

theorem text?_literalLines (h : '\n' ∉ cs → ∀ c ∈ rest.head?, isPlain c = true) :
    text? (openLines apostrophe cs ++ rest) = literalLines rest :=
  congrArg literalLines (skipLineBreak_openLines h)

/-! What the texts are like that are written in one of the forms without escapes. -/

theorem of_formOf_literal (h : formOf cs = .literal) :
    cs ≠ [] ∧ ∀ c ∈ cs, isPlain c = true ∧ c ≠ apostrophe := by
  refine ⟨fun hcs => ?_, fun c hc => ?_⟩
  · rw [hcs] at h
    cases h
  · simp only [formOf] at h
    split_ifs at h with _ hliteral
    simp only [Bool.and_eq_true, Bool.not_eq_true', decide_eq_true_eq] at hliteral
    obtain ⟨⟨hcontrol, hlines⟩, hapostrophes⟩ := hliteral
    refine ⟨(isPlain_or_of_any hcontrol hc).resolve_right fun hline => ?_, fun hquote => ?_⟩
    · have hmem : cs.contains '\n' = true := List.contains_iff_mem.mpr (hline ▸ hc)
      rw [hlines] at hmem
      cases hmem
    · exact not_mem_of_longestRun_eq_zero hapostrophes (hquote ▸ hc)

theorem of_formOf_literalLines (h : formOf cs = .literalLines) :
    (∀ c ∈ cs, isPlain c = true ∨ c = '\n') ∧ longestRun apostrophe 0 cs ≤ 2 := by
  simp only [formOf] at h
  split_ifs at h with _ _ _ hlines
  simp only [Bool.and_eq_true, Bool.not_eq_true', decide_eq_true_eq] at hlines
  exact ⟨fun c hc => isPlain_or_of_any hlines.1 hc, hlines.2⟩

theorem Body.isPlain_head? {lines : Bool} {allowed row : Nat} {body : List Char}
    (h : Body lines allowed row cs body) (hline : '\n' ∉ cs) {c : Char}
    (hc : (body ++ '"' :: rest).head? = some c) : isPlain c = true := by
  cases h with
  | nil =>
    obtain rfl := Option.some.inj hc
    rfl
  | escape hd _ =>
    rw [List.append_assoc, head?_escape hd] at hc
    obtain rfl := Option.some.inj hc
    rfl
  | quote _ _ =>
    obtain rfl := Option.some.inj hc
    rfl
  | char _ _ hd _ =>
    obtain rfl := Option.some.inj hc
    exact hd.resolve_right fun hlines => hline (hlines.2 ▸ List.mem_cons_self)

theorem isPlain_head?_append (hplain : ∀ c ∈ cs, isPlain c = true ∨ c = '\n') (hline : '\n' ∉ cs)
    {c : Char} (h : (cs ++ apostrophe :: rest).head? = some c) : isPlain c = true := by
  cases cs with
  | nil =>
    obtain rfl := Option.some.inj h
    rfl
  | cons d cs =>
    obtain rfl := Option.some.inj h
    exact (hplain d List.mem_cons_self).resolve_right fun hd => hline (hd ▸ List.mem_cons_self)

theorem Body.ne_quotes {body : List Char} (h : Body false 0 0 cs body)
    (hrest : rest.head? ≠ some '"') (after : List Char) :
    body ++ '"' :: rest ≠ '"' :: '"' :: after := by
  intro hstart
  match cs, h with
  | [], .nil => exact hrest (congrArg List.head? (List.cons.inj hstart).2)
  | c :: cs, h => exact Nat.not_lt_zero 0 (h.of_head? (congrArg List.head? hstart)).2

/-- A text in quotes is read back. -/
theorem text?_quoted (cs : List Char) (hquote : rest.head? ≠ some '"')
    (hapostrophe : rest.head? ≠ some apostrophe) : text? (quoted cs ++ rest) = some (cs, rest) := by
  unfold quoted
  cases hform : formOf cs with
  | basic =>
    have hquoted := body_quotedChars false 0 0 cs
    have hread := hquoted.basicText rest
    rw [← text?_basic (hquoted.ne_quotes hquote)] at hread
    simpa using hread
  | literal =>
    obtain ⟨hne, hplain⟩ := of_formOf_literal hform
    have hread := literalText_append hplain rest
    rw [← text?_literal] at hread
    · simpa using hread
    · intro after hstart
      cases cs with
      | nil => exact hne rfl
      | cons c cs => exact (hplain c List.mem_cons_self).2 (List.cons.inj hstart).1
  | basicLines =>
    have hquoted := body_quotedChars true 2 0 cs
    have hread := hquoted.basicLines hquote
    rw [← text?_basicLines fun hline _ => hquoted.isPlain_head? hline] at hread
    simpa using hread
  | literalLines =>
    obtain ⟨hplain, hrun⟩ := of_formOf_literalLines hform
    have hread := literalLines_append hapostrophe hplain hrun
    rw [← text?_literalLines fun hline _ => isPlain_head?_append hplain hline] at hread
    simpa using hread

end

end Flowscript.Toml
