import Flowscript.Toml.Document

/-!
# The characters of TOML documents

A document has no control characters but tabs and those that break lines: no reader takes another
one, so it would be left when all is read. The main statement is `not_mem_of_read?`.
-/

namespace Flowscript.Toml

theorem isPlain_of_le {low high d : Char} (hlow : 32 ≤ low.toNat) (hhigh : high.toNat < 127)
    (h : low ≤ d ∧ d ≤ high) : isPlain d = true := by
  have hleast : low.toNat ≤ d.toNat := h.1
  have hgreatest : d.toNat ≤ high.toNat := h.2
  simp only [isPlain, Bool.or_eq_true, Bool.and_eq_true, decide_eq_true_eq]
  omega

theorem isPlain_of_isAlphanum {d : Char} (h : d.isAlphanum = true) : isPlain d = true := by
  rcases Bool.or_eq_true_iff.mp h with halpha | hdigit
  · rcases Bool.or_eq_true_iff.mp halpha with hupper | hlower
    · have hrange : 'A' ≤ d ∧ d ≤ 'Z' := of_decide_eq_true hupper
      exact isPlain_of_le (by decide) (by decide) hrange
    · obtain ⟨hfirst, hlast⟩ := Bool.and_eq_true_iff.mp hlower
      have hrange : 'a' ≤ d ∧ d ≤ 'z' := ⟨of_decide_eq_true hfirst, of_decide_eq_true hlast⟩
      exact isPlain_of_le (by decide) (by decide) hrange
  · obtain ⟨hfirst, hlast⟩ := Bool.and_eq_true_iff.mp hdigit
    have hrange : '0' ≤ d ∧ d ≤ '9' := ⟨of_decide_eq_true hfirst, of_decide_eq_true hlast⟩
    exact isPlain_of_le (by decide) (by decide) hrange

theorem isPlain_of_isWordChar {d : Char} (h : isWordChar d = true) : isPlain d = true := by
  simp only [isWordChar, Bool.or_eq_true, decide_eq_true_eq] at h
  rcases h with ((((halphanum | rfl) | rfl) | rfl) | rfl) | rfl
  · exact isPlain_of_isAlphanum halphanum
  all_goals rfl

theorem isPlain_of_isKeyChar {d : Char} (h : isKeyChar d = true) : isPlain d = true := by
  simp only [isKeyChar, Bool.or_eq_true, decide_eq_true_eq] at h
  rcases h with (halphanum | rfl) | rfl
  · exact isPlain_of_isAlphanum halphanum
  all_goals rfl

theorem isPlain_of_isGap {d : Char} (h : isGap d = true) : isPlain d = true := by
  simp only [isGap, Bool.or_eq_true, decide_eq_true_eq] at h
  rcases h with rfl | rfl <;> rfl

theorem isPlain_of_hexDigit? {d : Char} {n : Nat} (h : Json.hexDigit? d = some n) :
    isPlain d = true := by
  unfold Json.hexDigit? at h
  split at h
  · rename_i hdigit
    exact isPlain_of_le (by decide) (by decide) hdigit
  · split at h
    · rename_i hlower
      exact isPlain_of_le (by decide) (by decide) hlower
    · split at h
      · rename_i hupper
        exact isPlain_of_le (by decide) (by decide) hupper
      · cases h

theorem isPlain_of_mem_digits {digits : List Char} {d : Char} {start n : Nat}
    (h : digits.foldlM (fun n c => (Json.hexDigit? c).map (16 * n + ·)) start = some n)
    (hd : d ∈ digits) : isPlain d = true := by
  induction digits generalizing start with
  | nil => cases hd
  | cons e digits ih =>
    obtain ⟨m, hdigit, hmore⟩ := Option.bind_eq_some_iff.mp h
    obtain ⟨k, hk, -⟩ := Option.map_eq_some_iff.mp hdigit
    rcases List.mem_cons.mp hd with rfl | hd
    · exact isPlain_of_hexDigit? hk
    · exact ih hmore hd

theorem isPlain_of_escaped? {e d : Char} (h : escaped? e = some d) : isPlain e = true := by
  unfold escaped? Json.unescape? at h
  split at h
  · cases h
  · split at h <;> first | rfl | cases h

/-! ## Readers of texts, words and keys -/

theorem exists_both_of_bind_prepend {c? : Option Char} {result : Option (List Char × List Char)}
    {text rest : List Char} (h : (c?.bind fun c => prepend c result) = some (text, rest)) :
    ∃ c inner, c? = some c ∧ result = some (inner, rest) := by
  obtain ⟨c, hc, h⟩ := Option.bind_eq_some_iff.mp h
  obtain ⟨inner, hinner⟩ := exists_of_prepend h
  exact ⟨c, inner, hc, hinner⟩

/-- A character that no document has. -/
structure IsForeign (c : Char) : Prop where
  plain : isPlain c = false
  newline : c ≠ '\n'
  carriage : c ≠ '\r'

/-- A reader does not take a character. -/
def Leaves {α : Type} (c : Char) (read : List Char → Option (α × List Char)) : Prop :=
  ∀ ⦃cs : List Char⦄ ⦃a : α⦄ ⦃rest : List Char⦄, read cs = some (a, rest) → c ∈ cs → c ∈ rest

variable {c : Char} (hc : IsForeign c)

include hc

theorem IsForeign.ne {d : Char} (hd : isPlain d = true) : c ≠ d := by
  rintro rfl
  rw [hc.plain] at hd
  cases hd

theorem IsForeign.of_mem_cons {d : Char} {cs : List Char} (hd : isPlain d = true)
    (h : c ∈ d :: cs) : c ∈ cs :=
  (List.mem_cons.mp h).resolve_left (hc.ne hd)

theorem IsForeign.of_mem_dropWhile {p : Char → Bool} (hp : ∀ d, p d = true → isPlain d = true)
    {cs : List Char} (h : c ∈ cs) : c ∈ cs.dropWhile p := by
  rw [← List.takeWhile_append_dropWhile (p := p) (l := cs), List.mem_append] at h
  refine h.resolve_left fun hmem => ?_
  have hplain := hp c (List.all_eq_true.mp List.all_takeWhile c hmem)
  rw [hc.plain] at hplain
  cases hplain

theorem IsForeign.of_mem_skipGap {cs : List Char} (h : c ∈ cs) : c ∈ skipGap cs :=
  hc.of_mem_dropWhile (fun _ => isPlain_of_isGap) h

theorem IsForeign.of_mem_digits {mark d : Char} {digits cs : List Char}
    (hmark : isPlain mark = true) (hd : character? digits = some d)
    (h : c ∈ '\\' :: mark :: (digits ++ cs)) : c ∈ cs := by
  obtain ⟨n, hvalue, -⟩ := Option.bind_eq_some_iff.mp hd
  have hmem := hc.of_mem_cons hmark (hc.of_mem_cons rfl h)
  refine (List.mem_append.mp hmem).resolve_left fun hdigit => ?_
  exact hc.ne (isPlain_of_mem_digits hvalue hdigit) rfl

theorem leaves_basicText : Leaves c basicText := by
  intro cs text rest h hmem
  fun_induction basicText cs generalizing text with
  | case1 =>
    cases h
    exact hc.of_mem_cons rfl hmem
  | case2 a b c d cs ih =>
    obtain ⟨x, inner, hx, hinner⟩ := exists_both_of_bind_prepend h
    exact ih hinner (hc.of_mem_digits rfl hx hmem)
  | case3 a b c d e f g h' cs ih =>
    obtain ⟨x, inner, hx, hinner⟩ := exists_both_of_bind_prepend h
    exact ih hinner (hc.of_mem_digits rfl hx hmem)
  | case4 e cs _ _ ih =>
    obtain ⟨x, inner, hx, hinner⟩ := exists_both_of_bind_prepend h
    exact ih hinner (hc.of_mem_cons (isPlain_of_escaped? hx) (hc.of_mem_cons rfl hmem))
  | case5 c cs _ _ _ _ hplain ih =>
    obtain ⟨inner, hinner⟩ := exists_of_prepend h
    exact ih hinner (hc.of_mem_cons hplain hmem)
  | case6 => cases h
  | case7 => cases h

theorem leaves_literalText : Leaves c literalText := by
  intro cs text rest h hmem
  fun_induction literalText cs generalizing text with
  | case1 => cases h
  | case2 cs =>
    cases h
    exact hc.of_mem_cons rfl hmem
  | case3 d cs _ hplain ih =>
    obtain ⟨inner, hinner⟩ := exists_of_prepend h
    exact ih hinner (hc.of_mem_cons hplain hmem)
  | case4 => cases h

theorem IsForeign.of_mem_quotes {quote : Char} {cs : List Char} (hquote : isPlain quote = true)
    (h : c ∈ quote :: quote :: quote :: cs) : c ∈ cs :=
  hc.of_mem_cons hquote (hc.of_mem_cons hquote (hc.of_mem_cons hquote h))

theorem IsForeign.of_mem_closing {quote : Char} {cs text rest : List Char}
    (hquote : isPlain quote = true) (h : closing quote cs = (text, rest)) (hmem : c ∈ cs) :
    c ∈ rest := by
  have hne := hc.ne hquote
  unfold closing at h
  grind

theorem IsForeign.of_mem_skipLineBreak {cs : List Char} (h : c ∈ cs) : c ∈ skipLineBreak cs := by
  have := hc.newline
  have := hc.carriage
  unfold skipLineBreak
  grind

theorem IsForeign.of_mem_lineBreak {cs : List Char} (h : c ∈ '\r' :: '\n' :: cs) : c ∈ cs :=
  (List.mem_cons.mp ((List.mem_cons.mp h).resolve_left hc.carriage)).resolve_left hc.newline

theorem IsForeign.of_mem_line {d : Char} {cs : List Char} (hd : d = '\n' ∨ isPlain d = true)
    (h : c ∈ d :: cs) : c ∈ cs := by
  rcases hd with rfl | hplain
  · exact (List.mem_cons.mp h).resolve_left hc.newline
  · exact hc.of_mem_cons hplain h

theorem leaves_basicLines (joining : Bool) : Leaves c (basicLines joining) := by
  intro cs text rest h hmem
  fun_induction basicLines joining cs generalizing text with
  | case1 cs ih => exact ih h (hc.of_mem_lineBreak hmem)
  | case2 joining cs _ ih =>
    obtain ⟨inner, hinner⟩ := exists_of_prepend h
    exact ih hinner (hc.of_mem_lineBreak hmem)
  | case3 joining cs =>
    exact hc.of_mem_closing rfl (Option.some.inj h) (hc.of_mem_quotes rfl hmem)
  | case4 joining a b c d cs ih =>
    obtain ⟨x, inner, hx, hinner⟩ := exists_both_of_bind_prepend h
    exact ih hinner (hc.of_mem_digits rfl hx hmem)
  | case5 joining a b c d e f g h' cs ih =>
    obtain ⟨x, inner, hx, hinner⟩ := exists_both_of_bind_prepend h
    exact ih hinner (hc.of_mem_digits rfl hx hmem)
  | case6 joining e cs _ _ _ ih => exact ih h (hc.of_mem_cons rfl hmem)
  | case7 joining e cs _ _ _ ih =>
    obtain ⟨x, inner, hx, hinner⟩ := exists_both_of_bind_prepend h
    exact ih hinner (hc.of_mem_cons (isPlain_of_escaped? hx) (hc.of_mem_cons rfl hmem))
  | case8 joining d cs _ _ _ _ _ hblank ih =>
    simp only [Bool.and_eq_true, Bool.or_eq_true, decide_eq_true_eq] at hblank
    refine ih h (hc.of_mem_line ?_ hmem)
    rcases hblank.2 with (rfl | rfl) | rfl
    · exact .inr rfl
    · exact .inr rfl
    · exact .inl rfl
  | case9 joining d cs _ _ _ _ _ _ hplain ih =>
    obtain ⟨inner, hinner⟩ := exists_of_prepend h
    exact ih hinner (hc.of_mem_line (by simpa using hplain) hmem)
  | case10 => cases h
  | case11 => cases h

theorem leaves_literalLines : Leaves c literalLines := by
  intro cs text rest h hmem
  fun_induction literalLines cs generalizing text with
  | case1 cs ih =>
    obtain ⟨inner, hinner⟩ := exists_of_prepend h
    exact ih hinner (hc.of_mem_lineBreak hmem)
  | case2 a b d cs _ hopen =>
    obtain ⟨rfl, rfl, rfl⟩ := hopen
    exact hc.of_mem_closing rfl (Option.some.inj h) (hc.of_mem_quotes rfl hmem)
  | case3 a b d cs _ _ hplain ih =>
    obtain ⟨inner, hinner⟩ := exists_of_prepend h
    exact ih hinner (hc.of_mem_line (by simpa using hplain) hmem)
  | case4 => cases h
  | case5 => cases h

theorem leaves_text? : Leaves c text? := by
  intro cs text rest h hmem
  unfold text? at h
  split at h
  · exact leaves_basicLines hc false h (hc.of_mem_skipLineBreak (hc.of_mem_quotes rfl hmem))
  · exact leaves_basicText hc h (hc.of_mem_cons rfl hmem)
  · split at h
    · rename_i hopen
      obtain ⟨rfl, rfl, rfl⟩ := hopen
      exact leaves_literalLines hc h (hc.of_mem_skipLineBreak (hc.of_mem_quotes rfl hmem))
    · split at h
      · rename_i hquote
        subst hquote
        exact leaves_literalText hc h (hc.of_mem_cons rfl hmem)
      · cases h
  · split at h
    · rename_i hquote
      subst hquote
      exact leaves_literalText hc h (hc.of_mem_cons rfl hmem)
    · cases h
  · cases h

theorem leaves_lineText? : Leaves c lineText? := by
  intro cs text rest h hmem
  unfold lineText? at h
  split at h
  · exact leaves_basicText hc h (hc.of_mem_cons rfl hmem)
  · split at h
    · rename_i hquote
      subst hquote
      exact leaves_literalText hc h (hc.of_mem_cons rfl hmem)
    · cases h
  · cases h

theorem leaves_clockBehindBlank? : Leaves c clockBehindBlank? := by
  intro cs clock after h hmem
  unfold clockBehindBlank? at h
  split at h
  · split at h
    · cases h
      exact hc.of_mem_dropWhile (fun _ => isPlain_of_isWordChar) (hc.of_mem_cons rfl hmem)
    · cases h
  · cases h

theorem leaves_readScalar? : Leaves c readScalar? := by
  intro cs item rest h hmem
  have hbehind : c ∈ cs.dropWhile isWordChar :=
    hc.of_mem_dropWhile (fun _ => isPlain_of_isWordChar) hmem
  simp only [readScalar?] at h
  split at h
  · cases h
  · cases h
    exact hbehind
  · rename_i hclock
    split at h
    · cases h
      exact leaves_clockBehindBlank? hc hclock hbehind
    · cases h
      exact hbehind

theorem leaves_part? : Leaves c part? := by
  intro cs part rest h hmem
  unfold part? at h
  split at h
  · rename_i htext
    cases h
    exact leaves_lineText? hc htext hmem
  · split at h
    · cases h
    · cases h
      exact hc.of_mem_dropWhile (fun _ => isPlain_of_isKeyChar) hmem

theorem leaves_key? (room : Nat) : Leaves c (key? room) := by
  intro cs parts rest h hmem
  induction room generalizing cs parts with
  | zero => cases h
  | succ room ih =>
    simp only [key?] at h
    split at h
    · cases h
    · rename_i hpart
      have hafter := hc.of_mem_skipGap (leaves_part? hc hpart (hc.of_mem_skipGap hmem))
      split at h
      · rename_i hpoint
        rw [hpoint] at hafter
        obtain ⟨⟨more, rest'⟩, hmore, hrest⟩ := Option.map_eq_some_iff.mp h
        cases hrest
        exact ih hmore (hc.of_mem_cons rfl hafter)
      · cases h
        exact hafter

theorem leaves_leaf? : Leaves c leaf? := by
  intro cs item rest h hmem
  unfold leaf? at h
  split at h
  · rename_i htext
    cases h
    exact leaves_text? hc htext hmem
  · exact leaves_readScalar? hc h hmem

/-! ## Readers of values -/

theorem IsForeign.of_mem_skipLines (inComment : Bool) {cs : List Char} (h : c ∈ cs) :
    c ∈ skipLines inComment cs := by
  fun_induction skipLines inComment cs with
  | case1 => exact h
  | case2 _ cs ih => exact ih ((List.mem_cons.mp h).resolve_left hc.newline)
  | case3 _ cs ih => exact ih (hc.of_mem_lineBreak h)
  | case4 d cs _ _ hplain ih => exact ih (hc.of_mem_cons hplain h)
  | case5 d cs _ _ hplain => exact h
  | case6 _ d cs _ _ _ hgap ih => exact ih (hc.of_mem_cons (isPlain_of_isGap hgap) h)
  | case7 _ cs _ _ _ _ ih => exact ih (hc.of_mem_cons rfl h)
  | case8 => exact h

theorem IsForeign.of_mem_next? {close : Char} {cs : List Char} {next : Next}
    (hclose : isPlain close = true) (h : next? close cs = some next) (hmem : c ∈ cs) :
    c ∈ next.rest := by
  unfold next? at h
  split at h
  · split at h
    · rename_i hd
      cases h
      exact hc.of_mem_cons (hd ▸ hclose) hmem
    · split at h
      · rename_i hd
        cases h
        exact hc.of_mem_cons (hd ▸ rfl) hmem
      · cases h
  · cases h

section

variable {value : ValueReader}
  (hvalue : ∀ ⦃cs item rest⦄, value.run cs = .ok (item, rest) → c ∈ cs → c ∈ rest)

include hvalue

theorem leaves_keyed : Leaves c <| entry? value := by
  intro cs entry rest h hmem
  unfold entry? at h
  split at h
  · rename_i hkey
    have hafter := hc.of_mem_cons rfl (leaves_key? hc _ hkey hmem)
    split at h
    · rename_i hrun
      cases h
      exact hvalue hrun (hc.of_mem_skipGap hafter)
    · cases h
  · cases h

theorem leaves_items? : Leaves c (items? value) := by
  intro cs items rest h hmem
  fun_induction items? value cs generalizing items with
  | case1 cs after hclose =>
    have hafter := hc.of_mem_skipLines false hmem
    rw [hclose] at hafter
    cases h
    exact hc.of_mem_cons rfl hafter
  | case2 => cases h
  | case3 => cases h
  | case4 cs item after hrun after' hnext _ =>
    cases h
    have hafter := hvalue hrun (hc.of_mem_skipLines false hmem)
    exact hc.of_mem_next? rfl hnext (hc.of_mem_skipLines false hafter)
  | case5 cs item after hrun after' hnext _ ih =>
    obtain ⟨⟨more, rest'⟩, hmore, hrest⟩ := Option.map_eq_some_iff.mp h
    cases hrest
    have hafter := hvalue hrun (hc.of_mem_skipLines false hmem)
    exact ih hmore (hc.of_mem_next? rfl hnext (hc.of_mem_skipLines false hafter))

theorem leaves_fields? : Leaves c (fields? value) := by
  intro cs entries rest h hmem
  fun_induction fields? value cs generalizing entries with
  | case1 => cases h
  | case2 => cases h
  | case3 cs entry after hentry after' hnext =>
    cases h
    have hafter := leaves_keyed hc hvalue hentry hmem
    exact hc.of_mem_next? rfl hnext (hc.of_mem_skipGap hafter)
  | case4 cs entry after hentry after' hnext ih =>
    obtain ⟨⟨more, rest'⟩, hmore, hrest⟩ := Option.map_eq_some_iff.mp h
    cases hrest
    have hafter := leaves_keyed hc hvalue hentry hmem
    exact ih hmore (hc.of_mem_next? rfl hnext (hc.of_mem_skipGap hafter))

theorem leaves_inlineTable? : Leaves c (inlineTable? value) := by
  intro cs item rest h hmem
  unfold inlineTable? at h
  split at h
  · rename_i hclose
    have hafter := hc.of_mem_skipGap hmem
    rw [hclose] at hafter
    cases h
    exact hc.of_mem_cons rfl hafter
  · split at h
    · cases h
    · rename_i hfields
      obtain ⟨t, -, hrest⟩ := Option.map_eq_some_iff.mp h
      cases hrest
      exact leaves_fields? hc hvalue hfields hmem

theorem leaves_container? : Leaves c (container? value) := by
  intro cs item rest h hmem
  unfold container? at h
  split at h
  · obtain ⟨⟨items, rest'⟩, hitems, hrest⟩ := Option.map_eq_some_iff.mp h
    cases hrest
    exact leaves_items? hc hvalue hitems (hc.of_mem_cons rfl hmem)
  · exact leaves_inlineTable? hc hvalue h (hc.of_mem_cons rfl hmem)
  · exact leaves_leaf? hc h hmem

end

omit hc in
theorem of_run_ofFunction (read : List Char → Option (Item × List Char))
    (shorter : ∀ {cs rest item}, read cs = some (item, rest) → rest.length < cs.length)
    {cs : List Char} {found : Item × List Char}
    (h : (ValueReader.ofFunction read shorter).run cs = .ok found) : read cs = some found := by
  simp only [ValueReader.ofFunction] at h
  split at h
  · cases h
  · rename_i hread
    cases h
    exact hread

theorem of_mem_run_value (room : Nat) ⦃cs : List Char⦄ ⦃item : Item⦄ ⦃rest : List Char⦄
    (h : (value room).run cs = .ok (item, rest)) (hmem : c ∈ cs) : c ∈ rest := by
  induction room generalizing cs item rest with
  | zero => exact leaves_leaf? hc (of_run_ofFunction _ length_leaf?_lt h) hmem
  | succ room ih =>
    exact leaves_container? hc ih (of_run_ofFunction _ length_container?_lt h) hmem

/-! ## Documents -/

theorem IsForeign.of_mem_nextLine? {cs rest : List Char} (h : nextLine? cs = some rest)
    (hmem : c ∈ cs) : c ∈ rest := by
  have hskip := hc.of_mem_skipGap hmem
  have hcomment (line : List Char) (hline : c ∈ line) : c ∈ line.dropWhile isPlain :=
    hc.of_mem_dropWhile (fun _ => id) hline
  have hhash : c ≠ '#' := hc.ne rfl
  have hnewline := hc.newline
  have hcarriage := hc.carriage
  unfold nextLine? at h
  grind

theorem leaves_expression? : Leaves c expression? := by
  intro cs e rest h hmem
  unfold expression? at h
  split at h
  · split at h
    · rename_i hkey
      obtain ⟨after, hline, hrest⟩ := Option.map_eq_some_iff.mp h
      cases hrest
      have hkeys := leaves_key? hc _ hkey (hc.of_mem_cons rfl (hc.of_mem_cons rfl hmem))
      exact hc.of_mem_nextLine? hline (hc.of_mem_cons rfl (hc.of_mem_cons rfl hkeys))
    · cases h
  · split at h
    · rename_i hkey
      obtain ⟨after, hline, hrest⟩ := Option.map_eq_some_iff.mp h
      cases hrest
      have hkeys := leaves_key? hc _ hkey (hc.of_mem_cons rfl hmem)
      exact hc.of_mem_nextLine? hline (hc.of_mem_cons rfl hkeys)
    · cases h
  · split at h
    · rename_i hline
      cases h
      exact hc.of_mem_nextLine? hline hmem
    · split at h
      · rename_i hentry
        obtain ⟨after, hline, hrest⟩ := Option.map_eq_some_iff.mp h
        cases hrest
        exact hc.of_mem_nextLine? hline
          (leaves_keyed hc (of_mem_run_value hc nestingLimit) hentry hmem)
      · cases h

theorem not_mem_of_expressions? {cs : List Char} {es : List Expression}
    (h : expressions? cs = some es) : c ∉ cs := by
  intro hmem
  fun_induction expressions? cs generalizing es with
  | case1 cs hskip =>
    have := hc.of_mem_skipGap hmem
    rw [hskip] at this
    cases this
  | case2 => cases h
  | case3 cs d line hskip e rest he ih =>
    obtain ⟨more, hmore, -⟩ := Option.map_eq_some_iff.mp h
    have hline := hc.of_mem_skipGap hmem
    rw [hskip] at hline
    exact ih hmore (leaves_expression? hc he hline)

/-- No document has a foreign character. -/
theorem not_mem_of_read? {text : String} {t : Table} (h : read? text = some t) :
    c ∉ text.toList := by
  obtain ⟨es, hes, -⟩ := Option.bind_eq_some_iff.mp h
  intro hmem
  refine not_mem_of_expressions? hc hes ?_
  unfold skipMark
  split
  · rename_i d rest hcs
    rw [hcs] at hmem
    split
    · rename_i hd
      subst hd
      exact hc.of_mem_cons rfl hmem
    · exact hmem
  · rename_i hcs
    rw [hcs] at hmem
    cases hmem

end Flowscript.Toml
