import Flowscript.Proofs.Text.Cutting
import Flowscript.Proofs.Toml.Numbers
import Flowscript.Proofs.Toml.Texts
import Flowscript.Toml.Reader

/-!
# TOML lines that are read back

An empty line, a header, and a number or a text under a key are read as what they were written for,
whatever lines follow. The main statements are `spells_headerLine`, `spells_numberLine` and
`spells_textLine`.
-/

namespace Flowscript.Toml

variable {cs ds rest : List Char} {c : Char} {key : String} {item : Item}

theorem skipGap_of_head? (h : ∀ c ∈ cs.head?, isGap c = false) : skipGap cs = cs := by
  cases cs with
  | nil => rfl
  | cons c cs => exact List.dropWhile_cons_of_neg (by simpa using h)

theorem expressions?_cons (hgap : isGap c = false) (cs : List Char) :
    expressions? (c :: cs) = (expression? (c :: cs)).bind fun found =>
      (expressions? found.2).map (found.1 :: ·) := by
  have hskip : skipGap (c :: cs) = c :: cs := skipGap_of_head? (by simpa using hgap)
  rw [expressions?]
  split
  · rename_i hnil
    rw [hskip] at hnil
    cases hnil
  · rename_i hcons
    rw [hskip] at hcons
    cases hcons
    split
    · rename_i hnone
      rw [hnone, Option.bind_none]
    · rename_i hsome
      rw [hsome, Option.bind_some]

/-- Text of whole lines that is read as some expressions, whatever follows it. -/
def Spells (cs : List Char) (es : List Expression) : Prop :=
  ∀ more, expressions? (cs ++ more) = (expressions? more).map (es ++ ·)

theorem Spells.append {es fs : List Expression} (hes : Spells cs es) (hfs : Spells ds fs) :
    Spells (cs ++ ds) (es ++ fs) := by
  intro more
  rw [List.append_assoc, hes, hfs, Option.map_map]
  simp [Function.comp_def]

theorem Spells.expressions? {es : List Expression} (h : Spells cs es) :
    Toml.expressions? cs = some es := by
  have hwhole := h []
  rw [List.append_nil] at hwhole
  rw [hwhole, Toml.expressions?]
  simp [skipGap]

theorem spells_cons {e : Expression} (hgap : isGap c = false)
    (h : ∀ more, expression? (c :: (cs ++ more)) = some (e, more)) : Spells (c :: cs) [e] := by
  intro more
  rw [List.cons_append, expressions?_cons hgap, h, Option.bind_some]
  rfl

theorem spells_blank : Spells ['\n'] [.blank] :=
  spells_cons rfl fun _ => rfl

/-! ## Keys -/

/-- A key that needs no quotes. -/
structure IsBare (key : String) : Prop where
  nonempty : key.toList.isEmpty = false
  chars : key.toList.all isKeyChar = true

theorem ne_of_isKeyChar {d : Char} (h : isKeyChar c = true) (hd : isKeyChar d = false) :
    c ≠ d := by
  rintro rfl
  rw [h] at hd
  cases hd

theorem isGap_of_isKeyChar (h : isKeyChar c = true) : isGap c = false := by
  have hblank : c ≠ ' ' := ne_of_isKeyChar h rfl
  have htab : c ≠ '\t' := ne_of_isKeyChar h rfl
  simp [isGap, hblank, htab]

/-- A bare key has a first character, and only characters of keys. -/
theorem IsBare.exists_cons (h : IsBare key) :
    ∃ c cs, key.toList = c :: cs ∧ isKeyChar c = true := by
  obtain ⟨c, cs, hkey⟩ := List.exists_cons_of_ne_nil (List.isEmpty_eq_false_iff.mp h.nonempty)
  exact ⟨c, cs, hkey, List.all_eq_true.mp h.chars c (hkey ▸ List.mem_cons_self)⟩

theorem IsBare.head?_append (h : IsBare key) (rest : List Char) :
    ∀ c ∈ (key.toList ++ rest).head?, isKeyChar c = true := by
  obtain ⟨c, cs, hcs, hc⟩ := h.exists_cons
  simpa [hcs] using hc

theorem lineText?_eq_none (h : ∀ c ∈ cs.head?, isKeyChar c = true) : lineText? cs = none := by
  unfold lineText?
  split
  · cases h _ rfl
  · refine if_neg ?_
    rintro rfl
    cases h _ rfl
  · rfl

theorem part?_bare (hkey : IsBare key) (hrest : ∀ c ∈ rest.head?, isKeyChar c = false) :
    part? (key.toList ++ rest) = some (key, rest) := by
  obtain ⟨c, cs, hcs, -⟩ := hkey.exists_cons
  have htext : lineText? (key.toList ++ rest) = none :=
    lineText?_eq_none (hkey.head?_append rest)
  have hchars := List.all_eq_true.mp hkey.chars
  rw [part?, htext, Text.takeWhile_append_of_ends hchars hrest,
    Text.dropWhile_append_of_ends hchars hrest, hcs]
  simp [← hcs]

theorem key?_bare (hkey : IsBare key) (hrest : ∀ c ∈ rest.head?, isKeyChar c = false)
    (hpoint : (skipGap rest).head? ≠ some '.') :
    key? nestingLimit (key.toList ++ rest) = some ([key], skipGap rest) := by
  have hskip : skipGap (key.toList ++ rest) = key.toList ++ rest :=
    skipGap_of_head? fun c hc => isGap_of_isKeyChar (hkey.head?_append rest c hc)
  rw [nestingLimit, key?, hskip, part?_bare hkey hrest]
  dsimp only
  split
  · rename_i hcons
    rw [hcons] at hpoint
    exact absurd rfl hpoint
  · rfl

theorem expression?_header (hkey : IsBare key) (more : List Char) :
    expression? ('[' :: (key.toList ++ ']' :: '\n' :: more)) = some (.header [key], more) := by
  have hread : key? nestingLimit (key.toList ++ ']' :: '\n' :: more) =
      some ([key], ']' :: '\n' :: more) :=
    key?_bare hkey (by simp [isKeyChar]) (by simp [skipGap, isGap])
  rw [expression?, hread]
  · rfl
  · intro rest hcons
    have hbracket := hkey.head?_append _ '[' (congrArg List.head? hcons)
    cases hbracket

theorem spells_headerLine (hkey : IsBare key) : Spells (headerLine key) [.header [key]] := by
  refine spells_cons rfl fun more => ?_
  have hread := expression?_header hkey more
  simpa using hread

/-! ## Entries -/

theorem run_value (h : leaf? cs = some (item, rest)) (hstart : ∀ c ∈ cs.head?, c ≠ '[' ∧ c ≠ '{') :
    (value nestingLimit).run cs = .ok (item, rest) := by
  have hcontainer (inner : ValueReader) : container? inner cs = some (item, rest) := by
    unfold container?
    split
    · exact absurd rfl (hstart _ rfl).1
    · exact absurd rfl (hstart _ rfl).2
    · exact h
  rw [nestingLimit, value]
  simp only [ValueReader.ofFunction, hcontainer]

theorem entry?_bare (hkey : IsBare key) (h : leaf? cs = some (item, rest))
    (hstart : ∀ c ∈ cs.head?, c ≠ '[' ∧ c ≠ '{' ∧ isGap c = false) :
    entry? (value nestingLimit) (key.toList ++ ' ' :: '=' :: ' ' :: cs) =
      some (([key], item), rest) := by
  have hread : key? nestingLimit (key.toList ++ ' ' :: '=' :: ' ' :: cs) =
      some ([key], '=' :: ' ' :: cs) :=
    key?_bare hkey (by simp [isKeyChar]) (by simp [skipGap, isGap])
  have hskip : skipGap (' ' :: cs) = cs := skipGap_of_head? fun c hc => (hstart c hc).2.2
  have hvalue := run_value h fun c hc => ⟨(hstart c hc).1, (hstart c hc).2.1⟩
  unfold entry?
  simp only [hread, hskip, hvalue]

/-- A line that starts with a character of a key is an entry. -/
theorem expression?_entry {more : List Char}
    (hentry : entry? (value nestingLimit) (c :: cs) = some (([key], item), '\n' :: more))
    (hc : isKeyChar c = true) : expression? (c :: cs) = some (.entry [key] item, more) := by
  have hskip : skipGap (c :: cs) = c :: cs :=
    skipGap_of_head? (by simpa using isGap_of_isKeyChar hc)
  have hhash : c ≠ '#' := ne_of_isKeyChar hc rfl
  have hnewline : c ≠ '\n' := ne_of_isKeyChar hc rfl
  have hreturn : c ≠ '\r' := ne_of_isKeyChar hc rfl
  have hbracket : c ≠ '[' := ne_of_isKeyChar hc rfl
  have hline : nextLine? (c :: cs) = none := by
    simp [nextLine?, hskip, hhash, hnewline, hreturn]
  rw [expression?, hline, hentry]
  · rfl
  · exact fun rest hcons => hbracket (List.cons.inj hcons).1
  · exact fun rest hcons => hbracket (List.cons.inj hcons).1

theorem spells_entry (hkey : IsBare key)
    (h : ∀ more, leaf? (cs ++ '\n' :: more) = some (item, '\n' :: more))
    (hstart : ∀ more, ∀ c ∈ (cs ++ more).head?, c ≠ '[' ∧ c ≠ '{' ∧ isGap c = false) :
    Spells (key.toList ++ " = ".toList ++ cs ++ ['\n']) [.entry [key] item] := by
  obtain ⟨c, letters, hletters, hc⟩ := hkey.exists_cons
  have hread (more : List Char) := entry?_bare hkey (h more) (hstart _)
  simp only [hletters, List.cons_append] at hread ⊢
  refine spells_cons (isGap_of_isKeyChar hc) fun more => ?_
  have hexpression := expression?_entry (hread more) hc
  simpa using hexpression

/-! ## Lines -/

theorem text?_eq_none (h : ∀ c ∈ cs.head?, isKeyChar c = true) : text? cs = none := by
  unfold text?
  split
  · cases h _ rfl
  · cases h _ rfl
  · have hquote := ne_of_isKeyChar (h _ rfl) (d := apostrophe) rfl
    rw [if_neg (fun hopen => hquote hopen.1), if_neg hquote]
  · exact if_neg (ne_of_isKeyChar (h _ rfl) rfl)
  · rfl

theorem isKeyChar_of_head?_ofNat {n : Nat} (hc : c ∈ (Digits.ofNat n ++ rest).head?) :
    isKeyChar c = true := by
  obtain ⟨d, ds, hdigits⟩ :=
    List.exists_cons_of_ne_nil (Digits.isRun_iff.mp (Digits.isRun_ofNat n)).1
  have hdigit : d.isDigit = true := Digits.isDigit_of_mem_ofNat (hdigits ▸ List.mem_cons_self)
  rw [hdigits] at hc
  obtain rfl := Option.some.inj hc
  simp [isKeyChar, Char.isAlphanum, hdigit]

theorem spells_numberLine (hkey : IsBare key) {n : Nat} (h : n < 2 ^ 63) :
    Spells (numberLine key n) [.entry [key] (.integer (.ofNat n))] := by
  refine spells_entry hkey (fun more => ?_) (fun more c hc => ?_)
  · have htext : text? (Digits.ofNat n ++ '\n' :: more) = none :=
      text?_eq_none fun c hc => isKeyChar_of_head?_ofNat hc
    rw [leaf?, htext, readScalar?_ofNat h]
  · have hchar := isKeyChar_of_head?_ofNat hc
    exact ⟨ne_of_isKeyChar hchar rfl, ne_of_isKeyChar hchar rfl, isGap_of_isKeyChar hchar⟩

theorem head?_quoted (text rest : List Char) :
    (quoted text ++ rest).head? = some '"' ∨ (quoted text ++ rest).head? = some apostrophe := by
  unfold quoted
  split <;> simp [openLines, List.replicate]

theorem spells_textLine (hkey : IsBare key) (text : String) :
    Spells (textLine key text) [.entry [key] (.string text)] := by
  refine spells_entry hkey (fun more => ?_) (fun more c hc => ?_)
  · have htext : text? (quoted text.toList ++ '\n' :: more) = some (text.toList, '\n' :: more) :=
      text?_quoted text.toList (by simp) (by simp [apostrophe])
    simp only [leaf?, htext, String.ofList_toList]
  · rcases head?_quoted text.toList more with hquote | hquote
    · rw [hquote] at hc
      obtain rfl := Option.some.inj hc
      decide
    · rw [hquote] at hc
      obtain rfl := Option.some.inj hc
      decide

end Flowscript.Toml
