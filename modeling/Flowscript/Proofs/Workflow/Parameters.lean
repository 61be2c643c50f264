import Flowscript.Proofs.Dict
import Flowscript.Proofs.Text.Cutting
import Flowscript.Proofs.Text.Trimming
import Flowscript.Workflow.Params

/-!
# Writing parameter lists

A parameter is written as its key, an equals sign and its value between quotes, where a backslash
stands before quotes and backslashes. Values may be any text: with keys that hold no marks, reading
the parameters of a list, separated by commas, gives back keys and values, in whatever order they
are listed. The main statement is `read_joined`.
-/

namespace Flowscript.Params

/-- A value as it stands between quotes. -/
def escaped (value : List Char) : List Char :=
  value.flatMap fun c => if c = '"' ∨ c = '\\' then ['\\', c] else [c]

/-- A parameter as it is written. -/
def written (key value : String) : List Char :=
  key.toList ++ '=' :: '"' :: (escaped value.toList ++ ['"'])

/-- What is left of a parameter as it is written when its escapes are resolved. -/
def resolved (key value : String) : List Char :=
  key.toList ++ '=' :: '"' :: (value.toList ++ ['"'])

/-- A parameter with the blanks around it. -/
structure Padded where
  before : List Char
  key : String
  value : String
  after : List Char

/-- A parameter as it is written, with the blanks around it. -/
def Padded.text (p : Padded) : List Char :=
  p.before ++ written p.key p.value ++ p.after

/-- A list of parameters as it is written. -/
def text (params : Dict String) : List Char :=
  [',', ' '].intercalate (params.entries.map fun (key, value) => written key value)

/-- A key that can be told from its value and from other parameters. -/
def IsKey (key : String) : Prop :=
  Text.Trimmed key.toList ∧ ∀ c ∈ ['=', ',', '"', '\\'], c ∉ key.toList

-- The marks are few, the characters are many: only the marks are tried.
instance (key : String) : Decidable (IsKey key) :=
  @instDecidableAnd _ _ _ (List.decidableBAll _ _)

variable {quoted : Bool} {c : Char} {cs rest : List Char}

theorem not_mem_text {params : Dict String} (hc : c ∉ ['=', ',', ' ', '"', '\\'])
    (h : ∀ entry ∈ params.entries, c ∉ entry.1.toList ∧ c ∉ entry.2.toList) : c ∉ text params := by
  simp only [List.mem_cons, List.not_mem_nil, or_false, not_or] at hc
  obtain ⟨hequals, hcomma, hspace, hquote, hescape⟩ := hc
  have hescaped {value : List Char} (hvalue : c ∉ value) : c ∉ escaped value := by
    intro hmem
    obtain ⟨d, hd, hmem⟩ := List.mem_flatMap.mp hmem
    have hne : c ≠ d := fun heq => hvalue (heq ▸ hd)
    split at hmem <;> simp [hne, hescape] at hmem
  refine Text.not_mem_intercalate (by simp [hcomma, hspace]) fun line hline => ?_
  obtain ⟨entry, hentry, rfl⟩ := List.mem_map.mp hline
  obtain ⟨hkey, hvalue⟩ := h entry hentry
  simp [written, hkey, hequals, hquote, hescaped hvalue]

theorem parts_cons (hcomma : c ≠ ',') (hquote : c ≠ '"') (hescape : c ≠ '\\') :
    parts quoted (c :: cs) = (c :: (parts quoted cs).1, (parts quoted cs).2) := by
  simp [parts, hcomma, hquote, hescape]

theorem parts_quote :
    parts quoted ('"' :: cs) = ('"' :: (parts (!quoted) cs).1, (parts (!quoted) cs).2) := by
  simp [parts]

theorem parts_comma : parts false (',' :: cs) = ([], (parts false cs).1 :: (parts false cs).2) := by
  simp [parts]

/-- Between quotes an escaped value stands for the value. -/
theorem parts_escaped (value rest : List Char) :
    parts true (escaped value ++ rest) =
      (value ++ (parts true rest).1, (parts true rest).2) := by
  induction value with
  | nil => rfl
  | cons c value ih =>
    rw [escaped, List.flatMap_cons, List.append_assoc]
    split
    · next hspecial =>
      rw [← escaped]
      simp [parts, ih]
    · next hplain =>
      obtain ⟨hquote, hescape⟩ := not_or.mp hplain
      rw [← escaped]
      by_cases hcomma : c = ','
      · subst hcomma
        simp [parts, ih]
      · simp [parts_cons hcomma hquote hescape, ih]

/-- Outside quotes, `text` is read as the stretch `part` of one part, whatever stands behind it. -/
def Resolves (text part : List Char) : Prop :=
  ∀ rest, parts false (text ++ rest) = (part ++ (parts false rest).1, (parts false rest).2)

namespace Resolves

variable {text part more morePart : List Char}

theorem append (h : Resolves text part) (hmore : Resolves more morePart) :
    Resolves (text ++ more) (part ++ morePart) := by
  intro rest
  rw [List.append_assoc, h, hmore, List.append_assoc]

/-- Text without commas, quotes and backslashes stands for itself. -/
theorem plain (h : ∀ c ∈ text, c ≠ ',' ∧ c ≠ '"' ∧ c ≠ '\\') : Resolves text text := by
  intro rest
  induction text with
  | nil => rfl
  | cons c text ih =>
    obtain ⟨⟨hcomma, hquote, hescape⟩, htext⟩ := List.forall_mem_cons.mp h
    rw [List.cons_append, parts_cons hcomma hquote hescape, ih htext]
    rfl

theorem blank (h : ∀ c ∈ text, Text.isBlank c = true) : Resolves text text := by
  refine plain fun c hc => ?_
  refine ⟨?_, ?_, ?_⟩ <;> rintro rfl <;> exact absurd (h _ hc) (by decide)

theorem quotedValue (value : List Char) :
    Resolves ('"' :: (escaped value ++ ['"'])) ('"' :: (value ++ ['"'])) := by
  intro rest
  simp [parts_quote, parts_escaped]

theorem written {key : String} (hkey : IsKey key) (value : String) :
    Resolves (Params.written key value) (resolved key value) := by
  have hplain : Resolves (key.toList ++ ['=']) (key.toList ++ ['=']) := by
    refine plain fun c hc => ?_
    rcases List.mem_append.mp hc with hc | hc
    · refine ⟨?_, ?_, ?_⟩ <;> rintro rfl <;> exact hkey.2 _ (by simp) hc
    · obtain rfl := List.mem_singleton.mp hc
      decide
  simpa [Params.written, resolved] using hplain.append (quotedValue value.toList)

/-- Texts that are joined by commas are read as one part each. -/
theorem intercalate (first : List Char × List Char) (texts : List (List Char × List Char))
    (h : ∀ t ∈ first :: texts, Resolves t.1 t.2) :
    parts false ([','].intercalate ((first :: texts).map Prod.fst)) =
      (first.2, texts.map Prod.snd) := by
  induction texts generalizing first with
  | nil =>
    have hfirst := h first List.mem_cons_self []
    simpa [parts] using hfirst
  | cons next texts ih =>
    obtain ⟨hfirst, hmore⟩ := List.forall_mem_cons.mp h
    have hnext := ih next hmore
    simp only [List.map_cons, List.intercalate_cons_cons] at hnext ⊢
    rw [List.append_assoc, hfirst, List.singleton_append, parts_comma, hnext]
    simp

end Resolves

/-- A parameter with blanks around it is read as its key and its value. -/
theorem entry?_resolved {key : String} (hkey : IsKey key) (value : String)
    {before after : List Char} (hbefore : ∀ c ∈ before, Text.isBlank c = true)
    (hafter : ∀ c ∈ after, Text.isBlank c = true) :
    entry? (before ++ resolved key value ++ after) = some (key, value) := by
  obtain ⟨htrimmed, hmarks⟩ := hkey
  have hvalue : Text.Trimmed ('"' :: (value.toList ++ ['"'])) :=
    Text.trimmed_enclosed (by decide) (by decide) _
  have hresolved : Text.Trimmed (resolved key value) := by
    have hright : Text.Trimmed ('=' :: ('"' :: value.toList ++ ['"'])) :=
      Text.trimmed_enclosed (by decide) (by decide) _
    unfold resolved
    cases hchars : key.toList with
    | nil => exact hright
    | cons c cs =>
      have hleft : Text.Trimmed (c :: cs) := hchars ▸ htrimmed
      simpa using hleft.append hright (by simp) (by simp) []
  have hcut : Text.cutAt? '=' (resolved key value) =
      some (key.toList, '"' :: (value.toList ++ ['"'])) :=
    Text.cutAt?_append (hmarks '=' (by simp)) _
  unfold entry?
  rw [hresolved.trim_padded hbefore hafter, hcut, Option.map_some]
  simp only [htrimmed.trim_eq, hvalue.trim_eq, Text.unquote?, Text.between?_append,
    Option.getD_some, String.ofList_toList]

/-- Parameters that are joined by commas, with any blanks around them, are read as they are; of two
with one key the later counts. -/
theorem read_padded (params : List Padded) (hkeys : ∀ p ∈ params, IsKey p.key)
    (hbefore : ∀ p ∈ params, ∀ c ∈ p.before, Text.isBlank c = true)
    (hafter : ∀ p ∈ params, ∀ c ∈ p.after, Text.isBlank c = true) :
    read ([','].intercalate (params.map Padded.text)) =
      .ofList (params.map fun p => (p.key, p.value)) := by
  -- The part that each parameter is read as, before its key and its value are told apart.
  let part (p : Padded) : List Char := p.before ++ resolved p.key p.value ++ p.after
  have hpart (p : Padded) (hp : p ∈ params) : Resolves p.text (part p) :=
    ((Resolves.blank (hbefore p hp)).append (.written (hkeys p hp) p.value)).append
      (.blank (hafter p hp))
  have hentries : (params.map part).filterMap entry? = params.map fun p => (p.key, p.value) := by
    rw [List.filterMap_map, ← List.filterMap_eq_map]
    exact List.filterMap_congr fun p hp =>
      entry?_resolved (hkeys p hp) p.value (hbefore p hp) (hafter p hp)
  cases params with
  | nil => rfl
  | cons first more =>
    have hparts := Resolves.intercalate (first.text, part first)
      (more.map fun p => (p.text, part p)) (by simpa using hpart)
    simp only [List.map_cons, List.map_map, Function.comp_def] at hparts
    rw [read, List.map_cons, hparts]
    exact congrArg Dict.ofList hentries

/-- A list of parameters as it is written is read as these parameters. -/
theorem read_text {params : Dict String} (hkeys : ∀ key ∈ params.keys, IsKey key)
    (hascending : params.Ascending) : read (text params) = params := by
  obtain ⟨entries⟩ := params
  -- Each parameter but the first stands behind a space.
  let padded (gap : List Char) (entry : String × String) : Padded :=
    { before := gap, key := entry.1, value := entry.2, after := [] }
  cases entries with
  | nil => rfl
  | cons first more =>
    have hblank : ∀ gap ∈ [[], [' ']], gap.all Text.isBlank = true := by decide
    have hmem {p : Padded} (hp : p ∈ padded [] first :: more.map (padded [' '])) :
        ∃ gap ∈ [[], [' ']], ∃ entry ∈ first :: more, p = padded gap entry := by
      rcases List.mem_cons.mp hp with rfl | hp
      · exact ⟨[], by simp, first, by simp, rfl⟩
      · obtain ⟨entry, hentry, rfl⟩ := List.mem_map.mp hp
        exact ⟨[' '], by simp, entry, List.mem_cons_of_mem first hentry, rfl⟩
    have hread := read_padded (padded [] first :: more.map (padded [' ']))
      (fun p hp => by
        obtain ⟨gap, -, entry, hentry, rfl⟩ := hmem hp
        exact hkeys entry.1 (List.mem_map_of_mem hentry))
      (fun p hp => by
        obtain ⟨gap, hgap, entry, -, rfl⟩ := hmem hp
        exact List.all_eq_true.mp (hblank gap hgap))
      (fun p hp => by
        obtain ⟨gap, -, entry, -, rfl⟩ := hmem hp
        exact fun c hc => absurd hc List.not_mem_nil)
    have htext : text ⟨first :: more⟩ =
        [','].intercalate ((padded [] first :: more.map (padded [' '])).map Padded.text) := by
      simp [text, Text.intercalate_cons_cons_eq, padded, Padded.text, Function.comp_def]
    rw [htext, hread, List.map_cons, List.map_map]
    simpa [padded, Function.comp_def] using Dict.ofList_of_ascending hascending

/-- The parameters of a dictionary are read as the dictionary if they are joined by commas, in
whatever order they stand and whatever blanks are around them. -/
theorem read_joined {params : Dict String} {items : List Padded} (hascending : params.Ascending)
    (hkeys : ∀ key ∈ params.keys, IsKey key)
    (hitems : (items.map fun p => (p.key, p.value)).Perm params.entries)
    (hbefore : ∀ p ∈ items, ∀ c ∈ p.before, Text.isBlank c = true)
    (hafter : ∀ p ∈ items, ∀ c ∈ p.after, Text.isBlank c = true) :
    read ([','].intercalate (items.map Padded.text)) = params := by
  have hitemKeys : ∀ p ∈ items, IsKey p.key := by
    intro p hp
    have hentry : (p.key, p.value) ∈ params.entries := hitems.mem_iff.mp (List.mem_map_of_mem hp)
    exact hkeys p.key (List.mem_map_of_mem hentry)
  rw [read_padded items hitemKeys hbefore hafter]
  exact Dict.ofList_of_perm hascending hitems

/-- Parameters whose values are full of marks. -/
def tricky : Dict String :=
  ⟨[("", ")"), ("a", " x=\"1\", y\\\n"), ("b c", "")]⟩

/-- The same parameters in another order, between blanks. -/
def trickyItems : List Padded :=
  [{ before := [' '], key := "b c", value := "", after := ['\t'] },
    { before := ['\n'], key := "", value := ")", after := [] },
    { before := [], key := "a", value := " x=\"1\", y\\\n", after := [' ', '\u00a0'] }]

theorem read_joined_tricky : tricky.Ascending ∧ (∀ key ∈ tricky.keys, IsKey key) ∧
    (trickyItems.map fun p => (p.key, p.value)).Perm tricky.entries ∧
    (∀ p ∈ trickyItems, ∀ c ∈ p.before, Text.isBlank c = true) ∧
    (∀ p ∈ trickyItems, ∀ c ∈ p.after, Text.isBlank c = true) ∧
    [','].intercalate (trickyItems.map Padded.text) =
      " b c=\"\"\t,\n=\")\",a=\" x=\\\"1\\\", y\\\\\n\" \u00a0".toList ∧
    read ([','].intercalate (trickyItems.map Padded.text)) = tricky := by
  have hascending : tricky.Ascending := by decide
  have hkeys : ∀ key ∈ tricky.keys, IsKey key := by decide
  have hitems : (trickyItems.map fun p => (p.key, p.value)).Perm tricky.entries := by decide
  have hbefore : ∀ p ∈ trickyItems, p.before.all Text.isBlank = true := by decide
  have hafter : ∀ p ∈ trickyItems, p.after.all Text.isBlank = true := by decide
  simp only [List.all_eq_true] at hbefore hafter
  exact ⟨hascending, hkeys, hitems, hbefore, hafter, by decide +kernel,
    read_joined hascending hkeys hitems hbefore hafter⟩

end Flowscript.Params
