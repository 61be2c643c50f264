import Flowscript.Parser
import Flowscript.Toml.Length

/-!
# Reading TOML

A document is a sequence of expressions: entries `key = value` and the headers of tables and of
elements of arrays, each ended by a line break or the end of the document. Keys may have several
parts, and values may nest, each up to a limit.
-/

namespace Flowscript.Toml

/-- Whether a character separates the parts of a line. -/
def isGap (c : Char) : Bool :=
  c = ' ' || c = '\t'

/-- Text without the gap at its start. -/
def skipGap (cs : List Char) : List Char :=
  cs.dropWhile isGap

/-- Text without gaps, line breaks and comments at its start. -/
def skipLines (inComment : Bool) : List Char → List Char
  | [] => []
  | '\n' :: rest => skipLines false rest
  | '\r' :: '\n' :: rest => skipLines false rest
  | c :: rest =>
    if inComment then if isPlain c then skipLines true rest else c :: rest
    else if isGap c then skipLines false rest
    else if c = '#' then skipLines true rest
    else c :: rest

/-- The text of the next line, if nothing but a gap and a comment ends this one. -/
def nextLine? (cs : List Char) : Option (List Char) :=
  let cs := match skipGap cs with
    | '#' :: rest => rest.dropWhile isPlain
    | other => other
  match cs with
  | [] => some []
  | '\n' :: rest => some rest
  | '\r' :: '\n' :: rest => some rest
  | _ => none

/-- The characters of keys without quotes. -/
def isKeyChar (c : Char) : Bool :=
  c.isAlphanum || c = '-' || c = '_'

/-- One part of a key, and what is behind it. -/
def part? (cs : List Char) : Option (String × List Char) :=
  match lineText? cs with
  | some (text, rest) => some (String.ofList text, rest)
  | none =>
    match cs.takeWhile isKeyChar with
    | [] => none
    | name => some (String.ofList name, cs.dropWhile isKeyChar)

/-- How many parts a key may have, and how deep values may nest. -/
def nestingLimit : Nat := 79

/-- The parts of a key with points between them, at most `room` of them, and what is behind the key
and the gap after it. -/
def key? (room : Nat) (cs : List Char) : Option (List String × List Char) :=
  match room with
  | 0 => none
  | room + 1 =>
    match part? (skipGap cs) with
    | none => none
    | some (part, rest) =>
      match skipGap rest with
      | '.' :: rest => (key? room rest).map fun (parts, rest) => (part :: parts, rest)
      | rest => some ([part], rest)

/-- A reader of values. -/
abbrev ValueReader := Parser Char Unit Item

/-- A text or a scalar, and what is behind it. -/
def leaf? (cs : List Char) : Option (Item × List Char) :=
  match text? cs with
  | some (text, rest) => some (.string (String.ofList text), rest)
  | none => readScalar? cs

/-- The entry `key = value` at the start of a text, and what is behind it. -/
def entry? (value : ValueReader) (cs : List Char) :
    Option ((List String × Item) × List Char) :=
  match key? nestingLimit cs with
  | some (keys, '=' :: rest) =>
    match value.run (skipGap rest) with
    | .ok (item, rest) => some ((keys, item), rest)
    | .error _ => none
  | _ => none

theorem length_skipGap_le (cs : List Char) : (skipGap cs).length ≤ cs.length :=
  length_dropWhile_le isGap cs

theorem length_skipLines_le (inComment : Bool) (cs : List Char) :
    (skipLines inComment cs).length ≤ cs.length := by
  fun_induction skipLines inComment cs with
  | case1 => simp
  | case8 => exact Nat.le_refl _
  | _ =>
    simp only [List.length_cons] at *
    omega

theorem length_part?_lt {cs rest : List Char} {s : String} (h : part? cs = some (s, rest)) :
    rest.length < cs.length := by
  unfold part? at h
  split at h
  · rename_i htext
    simp only [Option.some.injEq, Prod.mk.injEq] at h
    rw [← h.2]
    exact length_lineText?_lt htext
  · split at h
    · simp at h
    · rename_i hname
      simp only [Option.some.injEq, Prod.mk.injEq] at h
      have hsum :
          (cs.takeWhile isKeyChar).length + (cs.dropWhile isKeyChar).length = cs.length := by
        rw [← List.length_append, List.takeWhile_append_dropWhile]
      have hpos := List.length_pos_iff.2 hname
      rw [← h.2]
      omega

theorem length_key?_lt {room : Nat} {cs rest : List Char} {parts : List String}
    (h : key? room cs = some (parts, rest)) : rest.length < cs.length := by
  induction room generalizing cs parts with
  | zero => simp [key?] at h
  | succ room ih =>
    simp only [key?] at h
    split at h
    · simp at h
    · rename_i part after hpart
      have hlt := length_part?_lt hpart
      have hgap := length_skipGap_le cs
      have hafter := length_skipGap_le after
      split at h
      · rename_i hpoint
        rw [hpoint] at hafter
        simp only [Option.map_eq_some_iff, Prod.mk.injEq] at h
        obtain ⟨⟨more, rest'⟩, hmore, -, rfl⟩ := h
        have := ih hmore
        simp only [List.length_cons] at hafter
        omega
      · simp only [Option.some.injEq, Prod.mk.injEq] at h
        rw [← h.2]
        omega

theorem length_leaf?_lt {cs rest : List Char} {item : Item} (h : leaf? cs = some (item, rest)) :
    rest.length < cs.length := by
  unfold leaf? at h
  split at h
  · rename_i htext
    simp only [Option.some.injEq, Prod.mk.injEq] at h
    rw [← h.2]
    exact length_text?_lt htext
  · exact length_readScalar?_lt h

theorem length_entry?_lt {value : ValueReader} {cs rest : List Char} {entry : List String × Item}
    (h : entry? value cs = some (entry, rest)) : rest.length < cs.length := by
  unfold entry? at h
  split at h
  · rename_i after hkey
    have hlt := length_key?_lt hkey
    split at h
    · rename_i hvalue
      have hshort := value.shorter hvalue
      have hgap := length_skipGap_le after
      simp only [Option.some.injEq, Prod.mk.injEq] at h
      simp only [List.length_cons] at hlt
      rw [← h.2]
      omega
    · simp at h
  · simp at h

/-- What follows a value in a list: the text behind a comma, or behind the closing mark. -/
inductive Next where
  | more (rest : List Char)
  | done (rest : List Char)

/-- The text behind. -/
def Next.rest : Next → List Char
  | more rest => rest
  | done rest => rest

/-- What follows a value in a list that ends with `close`. -/
def next? (close : Char) : List Char → Option Next
  | c :: rest =>
    if c = close then some (.done rest) else if c = ',' then some (.more rest) else none
  | [] => none

theorem length_next?_lt {close : Char} {cs : List Char} {next : Next}
    (h : next? close cs = some next) : next.rest.length < cs.length := by
  unfold next? at h
  split at h
  · split at h
    · simp only [Option.some.injEq] at h
      simp [← h, Next.rest]
    · split at h
      · simp only [Option.some.injEq] at h
        simp [← h, Next.rest]
      · simp at h
  · simp at h

/-- The items of an array up to its closing bracket, and what is behind it. Lines may break and have
comments between the items, and a comma may follow the last one. -/
def items? (value : ValueReader) (cs : List Char) : Option (List Item × List Char) :=
  match skipLines false cs with
  | ']' :: rest => some ([], rest)
  | _ =>
    match _hv : value.run (skipLines false cs) with
    | .error _ => none
    | .ok (item, after) =>
      match _hn : next? ']' (skipLines false after) with
      | none => none
      | some (.done rest) => some ([item], rest)
      | some (.more rest) => (items? value rest).map fun (items, rest) => (item :: items, rest)
termination_by cs.length
decreasing_by
  have h₁ := length_skipLines_le false cs
  have h₂ := value.shorter ‹value.run _ = .ok _›
  have h₃ := length_skipLines_le false after
  have h₄ := length_next?_lt _hn
  simp only [Next.rest] at h₄
  omega

theorem length_items?_lt {value : ValueReader} {cs rest : List Char} {items : List Item}
    (h : items? value cs = some (items, rest)) : rest.length < cs.length := by
  fun_induction items? value cs generalizing items with
  | case1 cs after hclose =>
    have := length_skipLines_le false cs
    simp only [Option.some.injEq, Prod.mk.injEq] at h
    rw [hclose, List.length_cons, h.2] at this
    omega
  | case2 => simp at h
  | case3 => simp at h
  | case4 cs item after hvalue after' hnext _ =>
    have h₁ := length_skipLines_le false cs
    have h₂ := value.shorter hvalue
    have h₃ := length_skipLines_le false after
    have h₄ := length_next?_lt hnext
    simp only [Option.some.injEq, Prod.mk.injEq] at h
    simp only [Next.rest, h.2] at h₄
    omega
  | case5 cs item after hvalue after' hnext _ ih =>
    have h₁ := length_skipLines_le false cs
    have h₂ := value.shorter hvalue
    have h₃ := length_skipLines_le false after
    have h₄ := length_next?_lt hnext
    simp only [Option.map_eq_some_iff, Prod.mk.injEq] at h
    obtain ⟨⟨more, rest'⟩, hmore, -, rfl⟩ := h
    have := ih hmore
    simp only [Next.rest] at h₄
    omega

/-- The entries of an inline table up to its closing brace, and what is behind it. There is at least
one entry, and no comma follows the last one. -/
def fields? (value : ValueReader) (cs : List Char) :
    Option (List (List String × Item) × List Char) :=
  match _he : entry? value cs with
  | none => none
  | some (entry, after) =>
    match _hn : next? '}' (skipGap after) with
    | none => none
    | some (.done rest) => some ([entry], rest)
    | some (.more rest) => (fields? value rest).map fun (entries, rest) => (entry :: entries, rest)
termination_by cs.length
decreasing_by
  have h₁ := length_entry?_lt _he
  have h₂ := length_skipGap_le after
  have h₃ := length_next?_lt _hn
  simp only [Next.rest] at h₃
  omega

theorem length_fields?_lt {value : ValueReader} {cs rest : List Char}
    {entries : List (List String × Item)} (h : fields? value cs = some (entries, rest)) :
    rest.length < cs.length := by
  fun_induction fields? value cs generalizing entries with
  | case1 => simp at h
  | case2 => simp at h
  | case3 cs entry after hentry after' hnext =>
    have h₁ := length_entry?_lt hentry
    have h₂ := length_skipGap_le after
    have h₃ := length_next?_lt hnext
    simp only [Option.some.injEq, Prod.mk.injEq] at h
    simp only [Next.rest, h.2] at h₃
    omega
  | case4 cs entry after hentry after' hnext ih =>
    have h₁ := length_entry?_lt hentry
    have h₂ := length_skipGap_le after
    have h₃ := length_next?_lt hnext
    simp only [Option.map_eq_some_iff, Prod.mk.injEq] at h
    obtain ⟨⟨more, rest'⟩, hmore, -, rfl⟩ := h
    have := ih hmore
    simp only [Next.rest] at h₃
    omega

/-- The table of some entries, if they do not contradict each other. -/
def tableOf? (entries : List (List String × Item)) : Option Table :=
  entries.foldlM (fun t (keys, value) => insertEntry keys value t) ∅

/-- An inline table behind its opening brace, and what is behind it. -/
def inlineTable? (value : ValueReader) (cs : List Char) : Option (Item × List Char) :=
  match skipGap cs with
  | '}' :: rest => some (.table .inline ∅, rest)
  | _ =>
    match fields? value cs with
    | none => none
    | some (entries, rest) => (tableOf? entries).map fun t => (.table .inline t, rest)

theorem length_inlineTable?_lt {value : ValueReader} {cs rest : List Char} {item : Item}
    (h : inlineTable? value cs = some (item, rest)) : rest.length < cs.length := by
  unfold inlineTable? at h
  split at h
  · rename_i hclose
    have := length_skipGap_le cs
    simp only [Option.some.injEq, Prod.mk.injEq] at h
    rw [hclose, List.length_cons, h.2] at this
    omega
  · split at h
    · simp at h
    · rename_i hfields
      have := length_fields?_lt hfields
      simp only [Option.map_eq_some_iff, Prod.mk.injEq] at h
      obtain ⟨_, _, _, rfl⟩ := h
      exact this

/-- A value whose parts are found by `inner`, and what is behind it. -/
def container? (inner : ValueReader) : List Char → Option (Item × List Char)
  | '[' :: rest => (items? inner rest).map fun (items, rest) => (.array items, rest)
  | '{' :: rest => inlineTable? inner rest
  | cs => leaf? cs

theorem length_container?_lt {inner : ValueReader} {cs rest : List Char} {item : Item}
    (h : container? inner cs = some (item, rest)) : rest.length < cs.length := by
  unfold container? at h
  split at h
  · simp only [Option.map_eq_some_iff, Prod.mk.injEq] at h
    obtain ⟨⟨items, rest'⟩, hitems, -, rfl⟩ := h
    have := length_items?_lt hitems
    simp only [List.length_cons]
    omega
  · have := length_inlineTable?_lt h
    simp only [List.length_cons]
    omega
  · exact length_leaf?_lt h

/-- A reader from a function that leaves less than it is given. -/
def ValueReader.ofFunction (read : List Char → Option (Item × List Char))
    (shorter : ∀ {cs rest item}, read cs = some (item, rest) → rest.length < cs.length) :
    ValueReader where
  run cs :=
    match read cs with
    | none => .error ()
    | some found => .ok found
  shorter {cs rest item} h := by
    split at h
    · simp at h
    · rename_i hread
      simp only [Except.ok.injEq] at h
      exact shorter (h ▸ hread)

/-- A reader of values that nest at most `room` deep. -/
def value (room : Nat) : ValueReader :=
  match room with
  | 0 => .ofFunction leaf? length_leaf?_lt
  | room + 1 => .ofFunction (container? (value room)) length_container?_lt

/-- A part of a document. -/
inductive Expression where
  | blank
  | entry (keys : List String) (value : Item)
  | header (keys : List String)
  | element (keys : List String)

/-- An expression at the start of a text without a gap, and the text behind its line. -/
def expression? (cs : List Char) : Option (Expression × List Char) :=
  match cs with
  | '[' :: '[' :: rest =>
    match key? nestingLimit rest with
    | some (keys, ']' :: ']' :: rest) => (nextLine? rest).map (.element keys, ·)
    | _ => none
  | '[' :: rest =>
    match key? nestingLimit rest with
    | some (keys, ']' :: rest) => (nextLine? rest).map (.header keys, ·)
    | _ => none
  | cs =>
    match nextLine? cs with
    | some rest => some (.blank, rest)
    | none =>
      match entry? (value nestingLimit) cs with
      | some ((keys, item), rest) => (nextLine? rest).map (.entry keys item, ·)
      | none => none

theorem length_nextLine?_lt {cs rest : List Char} (h : nextLine? cs = some rest) (hne : cs ≠ []) :
    rest.length < cs.length := by
  have hpos := List.length_pos_iff.2 hne
  have hgap := length_skipGap_le cs
  have hcomment : (match skipGap cs with
      | '#' :: rest => rest.dropWhile isPlain
      | other => other).length ≤ cs.length := by
    split
    · rename_i after hskip
      have := length_dropWhile_le isPlain after
      rw [hskip, List.length_cons] at hgap
      omega
    · exact hgap
  simp only [nextLine?] at h
  split at h
  · simp only [Option.some.injEq] at h
    rw [← h]
    exact hpos
  · rename_i hline
    rw [hline] at hcomment
    simp only [Option.some.injEq] at h
    simp only [List.length_cons, h] at hcomment
    omega
  · rename_i hline
    rw [hline] at hcomment
    simp only [Option.some.injEq] at h
    simp only [List.length_cons, h] at hcomment
    omega
  · simp at h

theorem length_nextLine?_le {cs rest : List Char} (h : nextLine? cs = some rest) :
    rest.length ≤ cs.length := by
  cases cs with
  | nil =>
    have : rest = [] := by simpa [nextLine?, skipGap] using h.symm
    simp [this]
  | cons c cs => exact Nat.le_of_lt (length_nextLine?_lt h (by simp))

theorem length_expression?_lt {cs rest : List Char} {e : Expression}
    (h : expression? cs = some (e, rest)) (hne : cs ≠ []) : rest.length < cs.length := by
  unfold expression? at h
  split at h
  · split at h
    · rename_i hkey
      have := length_key?_lt hkey
      simp only [Option.map_eq_some_iff, Prod.mk.injEq] at h
      obtain ⟨_, hline, -, rfl⟩ := h
      have := length_nextLine?_le hline
      simp only [List.length_cons] at *
      omega
    · simp at h
  · split at h
    · rename_i hkey
      have := length_key?_lt hkey
      simp only [Option.map_eq_some_iff, Prod.mk.injEq] at h
      obtain ⟨_, hline, -, rfl⟩ := h
      have := length_nextLine?_le hline
      simp only [List.length_cons] at *
      omega
    · simp at h
  · split at h
    · rename_i hline
      simp only [Option.some.injEq, Prod.mk.injEq] at h
      rw [← h.2]
      exact length_nextLine?_lt hline hne
    · split at h
      · rename_i hentry
        have := length_entry?_lt hentry
        simp only [Option.map_eq_some_iff, Prod.mk.injEq] at h
        obtain ⟨_, hline, -, rfl⟩ := h
        have := length_nextLine?_le hline
        omega
      · simp at h

/-- The expressions of a text. -/
def expressions? (cs : List Char) : Option (List Expression) :=
  match _hs : skipGap cs with
  | [] => some []
  | c :: line =>
    match _he : expression? (c :: line) with
    | none => none
    | some (e, rest) => (expressions? rest).map (e :: ·)
termination_by cs.length
decreasing_by
  have h₁ := length_skipGap_le cs
  have h₂ := length_expression?_lt _he (by simp)
  rw [_hs] at h₁
  omega

end Flowscript.Toml
