import Mathlib.Data.List.Basic
import Flowscript.Proofs.Json.Numerals

/-!
# Reading printed trees

A tree that is printed compactly is read as this tree. The text is taken apart into the lexemes of
the tree, string literals with their escapes resolved, and the machine builds the tree from its
lexemes whatever containers are open around it. All that is asked of the tree is that its numbers
are numbers of JSON. The main statement is `read?_compact`.
-/

namespace Flowscript.Json

/-- Trees whose numbers are written as JSON writes numbers. -/
inductive WellFormed : Json → Prop where
  | null : WellFormed .null
  | bool (b : Bool) : WellFormed (.bool b)
  | number {literal : String} (h : isNumber literal.toList = true) : WellFormed (.number literal)
  | string (content : Option String) : WellFormed (.string content)
  | array {items : List Json} (h : ∀ item ∈ items, WellFormed item) : WellFormed (.array items)
  | object {members : List (Option String × Json)} (h : ∀ m ∈ members, WellFormed m.2) :
      WellFormed (.object members)

/-! ## String literals -/

/-- How a character is printed in a string literal, and the piece that this is read as. -/
inductive Prints : Char → List Char → Piece → Prop where
  | escape {e c : Char} (h : unescape? e = some c) : Prints c ['\\', e] (.char c)
  | unit {c : Char} (h : c.toNat < 0x20) :
      Prints c ('\\' :: 'u' :: hex4 c.toNat) (.unit c.toNat)
  | plain {c : Char} (hquote : c ≠ '"') (hescape : c ≠ '\\') (hcontrol : ¬ c.toNat < 0x20) :
      Prints c [c] (.char c)

theorem exists_prints_quoteChar (c : Char) : ∃ p, Prints c (quoteChar c) p := by
  have hchar {n : Nat} (h : c.toNat = n) : c = Char.ofNat n := by rw [← h, Char.ofNat_toNat]
  unfold quoteChar
  split_ifs with hquote hescape hnewline hreturn htab hback hfeed hcontrol
  · exact ⟨_, .escape (congrArg some hquote.symm)⟩
  · exact ⟨_, .escape (congrArg some hescape.symm)⟩
  · exact ⟨_, .escape (congrArg some hnewline.symm)⟩
  · exact ⟨_, .escape (congrArg some hreturn.symm)⟩
  · exact ⟨_, .escape (congrArg some htab.symm)⟩
  · exact ⟨_, .escape (congrArg some (hchar hback).symm)⟩
  · exact ⟨_, .escape (congrArg some (hchar hfeed).symm)⟩
  · exact ⟨_, .unit hcontrol⟩
  · exact ⟨_, .plain hquote hescape hcontrol⟩

theorem hexValue?_hex4 : ∀ n < 0x20, (hex4 n).length = 4 ∧ hexValue? (hex4 n) = some n := by
  decide

theorem readPieces_escape {e c : Char} (h : unescape? e = some c) (rest : List Char) :
    readPieces ('\\' :: e :: rest) =
      (readPieces rest).map fun read => (.char c :: read.1, read.2) := by
  have hunit : e ≠ 'u' := by
    rintro rfl
    cases h
  rw [readPieces, h]
  · cases readPieces rest <;> rfl
  · exact fun _ _ _ _ _ hu => absurd hu hunit

theorem readPieces_unit {n : Nat} (h : n < 0x20) (rest : List Char) :
    readPieces ('\\' :: 'u' :: (hex4 n ++ rest)) =
      (readPieces rest).map fun read => (.unit n :: read.1, read.2) := by
  obtain ⟨hlength, hvalue⟩ := hexValue?_hex4 n h
  obtain ⟨a, b, c, d, hdigits⟩ := List.length_eq_four.mp hlength
  rw [hdigits] at hvalue ⊢
  simp only [List.cons_append, List.nil_append, readPieces, hvalue]
  cases readPieces rest <;> rfl

theorem readPieces_plain {c : Char} (hquote : c ≠ '"') (hescape : c ≠ '\\')
    (hcontrol : ¬ c.toNat < 0x20) (rest : List Char) :
    readPieces (c :: rest) = (readPieces rest).map fun read => (.char c :: read.1, read.2) := by
  rw [readPieces, if_neg hcontrol]
  · cases readPieces rest <;> rfl
  · exact hquote
  · exact fun _ _ _ _ _ h => absurd h hescape
  · exact fun _ _ h => absurd h hescape

theorem joinPieces_unit {n : Nat} (h : n < 0x20) (rest : List Piece) :
    joinPieces (.unit n :: rest) = (joinPieces rest).map (Char.ofNat n :: ·) := by
  have hsurrogate : ¬ (0xD800 ≤ n ∧ n < 0xE000) := by omega
  have hhigh (low : Nat) : ¬ (0xD800 ≤ n ∧ n < 0xDC00 ∧ 0xDC00 ≤ low ∧ low < 0xE000) := by omega
  cases rest with
  | nil => simp [joinPieces, hsurrogate]
  | cons next rest =>
    cases next with
    | char c => simp [joinPieces, hsurrogate]
    | unit low => rw [joinPieces, if_neg (hhigh low), if_neg hsurrogate]

namespace Prints

variable {c : Char} {text : List Char} {p : Piece}

theorem readPieces (h : Prints c text p) (rest : List Char) :
    Json.readPieces (text ++ rest) =
      (Json.readPieces rest).map fun read => (p :: read.1, read.2) := by
  cases h with
  | escape h => exact readPieces_escape h rest
  | unit h => exact readPieces_unit h rest
  | plain hquote hescape hcontrol => exact readPieces_plain hquote hescape hcontrol rest

/-- No printed character is half of a surrogate pair. -/
theorem joinPieces (h : Prints c text p) (rest : List Piece) :
    Json.joinPieces (p :: rest) = (Json.joinPieces rest).map (c :: ·) := by
  cases h with
  | escape | plain => rw [Json.joinPieces]
  | unit h => rw [joinPieces_unit h, Char.ofNat_toNat]

end Prints

/-- The body of a printed string is read as pieces that make this string. -/
theorem exists_readPieces_quoted (cs rest : List Char) :
    ∃ pieces, readPieces (cs.flatMap quoteChar ++ '"' :: rest) = some (pieces, rest) ∧
      joinPieces pieces = some cs := by
  induction cs with
  | nil => exact ⟨[], rfl, rfl⟩
  | cons c cs ih =>
    obtain ⟨pieces, hread, hjoin⟩ := ih
    obtain ⟨p, hprints⟩ := exists_prints_quoteChar c
    refine ⟨p :: pieces, ?_, ?_⟩
    · rw [List.flatMap_cons, List.append_assoc, hprints.readPieces, hread, Option.map_some]
    · rw [hprints.joinPieces, hjoin, Option.map_some]

/-! ## Lexemes -/

mutual

/-- The lexemes of a tree. -/
def lexemes : Json → List Lexeme
  | .array items => .openArray :: itemLexemes items ++ [.closeArray]
  | .object members => .openObject :: memberLexemes members ++ [.closeObject]
  | .string content => [.quoted content]
  | leaf => [.word leaf]

/-- The lexemes of items with commas between them. -/
def itemLexemes : List Json → List Lexeme
  | [] => []
  | [item] => lexemes item
  | item :: more => lexemes item ++ .comma :: itemLexemes more

/-- The lexemes of members with commas between them. -/
def memberLexemes : List (Option String × Json) → List Lexeme
  | [] => []
  | [(key, value)] => .quoted key :: .colon :: lexemes value
  | (key, value) :: more => .quoted key :: .colon :: lexemes value ++ .comma :: memberLexemes more

end

/-- Text that does not go on with a word. -/
def EndsWord (rest : List Char) : Prop :=
  ∀ c ∈ rest.head?, isWordChar c = false

theorem lexemes?_mark {c : Char} {mark : Lexeme} (h : mark? c = some mark) (rest : List Char) :
    lexemes? (c :: rest) = (lexemes? rest).map (mark :: ·) := by
  have hspace : isSpace c = false := by
    unfold mark? at h
    split at h <;> first | rfl | cases h
  rw [lexemes?, hspace, h]
  rfl

theorem lexemes?_literal {cs after : List Char} {pieces : List Piece}
    (h : readPieces cs = some (pieces, after)) :
    lexemes? ('"' :: cs) =
      (lexemes? after).map (.quoted ((joinPieces pieces).map String.ofList) :: ·) := by
  have hspace : isSpace '"' = false := by decide
  have hmark : mark? '"' = none := rfl
  rw [lexemes?, hspace, if_neg Bool.false_ne_true, hmark]
  simp only [if_true]
  split
  · next hread => cases h.symm.trans hread
  · next hread =>
    cases h.symm.trans hread
    rfl

theorem lexemes?_quote (content : Option String) (rest : List Char) :
    lexemes? (quote content ++ rest) = (lexemes? rest).map (.quoted content :: ·) := by
  cases content with
  | none =>
    have hread : readPieces ('\\' :: 'u' :: (hex4 0xD800 ++ '"' :: rest)) =
        some ([.unit 0xD800], rest) := rfl
    have hjoin : (joinPieces [.unit 0xD800]).map String.ofList = none := rfl
    have hliteral := lexemes?_literal hread
    rw [hjoin] at hliteral
    simpa [quote] using hliteral
  | some s =>
    obtain ⟨pieces, hread, hjoin⟩ := exists_readPieces_quoted s.toList rest
    have hliteral := lexemes?_literal hread
    rw [hjoin, Option.map_some, String.ofList_toList] at hliteral
    simpa [quote] using hliteral

/-- A word is one lexeme, if the text behind it does not go on with it. -/
theorem lexemes?_word {cs rest : List Char} {value : Json} (hchars : ∀ c ∈ cs, isWordChar c = true)
    (hne : cs ≠ []) (hvalue : word? cs = some value) (hrest : EndsWord rest) :
    lexemes? (cs ++ rest) = (lexemes? rest).map (.word value :: ·) := by
  obtain ⟨c, cs, rfl⟩ := List.exists_cons_of_ne_nil hne
  obtain ⟨hc, hcs⟩ := List.forall_mem_cons.mp hchars
  have hspace : isSpace c = false := by
    refine Bool.eq_false_iff.mpr fun h => ?_
    simp only [isSpace, Bool.or_eq_true, decide_eq_true_eq] at h
    rcases h with ((rfl | rfl) | rfl) | rfl <;> cases hc
  have hmark : mark? c = none := by
    unfold mark?
    split <;> first | rfl | cases hc
  have hquote : c ≠ '"' := by
    rintro rfl
    cases hc
  rw [List.cons_append, lexemes?, hspace, hmark, Text.takeWhile_append_of_ends hcs hrest,
    Text.dropWhile_append_of_ends hcs hrest]
  simp only [hquote, hvalue]
  rfl

theorem word?_of_isNumber {cs : List Char} (h : isNumber cs = true) :
    word? cs = some (.number (String.ofList cs)) := by
  unfold word?
  split
  · next heq =>
    rw [heq] at h
    cases h
  split
  · next heq =>
    rw [heq] at h
    cases h
  split
  · next heq =>
    rw [heq] at h
    cases h
  · rfl

/-- A text in front of one that goes on with no word is read as some lexemes. -/
def ReadsAs (text : List Char) (ls : List Lexeme) : Prop :=
  ∀ rest, EndsWord rest → lexemes? (text ++ rest) = (lexemes? rest).map (ls ++ ·)

namespace ReadsAs

variable {text more : List Char} {ls moreLs : List Lexeme} {c : Char} {mark : Lexeme}

theorem nil : ReadsAs [] [] := by
  intro rest _
  simp

theorem mark_cons (hmark : mark? c = some mark) (h : ReadsAs text ls) :
    ReadsAs (c :: text) (mark :: ls) := by
  intro rest hrest
  rw [List.cons_append, lexemes?_mark hmark, h rest hrest, Option.map_map]
  rfl

/-- No word reaches over a mark. -/
theorem append_mark (h : ReadsAs text ls) (hmark : mark? c = some mark)
    (hmore : ReadsAs more moreLs) :
    ReadsAs (text ++ c :: more) (ls ++ mark :: moreLs) := by
  intro rest hrest
  have hend : EndsWord (c :: (more ++ rest)) := by
    rintro _ ⟨⟩
    unfold mark? at hmark
    split at hmark <;> first | rfl | cases hmark
  have hrest' := hmore.mark_cons hmark rest hrest
  rw [List.cons_append] at hrest'
  rw [List.append_assoc, List.cons_append, h _ hend, hrest', Option.map_map]
  simp [Function.comp_def]

theorem quote (content : Option String) : ReadsAs (Json.quote content) [.quoted content] := by
  intro rest _
  rw [lexemes?_quote]
  rfl

theorem word {value : Json} (hchars : ∀ c ∈ text, isWordChar c = true) (hne : text ≠ [])
    (hvalue : word? text = some value) : ReadsAs text [.word value] := by
  intro rest hrest
  rw [lexemes?_word hchars hne hvalue hrest]
  rfl

theorem items {items : List Json} (h : ∀ item ∈ items, ReadsAs (compact item) (lexemes item)) :
    ReadsAs (compactItems items) (itemLexemes items) := by
  induction items with
  | nil => exact nil
  | cons item more ih =>
    obtain ⟨hitem, hmore⟩ := List.forall_mem_cons.mp h
    cases more with
    | nil => simpa [compactItems, itemLexemes] using hitem
    | cons next more =>
      simpa [compactItems, itemLexemes] using hitem.append_mark rfl (ih hmore)

theorem members {members : List (Option String × Json)}
    (h : ∀ m ∈ members, ReadsAs (compact m.2) (lexemes m.2)) :
    ReadsAs (compactMembers members) (memberLexemes members) := by
  induction members with
  | nil => exact nil
  | cons member more ih =>
    obtain ⟨hvalue, hmore⟩ := List.forall_mem_cons.mp h
    obtain ⟨key, value⟩ := member
    have hcolon : mark? ':' = some .colon := rfl
    have hmember := (quote key).append_mark hcolon hvalue
    cases more with
    | nil => simpa [compactMembers, memberLexemes] using hmember
    | cons next more =>
      simpa [compactMembers, memberLexemes] using hmember.append_mark rfl (ih hmore)

end ReadsAs

/-- A printed tree is read as its lexemes. -/
theorem readsAs_compact {j : Json} (h : WellFormed j) : ReadsAs (compact j) (lexemes j) := by
  induction h with
  | null => exact .word (List.all_eq_true.mp (by decide)) (by decide) rfl
  | bool b => cases b <;> exact .word (List.all_eq_true.mp (by decide)) (by decide) rfl
  | number h =>
    obtain ⟨hne, hchars⟩ := isWordChar_of_isNumber h
    have hword := word?_of_isNumber h
    rw [String.ofList_toList] at hword
    exact .word hchars hne hword
  | string content => exact .quote content
  | array _ ih => exact ((ReadsAs.items ih).append_mark rfl .nil).mark_cons rfl
  | object _ ih => exact ((ReadsAs.members ih).append_mark rfl .nil).mark_cons rfl

/-! ## Trees -/

/-- Whatever containers are open, the machine builds a tree from some lexemes. -/
def Builds (ls : List Lexeme) (j : Json) : Prop :=
  ∀ outer rest, build none outer (ls ++ rest) = build (some j) outer rest

theorem exists_lexemes_eq_cons (j : Json) :
    ∃ l ls, lexemes j = l :: ls ∧ l ≠ .closeArray := by
  cases j <;> exact ⟨_, _, rfl, by simp⟩

/-- A bracket in front of a tree opens an array. -/
theorem build_openArray (j : Json) (outer : List Container) (rest : List Lexeme) :
    build none outer (.openArray :: (lexemes j ++ rest)) =
      build none (.array [] :: outer) (lexemes j ++ rest) := by
  obtain ⟨l, ls, hlexemes, hl⟩ := exists_lexemes_eq_cons j
  rw [hlexemes, List.cons_append, build]
  intro _ heq
  exact hl (List.cons.inj heq).1

theorem build_items {first : Json} {more : List Json}
    (h : ∀ item ∈ first :: more, Builds (lexemes item) item) (before : List Json)
    (outer : List Container) (rest : List Lexeme) :
    build none (.array before :: outer) (itemLexemes (first :: more) ++ .closeArray :: rest) =
      build (some (.array (before.reverse ++ first :: more))) outer rest := by
  induction more generalizing first before with
  | nil =>
    have hfirst := h first List.mem_cons_self
    rw [itemLexemes, hfirst, build]
    simp
  | cons next more ih =>
    obtain ⟨hfirst, hmore⟩ := List.forall_mem_cons.mp h
    rw [itemLexemes, List.append_assoc, hfirst, List.cons_append, build, ih hmore]
    · simp
    · simp

theorem build_members {first : Option String × Json} {more : List (Option String × Json)}
    (h : ∀ m ∈ first :: more, Builds (lexemes m.2) m.2) (before : List (Option String × Json))
    (outer : List Container) (rest : List Lexeme) :
    ∃ ls, memberLexemes (first :: more) = .quoted first.1 :: .colon :: ls ∧
      build none (.object before first.1 :: outer) (ls ++ .closeObject :: rest) =
        build (some (.object (before.reverse ++ first :: more))) outer rest := by
  induction more generalizing first before with
  | nil =>
    have hfirst := h first List.mem_cons_self
    refine ⟨lexemes first.2, rfl, ?_⟩
    rw [hfirst, build]
    simp
  | cons next more ih =>
    obtain ⟨hfirst, hmore⟩ := List.forall_mem_cons.mp h
    obtain ⟨ls, hls, hbuild⟩ := ih hmore (first :: before)
    refine ⟨lexemes first.2 ++ .comma :: .quoted next.1 :: .colon :: ls, ?_, ?_⟩
    · rw [memberLexemes, hls]
      · rfl
      · simp
    · rw [List.append_assoc, hfirst, List.cons_append, List.cons_append, List.cons_append, build,
        hbuild]
      simp

/-- The machine builds a tree from its lexemes. -/
theorem builds_lexemes {j : Json} (h : WellFormed j) : Builds (lexemes j) j := by
  intro outer rest
  induction h generalizing outer rest with
  | null | bool | number | string => rfl
  | @array items _ ih =>
    cases items with
    | nil => rfl
    | cons first more =>
      obtain ⟨tail, htail⟩ : ∃ tail, itemLexemes (first :: more) = lexemes first ++ tail := by
        cases more with
        | nil => exact ⟨[], by simp [itemLexemes]⟩
        | cons next more => exact ⟨_, rfl⟩
      have hitems := build_items ih [] outer rest
      rw [htail, List.append_assoc] at hitems
      rw [lexemes, htail]
      simpa [build_openArray] using hitems
  | @object members _ ih =>
    cases members with
    | nil => rfl
    | cons first more =>
      obtain ⟨ls, hls, hbuild⟩ := build_members ih [] outer rest
      rw [lexemes, hls]
      simpa [build] using hbuild

/-- A tree that is printed compactly is read as this tree. -/
theorem read?_compact {j : Json} (h : WellFormed j) : read? (compact j) = some j := by
  have hend : EndsWord [] := by rintro _ ⟨⟩
  have hlexemes := readsAs_compact h [] hend
  have hbuild := builds_lexemes h [] []
  simp only [List.append_nil] at hlexemes hbuild
  rw [read?, hlexemes, lexemes?, Option.map_some, Option.bind_some, List.append_nil, hbuild]
  rfl

/-! ## Lines -/

theorem newline_not_mem_quoteChar (c : Char) : '\n' ∉ quoteChar c := by
  have hhex : ∀ n < 0x20, '\n' ∉ hex4 n := by decide
  obtain ⟨p, hprints⟩ := exists_prints_quoteChar c
  generalize quoteChar c = text at hprints
  cases hprints with
  | @escape e _ h =>
    have he : e ≠ '\n' := by
      rintro rfl
      cases h
    simp [he.symm]
  | unit h => simp [hhex c.toNat h]
  | plain _ _ hcontrol =>
    refine fun hmem => hcontrol ?_
    obtain rfl := List.mem_singleton.mp hmem
    decide

theorem newline_not_mem_quote (content : Option String) : '\n' ∉ quote content := by
  cases content with
  | none => decide
  | some s => simp [quote, newline_not_mem_quoteChar]

theorem newline_not_mem_items {items : List Json} (h : ∀ item ∈ items, '\n' ∉ compact item) :
    '\n' ∉ compactItems items := by
  induction items with
  | nil => simp [compactItems]
  | cons item more ih =>
    obtain ⟨hitem, hmore⟩ := List.forall_mem_cons.mp h
    cases more with
    | nil => simpa [compactItems] using hitem
    | cons next more => simpa [compactItems, hitem] using ih hmore

theorem newline_not_mem_members {members : List (Option String × Json)}
    (h : ∀ m ∈ members, '\n' ∉ compact m.2) : '\n' ∉ compactMembers members := by
  induction members with
  | nil => simp [compactMembers]
  | cons member more ih =>
    obtain ⟨hmember, hmore⟩ := List.forall_mem_cons.mp h
    have hkey := newline_not_mem_quote member.1
    cases more with
    | nil => simp [compactMembers, hkey, hmember]
    | cons next more => simpa [compactMembers, hkey, hmember] using ih hmore

/-- A tree is printed on one line. -/
theorem newline_not_mem_compact {j : Json} (h : WellFormed j) : '\n' ∉ compact j := by
  induction h with
  | null => decide
  | bool b => cases b <;> decide
  | number h => exact fun hmem => absurd ((isWordChar_of_isNumber h).2 _ hmem) (by decide)
  | string content => exact newline_not_mem_quote content
  | array _ ih => simpa [compact] using newline_not_mem_items ih
  | object _ ih => simpa [compact] using newline_not_mem_members ih

end Flowscript.Json
