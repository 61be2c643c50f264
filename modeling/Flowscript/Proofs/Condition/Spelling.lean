import Flowscript.Condition.Lexer
import Flowscript.Proofs.Decimal.Printing
import Flowscript.Proofs.Text.Trimming

/-!
# Spellings of tokens

How the tokens of a condition are written, apart from how they are read: parentheses, operators and
words as they stand, integers with an optional sign and any number of leading zeros, texts between
quotes of either kind with escapes. A spelling that stands before a space or at the end of a text is
read as its token, whatever else the text holds, and a text without quotes is never read beyond the
space behind it.
-/

namespace Flowscript.Condition

/-- Where a spelling ends: at the end of the text, or before a space. -/
inductive Boundary : List Char → Prop where
  | done : Boundary []
  | space (rest : List Char) : Boundary (' ' :: rest)

/-- What stands between two quotes `q` and is read as `text`. -/
inductive Quoted (q : Char) : List Char → List Char → Prop where
  | nil : Quoted q [] []
  | plain {c : Char} {body text : List Char} (hescape : c ≠ '\\') (hquote : c ≠ q)
      (h : Quoted q body text) : Quoted q (c :: body) (c :: text)
  | escaped {c : Char} {body text : List Char} (h : Quoted q body text) :
      Quoted q ('\\' :: c :: body) (unescape c :: text)

/-- The decimal texts of a signed 64-bit integer. -/
inductive Integer (i : Int64) : List Char → Prop where
  | digits {ds : List Char} (h : Digits.isRun ds) (hi : i.toInt = Digits.value ds) : Integer i ds
  | plus {ds : List Char} (h : Digits.isRun ds) (hi : i.toInt = Digits.value ds) :
      Integer i ('+' :: ds)
  | minus {ds : List Char} (h : Digits.isRun ds) (hi : i.toInt = -Digits.value ds) :
      Integer i ('-' :: ds)

/-- How an operator is written. -/
def Comparison.text : Comparison → List Char
  | eq => ['=', '=']
  | ne => ['!', '=']
  | lt => ['<']
  | gt => ['>']
  | le => ['<', '=']
  | ge => ['>', '=']

/-- The words that are tokens. -/
def words : List (String × Token) :=
  [("and", .and), ("or", .or), ("not", .not), ("true", .literal (.bool true)),
    ("True", .literal (.bool true)), ("false", .literal (.bool false)),
    ("False", .literal (.bool false)), ("null", .literal .null), ("None", .literal .null)]

/-- Whether a character opens and closes a text. -/
def isQuote (c : Char) : Bool :=
  c = '"' || c.toNat = 0x27

/-- Whether a character is a token, or starts an operator or a text. -/
def isPunctuation (c : Char) : Bool :=
  c ∈ ['(', ')', '=', '!', '<', '>'] || isQuote c

/-- A token and a text that it is written as. -/
inductive Spells : Token → List Char → Prop where
  | openParen : Spells .openParen ['(']
  | closeParen : Spells .closeParen [')']
  | compare (op : Comparison) : Spells (.compare op) op.text
  | word {w : String} {t : Token} (h : (w, t) ∈ words) : Spells t w.toList
  | integer {i : Int64} {text : List Char} (h : Integer i text) :
      Spells (.literal (.int i)) text
  | string {q : Char} {body text : List Char} (hq : isQuote q) (h : Quoted q body text) :
      Spells (.literal (.str (String.ofList text))) (q :: body ++ [q])

namespace Boundary

variable {p : Char → Bool} {rest : List Char}

theorem takeWhile_append (h : Boundary rest) (hspace : p ' ' = false) {cs : List Char}
    (hcs : ∀ c ∈ cs, p c = true) : (cs ++ rest).takeWhile p = cs := by
  rw [List.takeWhile_append_of_pos hcs]
  cases h <;> simp [hspace]

theorem dropWhile_append (h : Boundary rest) (hspace : p ' ' = false) {cs : List Char}
    (hcs : ∀ c ∈ cs, p c = true) : (cs ++ rest).dropWhile p = rest := by
  rw [List.dropWhile_append_of_pos hcs]
  cases h <;> simp [hspace]

end Boundary

theorem toNat_of_isAlpha {c : Char} (h : c.isAlpha = true) :
    (65 ≤ c.toNat ∧ c.toNat ≤ 90) ∨ (97 ≤ c.toNat ∧ c.toNat ≤ 122) := by
  rcases Bool.or_eq_true_iff.mp h with hupper | hlower
  · exact .inl (of_decide_eq_true hupper)
  · obtain ⟨hfirst, hlast⟩ := Bool.and_eq_true_iff.mp hlower
    exact .inr ⟨of_decide_eq_true hfirst, of_decide_eq_true hlast⟩

theorem toNat_of_isAlphanum {c : Char} (h : c.isAlphanum = true) :
    (48 ≤ c.toNat ∧ c.toNat ≤ 57) ∨ (65 ≤ c.toNat ∧ c.toNat ≤ 90) ∨
      (97 ≤ c.toNat ∧ c.toNat ≤ 122) := by
  rcases Bool.or_eq_true_iff.mp h with halpha | hdigit
  · exact .inr (toNat_of_isAlpha halpha)
  · exact .inl (Digits.toNat_of_isDigit hdigit)

theorem toNat_of_isPunctuation {c : Char} (h : isPunctuation c = true) :
    (33 ≤ c.toNat ∧ c.toNat ≤ 41) ∨ (60 ≤ c.toNat ∧ c.toNat ≤ 62) := by
  simp only [isPunctuation, isQuote, Bool.or_eq_true, decide_eq_true_eq, List.mem_cons,
    List.not_mem_nil, or_false] at h
  rcases h with (rfl | rfl | rfl | rfl | rfl | rfl) | rfl | hsingle <;> first | decide | omega

theorem readString_of_quoted {q : Char} {body text : List Char} (hq : q ≠ '\\')
    (h : Quoted q body text) (rest : List Char) :
    readString q (body ++ q :: rest) = .ok (text, rest) := by
  induction h with
  | nil => simp [readString, hq]
  | plain hescape hquote _ ih => simp [readString, hescape, hquote, ih]
  | escaped _ ih => simp [readString, ih]

theorem ne_escape {c : Char} {rest : List Char} (hlone : c = '\\' → rest = [] → False)
    (hescape : ∀ d more, c = '\\' → rest = d :: more → False) : c ≠ '\\' := by
  rintro rfl
  cases rest with
  | nil => exact hlone rfl rfl
  | cons d more => exact hescape d more rfl rfl

theorem exists_quoted_of_readString {q : Char} {cs text after : List Char}
    (h : readString q cs = .ok (text, after)) :
    ∃ body, cs = body ++ q :: after ∧ Quoted q body text := by
  fun_induction readString q cs generalizing text after with
  | case1 | case2 | case3 | case6 => cases h
  | case4 c rest text' after' hrest ih =>
    cases h
    obtain ⟨body, rfl, hbody⟩ := ih hrest
    exact ⟨'\\' :: c :: body, rfl, hbody.escaped⟩
  | case5 rest =>
    cases h
    exact ⟨[], rfl, .nil⟩
  | case7 c rest hlone hescape hquote text' after' hrest ih =>
    cases h
    obtain ⟨body, rfl, hbody⟩ := ih hrest
    exact ⟨c :: body, rfl, hbody.plain (ne_escape hlone hescape) hquote⟩

theorem readNumeral_digits (pointed : Bool) {ds rest : List Char} (hds : ∀ c ∈ ds, c.isDigit = true)
    (hrest : Boundary rest) : readNumeral pointed (ds ++ rest) = (ds, rest, pointed) := by
  induction ds with
  | nil =>
    cases hrest <;>
      simp [readNumeral.eq_def]
  | cons d ds ih =>
    obtain ⟨hd, hds⟩ := List.forall_mem_cons.mp hds
    rw [List.cons_append, readNumeral.eq_def]
    simp [hd, ih hds]

/-- The text of an integer is read back. -/
theorem int64?_of_integer {i : Int64} {text : List Char} (h : Integer i text) :
    Digits.int64? text = some i := by
  have hrange : Int64.minValue.toInt ≤ i.toInt ∧ i.toInt ≤ Int64.maxValue.toInt :=
    ⟨i.minValue_le_toInt, i.toInt_le⟩
  have hint : Digits.int? text = some i.toInt := by
    cases h with
    | plus h hi => simp [Digits.int?, Digits.signed, h, hi]
    | minus h hi => simp [Digits.int?, Digits.signed, h, hi]
    | digits h hi =>
      have hsigned : Digits.signed text = (false, text) := by
        unfold Digits.signed
        split
        · cases h
        · cases h
        · rfl
      simp [Digits.int?, hsigned, h, hi]
  simp only [Digits.int64?, hint, Option.bind_some, hrange, and_self, if_true, Int64.ofInt_toInt]

theorem not_isPunctuation {c : Char} (h : isPunctuation c = false) :
    (c ≠ '(' ∧ c ≠ ')' ∧ c ≠ '=' ∧ c ≠ '!' ∧ c ≠ '<' ∧ c ≠ '>') ∧ c ≠ '"' ∧ c.toNat ≠ 0x27 := by
  simpa [isPunctuation, isQuote] using h

theorem readComparison?_eq_none {c : Char} (hc : isPunctuation c = false) (rest : List Char) :
    readComparison? (c :: rest) = none := by
  obtain ⟨⟨-, -, heq, hne, hlt, hgt⟩, -⟩ := not_isPunctuation hc
  simp [readComparison?, heq, hne, hlt, hgt]

section

variable {c : Char} {rest : List Char} (hc : isPunctuation c = false)

include hc

theorem readToken_number {text after : List Char} {pointed : Bool} {l : Literal}
    (hstart : startsNumber (c :: rest) = true)
    (hread : readNumeral (c = '.') rest = (text, after, pointed))
    (hl : numberLiteral (c :: text) pointed = .ok l) (total : Nat) :
    readToken total c rest = .ok (.literal l, after) := by
  obtain ⟨⟨hopen, hclose, -⟩, hdouble, hsingle⟩ := not_isPunctuation hc
  simp [readToken, readComparison?_eq_none hc, hopen, hclose, hdouble, hsingle, hstart, hread, hl]

theorem readToken_word {t : Token} (hstart : startsNumber (c :: rest) = false)
    (hword : startsWord c = true)
    (ht : wordToken (String.ofList (c :: rest.takeWhile continuesWord)) = .ok t) (total : Nat) :
    readToken total c rest = .ok (t, rest.dropWhile continuesWord) := by
  obtain ⟨⟨hopen, hclose, -⟩, hdouble, hsingle⟩ := not_isPunctuation hc
  simp [-String.ofList_cons, readToken, readComparison?_eq_none hc, hopen, hclose, hdouble, hsingle,
    hstart, hword, ht]

theorem readToken_foreign (hstart : startsNumber (c :: rest) = false)
    (hword : startsWord c = false) (total : Nat) :
    readToken total c rest = .error (.unexpectedChar c (total - (rest.length + 1))) := by
  obtain ⟨⟨hopen, hclose, -⟩, hdouble, hsingle⟩ := not_isPunctuation hc
  simp [readToken, readComparison?_eq_none hc, hopen, hclose, hdouble, hsingle, hstart, hword]

end

theorem eq_of_isQuote {q : Char} (h : isQuote q = true) : q = '"' ∨ q = Char.ofNat 0x27 := by
  simp only [isQuote, Bool.or_eq_true, decide_eq_true_eq] at h
  refine h.imp_right fun hq => ?_
  rw [← hq, Char.ofNat_toNat]

/-- What a spelling must come to at the front of a text: its token is read, and no more. -/
def ReadsAs (t : Token) (text rest : List Char) : Prop :=
  ∃ c more, text = c :: more ∧ Text.isBlank c = false ∧
    ∀ total, readToken total c (more ++ rest) = .ok (t, rest)

theorem plain_of_isAlphanum {c : Char} (h : c.isAlphanum = true) :
    isPunctuation c = false ∧ Text.isBlank c = false := by
  have hc := toNat_of_isAlphanum h
  constructor
  · refine Bool.eq_false_iff.mpr fun hpunctuation => ?_
    have := toNat_of_isPunctuation hpunctuation
    omega
  · refine Bool.eq_false_iff.mpr fun hblank => ?_
    have := Text.toNat_of_isBlank hblank
    omega

/-- A first character and digits that are a number are read as it. -/
theorem readsAs_number {c : Char} {ds rest : List Char} {l : Literal}
    (hc : isPunctuation c = false) (hblank : Text.isBlank c = false) (hpoint : c ≠ '.')
    (hstart : startsNumber (c :: (ds ++ rest)) = true) (hds : ∀ d ∈ ds, d.isDigit = true)
    (hl : numberLiteral (c :: ds) false = .ok l) (hrest : Boundary rest) :
    ReadsAs (.literal l) (c :: ds) rest := by
  refine ⟨c, ds, rfl, hblank, readToken_number hc hstart ?_ hl⟩
  simpa [hpoint] using readNumeral_digits false hds hrest

theorem readsAs_integer {i : Int64} {text rest : List Char} (h : Integer i text)
    (hrest : Boundary rest) : ReadsAs (.literal (.int i)) text rest := by
  have hl : numberLiteral text false = .ok (.int i) := by
    simp [numberLiteral, int64?_of_integer h]
  cases h with
  | digits h =>
    cases text with
    | nil => cases h
    | cons d ds =>
      obtain ⟨hd, hds⟩ : d.isDigit = true ∧ ∀ c ∈ ds, c.isDigit = true := by
        simpa [Digits.isRun] using h
      have hpoint : d ≠ '.' := by
        rintro rfl
        cases hd
      obtain ⟨hpunctuation, hblank⟩ := plain_of_isAlphanum (c := d) (by simp [Char.isAlphanum, hd])
      exact readsAs_number hpunctuation hblank hpoint (by simp [startsNumber, hd]) hds hl hrest
  | @plus ds h | @minus ds h =>
    cases ds with
    | nil => cases h
    | cons d ds =>
      obtain ⟨hd, hds⟩ : d.isDigit = true ∧ ∀ c ∈ ds, c.isDigit = true := by
        simpa [Digits.isRun] using h
      exact readsAs_number rfl rfl (by decide) (by simp [startsNumber, hd])
        (List.forall_mem_cons.mpr ⟨hd, hds⟩) hl hrest

theorem startsNumber_of_isAlpha {c : Char} (h : c.isAlpha = true) (rest : List Char) :
    startsNumber (c :: rest) = false := by
  have hc := toNat_of_isAlpha h
  have hdigit : c.isDigit = false := by
    refine Bool.eq_false_iff.mpr fun hdigit => ?_
    have := Digits.toNat_of_isDigit hdigit
    omega
  simp only [startsNumber, hdigit, Bool.false_or]
  split <;> first | rfl | exact absurd hc (by decide)

theorem readsAs_word {c : Char} {more rest : List Char} {t : Token} (hc : c.isAlpha = true)
    (hmore : more.all continuesWord = true)
    (ht : wordToken (String.ofList (c :: more)) = .ok t) (hrest : Boundary rest) :
    ReadsAs t (c :: more) rest := by
  obtain ⟨hpunctuation, hblank⟩ := plain_of_isAlphanum (c := c) (by simp [Char.isAlphanum, hc])
  have hspace : continuesWord ' ' = false := by decide
  have hmore := List.all_eq_true.mp hmore
  have hread := readToken_word (t := t) hpunctuation (startsNumber_of_isAlpha hc (more ++ rest))
    (by simp [startsWord, Text.isAlphabetic_of_isAlpha hc])
  rw [hrest.takeWhile_append hspace hmore, hrest.dropWhile_append hspace hmore] at hread
  exact ⟨c, more, rfl, hblank, hread ht⟩

theorem readsAs_of_spells {t : Token} {text rest : List Char} (h : Spells t text)
    (hrest : Boundary rest) : ReadsAs t text rest := by
  cases h with
  | openParen => exact ⟨'(', [], rfl, rfl, fun _ => rfl⟩
  | closeParen => exact ⟨')', [], rfl, rfl, fun _ => rfl⟩
  | compare op =>
    cases op with
    | eq => exact ⟨'=', ['='], rfl, rfl, fun _ => rfl⟩
    | ne => exact ⟨'!', ['='], rfl, rfl, fun _ => rfl⟩
    | le => exact ⟨'<', ['='], rfl, rfl, fun _ => rfl⟩
    | ge => exact ⟨'>', ['='], rfl, rfl, fun _ => rfl⟩
    | lt => exact ⟨'<', [], rfl, rfl, fun _ => by cases hrest <;> rfl⟩
    | gt => exact ⟨'>', [], rfl, rfl, fun _ => by cases hrest <;> rfl⟩
  | word h =>
    simp only [words, List.mem_cons, List.not_mem_nil, or_false, Prod.mk.injEq] at h
    rcases h with ⟨rfl, rfl⟩ | ⟨rfl, rfl⟩ | ⟨rfl, rfl⟩ | ⟨rfl, rfl⟩ | ⟨rfl, rfl⟩ | ⟨rfl, rfl⟩ |
      ⟨rfl, rfl⟩ | ⟨rfl, rfl⟩ | ⟨rfl, rfl⟩ <;>
      exact readsAs_word rfl rfl rfl hrest
  | integer h => exact readsAs_integer h hrest
  | @string q body text hq h =>
    have hescape : q ≠ '\\' := by
      rcases eq_of_isQuote hq with rfl | rfl <;> decide
    have hread := readString_of_quoted hescape h rest
    refine ⟨q, body ++ [q], rfl, ?_, fun total => ?_⟩
    · rcases eq_of_isQuote hq with rfl | rfl <;> decide
    · rcases eq_of_isQuote hq with rfl | rfl <;> simp [readToken, readComparison?, hread]

theorem tokensOf_of_blank {c : Char} (hc : Text.isBlank c = true) (rest : List Char)
    (total : Nat) : tokensOf total (c :: rest) = tokensOf total rest := by
  rw [tokensOf, if_pos hc]

theorem tokensOf_of_readToken {c : Char} {rest after : List Char} {t : Token} {total : Nat}
    (hc : ¬ Text.isBlank c = true) (h : readToken total c rest = .ok (t, after)) :
    tokensOf total (c :: rest) = (tokensOf total after).map (t :: ·) := by
  rw [tokensOf, if_neg hc]
  split
  · next hfail => cases h.symm.trans hfail
  · next hread =>
    cases h.symm.trans hread
    cases tokensOf total after <;> rfl

theorem tokensOf_of_fault {c : Char} {rest : List Char} {f : Fault} {total : Nat}
    (hc : ¬ Text.isBlank c = true) (h : readToken total c rest = .error f) :
    tokensOf total (c :: rest) = .error f := by
  rw [tokensOf, if_neg hc]
  split
  · next hfail =>
    cases h.symm.trans hfail
    rfl
  · next hread => cases h.symm.trans hread

/-- The token of a spelling is the first of the text that it stands at the front of. -/
theorem tokensOf_of_spells {t : Token} {text rest : List Char} (h : Spells t text)
    (hrest : Boundary rest) (total : Nat) :
    tokensOf total (text ++ rest) = (tokensOf total rest).map (t :: ·) := by
  obtain ⟨c, more, rfl, hblank, hread⟩ := readsAs_of_spells h hrest
  exact tokensOf_of_readToken (by simp [hblank]) (hread total)

/-- What is read in front of a space ends at it, or before. -/
def StopsAt (rest a after : List Char) : Prop :=
  ∃ b, after = b ++ ' ' :: rest ∧ b <:+ a

theorem StopsAt.cons {rest a after : List Char} (h : StopsAt rest a after) (c : Char) :
    StopsAt rest (c :: a) after := by
  obtain ⟨b, hafter, hb⟩ := h
  exact ⟨b, hafter, hb.trans (List.suffix_cons c a)⟩

theorem stopsAt_self (rest a : List Char) : StopsAt rest a (a ++ ' ' :: rest) :=
  ⟨a, rfl, List.suffix_rfl⟩

/-- A character that is no space stands in front of the space. -/
theorem exists_of_append_eq_cons {a rest cs : List Char} {c : Char}
    (h : a ++ ' ' :: rest = c :: cs) (hc : c ≠ ' ') : ∃ b, a = c :: b ∧ b ++ ' ' :: rest = cs := by
  cases a with
  | nil => exact absurd (List.cons.inj h).1.symm hc
  | cons d b =>
    obtain ⟨rfl, hcs⟩ := List.cons.inj h
    exact ⟨b, rfl, hcs⟩

/-- What a number and what is left of it are taken from. -/
theorem readNumeral_append (pointed : Bool) (cs : List Char) :
    (readNumeral pointed cs).1 ++ (readNumeral pointed cs).2.1 = cs := by
  fun_induction readNumeral pointed cs <;> simp_all

/-- A number is read in the same way if a space follows the text. -/
theorem readNumeral_append_space (pointed : Bool) (cs tail : List Char) :
    readNumeral pointed (cs ++ ' ' :: tail) =
      ((readNumeral pointed cs).1, (readNumeral pointed cs).2.1 ++ ' ' :: tail,
        (readNumeral pointed cs).2.2) := by
  fun_induction readNumeral pointed cs with
  | case1 pointed => simp [readNumeral.eq_def]
  | case2 pointed c rest hdigit _ _ _ hread ih =>
    rw [List.cons_append, readNumeral.eq_def]
    simp [hdigit, ih, hread]
  | case3 pointed c rest hdigit hpoint _ _ _ hread ih =>
    rw [List.cons_append, readNumeral.eq_def]
    simp [hdigit, hpoint, ih, hread]
  | case4 pointed c hdigit hpoint hpower rest _ _ _ hread ih =>
    rw [List.cons_append, readNumeral.eq_def]
    simp [hdigit, hpoint, hpower, ih, hread]
  | case5 pointed c hdigit hpoint hpower rest _ _ _ hread ih =>
    rw [List.cons_append, readNumeral.eq_def]
    simp [hdigit, hpoint, hpower, ih, hread]
  | case6 pointed c hdigit hpoint hpower rest hminus hplus _ _ _ hread ih =>
    rw [List.cons_append, readNumeral.eq_def]
    simp only [hdigit, hpoint, hpower, Bool.false_eq_true, if_false, if_true]
    split
    · next heq =>
      obtain ⟨b, rfl, -⟩ := exists_of_append_eq_cons heq (by decide)
      exact absurd rfl (hminus b)
    · next heq =>
      obtain ⟨b, rfl, -⟩ := exists_of_append_eq_cons heq (by decide)
      exact absurd rfl (hplus b)
    · simp [ih, hread]
  | case7 pointed c rest hdigit hpoint hpower =>
    rw [List.cons_append, readNumeral.eq_def]
    simp [hdigit, hpoint, hpower]

theorem readNumeral_stops (pointed : Bool) (a rest : List Char) :
    StopsAt rest a (readNumeral pointed (a ++ ' ' :: rest)).2.1 := by
  rw [readNumeral_append_space]
  exact ⟨_, rfl, _, readNumeral_append pointed a⟩

theorem readComparison?_stops {c : Char} {a rest after : List Char} {op : Comparison}
    (h : readComparison? (c :: (a ++ ' ' :: rest)) = some (op, after)) : StopsAt rest a after := by
  generalize hcs : a ++ ' ' :: rest = cs at h
  unfold readComparison? at h
  split at h
  case h_5 | h_6 =>
    next heq =>
      cases heq
      cases h
      rw [← hcs]
      exact stopsAt_self rest a
  case h_7 => cases h
  all_goals
    next heq =>
      cases heq
      cases h
      obtain ⟨b, rfl, rfl⟩ := exists_of_append_eq_cons hcs (by decide)
      exact (stopsAt_self rest b).cons _

theorem dropWhile_append_space {p : Char → Bool} (hspace : p ' ' = false) (cs tail : List Char) :
    (cs ++ ' ' :: tail).dropWhile p = cs.dropWhile p ++ ' ' :: tail := by
  rw [List.dropWhile_append]
  split
  · next hempty => simp [List.isEmpty_iff.mp hempty, hspace]
  · rfl

theorem dropWhile_stops {p : Char → Bool} (hspace : p ' ' = false) (a rest : List Char) :
    StopsAt rest a ((a ++ ' ' :: rest).dropWhile p) :=
  ⟨a.dropWhile p, dropWhile_append_space hspace a rest, List.dropWhile_suffix p⟩

theorem readToken_stops {c : Char} {a rest after : List Char} {t : Token} {total : Nat}
    (hc : isQuote c = false) (h : readToken total c (a ++ ' ' :: rest) = .ok (t, after)) :
    StopsAt rest a after := by
  unfold readToken at h
  split at h
  · cases h
    exact stopsAt_self rest a
  split at h
  · cases h
    exact stopsAt_self rest a
  split at h
  · next hop =>
    cases h
    exact readComparison?_stops hop
  split at h
  · next hquote => simp_all [isQuote]
  split at h
  · simp only at h
    split at h
    · cases h
    · cases h
      exact readNumeral_stops _ a rest
  split at h
  · split at h
    · cases h
    · cases h
      exact dropWhile_stops (by decide) a rest
  · cases h

/-- An error behind a space is an error of the whole text, if there is no quote before the space. -/
theorem tokensOf_error_of_space {a rest : List Char} (ha : ∀ c ∈ a, isQuote c = false)
    {total : Nat} (h : ∃ f, tokensOf total rest = .error f) :
    ∃ f, tokensOf total (a ++ ' ' :: rest) = .error f := by
  induction hn : a.length using Nat.strongRecOn generalizing a with
  | ind n ih =>
    cases a with
    | nil =>
      rw [List.nil_append, tokensOf_of_blank (by decide)]
      exact h
    | cons c a =>
      obtain ⟨hc, ha⟩ := List.forall_mem_cons.mp ha
      rw [List.length_cons] at hn
      rw [List.cons_append]
      by_cases hblank : Text.isBlank c = true
      · rw [tokensOf_of_blank hblank]
        exact ih a.length (by omega) ha rfl
      · cases hread : readToken total c (a ++ ' ' :: rest) with
        | error f => exact ⟨f, tokensOf_of_fault hblank hread⟩
        | ok read =>
          obtain ⟨t, after⟩ := read
          obtain ⟨b, rfl, hb⟩ := readToken_stops hc hread
          have hlength := hb.length_le
          obtain ⟨f, hf⟩ := ih b.length (by omega) (fun d hd => ha d (hb.subset hd)) rfl
          exact ⟨f, by rw [tokensOf_of_readToken hblank hread, hf, Except.map]⟩

end Flowscript.Condition
