import Flowscript.Proofs.Condition.Positions

/-!
# Tokens of joined texts

A number, a word and an operator look at the characters behind them, a text in quotes does not. None
of them is read differently if a space comes next (`readToken_append_space`), so the tokens of two
texts with a space between them are those of the one and then those of the other
(`tokens_append_space`). Only the place that a fault names changes.
-/

namespace Flowscript.Condition

/-- A fault of a text, as one of the text with `k` characters in front. -/
def Fault.behind (k : Nat) : Fault → Fault
  | unexpectedChar c offset => .unexpectedChar c (k + offset)
  | f => f

variable {c q : Char} {cs a rest text after : List Char} {total total' : Nat} {t : Token}
  {ts : List Token} {f : Fault}

/-! ## Reading in front of a space -/

/-- A text that is closed is read in the same way whatever follows it. -/
theorem readString_append (hq : isQuote q = true) (h : readString q cs = .ok (text, after))
    (tail : List Char) : readString q (cs ++ tail) = .ok (text, after ++ tail) := by
  obtain ⟨body, rfl, hbody⟩ := exists_quoted_of_readString h
  have hescape : q ≠ '\\' := by
    rcases eq_of_isQuote hq with rfl | rfl <;> decide
  simpa using readString_of_quoted hescape hbody (after ++ tail)

theorem opensNumber_append_space (c : Char) (cs tail : List Char) :
    opensNumber c (cs ++ ' ' :: tail).head? (cs ++ ' ' :: tail).tail.head? =
      opensNumber c cs.head? cs.tail.head? := by
  have hspace : Char.isDigit ' ' = false := by decide
  match cs with
  | [] | [_] => simp [opensNumber, hspace]
  | _ :: _ :: _ => rfl

theorem startsNumber_append_space (c : Char) (cs tail : List Char) :
    startsNumber (c :: (cs ++ ' ' :: tail)) = startsNumber (c :: cs) := by
  rw [startsNumber_eq, startsNumber_eq, opensNumber_append_space]

theorem comparisonOf?_append_space (c : Char) (cs tail : List Char) :
    comparisonOf? c (cs ++ ' ' :: tail).head? = comparisonOf? c cs.head? := by
  cases cs with
  | nil =>
    rw [List.nil_append, List.head?_cons, List.head?_nil]
    unfold comparisonOf?
    grind
  | cons d more => rfl

theorem readComparison?_append_space (c : Char) (cs tail : List Char) :
    readComparison? (c :: (cs ++ ' ' :: tail)) =
      (readComparison? (c :: cs)).map fun (op, after) => (op, after ++ ' ' :: tail) := by
  rw [readComparison?_eq, readComparison?_eq, comparisonOf?_append_space]
  cases hop : comparisonOf? c cs.head? with
  | none => rfl
  | some found =>
    obtain ⟨op, width⟩ := found
    obtain ⟨-, hwidth⟩ := width_of_comparisonOf? hop
    have hdrop : (cs ++ ' ' :: tail).drop (width - 1) = cs.drop (width - 1) ++ ' ' :: tail :=
      List.drop_append_of_le_length (Nat.sub_le_of_le_add hwidth)
    simp only [Option.map_some, hdrop]

theorem takeWhile_append_space {p : Char → Bool} (hspace : p ' ' = false) (cs tail : List Char) :
    (cs ++ ' ' :: tail).takeWhile p = cs.takeWhile p := by
  rw [List.takeWhile_append]
  split
  · next hall =>
    rw [List.takeWhile_cons_of_neg (by simp [hspace]), List.append_nil,
      (List.takeWhile_prefix p).eq_of_length hall]
  · rfl

/-- A token is read in the same way if a space follows the text. -/
theorem readToken_append_space (h : readToken total c rest = .ok (t, after)) (total' : Nat)
    (tail : List Char) :
    readToken total' c (rest ++ ' ' :: tail) = .ok (t, after ++ ' ' :: tail) := by
  unfold readToken at h ⊢
  rw [readComparison?_append_space, startsNumber_append_space, readNumeral_append_space,
    takeWhile_append_space (by decide), dropWhile_append_space (by decide)]
  split at h
  · next hopen =>
    cases h
    rw [if_pos hopen]
  next hopen =>
  rw [if_neg hopen]
  split at h
  · next hclose =>
    cases h
    rw [if_pos hclose]
  next hclose =>
  rw [if_neg hclose]
  cases hop : readComparison? (c :: rest) with
  | some found =>
    rw [hop] at h
    cases h
    rfl
  | none =>
    rw [hop] at h
    simp only [Option.map_none] at h ⊢
    split at h
    · next hquote =>
      rw [if_pos hquote]
      cases hread : readString c rest with
      | error f =>
        rw [hread] at h
        cases h
      | ok read =>
        rw [hread] at h
        cases h
        rw [readString_append hquote hread]
    next hquote =>
    rw [if_neg hquote]
    split at h
    · next hnumber =>
      rw [if_pos hnumber]
      generalize readNumeral (c = '.') rest = numeral at h ⊢
      obtain ⟨text, after, pointed⟩ := numeral
      simp only at h ⊢
      cases hl : numberLiteral (c :: text) pointed with
      | error f =>
        rw [hl] at h
        cases h
      | ok l =>
        rw [hl] at h
        cases h
        rfl
    next hnumber =>
    rw [if_neg hnumber]
    split at h
    · next hword =>
      rw [if_pos hword]
      cases ht : wordToken (String.ofList (c :: rest.takeWhile continuesWord)) with
      | error f =>
        rw [ht] at h
        cases h
      | ok t =>
        rw [ht] at h
        cases h
        rfl
    · cases h

/-! ## The tokens of a text -/

/-- Behind a space, the tokens of another text follow. -/
theorem tokensOf_append_space (h : tokensOf total a = .ok ts) (total' : Nat) (b : List Char) :
    tokensOf total' (a ++ ' ' :: b) = (tokensOf total' b).map (ts ++ ·) := by
  fun_induction tokensOf total a generalizing ts with
  | case1 =>
    cases h
    rw [List.nil_append, tokensOf_of_blank (by decide)]
    exact (map_nil_append _).symm
  | case2 c rest hblank ih => rw [List.cons_append, tokensOf_of_blank hblank, ih h]
  | case3 | case4 => cases h
  | case5 c rest hblank t after hread more hmore ih =>
    cases h
    rw [List.cons_append, tokensOf_of_readToken hblank (readToken_append_space hread total' b),
      ih hmore]
    cases tokensOf total' b <;> rfl

/-! ## Where faults are found -/

theorem behind_of_readString (k : Nat) (h : readString q cs = .error f) : f.behind k = f := by
  fun_induction readString q cs with
  | case1 | case2 =>
    cases h
    rfl
  | case3 c rest f' hfail ih | case6 c rest hlone hescape hquote f' hfail ih =>
    cases h
    exact ih hfail
  | case4 | case5 | case7 => cases h

theorem behind_of_numberLiteral (k : Nat) {pointed : Bool}
    (h : numberLiteral text pointed = .error f) : f.behind k = f := by
  unfold numberLiteral at h
  cases hfloat : Numeral.readFloat? text <;> grind [Fault.behind]

theorem behind_of_wordToken (k : Nat) {word : String} (h : wordToken word = .error f) :
    f.behind k = f := by
  unfold wordToken at h
  split at h <;> cases h
  rfl

/-- With more characters in front, a token is read in the same way, and a fault is found as much
further on. -/
theorem readToken_behind (k : Nat) (hrest : rest.length < total) :
    readToken (k + total) c rest = (readToken total c rest).mapError (·.behind k) := by
  unfold readToken
  split
  · rfl
  split
  · rfl
  split
  · rfl
  split
  · cases hread : readString c rest with
    | error f => exact congrArg Except.error (behind_of_readString k hread).symm
    | ok read => rfl
  split
  · generalize readNumeral (c = '.') rest = numeral
    obtain ⟨text, after, pointed⟩ := numeral
    simp only
    cases hl : numberLiteral (c :: text) pointed with
    | error f => exact congrArg Except.error (behind_of_numberLiteral k hl).symm
    | ok l => rfl
  split
  · cases ht : wordToken (String.ofList (c :: rest.takeWhile continuesWord)) with
    | error f => exact congrArg Except.error (behind_of_wordToken k ht).symm
    | ok t => rfl
  · rw [Except.mapError, Fault.behind, Nat.add_sub_assoc hrest]

theorem tokensOf_behind (k : Nat) (hcs : cs.length ≤ total) :
    tokensOf (k + total) cs = (tokensOf total cs).mapError (·.behind k) := by
  fun_induction tokensOf total cs with
  | case1 =>
    rw [tokensOf]
    rfl
  | case2 c rest hblank ih =>
    rw [tokensOf_of_blank hblank, ih (Nat.le_of_succ_le hcs)]
  | case3 c rest hblank f hfail =>
    have hfar := readToken_behind (c := c) k hcs
    rw [hfail] at hfar
    exact tokensOf_of_fault hblank hfar
  | case4 c rest hblank t after hread f hmore ih
  | case5 c rest hblank t after hread ts hmore ih =>
    have hfar := readToken_behind (c := c) k hcs
    rw [hread] at hfar
    have hafter := (length_readToken_le hread).trans (Nat.le_of_succ_le hcs)
    rw [tokensOf_of_readToken hblank hfar, ih hafter, hmore]
    rfl

/-- The tokens of two texts with a space between them are those of the one and then those of the
other, whose fault is found as much further on as there are characters in front of it. -/
theorem tokens_append_space {a b : List Char} (h : tokens a = .ok ts) :
    tokens (a ++ ' ' :: b) =
      ((tokens b).mapError (·.behind (a.length + 1))).map (ts ++ ·) := by
  have hlength : (a ++ ' ' :: b).length = a.length + 1 + b.length := by
    simp only [List.length_append, List.length_cons]
    omega
  rw [tokens, hlength, tokensOf_append_space h, tokensOf_behind _ (Nat.le_refl _), tokens]

/-- Texts are read one by one where a space separates them, by a loop that always moves forward,
never looks behind the end, and always stops. -/
theorem tokens_joined :
    (∀ (a b : List Char) (ta : List Token), tokens a = .ok ta →
      (∀ tb, tokens b = .ok tb → tokens (a ++ ' ' :: b) = .ok (ta ++ tb)) ∧
      ∀ f, tokens b = .error f → tokens (a ++ ' ' :: b) = .error (f.behind (a.length + 1))) ∧
    (∀ (cs : List Char) (i : Nat), i < cs.length → ∃ r, turn? cs i = some r ∧
      ∀ found j, r = .ok (found, j) → i < j ∧ j ≤ cs.length) ∧
    ∀ cs : List Char, ∃ turns ≤ cs.length,
      ∀ (n : Nat) (r : Except Fault (List Token)), Scans cs 0 n r ↔ n = turns ∧ r = tokens cs := by
  refine ⟨fun a b ta ha => ⟨fun tb hb => ?_, fun f hb => ?_⟩, fun cs i hi => turn?_moves hi,
    scans_iff⟩
  · rw [tokens_append_space ha, hb]
    rfl
  · rw [tokens_append_space ha, hb]
    rfl

/-- Without the space, `(1 <` and `= 2` are tokens of one text; with it, the single `=` is found
where it stands in the whole text. A text that ends behind a backslash is not looked for any
further. -/
theorem tokens_joined_single :
    tokens "(1 <= 2".toList =
        .ok [.openParen, .literal (.int 1), .compare .le, .literal (.int 2)] ∧
      tokens "(1 < = 2".toList = .error (.unexpectedChar '=' 5) ∧
      tokens "(1 < -2)".toList =
        .ok [.openParen, .literal (.int 1), .compare .lt, .literal (.int (-2)), .closeParen] ∧
      ∃ r, turn? "\"\\".toList 0 = some r ∧ ∀ found j, r = .ok (found, j) → 0 < j ∧ j ≤ 2 :=
  have hfirst : tokens "(1 <".toList = .ok [.openParen, .literal (.int 1), .compare .lt] := by cbv
  ⟨by cbv, (tokens_joined.1 "(1 <".toList "= 2".toList _ hfirst).2 (.unexpectedChar '=' 0) (by cbv),
    (tokens_joined.1 "(1 <".toList "-2)".toList _ hfirst).1 [.literal (.int (-2)), .closeParen]
      (by cbv),
    tokens_joined.2.1 "\"\\".toList 0 (by decide)⟩

end Flowscript.Condition
