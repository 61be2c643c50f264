import Flowscript.Proofs.Condition.Spelling

/-!
# Reading tokens by positions

The tokens of a condition, read by a loop that keeps a position in the text. It may look whether
characters stand behind the position, but the characters that it takes it asks for by their
positions; where one of those lay behind the end, there would be no answer at all.

There always is one, and each turn of the loop moves the position forward (`turn?_moves`). The loop
comes to the tokens of the text, in at most as many turns as there are characters (`scans_iff`).
Positions and what is left of a text go together by `cs.drop i = rest`.
-/

namespace Flowscript.Condition

/-- The characters between two positions; there are none to ask for behind the end. -/
def slice? (cs : List Char) (start stop : Nat) : Option (List Char) :=
  if start ≤ stop ∧ stop ≤ cs.length then some ((cs.drop start).take (stop - start)) else none

/-- The operator that a character starts, and how many characters it has. -/
def comparisonOf? (c : Char) (next : Option Char) : Option (Comparison × Nat) :=
  match c, next with
  | '=', some '=' => some (.eq, 2)
  | '!', some '=' => some (.ne, 2)
  | '<', some '=' => some (.le, 2)
  | '>', some '=' => some (.ge, 2)
  | '<', _ => some (.lt, 1)
  | '>', _ => some (.gt, 1)
  | _, _ => none

/-- Whether a number starts with a character, by the two behind it. -/
def opensNumber (c : Char) (next after : Option Char) : Bool :=
  c.isDigit || match c with
    | '-' | '+' => next.any Char.isDigit || (next = some '.' && after.any Char.isDigit)
    | '.' => next.any Char.isDigit
    | _ => false

/-- The text from a position up to the closing quote, and the position behind that. -/
def stringAt? (cs : List Char) (quote : Char) (i : Nat) :
    Option (Except Fault (List Char × Nat)) :=
  if i < cs.length then
    match cs[i]? with
    | none => none
    | some c =>
      if c = '\\' then
        -- The text may end behind the backslash.
        match cs[i + 1]? with
        | none => some (.error .unterminatedString)
        | some d =>
          (stringAt? cs quote (i + 2)).map (·.map fun (text, j) => (unescape d :: text, j))
      else if c = quote then some (.ok ([], i + 1))
      else (stringAt? cs quote (i + 1)).map (·.map fun (text, j) => (c :: text, j))
  else some (.error .unterminatedString)
termination_by cs.length - i

/-- The position behind the digits, points and powers of ten from a position on, and whether there
was a point or a power. -/
def numeralEnd? (cs : List Char) (pointed : Bool) (i : Nat) : Option (Nat × Bool) :=
  if i < cs.length then
    match cs[i]? with
    | none => none
    | some c =>
      if c.isDigit then numeralEnd? cs pointed (i + 1)
      else if c = '.' && !pointed then numeralEnd? cs true (i + 1)
      else if c = 'e' || c = 'E' then
        if i + 1 < cs.length then
          match cs[i + 1]? with
          | none => none
          | some d => numeralEnd? cs true (if d = '-' || d = '+' then i + 2 else i + 1)
        else numeralEnd? cs true (i + 1)
      else some (i, pointed)
  else some (i, pointed)
termination_by cs.length - i
decreasing_by all_goals grind

/-- The position behind a word from a position on. -/
def wordEnd? (cs : List Char) (i : Nat) : Option Nat :=
  if i < cs.length then
    match cs[i]? with
    | none => none
    | some c => if continuesWord c then wordEnd? cs (i + 1) else some i
  else some i
termination_by cs.length - i

/-- The token from a position on, where `c` stands, and the position behind it. -/
def tokenAt? (cs : List Char) (i : Nat) (c : Char) : Option (Except Fault (Token × Nat)) :=
  if c = '(' then some (.ok (.openParen, i + 1))
  else if c = ')' then some (.ok (.closeParen, i + 1))
  else
    -- The text may end before the characters that are looked at here and below.
    match comparisonOf? c cs[i + 1]? with
    | some (op, width) => some (.ok (.compare op, i + width))
    | none =>
      if c = '"' || c.toNat = 0x27 then
        (stringAt? cs c (i + 1)).map
          (·.map fun (text, j) => (.literal (.str (String.ofList text)), j))
      else if opensNumber c cs[i + 1]? cs[i + 2]? then
        (numeralEnd? cs false (if c = '-' || c = '+' then i + 1 else i)).bind fun (j, pointed) =>
          (slice? cs i j).map fun text => (numberLiteral text pointed).map (.literal ·, j)
      else if startsWord c then
        (wordEnd? cs i).bind fun j =>
          (slice? cs i j).map fun word => (wordToken (String.ofList word)).map (·, j)
      else some (.error (.unexpectedChar c i))

/-- A turn of the loop: the token that it finds, if it does not pass over a blank, and the position
that it moves to. -/
def turn? (cs : List Char) (i : Nat) : Option (Except Fault (Option Token × Nat)) :=
  match cs[i]? with
  | none => none
  | some c =>
    if Text.isBlank c then some (.ok (none, i + 1))
    else (tokenAt? cs i c).map (·.map fun (t, j) => (some t, j))

/-- What the loop comes to from a position, and in how many turns. -/
inductive Scans (cs : List Char) : Nat → Nat → Except Fault (List Token) → Prop
  | done {i : Nat} (hend : cs.length ≤ i) : Scans cs i 0 (.ok [])
  | fault {i : Nat} {f : Fault} (hi : i < cs.length) (hturn : turn? cs i = some (.error f)) :
      Scans cs i 1 (.error f)
  | next {i j turns : Nat} {found : Option Token} {r : Except Fault (List Token)}
      (hi : i < cs.length) (hturn : turn? cs i = some (.ok (found, j))) (h : Scans cs j turns r) :
      Scans cs i (turns + 1) (r.map (found.toList ++ ·))

variable {cs rest : List Char} {c : Char} {i j : Nat}

/-! ## Positions and what follows them -/

theorem lt_length_of_drop (h : cs.drop i = c :: rest) : i < cs.length := by
  refine Nat.lt_of_not_le fun hend => ?_
  rw [List.drop_eq_nil_of_le hend] at h
  cases h

theorem getElem?_of_drop (h : cs.drop i = c :: rest) : cs[i]? = some c := by
  rw [← List.head?_drop, h, List.head?_cons]

theorem getElem?_add_of_drop (h : cs.drop i = c :: rest) (k : Nat) :
    cs[i + (k + 1)]? = rest[k]? := by
  rw [← List.getElem?_drop, h, List.getElem?_cons_succ]

theorem drop_of_drop (h : cs.drop i = c :: rest) : cs.drop (i + 1) = rest := by
  rw [← List.drop_drop, h, List.drop_one, List.tail_cons]

theorem length_sub_of_drop (hi : i ≤ cs.length) (h : cs.drop i = rest) :
    cs.length - rest.length = i := by
  rw [← h, List.length_drop]
  omega

/-- The characters in front of what is left. -/
theorem slice?_of_drop {text after : List Char} (hi : i ≤ cs.length)
    (h : cs.drop i = text ++ after) : slice? cs i (cs.length - after.length) = some text := by
  have hlength := congrArg List.length h
  rw [List.length_drop, List.length_append] at hlength
  rw [slice?, if_pos (by omega), h]
  have htext : cs.length - after.length - i = text.length := by omega
  simp [htext]

/-- What is read, with the position behind it in place of what is left. -/
def located {α : Type} (cs : List Char) (r : Except Fault (α × List Char)) :
    Except Fault (α × Nat) :=
  r.map fun (a, after) => (a, cs.length - after.length)

/-! ## What is looked at -/

theorem readComparison?_eq (c : Char) (rest : List Char) :
    readComparison? (c :: rest) =
      (comparisonOf? c rest.head?).map fun (op, width) => (op, rest.drop (width - 1)) := by
  unfold readComparison? comparisonOf?
  cases rest <;> grind

theorem startsNumber_eq (c : Char) (rest : List Char) :
    startsNumber (c :: rest) = opensNumber c rest.head? rest.tail.head? := by
  unfold startsNumber opensNumber
  cases rest <;> grind

theorem stringAt?_cons (quote : Char) (h : cs.drop i = c :: rest) :
    stringAt? cs quote i =
      if c = '\\' then
        match rest.head? with
        | none => some (.error .unterminatedString)
        | some d =>
          (stringAt? cs quote (i + 2)).map (·.map fun (text, j) => (unescape d :: text, j))
      else if c = quote then some (.ok ([], i + 1))
      else (stringAt? cs quote (i + 1)).map (·.map fun (text, j) => (c :: text, j)) := by
  rw [stringAt?, if_pos (lt_length_of_drop h), getElem?_of_drop h, getElem?_add_of_drop h 0,
    List.head?_eq_getElem?]

theorem stringAt?_eq (quote : Char) (hi : i ≤ cs.length) (h : cs.drop i = rest) :
    stringAt? cs quote i = some (located cs (readString quote rest)) := by
  fun_induction readString quote rest generalizing i with
  | case1 =>
    rw [stringAt?, if_neg (Nat.not_lt_of_le (List.drop_eq_nil_iff.mp h))]
    rfl
  | case2 =>
    rw [stringAt?_cons quote h]
    rfl
  | case3 c rest f hfail ih | case4 c rest text after hread ih =>
    have hnext := drop_of_drop h
    rw [stringAt?_cons quote h, if_pos rfl, List.head?_cons,
      ih (lt_length_of_drop hnext) (drop_of_drop hnext), ‹readString quote rest = _›]
    rfl
  | case5 rest hlone hescape =>
    have hend := length_sub_of_drop (lt_length_of_drop h) (drop_of_drop h)
    rw [stringAt?_cons quote h, if_neg (ne_escape hlone hescape), if_pos rfl]
    simp [located, Except.map, hend]
  | case6 c rest hlone hescape hquote f hfail ih
  | case7 c rest hlone hescape hquote text after hread ih =>
    rw [stringAt?_cons quote h, if_neg (ne_escape hlone hescape), if_neg hquote,
      ih (lt_length_of_drop h) (drop_of_drop h), ‹readString quote rest = _›]
    rfl

theorem numeralEnd?_cons (pointed : Bool) (h : cs.drop i = c :: rest) :
    numeralEnd? cs pointed i =
      if c.isDigit then numeralEnd? cs pointed (i + 1)
      else if c = '.' && !pointed then numeralEnd? cs true (i + 1)
      else if c = 'e' || c = 'E' then
        numeralEnd? cs true
          (if rest.head? = some '-' || rest.head? = some '+' then i + 2 else i + 1)
      else some (i, pointed) := by
  rw [numeralEnd?, if_pos (lt_length_of_drop h), getElem?_of_drop h]
  cases rest with
  | nil =>
    have hend : ¬ i + 1 < cs.length := Nat.not_lt_of_le (List.drop_eq_nil_iff.mp (drop_of_drop h))
    simp [hend]
  | cons d more =>
    have hnext := getElem?_add_of_drop h 0
    rw [List.getElem?_cons_zero, Nat.zero_add] at hnext
    simp only [lt_length_of_drop (drop_of_drop h), if_true, hnext, List.head?_cons,
      Option.some.injEq]

theorem numeralEnd?_eq (pointed : Bool) (hi : i ≤ cs.length) (h : cs.drop i = rest) :
    numeralEnd? cs pointed i = some (cs.length - (readNumeral pointed rest).2.1.length,
      (readNumeral pointed rest).2.2) := by
  fun_induction readNumeral pointed rest generalizing i with
  | case1 pointed =>
    have hend := length_sub_of_drop hi h
    rw [numeralEnd?, if_neg (Nat.not_lt_of_le (List.drop_eq_nil_iff.mp h))]
    simpa using hend.symm
  | case2 pointed c rest hdigit _ _ _ hread ih =>
    rw [numeralEnd?_cons pointed h, if_pos hdigit, ih (lt_length_of_drop h) (drop_of_drop h), hread]
  | case3 pointed c rest hdigit hpoint _ _ _ hread ih =>
    rw [numeralEnd?_cons pointed h, if_neg hdigit, if_pos hpoint,
      ih (lt_length_of_drop h) (drop_of_drop h), hread]
  | case4 pointed c hdigit hpoint hpower rest _ _ _ hread ih
  | case5 pointed c hdigit hpoint hpower rest _ _ _ hread ih =>
    have hnext := drop_of_drop h
    rw [numeralEnd?_cons pointed h, if_neg hdigit, if_neg hpoint, if_pos hpower, if_pos (by simp),
      ih (lt_length_of_drop hnext) (drop_of_drop hnext), hread]
  | case6 pointed c hdigit hpoint hpower rest hminus hplus _ _ _ hread ih =>
    have hsign : ¬ (rest.head? = some '-' || rest.head? = some '+') = true := by
      simp only [Bool.or_eq_true, decide_eq_true_eq, List.head?_eq_some_iff]
      rintro (⟨more, hmore⟩ | ⟨more, hmore⟩)
      · exact hminus more hmore
      · exact hplus more hmore
    rw [numeralEnd?_cons pointed h, if_neg hdigit, if_neg hpoint, if_pos hpower, if_neg hsign,
      ih (lt_length_of_drop h) (drop_of_drop h), hread]
  | case7 pointed c rest hdigit hpoint hpower =>
    rw [numeralEnd?_cons pointed h, if_neg hdigit, if_neg hpoint, if_neg hpower,
      length_sub_of_drop hi h]

theorem wordEnd?_eq (hi : i ≤ cs.length) (h : cs.drop i = rest) :
    wordEnd? cs i = some (cs.length - (rest.dropWhile continuesWord).length) := by
  induction rest generalizing i with
  | nil =>
    rw [wordEnd?, if_neg (Nat.not_lt_of_le (List.drop_eq_nil_iff.mp h)), List.dropWhile_nil,
      ← length_sub_of_drop hi h]
  | cons c rest ih =>
    rw [wordEnd?, if_pos (lt_length_of_drop h), getElem?_of_drop h, List.dropWhile_cons]
    by_cases hc : continuesWord c = true
    · rw [if_pos hc]
      simpa [hc] using ih (lt_length_of_drop h) (drop_of_drop h)
    · simp only [hc]
      simpa using (length_sub_of_drop hi h).symm

theorem width_of_comparisonOf? {op : Comparison} {width : Nat}
    (h : comparisonOf? c rest.head? = some (op, width)) : 1 ≤ width ∧ width ≤ rest.length + 1 := by
  unfold comparisonOf? at h
  cases rest <;> split at h <;> cases h <;> simp_all

theorem continuesWord_of_startsWord (h : startsWord c = true) : continuesWord c = true := by
  simp only [startsWord, continuesWord, Text.isAlphanumeric, Bool.or_eq_true] at h ⊢
  exact h.imp_left .inl

/-- A number behind its first character: a sign and a point have been taken with it. -/
theorem numeralEnd?_of_opensNumber (h : cs.drop i = c :: rest) {next after : Option Char}
    (hstart : opensNumber c next after = true) :
    numeralEnd? cs false (if c = '-' || c = '+' then i + 1 else i) =
      numeralEnd? cs (c = '.') (i + 1) := by
  by_cases hsign : c = '-' ∨ c = '+'
  · rcases hsign with rfl | rfl <;> simp
  · by_cases hpoint : c = '.'
    · subst hpoint
      simp [numeralEnd?_cons false h]
    · have hdigit : c.isDigit = true := by
        unfold opensNumber at hstart
        split at hstart <;> simp_all
      simp [hsign, hpoint, numeralEnd?_cons false h, hdigit]

theorem tokenAt?_eq (h : cs.drop i = c :: rest) :
    tokenAt? cs i c = some (located cs (readToken cs.length c rest)) := by
  have hi := lt_length_of_drop h
  have hrest := drop_of_drop h
  have hend := length_sub_of_drop hi hrest
  have hnext : cs[i + 1]? = rest.head? := by
    rw [getElem?_add_of_drop h 0, List.head?_eq_getElem?]
  have hafter : cs[i + 2]? = rest.tail.head? := by
    rw [getElem?_add_of_drop h 1, List.head?_tail]
  unfold tokenAt? readToken
  rw [hnext, hafter, readComparison?_eq, startsNumber_eq]
  by_cases hopen : c = '('
  · simp [hopen, located, Except.map, hend]
  by_cases hclose : c = ')'
  · simp [hclose, located, Except.map, hend]
  simp only [hopen, hclose, if_false]
  cases hop : comparisonOf? c rest.head? with
  | some found =>
    obtain ⟨op, width⟩ := found
    have hwidth := width_of_comparisonOf? hop
    have hplace : cs.length - (rest.drop (width - 1)).length = i + width := by
      rw [List.length_drop]
      omega
    simp only [Option.map_some, located, Except.map, hplace]
  | none =>
    simp only [Option.map_none]
    by_cases hquote : (c = '"' || c.toNat = 0x27) = true
    · rw [if_pos hquote, if_pos hquote, stringAt?_eq c hi hrest]
      cases readString c rest <;> rfl
    rw [if_neg hquote, if_neg hquote]
    by_cases hnumber : opensNumber c rest.head? rest.tail.head? = true
    · have htext := readNumeral_append (c = '.') rest
      rw [if_pos hnumber, if_pos hnumber, numeralEnd?_of_opensNumber h hnumber,
        numeralEnd?_eq (c = '.') hi hrest]
      generalize readNumeral (c = '.') rest = numeral at htext ⊢
      obtain ⟨text, after, pointed⟩ := numeral
      have hslice : slice? cs i (cs.length - after.length) = some (c :: text) :=
        slice?_of_drop (Nat.le_of_lt hi) (by rw [h, List.cons_append, htext])
      simp only [Option.bind_some, hslice, Option.map_some]
      cases numberLiteral (c :: text) pointed <;> rfl
    rw [if_neg hnumber, if_neg hnumber]
    by_cases hword : startsWord c = true
    · have hslice : slice? cs i (cs.length - (rest.dropWhile continuesWord).length) =
          some (c :: rest.takeWhile continuesWord) :=
        slice?_of_drop (Nat.le_of_lt hi)
          (by rw [h, List.cons_append, List.takeWhile_append_dropWhile])
      rw [if_pos hword, if_pos hword, wordEnd?_eq (Nat.le_of_lt hi) h,
        List.dropWhile_cons_of_pos (continuesWord_of_startsWord hword), Option.bind_some, hslice,
        Option.map_some]
      cases wordToken (String.ofList (c :: rest.takeWhile continuesWord)) <;> rfl
    rw [if_neg hword, if_neg hword]
    have hoffset : cs.length - (rest.length + 1) = i := by omega
    rw [located, Except.map, hoffset]

/-- A turn of the loop reads what the text that is left starts with. -/
theorem turn?_eq (h : cs.drop i = c :: rest) :
    turn? cs i = some (if Text.isBlank c then .ok (none, i + 1)
      else (located cs (readToken cs.length c rest)).map fun (t, j) => (some t, j)) := by
  rw [turn?, getElem?_of_drop h]
  simp only
  split
  · rfl
  · rw [tokenAt?_eq h, Option.map_some]

/-- A turn asks for no character behind the end, and moves the position forward, to the end at
most. What is left behind the new position is what is left behind the token. -/
theorem turn?_moves (hi : i < cs.length) :
    ∃ r, turn? cs i = some r ∧ ∀ found j, r = .ok (found, j) → i < j ∧ j ≤ cs.length := by
  have h := List.drop_eq_getElem_cons hi
  refine ⟨_, turn?_eq h, fun found j hr => ?_⟩
  split at hr
  · cases hr
    omega
  · cases hread : readToken cs.length cs[i] (cs.drop (i + 1)) with
    | error f =>
      rw [hread] at hr
      cases hr
    | ok read =>
      obtain ⟨t, after⟩ := read
      have hlength := length_readToken_le hread
      rw [List.length_drop] at hlength
      rw [hread] at hr
      cases hr
      omega

/-! ## The loop -/

theorem readToken_suffix {total : Nat} {t : Token} {after : List Char}
    (h : readToken total c rest = .ok (t, after)) : after <:+ rest := by
  unfold readToken at h
  split at h
  · cases h
    exact List.suffix_rfl
  split at h
  · cases h
    exact List.suffix_rfl
  rw [readComparison?_eq] at h
  split at h
  · next hop =>
    obtain ⟨found, -, hfound⟩ := Option.map_eq_some_iff.mp hop
    cases hfound
    cases h
    exact List.drop_suffix _ rest
  split at h
  · split at h
    · cases h
    · next hread =>
      cases h
      obtain ⟨body, rfl, -⟩ := exists_quoted_of_readString hread
      exact ((List.suffix_cons c after).trans (List.suffix_append body _))
  split at h
  · simp only at h
    split at h
    · cases h
    · cases h
      exact ⟨_, readNumeral_append _ rest⟩
  split at h
  · split at h
    · cases h
    · cases h
      exact List.dropWhile_suffix _
  · cases h

/-- What is left behind a token starts at the position behind it. -/
theorem drop_of_readToken {total : Nat} {t : Token} {after : List Char} (h : cs.drop i = c :: rest)
    (hread : readToken total c rest = .ok (t, after)) :
    cs.drop (cs.length - after.length) = after :=
  have hrest : rest <:+ cs := drop_of_drop h ▸ List.drop_suffix (i + 1) cs
  (List.suffix_iff_eq_drop.mp ((readToken_suffix hread).trans hrest)).symm

theorem map_nil_append (r : Except Fault (List Token)) : r.map ([] ++ ·) = r := by
  cases r <;> rfl

/-- The loop comes to the tokens of the text that is left, in at most as many turns as that has
characters. -/
theorem exists_scans (hi : i ≤ cs.length) (h : cs.drop i = rest) :
    ∃ turns ≤ rest.length, Scans cs i turns (tokensOf cs.length rest) := by
  fun_induction tokensOf cs.length rest generalizing i with
  | case1 => exact ⟨0, Nat.le_refl 0, .done (List.drop_eq_nil_iff.mp h)⟩
  | case2 c rest hblank ih =>
    obtain ⟨turns, hturns, hscans⟩ := ih (lt_length_of_drop h) (drop_of_drop h)
    have hturn := turn?_eq h
    rw [if_pos hblank] at hturn
    have hnext := Scans.next (lt_length_of_drop h) hturn hscans
    rw [Option.toList_none, map_nil_append] at hnext
    exact ⟨turns + 1, Nat.succ_le_succ hturns, hnext⟩
  | case3 c rest hblank f hfail =>
    have hturn := turn?_eq h
    rw [if_neg hblank, hfail] at hturn
    exact ⟨1, Nat.succ_le_succ (Nat.zero_le _), .fault (lt_length_of_drop h) hturn⟩
  | case4 c rest hblank t after hread f hmore ih
  | case5 c rest hblank t after hread ts hmore ih =>
    obtain ⟨turns, hturns, hscans⟩ := ih (Nat.sub_le ..) (drop_of_readToken h hread)
    have hturn := turn?_eq h
    rw [if_neg hblank, hread] at hturn
    have hnext := Scans.next (lt_length_of_drop h) hturn hscans
    rw [hmore] at hnext
    exact ⟨turns + 1, Nat.succ_le_succ (hturns.trans (length_readToken_le hread)), hnext⟩

/-- The loop comes to one result only, and always in as many turns. -/
theorem Scans.deterministic {m n : Nat} {r r' : Except Fault (List Token)} (h : Scans cs i m r)
    (h' : Scans cs i n r') : m = n ∧ r = r' := by
  induction h generalizing n r' with
  | done hend =>
    cases h' with
    | done => exact ⟨rfl, rfl⟩
    | fault hi | next hi => exact absurd hi (Nat.not_lt_of_le hend)
  | fault hi hturn =>
    cases h' with
    | done hend => exact absurd hi (Nat.not_lt_of_le hend)
    | fault _ hturn' =>
      cases hturn.symm.trans hturn'
      exact ⟨rfl, rfl⟩
    | next _ hturn' => cases hturn.symm.trans hturn'
  | next hi hturn _ ih =>
    cases h' with
    | done hend => exact absurd hi (Nat.not_lt_of_le hend)
    | fault _ hturn' => cases hturn.symm.trans hturn'
    | next _ hturn' hrest =>
      cases hturn.symm.trans hturn'
      obtain ⟨rfl, rfl⟩ := ih hrest
      exact ⟨rfl, rfl⟩

/-- From the start of a text, the loop comes to its tokens and stops. -/
theorem scans_iff (cs : List Char) :
    ∃ turns ≤ cs.length, ∀ n r, Scans cs 0 n r ↔ n = turns ∧ r = tokens cs := by
  obtain ⟨turns, hturns, hscans⟩ := exists_scans (Nat.zero_le cs.length) List.drop_zero
  refine ⟨turns, hturns, fun n r => ⟨fun h => h.deterministic hscans, ?_⟩⟩
  rintro ⟨rfl, rfl⟩
  exact hscans

end Flowscript.Condition
