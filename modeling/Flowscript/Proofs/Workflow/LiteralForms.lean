import Flowscript.Proofs.Decimal.Nearest
import Flowscript.Proofs.Workflow.Literals

/-!
# The forms of literals

Texts of six forms denote values, and each of them one: text in quotes, the words of the truth
values, integers of 64 bits, numbers with a point, lists in brackets, and objects in JSON. What is
read is the value that a text denotes, and any text of no such form is kept as it stands. The
recognisers let more through than the forms have, so what they leave to the readers behind them is
part of the argument. The main statement is `value_eq_iff`.
-/

namespace Flowscript

namespace Digits

variable {negative : Bool} {digits cs : List Char}

/-- A minus sign, or nothing. -/
def sign (negative : Bool) : List Char :=
  if negative then ['-'] else []

theorem signed_cons {c : Char} (hc : c.isDigit = true) (cs : List Char) :
    signed (c :: cs) = (false, c :: cs) := by
  unfold signed
  split
  · next heq =>
    obtain rfl := (List.cons.inj heq).1
    cases hc
  · next heq =>
    obtain rfl := (List.cons.inj heq).1
    cases hc
  · rfl

theorem signed_sign_append (h : isRun digits = true) (negative : Bool) (after : List Char) :
    signed (sign negative ++ (digits ++ after)) = (negative, digits ++ after) := by
  cases negative with
  | true => rfl
  | false =>
    obtain ⟨hne, hdigits⟩ := isRun_iff.mp h
    obtain ⟨c, rest, rfl⟩ := List.exists_cons_of_ne_nil hne
    exact signed_cons (hdigits c List.mem_cons_self) (rest ++ after)

/-- A text without a plus sign in front is its sign and what follows. -/
theorem sign_append_signed (h : '+' ∉ cs) : sign (signed cs).1 ++ (signed cs).2 = cs := by
  unfold signed
  split
  · rfl
  · exact absurd List.mem_cons_self h
  · rfl

theorem int?_sign_append (h : isRun digits = true) (negative : Bool) :
    int? (sign negative ++ digits) =
      some (if negative then -(value digits : Int) else value digits) := by
  have hsigned := signed_sign_append h negative []
  rw [List.append_nil] at hsigned
  simp only [int?, hsigned, h, if_true]

theorem point_not_mem (h : ∀ c ∈ digits, c.isDigit = true) (negative : Bool) :
    '.' ∉ sign negative ++ digits := by
  intro hmem
  rcases List.mem_append.mp hmem with hmem | hmem
  · cases negative <;> simp [sign] at hmem
  · cases h '.' hmem

end Digits

namespace Literal

/-- The texts of each form, and what they denote. -/
inductive Denotes : List Char → Value → Prop where
  | quoted (inner : List Char) : Denotes ('"' :: (inner ++ ['"'])) (.string (String.ofList inner))
  /-- A truth value is written in any case of letters. -/
  | truth {cs : List Char} (b : Bool) (h : cs.map Char.toLower = (toString b).toList) :
    Denotes cs (.bool b)
  | integer {digits : List Char} (negative : Bool) (i : Int64)
    (hdigits : Digits.isRun digits = true)
    (hi : i.toInt = if negative then -(Digits.value digits : Int) else Digits.value digits) :
    Denotes (Digits.sign negative ++ digits) (.int i)
  /-- There are digits on both sides of the point, and the number is the nearest double. -/
  | pointed {whole fraction : List Char} {m : Nat} (negative : Bool)
    (hwhole : Digits.isRun whole = true) (hfraction : Digits.isRun fraction = true)
    (hm : Format.binary64.IsNearest
      (Digits.value (whole ++ fraction) / 10 ^ fraction.length) m) :
    Denotes (Digits.sign negative ++ (whole ++ '.' :: fraction))
      (.float (.ofBits (.ofNat (Format.binary64.signedBits negative m))))
  /-- The items of a list are texts; blanks around them and empty ones do not count. -/
  | list {first : List Char} {more : List (List Char)} (h : ∀ piece ∈ first :: more, ',' ∉ piece) :
    Denotes ('[' :: ([','].intercalate (first :: more) ++ [']']))
      (.list ((((first :: more).map Text.trim).filter (!·.isEmpty)).map fun item =>
        .string (String.ofList item)))
  | object {cs : List Char} {members : Object} (hfirst : cs.head? = some '{')
    (hlast : cs.getLast? = some '}') (h : Value.read? cs = some (.object members)) :
    Denotes cs (.object members)

variable {c : Char} {cs whole fraction digits : List Char} {v : Value}

/-! ## What the recognisers accept -/

theorem isInteger_iff :
    isInteger cs = true ↔
      ∃ negative digits, cs = Digits.sign negative ++ digits ∧ Digits.isRun digits = true := by
  constructor
  · intro h
    unfold isInteger at h
    split at h
    · next digits => exact ⟨true, digits, rfl, h⟩
    · exact ⟨false, cs, rfl, h⟩
  · rintro ⟨negative, digits, rfl, h⟩
    cases negative with
    | true => exact h
    | false =>
      unfold isInteger
      split
      · next rest heq =>
        obtain rfl : digits = '-' :: rest := heq
        cases h
      · exact h

/-- Of the texts with a minus sign and digits, those of 64 bits are. -/
theorem integer?_eq_some_iff {i : Int64} :
    integer? cs = some i ↔
      ∃ negative digits, cs = Digits.sign negative ++ digits ∧ Digits.isRun digits = true ∧
        i.toInt = if negative then -(Digits.value digits : Int) else Digits.value digits := by
  constructor
  · intro h
    obtain ⟨hform, hread⟩ := Option.ite_none_right_eq_some.mp h
    obtain ⟨negative, digits, rfl, hdigits⟩ := isInteger_iff.mp hform
    rw [Digits.int64?_eq_some_iff, Digits.int?_sign_append hdigits] at hread
    exact ⟨negative, digits, rfl, hdigits, (Option.some.inj hread).symm⟩
  · rintro ⟨negative, digits, rfl, hdigits, hi⟩
    rw [integer?, if_pos (isInteger_iff.mpr ⟨negative, digits, rfl, hdigits⟩),
      Digits.int64?_eq_some_iff, Digits.int?_sign_append hdigits, hi]

theorem isPointed_append (hwhole : ∀ c ∈ whole, c.isDigit = true)
    (hfraction : ∀ c ∈ fraction, c.isDigit = true) (negative : Bool) :
    isPointed (Digits.sign negative ++ (whole ++ '.' :: fraction)) =
      (Digits.isRun whole && Digits.isRun fraction) := by
  have hminus {digits : List Char} (h : ∀ c ∈ digits, c.isDigit = true) :
      digits.filter (· != '-') = digits := by
    refine List.filter_eq_self.mpr fun c hc => bne_iff_ne.mpr ?_
    rintro rfl
    cases h _ hc
  have hfilter : (Digits.sign negative ++ (whole ++ '.' :: fraction)).filter (· != '-') =
      whole ++ '.' :: fraction := by
    cases negative <;> simp [Digits.sign, hminus hwhole, hminus hfraction]
  have hpieces : Text.pieces '.' (whole ++ '.' :: fraction) = [whole, fraction] := by
    have hpoint {digits : List Char} (h : ∀ c ∈ digits, c.isDigit = true) : '.' ∉ digits := by
      intro hmem
      cases h '.' hmem
    rw [Text.pieces_append (hpoint hwhole), Text.pieces_of_not_mem (hpoint hfraction)]
  simp [isPointed, hfilter, hpieces]

theorem read?_append (hwhole : Digits.isRun whole = true) (hfraction : Digits.isRun fraction = true)
    (negative : Bool) :
    Numeral.read? (Digits.sign negative ++ (whole ++ '.' :: fraction)) =
      some { negative, whole, fraction, power := 0 } := by
  obtain ⟨hne, hdigits⟩ := Digits.isRun_iff.mp hwhole
  have hends : ∀ c ∈ ('.' :: fraction).head?, c.isDigit = false := by
    rintro _ ⟨⟩
    rfl
  have hbehind : fraction.takeWhile Char.isDigit = fraction ∧
      fraction.dropWhile Char.isDigit = [] :=
    ⟨List.takeWhile_eq_self_iff.mpr (Digits.isRun_iff.mp hfraction).2,
      List.dropWhile_eq_nil_iff.mpr (Digits.isRun_iff.mp hfraction).2⟩
  simp only [Numeral.read?, Digits.signed_sign_append hwhole,
    Text.takeWhile_append_of_ends hdigits hends, Text.dropWhile_append_of_ends hdigits hends,
    Numeral.afterPoint, hbehind, Numeral.power?, Option.map_some]
  simp [hne]

/-- What looks like a number with a point is read as a numeral only if it has the form of one. -/
theorem eq_append_of_isPointed {n : Numeral} (h : isPointed cs = true)
    (hread : Numeral.read? cs = some n) :
    cs = Digits.sign n.negative ++ (n.whole ++ '.' :: n.fraction) ∧
      Digits.isRun n.whole = true ∧ Digits.isRun n.fraction = true := by
  have hplus : '+' ∉ cs := by
    intro hmem
    rcases of_isPointed h hmem with heq | heq | heq <;> cases heq
  have hsign := Digits.sign_append_signed hplus
  -- No power of ten follows, for want of its letter.
  have hpower {rest : List Char} {p : Int} (hrest : rest ⊆ cs)
      (hp : Numeral.power? rest = some p) : rest = [] := by
    cases rest with
    | nil => rfl
    | cons c rest =>
      have hletter := (Option.ite_none_right_eq_some.mp hp).1
      rcases of_isPointed h (hrest List.mem_cons_self) with rfl | rfl | hdigit
      · cases hletter
      · cases hletter
      · simp only [Bool.or_eq_true, decide_eq_true_eq] at hletter
        rcases hletter with rfl | rfl <;> cases hdigit
  simp only [Numeral.read?] at hread
  obtain ⟨-, hread⟩ := Option.ite_none_left_eq_some.mp hread
  obtain ⟨p, hp, rfl⟩ := Option.map_eq_some_iff.mp hread
  clear hread
  dsimp only
  have hbody := List.takeWhile_append_dropWhile (p := Char.isDigit) (l := (Digits.signed cs).2)
  have hwhole : ∀ c ∈ (Digits.signed cs).2.takeWhile Char.isDigit, c.isDigit = true :=
    fun c hc => List.mem_takeWhile_imp hc
  generalize (Digits.signed cs).2.takeWhile Char.isDigit = whole at *
  generalize (Digits.signed cs).2.dropWhile Char.isDigit = after at *
  rw [← hbody] at hsign
  have hafter : after ⊆ cs := by
    rw [← hsign]
    exact List.subset_append_of_subset_right _ (List.subset_append_right _ _)
  by_cases hpoint : ∃ rest, after = '.' :: rest
  · obtain ⟨rest, rfl⟩ := hpoint
    have hend : rest.dropWhile Char.isDigit = [] := by
      refine hpower (fun c hc => hafter ?_) hp
      exact List.mem_cons_of_mem _ ((List.dropWhile_sublist _).subset hc)
    have hfraction := List.dropWhile_eq_nil_iff.mp hend
    have hform : (Numeral.afterPoint ('.' :: rest)).1 = rest :=
      List.takeWhile_eq_self_iff.mpr hfraction
    rw [← hsign, isPointed_append hwhole hfraction] at h
    rw [hform]
    exact ⟨hsign.symm, Bool.and_eq_true_iff.mp h⟩
  · -- Without a point behind the digits there is none in the text, but the text has one.
    have hnone : Numeral.afterPoint after = ([], after) := by
      unfold Numeral.afterPoint
      split
      · exact absurd ⟨_, rfl⟩ hpoint
      · rfl
    rw [hnone] at hp
    obtain rfl : after = [] := hpower hafter hp
    have hmem : '.' ∈ cs := by simpa using (Bool.and_eq_true_iff.mp h).1
    rw [← hsign, List.append_nil] at hmem
    exact absurd hmem (Digits.point_not_mem hwhole _)

theorem isNearest_magnitude (negative : Bool) (whole fraction : List Char) :
    Format.binary64.IsNearest (Digits.value (whole ++ fraction) / 10 ^ fraction.length)
      (Format.binary64.round (Numeral.magnitude { negative, whole, fraction, power := 0 })) := by
  have hnearest := Format.isNearest_binary64
    (Numeral.magnitude { negative, whole, fraction, power := 0 })
  have hvalue : Decimal.toRat (Numeral.magnitude { negative, whole, fraction, power := 0 }) =
      Digits.value (whole ++ fraction) / 10 ^ fraction.length := by
    rw [Decimal.toRat, Numeral.magnitude, Int.zero_sub, zpow_neg, zpow_natCast, div_eq_mul_inv]
  rwa [hvalue] at hnearest

/-- The numbers with a point, each read as the double nearest to it. -/
theorem pointed?_eq_some_iff {x : Float} :
    pointed? cs = some x ↔
      ∃ negative whole fraction, cs = Digits.sign negative ++ (whole ++ '.' :: fraction) ∧
        Digits.isRun whole = true ∧ Digits.isRun fraction = true ∧
        ∃ m, Format.binary64.IsNearest
            (Digits.value (whole ++ fraction) / 10 ^ fraction.length) m ∧
          x = .ofBits (.ofNat (Format.binary64.signedBits negative m)) := by
  constructor
  · intro h
    obtain ⟨hform, hread⟩ := Option.ite_none_right_eq_some.mp h
    obtain ⟨n, hn, rfl⟩ := Option.map_eq_some_iff.mp hread
    obtain ⟨hcs, hwhole, hfraction⟩ := eq_append_of_isPointed hform hn
    rw [hcs, read?_append hwhole hfraction] at hn
    refine ⟨n.negative, n.whole, n.fraction, hcs, hwhole, hfraction, _,
      isNearest_magnitude n.negative _ _, ?_⟩
    rw [Option.some.inj hn]
    rfl
  · rintro ⟨negative, whole, fraction, rfl, hwhole, hfraction, m, hm, rfl⟩
    have hform : isPointed (Digits.sign negative ++ (whole ++ '.' :: fraction)) = true := by
      rw [isPointed_append (Digits.isRun_iff.mp hwhole).2 (Digits.isRun_iff.mp hfraction).2,
        hwhole, hfraction]
      rfl
    rw [pointed?, if_pos hform, Numeral.readFloat?, read?_append hwhole hfraction,
      hm.unique (isNearest_magnitude negative whole fraction)]
    rfl

/-! ## What is read -/

theorem object?_eq_some_iff {members : Object} :
    object? cs = some members ↔
      cs.head? = some '{' ∧ cs.getLast? = some '}' ∧ Value.read? cs = some (.object members) := by
  rw [object?, Option.ite_none_right_eq_some, Option.bind_eq_some_iff, and_assoc]
  refine and_congr_right fun _ => and_congr_right fun _ => ⟨?_, fun h => ⟨_, h, rfl⟩⟩
  rintro ⟨v, hv, hmembers⟩
  rw [hv, Value.object?_eq_some hmembers]

theorem value_of_map_toLower {b : Bool} (h : cs.map Char.toLower = (toString b).toList) :
    value cs = .bool b := by
  have hquote : Text.unquote? cs = none := by
    refine Option.eq_none_iff_forall_ne_some.mpr fun inner hinner => ?_
    rw [Text.unquote?, Text.between?_eq_some_iff] at hinner
    subst hinner
    cases b <;> cases h
  cases b <;> simp only [value, hquote, h] <;> rfl

theorem value_of_list {first : List Char} {more : List (List Char)}
    (h : ∀ piece ∈ first :: more, ',' ∉ piece) :
    value ('[' :: ([','].intercalate (first :: more) ++ [']'])) =
      .list ((((first :: more).map Text.trim).filter (!·.isEmpty)).map fun item =>
        .string (String.ofList item)) := by
  rw [value_bracketed, items, Text.pieces_intercalate h]

theorem value_of_sign_append (hdigits : Digits.isRun digits = true) (negative : Bool)
    (after : List Char) :
    value (Digits.sign negative ++ (digits ++ after)) =
      ((integer? (Digits.sign negative ++ (digits ++ after))).map .int).getD
        (((pointed? (Digits.sign negative ++ (digits ++ after))).map .float).getD
          (.string (String.ofList (Digits.sign negative ++ (digits ++ after))))) := by
  cases negative with
  | true => exact value_of_numeral (.inl rfl)
  | false =>
    obtain ⟨hne, hall⟩ := Digits.isRun_iff.mp hdigits
    obtain ⟨c, rest, rfl⟩ := List.exists_cons_of_ne_nil hne
    exact value_of_numeral (.inr (hall c List.mem_cons_self))

/-- The value of a text of some form is what the text denotes. -/
theorem Denotes.value_eq (h : Denotes cs v) : value cs = v := by
  cases h with
  | quoted inner => exact value_quoted inner
  | truth b h => exact value_of_map_toLower h
  | @integer digits negative i hdigits hi =>
    have hvalue := integer?_eq_some_iff.mpr ⟨negative, digits, rfl, hdigits, hi⟩
    have hnumeral := value_of_sign_append hdigits negative []
    rw [List.append_nil] at hnumeral
    rw [hnumeral, hvalue]
    rfl
  | @pointed whole fraction m negative hwhole hfraction hm =>
    have hinteger : integer? (Digits.sign negative ++ (whole ++ '.' :: fraction)) = none := by
      refine if_neg fun hform => ?_
      obtain ⟨sign, digits, heq, hdigits⟩ := isInteger_iff.mp hform
      refine Digits.point_not_mem (Digits.isRun_iff.mp hdigits).2 sign ?_
      rw [← heq]
      simp
    have hvalue := pointed?_eq_some_iff.mpr
      ⟨negative, whole, fraction, rfl, hwhole, hfraction, m, hm, rfl⟩
    rw [value_of_sign_append hwhole, hinteger, hvalue]
    rfl
  | list h => exact value_of_list h
  | object hfirst hlast h =>
    have hvalue := object?_eq_some_iff.mpr ⟨hfirst, hlast, h⟩
    obtain ⟨rest, rfl⟩ := List.head?_eq_some_iff.mp hfirst
    rw [value_of_opening (.inr rfl), Text.between?_cons_of_ne (by decide), hvalue]
    rfl

/-- The value of a text is what the text denotes, or else the text itself. -/
theorem denotes_value (cs : List Char) :
    Denotes cs (value cs) ∨ value cs = .string (String.ofList cs) := by
  unfold value
  split
  · next inner hquote =>
    obtain rfl := Text.between?_eq_some_iff.mp hquote
    exact .inl (.quoted inner)
  dsimp only
  split
  · next hword => exact .inl (.truth true hword)
  split
  · next hword => exact .inl (.truth false hword)
  split
  · next i hinteger =>
    obtain ⟨negative, digits, rfl, hdigits, hi⟩ := integer?_eq_some_iff.mp hinteger
    exact .inl (.integer negative i hdigits hi)
  split
  · next x hpointed =>
    obtain ⟨negative, whole, fraction, rfl, hwhole, hfraction, m, hm, rfl⟩ :=
      pointed?_eq_some_iff.mp hpointed
    exact .inl (.pointed negative hwhole hfraction hm)
  split
  · next inner hlist =>
    obtain rfl := Text.between?_eq_some_iff.mp hlist
    obtain ⟨first, more, hpieces, -, -⟩ := Text.exists_pieces_eq_cons ',' inner
    have hcomma : ∀ piece ∈ first :: more, ',' ∉ piece := fun piece hpiece =>
      Text.not_mem_of_mem_pieces (hpieces ▸ hpiece)
    have hdenotes := Denotes.list hcomma
    rw [← hpieces, Text.intercalate_pieces] at hdenotes
    exact .inl hdenotes
  split
  · next members hobject =>
    obtain ⟨hfirst, hlast, hread⟩ := object?_eq_some_iff.mp hobject
    exact .inl (.object hfirst hlast hread)
  · exact .inr rfl

/-- What is read of a text is the value that the text denotes, or the text if it denotes none. -/
theorem value_eq_iff :
    value cs = v ↔ Denotes cs v ∨ v = .string (String.ofList cs) ∧ ∀ w, ¬ Denotes cs w := by
  constructor
  · rintro rfl
    by_cases hform : ∃ w, Denotes cs w
    · obtain ⟨w, hw⟩ := hform
      exact .inl (hw.value_eq ▸ hw)
    · have hnone := not_exists.mp hform
      exact .inr ⟨(denotes_value cs).resolve_left (hnone _), hnone⟩
  · rintro (hform | ⟨rfl, hnone⟩)
    · exact hform.value_eq
    · exact (denotes_value cs).resolve_left (hnone _)

example : value "1-2.5".toList = .string "1-2.5" := rfl
example : value "1.-5".toList = .string "1.-5" := rfl
example : value "1.2.3".toList = .string "1.2.3" := rfl
example : value "9223372036854775808".toList = .string "9223372036854775808" := rfl
example : value "-9223372036854775808".toList = .int Int64.minValue := rfl

/-- A text denotes one value, so it does not matter which form is tried first. -/
theorem Denotes.unique {w : Value} (h : Denotes cs v) (h' : Denotes cs w) : v = w :=
  h.value_eq.symm.trans h'.value_eq

end Literal

end Flowscript
