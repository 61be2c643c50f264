import Flowscript.Proofs.Text.Trimming
import Flowscript.Proofs.Value.Reading
import Flowscript.Proofs.Workflow.Parameters
import Flowscript.Workflow.Literal

/-!
# Writing literals

Values are written as literals: texts between quotes as they stand, truth values and integers as
they are shown, lists of texts between brackets, objects as their JSON text. What such a literal
denotes is the value again, where an object is concerned exactly if its JSON text is read back. The
main statement is `value_literal_iff`.
-/

namespace Flowscript

/-- A value as it is written in the definition of a variable. -/
def Value.literal : Value → List Char
  | .string s => '"' :: (s.toList ++ ['"'])
  | .list items => '[' :: ([',', ' '].intercalate (items.map fun v => v.display.toList) ++ [']'])
  | v => v.display.toList

/-- The values that have literals. The texts of a list are no literals and cannot hold commas or
blanks at their ends. -/
inductive Value.HasLiteral : Value → Prop where
  | string {s : String} (h : '\n' ∉ s.toList) : HasLiteral (.string s)
  | bool (b : Bool) : HasLiteral (.bool b)
  | int (i : Int64) : HasLiteral (.int i)
  | list {items : List String} (hne : ∀ s ∈ items, s ≠ "")
      (htrimmed : ∀ s ∈ items, Text.Trimmed s.toList) (hcomma : ∀ s ∈ items, ',' ∉ s.toList)
      (hline : ∀ s ∈ items, '\n' ∉ s.toList) : HasLiteral (.list (items.map .string))
  | object {members : Object} (h : (Value.object members).Ordered) : HasLiteral (.object members)

theorem Value.literal_object (members : Object) :
    (Value.object members).literal = (Value.object members).toJson.compact := by
  simp [Value.literal, Value.display, Value.toJsonText, Json.toText]

namespace Value.HasLiteral

variable {v : Value}

theorem literal_ne_nil (h : v.HasLiteral) : v.literal ≠ [] := by
  cases h with
  | string | list => simp [literal]
  | bool b => cases b <;> decide
  | int i => simpa [literal, display] using Digits.ofInt_ne_nil i.toInt
  | object =>
    rw [literal_object]
    exact List.cons_ne_nil _ _

/-- A literal starts and ends with a character that is not blank. -/
theorem trimmed (h : v.HasLiteral) : Text.Trimmed v.literal := by
  cases h with
  | string => exact Text.trimmed_enclosed (by decide) (by decide) _
  | bool b => cases b <;> decide
  | int i =>
    refine Text.trimmed_of_forall fun c hc => ?_
    rcases Digits.of_mem_ofInt (by simpa [literal, display] using hc) with rfl | hdigit
    · decide
    · refine Bool.eq_false_iff.mpr fun hblank => ?_
      have hdigit := Digits.toNat_of_isDigit hdigit
      have hblank := Text.toNat_of_isBlank hblank
      omega
  | list => exact Text.trimmed_enclosed (by decide) (by decide) _
  | @object members =>
    rw [literal_object]
    exact Text.trimmed_enclosed (by decide) (by decide) _

/-- A literal stands on one line. -/
theorem newline_not_mem (h : v.HasLiteral) : '\n' ∉ v.literal := by
  cases h with
  | string hline => simpa [literal] using hline
  | bool b => cases b <;> decide
  | int i =>
    intro hmem
    rcases Digits.of_mem_ofInt (by simpa [literal, display] using hmem) with h | h <;> cases h
  | @list items _ _ _ hline =>
    have hitems : '\n' ∉ [',', ' '].intercalate (items.map String.toList) :=
      Text.not_mem_intercalate (by decide) (by simpa using hline)
    simpa [literal, Function.comp_def, display] using hitems
  | @object members =>
    rw [literal_object]
    exact Json.newline_not_mem_compact (wellFormed_toJson _)

end Value.HasLiteral

namespace Literal

variable {c : Char} {cs : List Char}

theorem value_quoted (cs : List Char) :
    value ('"' :: (cs ++ ['"'])) = .string (String.ofList cs) := by
  simp [value, Text.unquote?]

theorem value_bool (b : Bool) : value (Value.bool b).literal = .bool b := by
  cases b <;> rfl

/-- The words of truth values start with letters. -/
theorem map_toLower_ne (hc : c.toLower ≠ 't' ∧ c.toLower ≠ 'f') :
    (c :: cs).map Char.toLower ≠ "true".toList ∧ (c :: cs).map Char.toLower ≠ "false".toList := by
  constructor
  · intro h
    exact hc.1 (List.cons.inj h).1
  · intro h
    exact hc.2 (List.cons.inj h).1

/-- Nothing but digits, points and minus signs looks like a number with a point. -/
theorem of_isPointed (h : isPointed cs = true) (hc : c ∈ cs) :
    c = '-' ∨ c = '.' ∨ c.isDigit = true := by
  by_contra hother
  obtain ⟨hminus, hpoint, hdigit⟩ := by simpa only [not_or] using hother
  have hfilter : c ∈ cs.filter (· != '-') := List.mem_filter.mpr ⟨hc, by simpa using hminus⟩
  rw [← Text.intercalate_pieces '.' (cs.filter (· != '-'))] at hfilter
  refine Text.not_mem_intercalate (by simpa using hpoint) (fun piece hpiece hmem => ?_) hfilter
  have hrun := List.all_eq_true.mp (Bool.and_eq_true_iff.mp h).2 piece hpiece
  exact hdigit ((Digits.isRun_iff.mp hrun).2 c hmem)

/-- Text that starts with a bracket or a brace is a list, an object, or text as it stands. -/
theorem value_of_opening (hc : c = '[' ∨ c = '{') :
    value (c :: cs) =
      ((Text.between? '[' ']' (c :: cs)).map fun inner => .list (items inner)).getD
        (((object? (c :: cs)).map .object).getD (.string (String.ofList (c :: cs)))) := by
  have hquote : Text.unquote? (c :: cs) = none := by
    refine Text.between?_cons_of_ne ?_ _ _
    rcases hc with rfl | rfl <;> decide
  have hwords : (c :: cs).map Char.toLower ≠ "true".toList ∧
      (c :: cs).map Char.toLower ≠ "false".toList := by
    refine map_toLower_ne ?_
    rcases hc with rfl | rfl <;> decide
  have hinteger : integer? (c :: cs) = none := by
    rcases hc with rfl | rfl <;> rfl
  have hpointed : pointed? (c :: cs) = none := by
    refine if_neg fun hpointed => ?_
    rcases of_isPointed hpointed List.mem_cons_self with rfl | rfl | hdigit
    · simp at hc
    · simp at hc
    · rcases hc with rfl | rfl <;> cases hdigit
  simp only [value, hquote, hwords, hinteger, hpointed, if_false]
  cases Text.between? '[' ']' (c :: cs) with
  | some inner => rfl
  | none =>
    cases object? (c :: cs) with
    | some members => rfl
    | none => rfl

theorem value_bracketed (cs : List Char) : value ('[' :: (cs ++ [']'])) = .list (items cs) := by
  rw [value_of_opening (.inl rfl), Text.between?_append]
  rfl

/-- The texts of a list, with a comma and a space between them. -/
theorem items_intercalate {texts : List String} (hne : ∀ s ∈ texts, s ≠ "")
    (htrimmed : ∀ s ∈ texts, Text.Trimmed s.toList) (hcomma : ∀ s ∈ texts, ',' ∉ s.toList) :
    items ([',', ' '].intercalate (texts.map String.toList)) = texts.map .string := by
  have htrim : (Text.pieces ',' ([',', ' '].intercalate (texts.map String.toList))).map Text.trim =
      if texts = [] then [[]] else texts.map String.toList := by
    cases texts with
    | nil => rfl
    | cons first more =>
      obtain ⟨hfirst, hmore⟩ := List.forall_mem_cons.mp htrimmed
      obtain ⟨hfirstComma, hmoreComma⟩ := List.forall_mem_cons.mp hcomma
      rw [List.map_cons, Text.intercalate_cons_cons_eq, Text.pieces_intercalate]
      · simp only [List.map_cons, hfirst.trim_eq, List.map_map, reduceCtorEq, if_false]
        refine congrArg _ (List.map_congr_left fun s hs => ?_)
        exact (hmore s hs).trim_space_cons
      · simpa [hfirstComma] using hmoreComma
  have hfilter : (texts.map String.toList).filter (!·.isEmpty) = texts.map String.toList := by
    refine List.filter_eq_self.mpr fun cs hcs => ?_
    obtain ⟨s, hs, rfl⟩ := List.mem_map.mp hcs
    simpa using hne s hs
  rw [items, htrim]
  split
  · next hnil => simp [hnil]
  · rw [hfilter, List.map_map]
    refine List.map_congr_left fun s _ => ?_
    rw [Function.comp_apply, String.ofList_toList]

/-- The JSON text of an object denotes the object exactly if it is read back. -/
theorem value_object_iff (members : Object) :
    value (Value.object members).toJson.compact = .object members ↔
      Value.read? (Value.object members).toJson.compact = some (.object members) := by
  have hobject : object? (Value.object members).toJson.compact =
      (Value.read? (Value.object members).toJson.compact).bind Value.object? :=
    if_pos (Value.ends_compact_object members)
  obtain ⟨entries⟩ := members
  rw [Value.compact_object] at hobject ⊢
  rw [value_of_opening (.inr rfl), Text.between?_cons_of_ne (by decide), hobject]
  cases Value.read? ('{' :: (Json.compactMembers (Value.membersToJson entries) ++ ['}'])) with
  | none => simp
  | some v => cases v <;> simp [Value.object?]

theorem toLower_of_isDigit (h : c.isDigit = true) : c.toLower = c := by
  have hdigit : c.val ≤ '9'.val := of_decide_eq_true (Bool.and_eq_true_iff.mp h).2
  refine dif_neg fun hupper => ?_
  exact absurd (UInt32.le_trans hupper.1 hdigit) (by decide)

theorem isInteger_ofInt (i : Int) : isInteger (Digits.ofInt i) = true := by
  have hrun := Digits.isRun_ofNat i.natAbs
  unfold Digits.ofInt
  split
  · exact hrun
  · unfold isInteger
    split
    · next hdigits =>
      rw [hdigits] at hrun
      cases hrun
    · exact hrun

/-- Text that starts with a minus sign or a digit is an integer, a number with a point, or text as
it stands. -/
theorem value_of_numeral (hc : c = '-' ∨ c.isDigit = true) :
    value (c :: cs) =
      ((integer? (c :: cs)).map .int).getD
        (((pointed? (c :: cs)).map .float).getD (.string (String.ofList (c :: cs)))) := by
  have hopening {left : Char} (hleft : left ≠ '-' ∧ left.isDigit = false) : c ≠ left := by
    rintro rfl
    rcases hc with rfl | hc
    · exact hleft.1 rfl
    · exact Bool.false_ne_true (hleft.2.symm.trans hc)
  have hquote : Text.unquote? (c :: cs) = none :=
    Text.between?_cons_of_ne (hopening (by decide)) _ _
  have hlist : Text.between? '[' ']' (c :: cs) = none :=
    Text.between?_cons_of_ne (hopening (by decide)) _ _
  have hobject : object? (c :: cs) = none := by
    refine if_neg fun hbraces => hopening (by decide) (Option.some.inj hbraces.1)
  have hwords : (c :: cs).map Char.toLower ≠ "true".toList ∧
      (c :: cs).map Char.toLower ≠ "false".toList := by
    refine map_toLower_ne ?_
    rcases hc with rfl | hc
    · decide
    · rw [toLower_of_isDigit hc]
      constructor <;> rintro rfl <;> cases hc
  simp only [value, hquote, hwords, hlist, hobject, if_false]
  cases integer? (c :: cs) with
  | some i => rfl
  | none =>
    cases pointed? (c :: cs) with
    | some x => rfl
    | none => rfl

theorem value_ofInt (i : Int64) : value (Digits.ofInt i.toInt) = .int i := by
  have hvalue : integer? (Digits.ofInt i.toInt) = some i := by
    rw [integer?, if_pos (isInteger_ofInt i.toInt), Digits.int64?_ofInt]
  obtain ⟨c, cs, htext⟩ := List.exists_cons_of_ne_nil (Digits.ofInt_ne_nil i.toInt)
  rw [htext] at hvalue ⊢
  rw [value_of_numeral (Digits.of_mem_ofInt (htext ▸ List.mem_cons_self)), hvalue]
  rfl

/-- The literal of a value denotes the value, that of an object exactly if its JSON text is read
back. -/
theorem value_literal_iff {v : Value} (h : v.HasLiteral) :
    value v.literal = v ↔ ∀ members, v = .object members → v.depth ≤ Value.depthLimit ∧
      ∀ x ∈ v.floats, Json.ReadsBack x := by
  cases h with
  | string => simp [Value.literal, value_quoted]
  | bool b => simp [value_bool]
  | int i => simp [Value.literal, Value.display, value_ofInt]
  | list hne htrimmed hcomma =>
    have hitems := items_intercalate hne htrimmed hcomma
    simpa [Value.literal, value_bracketed, Function.comp_def, Value.display] using hitems
  | @object members h =>
    rw [Value.literal_object, value_object_iff, Value.read?_compact_iff h]
    constructor
    · rintro hread _ ⟨⟩
      exact hread
    · exact fun hread => hread members rfl

end Literal

end Flowscript
