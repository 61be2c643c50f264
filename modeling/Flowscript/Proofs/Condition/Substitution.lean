import Flowscript.Condition.Evaluate
import Flowscript.Proofs.Condition.Spelling

/-!
# Values in conditions

A condition is written with references, and the values of the references are put into its text
before it is read. A value cannot change what is around it: a text, a truth value, an integer or
null becomes exactly one literal of that value, and so does a missing name. A list or an object
makes the condition an error.
-/

namespace Flowscript.Condition

/-- The literal that stands for the value of a reference; floating point numbers, lists and objects
have none here. -/
def literal? : Option Value → Option Literal
  | none => some (.str "")
  | some (.string s) => some (.str s)
  | some (.bool b) => some (.bool b)
  | some (.int i) => some (.int i)
  | some .null => some .null
  | some (.float _) | some (.list _) | some (.object _) => none

/-- Whether a value is a list or an object. -/
def isContainer : Value → Bool
  | .list _ | .object _ => true
  | _ => false

/-- What a condition is written of: a token, without a dollar sign in it, or a reference. -/
inductive Item where
  | token (t : Token) (text : List Char) (spells : Spells t text) (plain : '$' ∉ text)
  | reference (name : List Char) (nonempty : name ≠ [])
      (nameChars : ∀ c ∈ name, isNameChar c = true)

namespace Item

/-- The text of an item. -/
def text : Item → List Char
  | token _ text _ _ => text
  | reference name _ _ => '$' :: name

/-- The value that an item refers to in a scope; a token refers to none. -/
def value? (scope : Scope) : Item → Option Value
  | token _ _ _ _ => none
  | reference name _ _ => scope.lookup (String.ofList name)

/-- The token that an item stands for in a scope. -/
def token? (scope : Scope) : Item → Option Token
  | token t _ _ _ => some t
  | reference name _ _ => (literal? (scope.lookup (String.ofList name))).map .literal

/-- The text of an item once its value is put in. -/
def rendered (scope : Scope) : Item → List Char
  | token _ text _ _ => text
  | reference name _ _ => Condition.rendered (scope.lookup (String.ofList name))

end Item

/-- Texts with single spaces between them. -/
def spaced (texts : List (List Char)) : List Char :=
  [' '].intercalate texts

/-- What stands behind the first of some texts. -/
def behindFirst (texts : List (List Char)) : List Char :=
  match texts with
  | [] => []
  | texts => ' ' :: spaced texts

theorem spaced_cons (text : List Char) (texts : List (List Char)) :
    spaced (text :: texts) = text ++ behindFirst texts := by
  cases texts <;> simp [spaced, behindFirst]

theorem boundary_behindFirst (texts : List (List Char)) : Boundary (behindFirst texts) := by
  cases texts with
  | nil => exact .done
  | cons text texts => exact .space _

/-! ## Values -/

theorem quoted_escaped (cs : List Char) :
    Quoted '"' (cs.flatMap fun c => if c = '"' || c = '\\' then ['\\', c] else [c]) cs := by
  induction cs with
  | nil => exact .nil
  | cons c cs ih =>
    rw [List.flatMap_cons]
    split
    · next hspecial =>
      have hunescape : unescape c = c := by
        rcases (by simpa using hspecial : c = '"' ∨ c = '\\') with rfl | rfl <;> rfl
      simpa [hunescape] using ih.escaped (c := c)
    · next hplain =>
      obtain ⟨hquote, hescape⟩ : c ≠ '"' ∧ c ≠ '\\' := by simpa using hplain
      exact ih.plain hescape hquote

theorem integer_ofInt (i : Int64) : Integer i (Digits.ofInt i.toInt) := by
  have hrun := Digits.isRun_ofNat i.toInt.natAbs
  have hvalue := Digits.value_ofNat i.toInt.natAbs
  unfold Digits.ofInt
  split
  · exact .minus hrun (by omega)
  · exact .digits hrun (by omega)

/-- A value is put into a condition as a spelling of its literal. -/
theorem spells_rendered {v : Option Value} {l : Literal} (h : literal? v = some l) :
    Spells (.literal l) (rendered v) := by
  cases v with
  | none =>
    cases h
    exact .string rfl .nil
  | some v =>
    cases v with
    | string s =>
      cases h
      simpa [rendered, quote] using Spells.string (q := '"') rfl (quoted_escaped s.toList)
    | int i =>
      cases h
      simpa [rendered, Value.display] using Spells.integer (integer_ofInt i)
    | bool b =>
      cases h
      cases b with
      | true => exact .word (w := "true") (by simp [words])
      | false => exact .word (w := "false") (by simp [words])
    | null =>
      cases h
      exact .word (w := "null") (by simp [words])
    | float | list | object => cases h

/-- The text of a list or object starts with a character that starts no token. -/
theorem tokensOf_container {v : Value} (h : isContainer v = true) (rest : List Char) (total : Nat) :
    ∃ f, tokensOf total (rendered (some v) ++ rest) = .error f := by
  obtain ⟨c, cs, htext, hc⟩ : ∃ c cs, rendered (some v) = c :: cs ∧ (c = '[' ∨ c = '\x7b') := by
    cases v with
    | list items =>
      refine ⟨'[', Json.compactItems (Value.itemsToJson items) ++ [']'], ?_, .inl rfl⟩
      simp [rendered, Value.display, Value.toJsonText, Value.toJson, Json.toText, Json.compact]
    | object members =>
      refine ⟨'\x7b', Json.compactMembers (Value.membersToJson members.entries) ++ ['\x7d'], ?_,
        .inr rfl⟩
      simp [rendered, Value.display, Value.toJsonText, Value.toJson, Json.toText, Json.compact]
    | _ => cases h
  have hread : readToken total c (cs ++ rest) =
      .error (.unexpectedChar c (total - ((cs ++ rest).length + 1))) := by
    apply readToken_foreign <;> rcases hc with rfl | rfl <;> rfl
  have hblank : Text.isBlank c = false := by
    rcases hc with rfl | rfl <;> decide
  rw [htext, List.cons_append, tokensOf, if_neg (by simp [hblank])]
  split
  · next f hfail => exact ⟨f, rfl⟩
  · next hfound => cases hread.symm.trans hfound

theorem mem_inPlaceText {digits : List Char} (hdigits : ∀ c ∈ digits, c.isDigit = true)
    {point : Int} {c : Char} (h : c ∈ Layout.inPlaceText digits point) :
    c.isDigit = true ∨ c = '.' := by
  have hplace := fun c => Layout.isDigit_of_mem_place hdigits point (c := c)
  unfold Layout.inPlaceText at h
  generalize Layout.place digits point = parts at h hplace
  obtain ⟨whole, fraction⟩ := parts
  cases fraction with
  | nil =>
    simp only at h
    split at h
    · rcases List.mem_append.mp h with h | h
      · exact .inl (hplace c (.inl h))
      · simp only [List.mem_cons, List.not_mem_nil, or_false] at h
        rcases h with rfl | rfl
        · exact .inr rfl
        · exact .inl rfl
    · exact .inl (hplace c (.inl h))
  | cons d fraction =>
    rcases List.mem_append.mp h with h | h
    · exact .inl (hplace c (.inl h))
    · rcases List.mem_cons.mp h with rfl | h
      · exact .inr rfl
      · exact .inl (hplace c (.inr h))

theorem isQuote_of_mem_decimal {x : Decimal} {c : Char} (h : c ∈ Layout.plain.decimal x) :
    isQuote c = false := by
  have htext : c ∈ Layout.inPlaceText (Layout.significant x)
      (Digits.count x.coefficient + x.exponent) := h
  rcases mem_inPlaceText (fun _ => Layout.isDigit_of_mem_significant) htext with hdigit | rfl
  · refine Bool.eq_false_iff.mpr fun hquote => ?_
    rcases eq_of_isQuote hquote with rfl | rfl <;> exact absurd hdigit (by decide)
  · rfl

theorem isQuote_of_mem_magnitude {f : Format} {negative : Bool} {m : Nat} {c : Char}
    (h : c ∈ Layout.plain.magnitude f negative m) : isQuote c = false := by
  have hword {w : List Char} (hw : w.all (!isQuote ·)) (h : c ∈ w) : isQuote c = false := by
    simpa using List.all_eq_true.mp hw c h
  simp only [Layout.magnitude] at h
  split at h
  · exact hword (by decide) h
  · generalize htext : ite (m = f.infinity) _ _ = text at h
    have hmagnitude (h : c ∈ text) : isQuote c = false := by
      rw [← htext] at h
      split at h
      · exact hword (by decide) h
      split at h
      · exact hword (by decide) h
      · exact isQuote_of_mem_decimal h
    split at h
    · rcases List.mem_cons.mp h with rfl | h
      · rfl
      · exact hmagnitude h
    · exact hmagnitude h

/-! ## Substitution -/

theorem substitute_append (scope : Scope) {text : List Char} (h : '$' ∉ text) (rest : List Char) :
    substitute scope (text ++ rest) = text ++ substitute scope rest := by
  induction text with
  | nil => rfl
  | cons c text ih =>
    simp only [List.mem_cons, not_or] at h
    simp [substitute, Ne.symm h.1, ih h.2]

theorem substitute_reference (scope : Scope) {name rest : List Char} (hne : name ≠ [])
    (hname : ∀ c ∈ name, isNameChar c = true) (hrest : Boundary rest) :
    substitute scope ('$' :: (name ++ rest)) =
      rendered (scope.lookup (String.ofList name)) ++ substitute scope rest := by
  have hspace : isNameChar ' ' = false := by decide
  rw [substitute, hrest.takeWhile_append hspace hname, hrest.dropWhile_append hspace hname]
  split
  · next hempty => exact absurd rfl hne
  · rfl

theorem substitute_spaced (scope : Scope) (items : List Item) :
    substitute scope (spaced (items.map Item.text)) = spaced (items.map (Item.rendered scope)) := by
  induction items with
  | nil => simp [spaced, substitute]
  | cons item items ih =>
    have hbehind : substitute scope (behindFirst (items.map Item.text)) =
        behindFirst (items.map (Item.rendered scope)) := by
      cases items with
      | nil => simp [behindFirst, substitute]
      | cons item' items => simpa [behindFirst, substitute] using ih
    rw [List.map_cons, List.map_cons, spaced_cons, spaced_cons, ← hbehind]
    cases item with
    | token t text spells plain => exact substitute_append scope plain _
    | reference name hne hname =>
      exact substitute_reference scope hne hname (boundary_behindFirst _)

theorem token?_spells {scope : Scope} {item : Item} {t : Token} (h : item.token? scope = some t) :
    Spells t (item.rendered scope) := by
  cases item with
  | token u text spells plain =>
    cases h
    exact spells
  | reference name hne hname =>
    obtain ⟨l, hl, rfl⟩ := Option.map_eq_some_iff.mp h
    exact spells_rendered hl

theorem tokensOf_behindFirst (total : Nat) (texts : List (List Char)) :
    tokensOf total (behindFirst texts) = tokensOf total (spaced texts) := by
  cases texts with
  | nil => rfl
  | cons text texts =>
    rw [behindFirst, tokensOf, if_pos (by decide)]
    simp

/-- The tokens of items are read in order, and values add nothing to them. -/
theorem tokensOf_spaced (scope : Scope) (total : Nat) {items : List Item} {ts : List Token}
    (h : items.mapM (Item.token? scope) = some ts) :
    tokensOf total (spaced (items.map (Item.rendered scope))) = .ok ts := by
  induction items generalizing ts with
  | nil =>
    cases h
    simp [spaced, tokensOf]
  | cons item items ih =>
    simp only [List.mapM_cons, Option.bind_eq_bind, Option.bind_eq_some_iff] at h
    obtain ⟨t, ht, more, hmore, hts⟩ := h
    cases hts
    rw [List.map_cons, spaced_cons, tokensOf_of_spells (token?_spells ht) (boundary_behindFirst _),
      tokensOf_behindFirst, ih hmore]
    rfl

/-- What has no literal and is no container is a floating point number. -/
theorem exists_float_of_token? {scope : Scope} {item : Item} (h : item.token? scope = none)
    (hcontainer : ¬ ∃ v, item.value? scope = some v ∧ isContainer v = true) :
    ∃ x, item.rendered scope = Layout.plain.double x := by
  cases item with
  | token => cases h
  | reference name hne hname =>
    simp only [Item.token?, Item.value?, Item.rendered, Option.map_eq_none_iff] at h hcontainer ⊢
    generalize scope.lookup (String.ofList name) = v at h hcontainer ⊢
    cases v with
    | none => cases h
    | some v =>
      cases v with
      | float x => exact ⟨x, by simp [rendered, Value.display]⟩
      | list items => exact absurd ⟨_, rfl, rfl⟩ hcontainer
      | object members => exact absurd ⟨_, rfl, rfl⟩ hcontainer
      | _ => cases h

/-- A container is an error wherever it stands. -/
theorem tokensOf_spaced_error (scope : Scope) (total : Nat) {items : List Item}
    (h : ∃ item ∈ items, ∃ v, item.value? scope = some v ∧ isContainer v = true) :
    ∃ f, tokensOf total (spaced (items.map (Item.rendered scope))) = .error f := by
  induction items with
  | nil => simp at h
  | cons item items ih =>
    rw [List.map_cons, spaced_cons]
    by_cases hitem : ∃ v, item.value? scope = some v ∧ isContainer v = true
    · obtain ⟨v, hv, hcontainer⟩ := hitem
      cases item with
      | token => cases hv
      | reference name hne hname =>
        have hlookup : scope.lookup (String.ofList name) = some v := hv
        rw [Item.rendered, hlookup]
        exact tokensOf_container hcontainer _ total
    · obtain ⟨f, hf⟩ := ih (by simpa [hitem] using h)
      cases htoken : item.token? scope with
      | some t =>
        rw [tokensOf_of_spells (token?_spells htoken) (boundary_behindFirst _),
          tokensOf_behindFirst, hf]
        exact ⟨f, rfl⟩
      | none =>
        obtain ⟨x, hx⟩ := exists_float_of_token? htoken hitem
        rw [hx]
        cases items with
        | nil => simp [spaced, tokensOf] at hf
        | cons item' items =>
          exact tokensOf_error_of_space (fun c hc => isQuote_of_mem_magnitude hc) ⟨f, hf⟩

/-- Values do not change the structure of a condition. Where every reference has a literal, or is
missing, the tokens of the condition are those of its items, one for each; where a reference is to a
list or an object, the condition is an error. -/
theorem tokens_substitute (scope : Scope) (items : List Item) :
    (∀ ts, items.mapM (Item.token? scope) = some ts →
      tokens (substitute scope (spaced (items.map Item.text))) = .ok ts) ∧
    ((∃ item ∈ items, ∃ v, item.value? scope = some v ∧ isContainer v = true) →
      ∃ f, holds scope (spaced (items.map Item.text)) = .error f) := by
  rw [holds, substitute_spaced]
  refine ⟨fun ts hts => tokensOf_spaced scope _ hts, fun hcontainer => ?_⟩
  obtain ⟨f, hf⟩ := tokensOf_spaced_error scope _ hcontainer
  exact ⟨f, by rw [evaluate, tokens, hf]⟩

end Flowscript.Condition
