import Flowscript.Condition.Grammar

/-!
# Derivations of conditions

The grammar of conditions as a type of derivation trees. A disjunction lists conjunctions with `or`
between them, a conjunction lists negations with `and` between them, and a comparison chain lists
primaries with operators between them; a negation is `not` before a negation, or a chain; a primary
is a literal, or a disjunction in parentheses. A derivation has the tokens that it spells, the depth
to which `not` and parentheses enclose them, and the expression that it stands for. No two
derivations spell the same tokens.
-/

namespace Flowscript.Condition

/-- What lists its parts with something between them. -/
inductive Listing where
  | or
  | and
  | compare

/-- The categories of the grammar. -/
inductive Category where
  | list (l : Listing)
  | negation
  | primary

namespace Listing

/-- What tells one separator of a list from another. -/
abbrev Mark : Listing → Type
  | or | and => Unit
  | compare => Comparison

/-- The token that separates two parts. -/
def token : (l : Listing) → l.Mark → Token
  | or, _ => .or
  | and, _ => .and
  | compare, op => .compare op

/-- The category of the parts. -/
def part : Listing → Category
  | or => .list and
  | and => .negation
  | compare => .primary

/-- The expression of a list: a single part stands for itself. -/
def expr : (l : Listing) → Expr → List (l.Mark × Expr) → Expr
  | _, first, [] => first
  | or, first, more => .or (first :: more.map Prod.snd)
  | and, first, more => .and (first :: more.map Prod.snd)
  | compare, first, more => .compare first more

end Listing

namespace Category

/-- What a phrase of a category means: a list has the expressions of its parts. -/
abbrev Meaning : Category → Type
  | list l => Expr × List (l.Mark × Expr)
  | negation | primary => Expr

/-- The expression of a phrase. -/
def expr : (c : Category) → c.Meaning → Expr
  | list l, (first, more) => l.expr first more
  | negation, e | primary, e => e

/-- Whether a token right behind a phrase of a category may belong to it. -/
def extends? : Category → Token → Bool
  | list .or, .or | list .or, .and | list .and, .and => true
  | list _, .compare _ | negation, .compare _ => true
  | _, _ => false

/-- A phrase of a category ends here: the next token does not belong to it. -/
def Ends (c : Category) (ts : List Token) : Prop :=
  ∀ t ∈ ts.head?, c.extends? t = false

theorem ends_nil (c : Category) : c.Ends [] := by
  simp [Ends]

theorem ends_closeParen (c : Category) (ts : List Token) : c.Ends (.closeParen :: ts) := by
  intro t ht
  cases ht
  cases c <;> simp [extends?]

/-- Where a negation ends, so does a chain that it consists of. -/
theorem ends_chain {ts : List Token} (h : negation.Ends ts) : (list .compare).Ends ts := by
  intro t ht
  have hnegation := h t ht
  cases t <;> first | rfl | cases hnegation

end Category

namespace Listing

theorem not_ends_token {l : Listing} {mark : l.Mark} {ts : List Token} :
    ¬ (Category.list l).Ends (l.token mark :: ts) := by
  intro h
  have htoken := h _ rfl
  cases l <;> cases htoken

/-- A separator ends the part before it. -/
theorem part_ends_token (l : Listing) (mark : l.Mark) (ts : List Token) :
    l.part.Ends (l.token mark :: ts) := by
  intro t ht
  cases ht
  cases l <;> rfl

/-- Where a list ends, so does its last part. -/
theorem part_ends {l : Listing} {ts : List Token} (h : (Category.list l).Ends ts) :
    l.part.Ends ts := by
  intro t ht
  have hlist := h t ht
  cases l <;> cases t <;> first | rfl | cases hlist

theorem token_inj {l : Listing} {a b : l.Mark} (h : l.token a = l.token b) : a = b := by
  cases l with
  | or | and => rfl
  | compare =>
    cases h
    rfl

end Listing

/-- A derivation of the grammar from a category. -/
inductive Derivation : Category → Type where
  | last {l : Listing} (d : Derivation l.part) : Derivation (.list l)
  | more {l : Listing} (d : Derivation l.part) (mark : l.Mark) (rest : Derivation (.list l)) :
      Derivation (.list l)
  | chain (d : Derivation (.list .compare)) : Derivation .negation
  | not (d : Derivation .negation) : Derivation .negation
  | literal (l : Literal) : Derivation .primary
  | parens (d : Derivation (.list .or)) : Derivation .primary

namespace Derivation

/-- The tokens that a derivation spells. -/
def tokens {c : Category} : Derivation c → List Token
  | last d => d.tokens
  | @more l d mark rest => d.tokens ++ l.token mark :: rest.tokens
  | chain d => d.tokens
  | not d => .not :: d.tokens
  | literal l => [.literal l]
  | parens d => .openParen :: d.tokens ++ [.closeParen]

/-- How many `not` and parentheses, counted together, enclose a token at most. -/
def depth {c : Category} : Derivation c → Nat
  | last d => d.depth
  | more d _ rest => max d.depth rest.depth
  | chain d => d.depth
  | not d => d.depth + 1
  | literal _ => 0
  | parens d => d.depth + 1

/-- What a derivation means. Parentheses leave no node of their own. -/
def meaning {c : Category} : Derivation c → c.Meaning
  | @last l d => (l.part.expr d.meaning, [])
  | @more l d mark rest => (l.part.expr d.meaning, (mark, rest.meaning.1) :: rest.meaning.2)
  | chain d => Category.expr _ d.meaning
  | not d => .not d.meaning
  | literal l => .literal l
  | parens d => Category.expr _ d.meaning

/-- The expression that a derivation stands for. -/
def expr {c : Category} (d : Derivation c) : Expr :=
  c.expr d.meaning

@[simp] theorem expr_not (d : Derivation .negation) : d.not.expr = .not d.expr := rfl

@[simp] theorem expr_parens (d : Derivation (.list .or)) : d.parens.expr = d.expr := rfl

/-- Only a negation starts with `not`, and what lists negations. -/
theorem tokens_append_ne {c : Category} (d : Derivation c)
    (hc : c = .list .compare ∨ c = .primary) (rest ts : List Token) :
    d.tokens ++ rest ≠ .not :: ts := by
  induction d generalizing rest with
  | last d ih =>
    obtain rfl : _ = Listing.compare := by simpa using hc
    exact ih (.inr rfl) rest
  | more d mark tail ih =>
    obtain rfl : _ = Listing.compare := by simpa using hc
    simpa [tokens] using ih (.inr rfl) _
  | chain | not => simp at hc
  | literal | parens => simp [tokens]

/-- At the front of a text, at most one phrase of a category ends where no token behind it could
belong to it. -/
theorem tokens_append_inj {c : Category} (d e : Derivation c) {rest tail : List Token}
    (h : d.tokens ++ rest = e.tokens ++ tail) (hrest : c.Ends rest) (htail : c.Ends tail) :
    d = e ∧ rest = tail := by
  induction d generalizing rest tail with
  | @last l d ih =>
    have hd := Listing.part_ends hrest
    cases e with
    | last e =>
      obtain ⟨rfl, hrest⟩ := ih e h hd (Listing.part_ends htail)
      exact ⟨rfl, hrest⟩
    | more e mark others =>
      simp only [tokens, List.append_assoc, List.cons_append] at h
      obtain ⟨-, rfl⟩ := ih e h hd (l.part_ends_token mark _)
      exact absurd hrest Listing.not_ends_token
  | @more l d mark others ihd iho =>
    have hd := l.part_ends_token mark (others.tokens ++ rest)
    cases e with
    | last e =>
      simp only [tokens, List.append_assoc, List.cons_append] at h
      obtain ⟨-, rfl⟩ := ihd e h hd (Listing.part_ends htail)
      exact absurd htail Listing.not_ends_token
    | more e mark' others' =>
      simp only [tokens, List.append_assoc, List.cons_append] at h
      obtain ⟨rfl, hmark⟩ := ihd e h hd (l.part_ends_token mark' _)
      obtain ⟨hmark, hothers⟩ := List.cons.inj hmark
      obtain rfl := Listing.token_inj hmark
      obtain ⟨rfl, hrest⟩ := iho others' hothers hrest htail
      exact ⟨rfl, hrest⟩
  | chain d ih =>
    cases e with
    | chain e =>
      obtain ⟨rfl, hrest⟩ := ih e h (Category.ends_chain hrest) (Category.ends_chain htail)
      exact ⟨rfl, hrest⟩
    | not e => exact absurd h (d.tokens_append_ne (.inl rfl) _ _)
  | not d ih =>
    cases e with
    | chain e => exact absurd h.symm (e.tokens_append_ne (.inl rfl) _ _)
    | not e =>
      obtain ⟨rfl, hrest⟩ := ih e (List.cons.inj h).2 hrest htail
      exact ⟨rfl, hrest⟩
  | literal l =>
    cases e with
    | literal m =>
      cases h
      exact ⟨rfl, rfl⟩
    | parens e => cases h
  | parens d ih =>
    cases e with
    | literal m => cases h
    | parens e =>
      simp only [tokens, List.cons_append, List.append_assoc, List.cons.injEq, true_and] at h
      obtain ⟨rfl, hclose⟩ := ih e h (Category.ends_closeParen _ _) (Category.ends_closeParen _ _)
      exact ⟨rfl, (List.cons.inj hclose).2⟩

/-- No two derivations spell the same tokens. -/
theorem tokens_injective (c : Category) : Function.Injective (tokens (c := c)) := by
  intro d e h
  have happend : d.tokens ++ [] = e.tokens ++ [] := by rw [h]
  exact (tokens_append_inj d e happend c.ends_nil c.ends_nil).1

end Derivation

end Flowscript.Condition
