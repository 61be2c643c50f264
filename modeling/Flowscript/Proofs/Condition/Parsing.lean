import Flowscript.Proofs.Condition.Derivation

/-!
# The parser and the grammar of conditions

Each parser of the grammar recognizes the phrases of one category that `not` and parentheses enclose
less often than the room it has: what it returns is what a derivation stands for, and where a
derivation ends it finds that one. A parser made of others recognizes its category as they do
theirs, so the parser with more room follows from the one with less. The main statement,
`parse_eq_ok_iff`, is that exactly the derivations of depth at most 64 are parsed.
-/

namespace Flowscript

namespace Parser

variable {τ ε α β γ : Type}

theorem behind_of_stop {separator? : τ → Option β} (p : Parser τ ε α) {ts : List τ}
    (h : ∀ t ∈ ts.head?, separator? t = none) : behind separator? p ts = .ok ([], ts) := by
  unfold behind
  cases ts with
  | nil => rfl
  | cons t rest => simp [h t rfl]

theorem behind_of_separator {separator? : τ → Option β} {p : Parser τ ε α} {t : τ} {tag : β} {a : α}
    {ts mid rest : List τ} {more : List (β × α)} (htag : separator? t = some tag)
    (hrun : p.run ts = .ok (a, mid)) (hmore : behind separator? p mid = .ok (more, rest)) :
    behind separator? p (t :: ts) = .ok ((tag, a) :: more, rest) := by
  rw [behind]
  simp only [htag]
  split
  · next hfail => cases hrun.symm.trans hfail
  · next hfound =>
    cases hrun.symm.trans hfound
    simp [hmore]

theorem chain_run_eq_ok {separator? : τ → Option β} {join : α → List (β × α) → γ}
    {p : Parser τ ε α} {ts rest : List τ} {x : γ} :
    (chain separator? join p).run ts = .ok (x, rest) ↔
      ∃ a mid more, p.run ts = .ok (a, mid) ∧ behind separator? p mid = .ok (more, rest) ∧
        join a more = x := by
  constructor
  · intro h
    simp only [chain] at h
    split at h
    · cases h
    · next a mid hrun =>
      split at h
      · cases h
      · next more rest' hmore =>
        cases h
        exact ⟨a, mid, more, hrun, hmore, rfl⟩
  · rintro ⟨a, mid, more, hrun, hmore, rfl⟩
    simp [chain, hrun, hmore]

end Parser

namespace Condition

namespace Listing

/-- The separators of a list as the parser finds them. -/
def separator? : (l : Listing) → Token → Option l.Mark
  | or => or?
  | and => and?
  | compare => comparison?

theorem separator?_eq_some {l : Listing} {t : Token} {mark : l.Mark} :
    l.separator? t = some mark ↔ t = l.token mark := by
  cases l <;> cases t <;> simp [separator?, token, or?, and?, comparison?, eq_comm]

theorem separator?_eq_none {l : Listing} {ts : List Token} (h : (Category.list l).Ends ts) :
    ∀ t ∈ ts.head?, l.separator? t = none := by
  intro t ht
  cases hmark : l.separator? t with
  | none => rfl
  | some mark =>
    obtain rfl := separator?_eq_some.mp hmark
    obtain ⟨rest, rfl⟩ := List.head?_eq_some_iff.mp ht
    exact absurd h not_ends_token

/-- The parser of a list whose parts `p` finds. -/
def parser (l : Listing) (p : TermParser) : TermParser :=
  .chain l.separator? l.expr p

theorem joined_or : joined .or = Listing.or.expr := by
  funext first more
  cases more <;> rfl

theorem joined_and : joined .and = Listing.and.expr := by
  funext first more
  cases more <;> rfl

theorem compared_eq : compared = Listing.compare.expr := by
  funext first more
  cases more <;> rfl

end Listing

/-- A parser finds the phrases of a category that are enclosed less than `room` times, and nothing
else. -/
structure Recognizes (p : TermParser) (c : Category) (room : Nat) : Prop where
  sound {ts rest : List Token} {e : Expr} (hrun : p.run ts = .ok (e, rest)) :
    ∃ d : Derivation c, d.tokens ++ rest = ts ∧ d.depth < room ∧ d.expr = e
  complete (d : Derivation c) {rest : List Token} (hdepth : d.depth < room) (hrest : c.Ends rest) :
    p.run (d.tokens ++ rest) = .ok (d.expr, rest)

namespace Recognizes

variable {p : TermParser} {l : Listing} {room : Nat}

/-- What stands behind a part of a list makes a list of it. -/
theorem sound_behind (hp : Recognizes p l.part room) {ts rest : List Token}
    {more : List (l.Mark × Expr)} (h : Parser.behind l.separator? p ts = .ok (more, rest))
    (first : Derivation l.part) (hfirst : first.depth < room) :
    ∃ d : Derivation (.list l), d.tokens ++ rest = first.tokens ++ ts ∧ d.depth < room ∧
      d.meaning = (first.expr, more) := by
  fun_induction Parser.behind l.separator? p ts generalizing first rest more with
  | case1 =>
    cases h
    exact ⟨.last first, rfl, hfirst, rfl⟩
  | case2 =>
    cases h
    exact ⟨.last first, rfl, hfirst, rfl⟩
  | case3 => cases h
  | case4 => cases h
  | case5 t ts mark htag a mid hrun others rest' hmore ih =>
    cases h
    obtain ⟨d, htokens, hdepth, rfl⟩ := hp.sound hrun
    obtain ⟨tail, htail, htaildepth, hmeaning⟩ := ih hmore d hdepth
    obtain rfl := Listing.separator?_eq_some.mp htag
    refine ⟨.more first mark tail, ?_, Nat.max_lt.mpr ⟨hfirst, htaildepth⟩, ?_⟩
    · simp [Derivation.tokens, htail, htokens]
    · simp [Derivation.meaning, hmeaning, Derivation.expr]

/-- The parts of a list are found one behind the other. -/
theorem complete_behind (hp : Recognizes p l.part room) (d : Derivation (.list l))
    {rest : List Token} (hdepth : d.depth < room) (hrest : (Category.list l).Ends rest) :
    ∃ mid, p.run (d.tokens ++ rest) = .ok (d.meaning.1, mid) ∧
      Parser.behind l.separator? p mid = .ok (d.meaning.2, rest) := by
  match d with
  | .last d =>
    refine ⟨rest, hp.complete d hdepth (Listing.part_ends hrest), ?_⟩
    exact Parser.behind_of_stop p (Listing.separator?_eq_none hrest)
  | .more d mark tail =>
    simp only [Derivation.depth, Nat.max_lt] at hdepth
    obtain ⟨mid, hrun, hmore⟩ := hp.complete_behind tail hdepth.2 hrest
    refine ⟨l.token mark :: (tail.tokens ++ rest), ?_, ?_⟩
    · simpa [Derivation.tokens, Derivation.meaning, Derivation.expr] using
        hp.complete d hdepth.1 (l.part_ends_token mark (tail.tokens ++ rest))
    · exact Parser.behind_of_separator (Listing.separator?_eq_some.mpr rfl) hrun hmore

theorem list (hp : Recognizes p l.part room) : Recognizes (l.parser p) (.list l) room where
  sound hrun := by
    obtain ⟨first, mid, more, hfirst, hmore, rfl⟩ := Parser.chain_run_eq_ok.mp hrun
    obtain ⟨d, rfl, hdepth, rfl⟩ := hp.sound hfirst
    obtain ⟨d', htokens, hdepth', hmeaning⟩ := hp.sound_behind hmore d hdepth
    exact ⟨d', htokens, hdepth', by simp [Derivation.expr, hmeaning, Category.expr]⟩
  complete d _ hdepth hrest := by
    obtain ⟨mid, hrun, hmore⟩ := hp.complete_behind d hdepth hrest
    exact Parser.chain_run_eq_ok.mpr ⟨_, mid, _, hrun, hmore, rfl⟩

/-- Without room there is nothing to find. -/
theorem fail (c : Category) (f : Fault) : Recognizes (.fail f) c 0 where
  sound hrun := by cases hrun
  complete _ _ hdepth := absurd hdepth (Nat.not_lt_zero _)

theorem primary {nested : TermParser} (hnested : Recognizes nested (.list .or) room) :
    Recognizes (primary nested) .primary (room + 1) where
  sound {ts rest e} hrun := by
    simp only [Condition.primary] at hrun
    split at hrun
    · next l ts =>
      cases hrun
      exact ⟨.literal l, rfl, Nat.succ_pos room, rfl⟩
    · next ts =>
      split at hrun
      · cases hrun
      · next e rest hinner =>
        cases hrun
        obtain ⟨d, rfl, hdepth, rfl⟩ := hnested.sound hinner
        exact ⟨.parens d, by simp [Derivation.tokens], Nat.succ_lt_succ hdepth, rfl⟩
      · cases hrun
    · cases hrun
    · cases hrun
  complete d rest hdepth _ := by
    cases d with
    | literal l => rfl
    | parens d =>
      have hrun := hnested.complete d (Nat.lt_of_succ_lt_succ hdepth)
        (Category.ends_closeParen _ rest)
      simp [Condition.primary, Derivation.tokens, hrun]

theorem comparison {nested : TermParser} (hnested : Recognizes nested (.list .or) room) :
    Recognizes (comparison nested) (.list .compare) (room + 1) := by
  rw [Condition.comparison, Listing.compared_eq]
  exact list (l := .compare) hnested.primary

theorem disjunction {term : TermParser} (hterm : Recognizes term .negation room) :
    Recognizes (disjunction term) (.list .or) room := by
  have hand : Recognizes (Listing.parser .and term) (.list .and) room := hterm.list
  rw [Condition.disjunction, Listing.joined_or, Listing.joined_and]
  exact list (l := .or) hand

/-- A negation needs room only for what is enclosed. -/
theorem negationOf {inner nested : TermParser} (hinner : Recognizes inner .negation room)
    (hnested : Recognizes nested (.list .or) room) :
    Recognizes (negationOf inner nested) .negation (room + 1) where
  sound {ts rest e} hrun := by
    simp only [Condition.negationOf] at hrun
    split at hrun
    · next ts =>
      split at hrun
      · cases hrun
      · next e' rest' hinner' =>
        cases hrun
        obtain ⟨d, rfl, hdepth, rfl⟩ := hinner.sound hinner'
        exact ⟨.not d, rfl, Nat.succ_lt_succ hdepth, rfl⟩
    · obtain ⟨d, htokens, hdepth, rfl⟩ := hnested.comparison.sound hrun
      exact ⟨.chain d, htokens, hdepth, rfl⟩
  complete d rest hdepth hrest := by
    cases d with
    | chain d =>
      have hrun := hnested.comparison.complete d hdepth (Category.ends_chain hrest)
      have hhead := d.tokens_append_ne (.inl rfl) rest
      simp only [Condition.negationOf]
      split
      · next ts hts => exact absurd hts (hhead ts)
      · exact hrun
    | not d =>
      have hrun := hinner.complete d (Nat.lt_of_succ_lt_succ hdepth) hrest
      simp [Condition.negationOf, Derivation.tokens, hrun]

theorem negation (room : Nat) : Recognizes (negation room) .negation (room + 1) := by
  induction room with
  | zero => exact (fail _ _).negationOf (fail _ _)
  | succ room ih => exact ih.negationOf ih.disjunction

end Recognizes

/-- A disjunction, the category of whole conditions. -/
abbrev Disjunction : Type := Derivation (.list .or)

theorem recognizes_disjunction : Recognizes (disjunction (negation maxDepth)) (.list .or) 65 :=
  (Recognizes.negation maxDepth).disjunction

theorem parse_tokens (d : Disjunction) (hdepth : d.depth ≤ 64) : parse d.tokens = .ok d.expr := by
  have hrun := recognizes_disjunction.complete d (Nat.lt_succ_of_le hdepth) (Category.ends_nil _)
  rw [List.append_nil] at hrun
  simp [parse, hrun]

theorem derives_of_parse {ts : List Token} {e : Expr} (h : parse ts = .ok e) :
    ∃ d : Disjunction, d.tokens = ts ∧ d.depth ≤ 64 ∧ d.expr = e := by
  simp only [parse] at h
  split at h
  · cases h
  · next hrun =>
    cases h
    obtain ⟨d, rfl, hdepth, rfl⟩ := recognizes_disjunction.sound hrun
    exact ⟨d, (List.append_nil _).symm, Nat.le_of_lt_succ hdepth, rfl⟩
  · cases h

/-- Exactly the tokens of derivations of depth at most 64 are parsed, each to the expression of its
only derivation; every other list of tokens is an error. -/
theorem parse_eq_ok_iff (ts : List Token) :
    (∀ e, parse ts = .ok e ↔ ∃ d : Disjunction, d.tokens = ts ∧ d.depth ≤ 64 ∧ d.expr = e) ∧
    (∀ d d' : Disjunction, d.tokens = ts → d'.tokens = ts → d = d') ∧
    ((∃ f, parse ts = .error f) ↔ ∀ d : Disjunction, d.tokens = ts → 64 < d.depth) := by
  refine ⟨fun e => ⟨derives_of_parse, ?_⟩, ?_, ⟨?_, fun hdeep => ?_⟩⟩
  · rintro ⟨d, rfl, hdepth, rfl⟩
    exact parse_tokens d hdepth
  · rintro d d' rfl hd'
    exact (Derivation.tokens_injective _ hd').symm
  · rintro ⟨f, hfault⟩ d rfl
    by_cases hdepth : d.depth ≤ 64
    · cases hfault.symm.trans (parse_tokens d hdepth)
    · exact Nat.lt_of_not_le hdepth
  · cases hparse : parse ts with
    | error f => exact ⟨f, rfl⟩
    | ok e =>
      obtain ⟨d, htokens, hdepth, -⟩ := derives_of_parse hparse
      exact absurd hdepth (Nat.not_le_of_lt (hdeep d htokens))

end Condition

end Flowscript
