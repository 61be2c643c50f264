import Flowscript.Condition.Token
import Flowscript.Text.Blank
import Flowscript.Text.Letters

/-!
# Reading the tokens of a condition

Tokens are read from the front of the text; blanks separate them where needed. A number takes every
digit, point and power of ten it can and is judged as a whole afterwards. Offsets in messages count
characters.
-/

namespace Flowscript.Condition

/-- The character that an escaped character stands for. -/
def unescape (c : Char) : Char :=
  match c with
  | 'n' => '\n'
  | 't' => '\t'
  | 'r' => '\r'
  | c => c

/-- The text up to the closing quote, escapes resolved, and what follows the quote. -/
def readString (quote : Char) : List Char → Except Fault (List Char × List Char)
  | [] => .error .unterminatedString
  | ['\\'] => .error .unterminatedString
  | '\\' :: c :: rest =>
    match readString quote rest with
    | .error e => .error e
    | .ok (text, after) => .ok (unescape c :: text, after)
  | c :: rest =>
    if c = quote then .ok ([], rest)
    else
      match readString quote rest with
      | .error e => .error e
      | .ok (text, after) => .ok (c :: text, after)

/-- Whether a number starts here: with a digit, or with a sign or point and a digit behind it. -/
def startsNumber : List Char → Bool
  | c :: rest =>
    c.isDigit || match c, rest with
      | '-', d :: more | '+', d :: more => d.isDigit || (d = '.' && more.head?.any Char.isDigit)
      | '.', d :: _ => d.isDigit
      | _, _ => false
  | [] => false

/-- The digits, points and powers of ten of a number, what follows them, and whether there was a
point or a power of ten. Only one point is taken, and none behind a power. -/
def readNumeral (pointed : Bool) : List Char → List Char × List Char × Bool
  | [] => ([], [], pointed)
  | c :: rest =>
    if c.isDigit then
      let (text, after, pointed) := readNumeral pointed rest
      (c :: text, after, pointed)
    else if c = '.' && !pointed then
      let (text, after, pointed) := readNumeral true rest
      (c :: text, after, pointed)
    else if c = 'e' || c = 'E' then
      match rest with
      | '-' :: rest =>
        let (text, after, pointed) := readNumeral true rest
        (c :: '-' :: text, after, pointed)
      | '+' :: rest =>
        let (text, after, pointed) := readNumeral true rest
        (c :: '+' :: text, after, pointed)
      | rest =>
        let (text, after, pointed) := readNumeral true rest
        (c :: text, after, pointed)
    else ([], c :: rest, pointed)

/-- The literal that the text of a number denotes. An integer too large for 64 bits is a floating
point number. -/
def numberLiteral (text : List Char) (pointed : Bool) : Except Fault Literal :=
  let float := match Numeral.readFloat? text with
    | some x => .ok (.float x)
    | none => .error (.malformedNumber (String.ofList text))
  if pointed then float
  else
    match Digits.int64? text with
    | some i => .ok (.int i)
    | none => float

/-- Whether a character may start a word. -/
def startsWord (c : Char) : Bool :=
  Text.isAlphabetic c || c = '_'

/-- Whether a character may go on with a word. -/
def continuesWord (c : Char) : Bool :=
  Text.isAlphanumeric c || c = '_'

/-- The token that a word is. -/
def wordToken (word : String) : Except Fault Token :=
  match word with
  | "and" => .ok .and
  | "or" => .ok .or
  | "not" => .ok .not
  | "true" | "True" => .ok (.literal (.bool true))
  | "false" | "False" => .ok (.literal (.bool false))
  | "null" | "None" => .ok (.literal .null)
  | word => .error (.unknownWord word)

/-- The comparison operator at the front of a text, and what follows it. -/
def readComparison? : List Char → Option (Comparison × List Char)
  | '=' :: '=' :: rest => some (.eq, rest)
  | '!' :: '=' :: rest => some (.ne, rest)
  | '<' :: '=' :: rest => some (.le, rest)
  | '>' :: '=' :: rest => some (.ge, rest)
  | '<' :: rest => some (.lt, rest)
  | '>' :: rest => some (.gt, rest)
  | _ => none

/-- The first token of a text that starts with `c`, which is no blank, and what follows it. The text
is the end of one of `total` characters. -/
def readToken (total : Nat) (c : Char) (rest : List Char) : Except Fault (Token × List Char) :=
  if c = '(' then .ok (.openParen, rest)
  else if c = ')' then .ok (.closeParen, rest)
  else
    match readComparison? (c :: rest) with
    | some (op, after) => .ok (.compare op, after)
    | none =>
      if c = '"' || c.toNat = 0x27 then
        match readString c rest with
        | .error e => .error e
        | .ok (text, after) => .ok (.literal (.str (String.ofList text)), after)
      else if startsNumber (c :: rest) then
        let (text, after, pointed) := readNumeral (c = '.') rest
        match numberLiteral (c :: text) pointed with
        | .error e => .error e
        | .ok l => .ok (.literal l, after)
      else if startsWord c then
        match wordToken (String.ofList (c :: rest.takeWhile continuesWord)) with
        | .error e => .error e
        | .ok t => .ok (t, rest.dropWhile continuesWord)
      else .error (.unexpectedChar c (total - (rest.length + 1)))

theorem length_readString_lt {quote : Char} {cs text after : List Char}
    (h : readString quote cs = .ok (text, after)) : after.length < cs.length := by
  fun_induction readString quote cs generalizing text after with
  | case1 => simp at h
  | case2 => simp at h
  | case3 => simp at h
  | case4 c rest t a hrun ih =>
    have := ih hrun
    simp only [Except.ok.injEq, Prod.mk.injEq] at h
    simp only [List.length_cons, ← h.2]
    omega
  | case5 rest => simp_all
  | case6 => simp at h
  | case7 c rest _ _ _ t a hrun ih =>
    have := ih hrun
    simp only [Except.ok.injEq, Prod.mk.injEq] at h
    simp only [List.length_cons, ← h.2]
    omega

theorem length_readNumeral_le (pointed : Bool) (cs : List Char) :
    (readNumeral pointed cs).2.1.length ≤ cs.length := by
  fun_induction readNumeral pointed cs <;> simp_all <;> omega

/-- Reading a token takes at least its first character. -/
theorem length_readToken_le {total : Nat} {c : Char} {rest after : List Char} {t : Token}
    (h : readToken total c rest = .ok (t, after)) : after.length ≤ rest.length := by
  unfold readToken at h
  split at h
  · simp_all
  split at h
  · simp_all
  split at h
  · rename_i op tail hop
    simp only [Except.ok.injEq, Prod.mk.injEq] at h
    unfold readComparison? at hop
    split at hop <;> simp_all
  split at h
  · split at h
    · simp at h
    · rename_i hrun
      simp only [Except.ok.injEq, Prod.mk.injEq] at h
      exact Nat.le_of_lt (h.2 ▸ length_readString_lt hrun)
  split at h
  · simp only at h
    split at h
    · simp at h
    · simp only [Except.ok.injEq, Prod.mk.injEq] at h
      exact h.2 ▸ length_readNumeral_le _ rest
  split at h
  · split at h
    · simp at h
    · simp only [Except.ok.injEq, Prod.mk.injEq] at h
      exact h.2 ▸ (List.dropWhile_sublist continuesWord (l := rest)).length_le
  · simp at h

/-- The tokens of a text that is the end of one of `total` characters. -/
def tokensOf (total : Nat) (cs : List Char) : Except Fault (List Token) :=
  match cs with
  | [] => .ok []
  | c :: rest =>
    if Text.isBlank c then tokensOf total rest
    else
      match _h : readToken total c rest with
      | .error e => .error e
      | .ok (t, after) =>
        match tokensOf total after with
        | .error e => .error e
        | .ok ts => .ok (t :: ts)
termination_by cs.length
decreasing_by
  · simp
  · have := length_readToken_le ‹readToken _ _ _ = .ok _›
    simp only [List.length_cons]
    omega

/-- The tokens of a text. -/
def tokens (cs : List Char) : Except Fault (List Token) :=
  tokensOf cs.length cs

end Flowscript.Condition
