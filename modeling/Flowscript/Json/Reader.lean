import Flowscript.Json.Basic

/-!
# Reading JSON

A text is first taken apart into lexemes: marks, string literals and words. A machine with a list
of open containers then builds the tree, one lexeme or one fixed group of them at a time: after a
value it closes or goes on with the innermost open container. There is no limit on the depth of a
tree; who decodes a tree into something sets one.
-/

namespace Flowscript.Json

/-- A mark, a string literal, or a value written as one word. -/
inductive Lexeme where
  | openArray
  | closeArray
  | openObject
  | closeObject
  | comma
  | colon
  | quoted (content : Option String)
  | word (value : Json)

/-- The value of a hexadecimal digit. -/
def hexDigit? (c : Char) : Option Nat :=
  if '0' ≤ c ∧ c ≤ '9' then some (c.toNat - '0'.toNat)
  else if 'a' ≤ c ∧ c ≤ 'f' then some (c.toNat - 'a'.toNat + 10)
  else if 'A' ≤ c ∧ c ≤ 'F' then some (c.toNat - 'A'.toNat + 10)
  else none

/-- The number that hexadecimal digits denote. -/
def hexValue? (cs : List Char) : Option Nat :=
  cs.foldlM (fun n c => (hexDigit? c).map (16 * n + ·)) 0

/-- The character of an escape of one letter. -/
def unescape? (c : Char) : Option Char :=
  match c with
  | '"' => some '"'
  | '\\' => some '\\'
  | '/' => some '/'
  | 'b' => some (Char.ofNat 8)
  | 'f' => some (Char.ofNat 12)
  | 'n' => some '\n'
  | 'r' => some '\r'
  | 't' => some '\t'
  | _ => none

/-- A piece of a string literal: a character, or a code unit written in hexadecimal. -/
inductive Piece where
  | char (c : Char)
  | unit (n : Nat)

/-- The pieces of a string literal up to its closing quote, and the text behind that. -/
def readPieces : List Char → Option (List Piece × List Char)
  | '"' :: rest => some ([], rest)
  | '\\' :: 'u' :: a :: b :: c :: d :: rest => do
    let n ← hexValue? [a, b, c, d]
    let (pieces, after) ← readPieces rest
    some (.unit n :: pieces, after)
  | '\\' :: e :: rest => do
    let c ← unescape? e
    let (pieces, after) ← readPieces rest
    some (.char c :: pieces, after)
  | c :: rest =>
    if c.toNat < 0x20 then none
    else do
      let (pieces, after) ← readPieces rest
      some (.char c :: pieces, after)
  | [] => none

/-- The characters of pieces; two code units of a surrogate pair are one character. -/
def joinPieces : List Piece → Option (List Char)
  | [] => some []
  | .char c :: rest => (joinPieces rest).map (c :: ·)
  | .unit high :: .unit low :: rest =>
    if 0xD800 ≤ high ∧ high < 0xDC00 ∧ 0xDC00 ≤ low ∧ low < 0xE000 then
      (joinPieces rest).map
        (Char.ofNat (0x10000 + (high - 0xD800) * 0x400 + (low - 0xDC00)) :: ·)
    else if 0xD800 ≤ high ∧ high < 0xE000 then none
    else (joinPieces (.unit low :: rest)).map (Char.ofNat high :: ·)
  | .unit n :: rest =>
    if 0xD800 ≤ n ∧ n < 0xE000 then none else (joinPieces rest).map (Char.ofNat n :: ·)

/-- The characters that words are made of. -/
def isWordChar (c : Char) : Bool :=
  c.isAlphanum || c = '+' || c = '-' || c = '.'

/-- The digits of a fraction, if there is one, and the text behind it. -/
def afterFraction? : List Char → Option (List Char)
  | '.' :: cs => if cs.takeWhile Char.isDigit = [] then none else some (cs.dropWhile Char.isDigit)
  | cs => some cs

/-- Whether text is an exponent, or nothing. -/
def isExponent : List Char → Bool
  | [] => true
  | c :: cs => (c = 'e' || c = 'E') && Digits.isRun (Digits.signed cs).2

/-- Whether text is a number without its sign: no digit follows a leading zero, and there are
digits on both sides of a point. -/
def isMagnitude (cs : List Char) : Bool :=
  let whole := cs.takeWhile Char.isDigit
  whole ≠ [] && (whole = ['0'] || whole.head? ≠ some '0') &&
    match afterFraction? (cs.dropWhile Char.isDigit) with
    | some rest => isExponent rest
    | none => false

/-- Whether text is a number. -/
def isNumber : List Char → Bool
  | '-' :: cs => isMagnitude cs
  | cs => isMagnitude cs

/-- The value that a word denotes. -/
def word? (cs : List Char) : Option Json :=
  if cs = "null".toList then some .null
  else if cs = "true".toList then some (.bool true)
  else if cs = "false".toList then some (.bool false)
  else if isNumber cs then some (.number (String.ofList cs))
  else none

/-- The mark that a character is. -/
def mark? (c : Char) : Option Lexeme :=
  match c with
  | '[' => some .openArray
  | ']' => some .closeArray
  | '{' => some .openObject
  | '}' => some .closeObject
  | ',' => some .comma
  | ':' => some .colon
  | _ => none

/-- Whether a character may stand between lexemes. -/
def isSpace (c : Char) : Bool :=
  c = ' ' || c = '\n' || c = '\t' || c = '\r'

theorem length_readPieces_lt {cs after : List Char} {pieces : List Piece}
    (h : readPieces cs = some (pieces, after)) : after.length < cs.length := by
  fun_induction readPieces cs generalizing pieces after with
  | case1 rest => simp_all
  | case2 a b c d rest ih =>
    simp only [Option.bind_eq_bind, Option.bind_eq_some_iff] at h
    obtain ⟨_, _, ⟨_, _⟩, hrest, h⟩ := h
    simp only [Option.some.injEq, Prod.mk.injEq] at h
    have := ih hrest
    simp only [List.length_cons, ← h.2]
    omega
  | case3 e rest _ ih =>
    simp only [Option.bind_eq_bind, Option.bind_eq_some_iff] at h
    obtain ⟨_, _, ⟨_, _⟩, hrest, h⟩ := h
    simp only [Option.some.injEq, Prod.mk.injEq] at h
    have := ih hrest
    simp only [List.length_cons, ← h.2]
    omega
  | case4 => simp at h
  | case5 c rest _ _ _ _ ih =>
    simp only [Option.bind_eq_bind, Option.bind_eq_some_iff] at h
    obtain ⟨⟨_, _⟩, hrest, h⟩ := h
    simp only [Option.some.injEq, Prod.mk.injEq] at h
    have := ih hrest
    simp only [List.length_cons, ← h.2]
    omega
  | case6 => simp at h

/-- The lexemes of a text. -/
def lexemes? (cs : List Char) : Option (List Lexeme) :=
  match cs with
  | [] => some []
  | c :: rest =>
    if isSpace c then lexemes? rest
    else
      match mark? c with
      | some mark => (lexemes? rest).map (mark :: ·)
      | none =>
        if c = '"' then
          match _h : readPieces rest with
          | none => none
          | some (pieces, after) =>
            (lexemes? after).map (.quoted ((joinPieces pieces).map String.ofList) :: ·)
        else
          match word? (c :: rest.takeWhile isWordChar) with
          | none => none
          | some value => (lexemes? (rest.dropWhile isWordChar)).map (.word value :: ·)
termination_by cs.length
decreasing_by
  · simp
  · simp
  · have := length_readPieces_lt ‹readPieces rest = some (_, after)›
    simp only [List.length_cons]
    omega
  · have := (List.dropWhile_sublist isWordChar (l := rest)).length_le
    simp only [List.length_cons]
    omega

/-- An open container: what it holds so far, the latest first, and for an object the key of the
value that is being read. -/
inductive Container where
  | array (before : List Json)
  | object (before : List (Option String × Json)) (key : Option String)

/-- Builds a tree from lexemes. `value` is the value just read, if one was, and `outer` are the open
containers around it, the innermost first. -/
def build (value : Option Json) (outer : List Container) (lexemes : List Lexeme) : Option Json :=
  match value, outer, lexemes with
  | none, _, .word j :: rest => build (some j) outer rest
  | none, _, .quoted s :: rest => build (some (.string s)) outer rest
  | none, _, .openArray :: .closeArray :: rest => build (some (.array [])) outer rest
  | none, _, .openArray :: rest => build none (.array [] :: outer) rest
  | none, _, .openObject :: .closeObject :: rest => build (some (.object [])) outer rest
  | none, _, .openObject :: .quoted key :: .colon :: rest =>
    build none (.object [] key :: outer) rest
  | some j, .array before :: outer, .comma :: rest =>
    build none (.array (j :: before) :: outer) rest
  | some j, .array before :: outer, .closeArray :: rest =>
    build (some (.array (j :: before).reverse)) outer rest
  | some j, .object before key :: outer, .comma :: .quoted next :: .colon :: rest =>
    build none (.object ((key, j) :: before) next :: outer) rest
  | some j, .object before key :: outer, .closeObject :: rest =>
    build (some (.object ((key, j) :: before).reverse)) outer rest
  | some j, [], [] => some j
  | _, _, _ => none

/-- Reads a whole text as JSON. -/
def read? (cs : List Char) : Option Json :=
  (lexemes? cs).bind (build none [])

end Flowscript.Json
