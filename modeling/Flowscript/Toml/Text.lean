import Flowscript.Json.Reader

/-!
# TOML texts

Reading the four forms of text in a TOML document. Basic text stands between double quotes and has
escapes, literal text stands between single quotes and has none. Both have a form over several lines
between three quotes each, in which one or two quotes stand for themselves, also just before the
closing ones. The readers are given the text behind the opening quotes and return what is behind the
closing ones.
-/

namespace Flowscript.Toml

/-- The single quote. -/
def apostrophe : Char := Char.ofNat 0x27

/-- Whether a character may stand in a comment or a text as it is. -/
def isPlain (c : Char) : Bool :=
  c = '\t' || (0x20 ≤ c.toNat && c.toNat ≠ 0x7F)

/-- The character with a number in hexadecimal digits. -/
def character? (digits : List Char) : Option Char :=
  (Json.hexValue? digits).bind fun n => if n.isValidChar then some (Char.ofNat n) else none

/-- The character of an escape of one letter. -/
def escaped? (c : Char) : Option Char :=
  if c = '/' then none else Json.unescape? c

/-- A character before what follows it. -/
def prepend (c : Char) (result : Option (List Char × List Char)) :
    Option (List Char × List Char) :=
  result.map fun (text, rest) => (c :: text, rest)

/-- Basic text. -/
def basicText : List Char → Option (List Char × List Char)
  | '"' :: rest => some ([], rest)
  | '\\' :: 'u' :: a :: b :: c :: d :: rest => do
    let character ← character? [a, b, c, d]
    prepend character (basicText rest)
  | '\\' :: 'U' :: a :: b :: c :: d :: e :: f :: g :: h :: rest => do
    let character ← character? [a, b, c, d, e, f, g, h]
    prepend character (basicText rest)
  | '\\' :: e :: rest => do
    let character ← escaped? e
    prepend character (basicText rest)
  | c :: rest => if isPlain c then prepend c (basicText rest) else none
  | [] => none

/-- Literal text. -/
def literalText : List Char → Option (List Char × List Char)
  | [] => none
  | c :: rest =>
    if c = apostrophe then some ([], rest)
    else if isPlain c then prepend c (literalText rest)
    else none

/-- Text without a line break at its start. -/
def skipLineBreak : List Char → List Char
  | '\n' :: rest => rest
  | '\r' :: '\n' :: rest => rest
  | rest => rest

/-- Whether nothing but blanks stands before the next line break. -/
def endsLine : List Char → Bool
  | ' ' :: rest => endsLine rest
  | '\t' :: rest => endsLine rest
  | '\n' :: _ => true
  | '\r' :: '\n' :: _ => true
  | _ => false

/-- The quotes that stand for themselves before three closing ones, and the text behind those. -/
def closing (quote : Char) (rest : List Char) : List Char × List Char :=
  match rest with
  | a :: b :: after =>
    if a = quote ∧ b = quote then ([quote, quote], after)
    else if a = quote then ([quote], b :: after)
    else ([], rest)
  | [a] => if a = quote then ([quote], []) else ([], rest)
  | [] => ([], [])

/-- Basic text over several lines. A backslash at the end of a line joins it with the next text;
`joining` tells that blanks and line breaks are being left out. -/
def basicLines (joining : Bool) : List Char → Option (List Char × List Char)
  | '\r' :: '\n' :: rest =>
    if joining then basicLines true rest else prepend '\n' (basicLines false rest)
  | '"' :: '"' :: '"' :: rest => some (closing '"' rest)
  | '\\' :: 'u' :: a :: b :: c :: d :: rest => do
    let character ← character? [a, b, c, d]
    prepend character (basicLines false rest)
  | '\\' :: 'U' :: a :: b :: c :: d :: e :: f :: g :: h :: rest => do
    let character ← character? [a, b, c, d, e, f, g, h]
    prepend character (basicLines false rest)
  | '\\' :: e :: rest =>
    if endsLine (e :: rest) then basicLines true (e :: rest)
    else do
      let character ← escaped? e
      prepend character (basicLines false rest)
  | c :: rest =>
    if joining && (c = ' ' || c = '\t' || c = '\n') then basicLines true rest
    else if c = '\n' || isPlain c then prepend c (basicLines false rest)
    else none
  | [] => none

/-- Literal text over several lines. -/
def literalLines : List Char → Option (List Char × List Char)
  | '\r' :: '\n' :: rest => prepend '\n' (literalLines rest)
  | a :: b :: c :: rest =>
    if a = apostrophe ∧ b = apostrophe ∧ c = apostrophe then some (closing apostrophe rest)
    else if a = '\n' || isPlain a then prepend a (literalLines (b :: c :: rest))
    else none
  | _ => none

/-- A text in one of its four forms, and what is behind it. -/
def text? (cs : List Char) : Option (List Char × List Char) :=
  match cs with
  | '"' :: '"' :: '"' :: rest => basicLines false (skipLineBreak rest)
  | '"' :: rest => basicText rest
  | a :: b :: c :: rest =>
    if a = apostrophe ∧ b = apostrophe ∧ c = apostrophe then literalLines (skipLineBreak rest)
    else if a = apostrophe then literalText (b :: c :: rest)
    else none
  | a :: rest => if a = apostrophe then literalText rest else none
  | [] => none

/-- A text on one line, and what is behind it. -/
def lineText? (cs : List Char) : Option (List Char × List Char) :=
  match cs with
  | '"' :: rest => basicText rest
  | a :: rest => if a = apostrophe then literalText rest else none
  | [] => none

end Flowscript.Toml
