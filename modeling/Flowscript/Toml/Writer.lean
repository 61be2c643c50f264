import Flowscript.Decimal.Digits
import Flowscript.Json.Basic
import Flowscript.Toml.Text

/-!
# Writing TOML

A text is written in the first form that fits of basic, literal, basic over several lines and
literal over several lines, none of which may need an escape; where all fail, it is written with
escapes. A tab needs no escape, and is still written as one between double quotes.
-/

namespace Flowscript.Toml

/-- Whether a character can stand in a text only as an escape. -/
def isControl (c : Char) : Bool :=
  c ≠ '\n' && !isPlain c

/-- How long the longest run of a character in a text is, if `current` of them stand before it. -/
def longestRun (mark : Char) (current : Nat) : List Char → Nat
  | [] => current
  | c :: rest =>
    if c = mark then longestRun mark (current + 1) rest
    else max current (longestRun mark 0 rest)

/-- How a text is written. -/
inductive TextForm where
  | basic
  | literal
  | basicLines
  | literalLines
  deriving DecidableEq, Repr

/-- The form of a text. -/
def formOf (cs : List Char) : TextForm :=
  let control := cs.any isControl
  let lines := cs.contains '\n'
  let backslash := cs.contains '\\'
  let quotes := longestRun '"' 0 cs
  let apostrophes := longestRun apostrophe 0 cs
  if !control && !lines && !backslash && quotes = 0 then .basic
  else if !control && !lines && apostrophes = 0 then .literal
  else if !control && !backslash && quotes ≤ 2 then .basicLines
  else if !control && apostrophes ≤ 2 then .literalLines
  else if lines then .basicLines
  else .basic

/-- The escape of a character. -/
def escape (c : Char) : List Char :=
  if c = '"' then ['\\', '"']
  else if c = '\\' then ['\\', '\\']
  else if c = '\t' then ['\\', 't']
  else if c = '\n' then ['\\', 'n']
  else if c = '\r' then ['\\', 'r']
  else if c.toNat = 8 then ['\\', 'b']
  else if c.toNat = 12 then ['\\', 'f']
  else '\\' :: 'u' :: (Json.hex4 c.toNat).map Char.toUpper

/-- Text between double quotes, of which `allowed` may stand in a row without an escape; `row` is
how many of them stand before it. A line break stays one where `lines` is true. -/
def quotedChars (lines : Bool) (allowed row : Nat) : List Char → List Char
  | [] => []
  | c :: rest =>
    if c = '"' then
      if row < allowed then c :: quotedChars lines allowed (row + 1) rest
      else escape c ++ quotedChars lines allowed 0 rest
    else if lines && c = '\n' then c :: quotedChars lines allowed 0 rest
    else if c = '\\' || c = '\t' || c = '\n' || isControl c then
      escape c ++ quotedChars lines allowed 0 rest
    else c :: quotedChars lines allowed 0 rest

/-- Three times the same quote, and a line break if the text behind it has one. -/
def openLines (quote : Char) (cs : List Char) : List Char :=
  List.replicate 3 quote ++ if cs.contains '\n' then ['\n'] else []

/-- A text with its quotes. -/
def quoted (cs : List Char) : List Char :=
  match formOf cs with
  | .basic => '"' :: quotedChars false 0 0 cs ++ ['"']
  | .literal => apostrophe :: cs ++ [apostrophe]
  | .basicLines => openLines '"' cs ++ quotedChars true 2 0 cs ++ List.replicate 3 '"'
  | .literalLines => openLines apostrophe cs ++ cs ++ List.replicate 3 apostrophe

/-- A line with a natural number under a key. -/
def numberLine (key : String) (n : Nat) : List Char :=
  key.toList ++ " = ".toList ++ Digits.ofNat n ++ ['\n']

/-- A line with a text under a key. -/
def textLine (key text : String) : List Char :=
  key.toList ++ " = ".toList ++ quoted text.toList ++ ['\n']

/-- The line of a header. -/
def headerLine (key : String) : List Char :=
  '[' :: key.toList ++ [']', '\n']

end Flowscript.Toml
