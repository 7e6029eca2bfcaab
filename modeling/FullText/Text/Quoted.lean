/-
FullText/Text/Quoted.lean

Texts in quotes, as messages show them.  A text stands in single quotes, and in
double quotes if it holds a single one and no double one, so a quote has to be
escaped only in a text that holds both.  Escapes keep the shown form on one
line and visible: a backslash, the quote in use, tab, line feed, carriage
return, and every character that is not printable.
-/
import FullText.Unicode.Printable

namespace FullText.Text

open Unicode

/-- The last `width` hexadecimal digits of `n`, small letters for the digits
above nine. -/
def hexDigits : Nat → Nat → List Char
  | 0, _ => []
  | width + 1, n => hexDigits width (n / 16) ++ [Nat.digitChar (n % 16)]

/-- The escape of a character that is not printable: its code point in two,
four or eight hexadecimal digits, as few as hold it. -/
def codeEscape (c : Char) : List Char :=
  let n := c.toNat
  if n < 0x100 then '\\' :: 'x' :: hexDigits 2 n
  else if n < 0x10000 then '\\' :: 'u' :: hexDigits 4 n
  else '\\' :: 'U' :: hexDigits 8 n

/-- The letter that stands for a character behind a backslash. -/
def shortEscape? : Char → Option Char
  | '\t' => some 't'
  | '\n' => some 'n'
  | '\r' => some 'r'
  | _ => none

/-- One character of a text between the quotes `quote`. -/
def escape (quote c : Char) : List Char :=
  if c = quote ∨ c = '\\' then ['\\', c]
  else match shortEscape? c with
    | some letter => ['\\', letter]
    | none => if isPrintable c then [c] else codeEscape c

/-- The quote that a text is shown in. -/
def quoteFor (text : List Char) : Char :=
  if '\'' ∈ text ∧ '"' ∉ text then '"' else '\''

/-- A text in quotes. -/
def quoted (text : String) : String :=
  let quote := quoteFor text.toList
  String.ofList (quote :: text.toList.flatMap (escape quote) ++ [quote])

end FullText.Text
