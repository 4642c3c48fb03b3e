import SentenceChart.Text.Hexadecimal
import SentenceChart.Text.Printable

/-!
# Quoted texts

A quoted text stands between apostrophes, or between double quotes if it
holds an apostrophe and no double quote.  The enclosing quote, the backslash
and every character that is not printable are escaped.
-/

namespace SentenceChart.Text

def apostrophe : Char := Char.ofNat 0x27

def doubleQuote : Char := Char.ofNat 0x22

def backslash : Char := Char.ofNat 0x5C

/-- The quote that a text is enclosed in. -/
def enclosingQuote (text : List Char) : Char :=
  if text.contains apostrophe && !text.contains doubleQuote then
    doubleQuote
  else
    apostrophe

/-- An unprintable character as its code point in the shortest of three
widths. -/
def escapeCode (c : Char) : List Char :=
  let code := c.toNat
  if code < 0x100 then
    backslash :: 'x' :: hexDigits 2 code
  else if code < 0x10000 then
    backslash :: 'u' :: hexDigits 4 code
  else
    backslash :: 'U' :: hexDigits 8 code

/-- One character inside a text that is enclosed in the given quote. -/
def quotedChar (quote c : Char) : List Char :=
  if c = quote ∨ c = backslash then [backslash, c]
  else if c = '\t' then [backslash, 't']
  else if c = '\n' then [backslash, 'n']
  else if c = '\r' then [backslash, 'r']
  else if isPrintable c then [c]
  else escapeCode c

/-- The quoted form of a text. -/
def quoted (text : List Char) : List Char :=
  let quote := enclosingQuote text
  quote :: text.flatMap (quotedChar quote) ++ [quote]

/-- The quoted form of a string. -/
def quote (text : String) : String :=
  String.ofList (quoted text.toList)

end SentenceChart.Text
