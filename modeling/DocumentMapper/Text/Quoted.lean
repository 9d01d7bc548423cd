import DocumentMapper.Text.Charset
import DocumentMapper.Text.Hex

/-!
# Quoted text

Messages quote the text they are about, so that blanks, line ends and invisible
characters in it can be told apart. Six characters have short names after a
backslash; a character without a visible form of its own is written as its code
point in braces.

## Main definitions

* `Quoted.text`: A text between double quotes.
* `Quoted.char`: A character between single quotes.
-/

namespace DocumentMapper.Quoted

/-- The hexadecimal digits of a number, without leading zeros. -/
def hexDigits (n : Nat) : List Char :=
  if n < 16 then [Hex.digit n] else hexDigits (n / 16) ++ [Hex.digit (n % 16)]
termination_by n
decreasing_by omega

/-- A character as its code point in braces. -/
def codePoint (c : Char) : List Char :=
  ['\\', 'u', '\x7b'] ++ hexDigits c.toNat ++ ['\x7d']

/-- A character inside the given quotation mark, which is written after a
    backslash; the other mark stands as it is. -/
def escape (mark : Char) (c : Char) : List Char :=
  if c = '\x00' then ['\\', '0']
  else if c = '\t' then ['\\', 't']
  else if c = '\r' then ['\\', 'r']
  else if c = '\n' then ['\\', 'n']
  else if c = '\\' then ['\\', '\\']
  else if c = mark then ['\\', mark]
  else if c.toNat < 127 && 32 ≤ c.toNat then [c]
  else if Charset.isExtending c || Charset.isUnprintable c then codePoint c
  else [c]

/-- A text between double quotes. -/
def text (s : String) : String :=
  String.ofList ('"' :: s.toList.flatMap (escape '"') ++ ['"'])

/-- A character between single quotes. -/
def char (c : Char) : String :=
  String.ofList ('\'' :: escape '\'' c ++ ['\''])

end DocumentMapper.Quoted
