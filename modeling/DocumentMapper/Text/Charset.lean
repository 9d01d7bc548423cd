import DocumentMapper.Text.Unicode.Property

/-!
# Characters of the newest version

Quotations and the names of groups know the characters that version 17.0 of the Unicode
character database adds to those of version 16.0. None of the new characters is hidden.

A character without a glyph of its own (control and format characters, separators other
than the space, private use and unassigned code points, and what is ignored by default)
cannot be read off a page, and a character that extends the one before it cannot stand
alone in a quotation.

## Main definitions

* `Charset.isUnprintable`: Has no glyph of its own.
* `Charset.isExtending`: Extends the grapheme before it.
* `Charset.isAlphabetic`, `Charset.isNumeric`: What names consist of.
-/

namespace DocumentMapper.Charset

/-- The new characters. -/
def added : CharSet :=
  .ofTable
    "88F C5C CDC 1ACF-1ADD 1AE0-1AEB 20C1 2B96 A7CE-A7CF A7D2 A7D4 A7F1 FBC3-FBD2 FD90-FD91
      FDC8-FDCE 10940-10959 10EC5-10EC7 10ED0-10ED8 10EFA-10EFB 11B60-11B67 11DB0-11DDB
      11DE0-11DE9 16EA0-16EB8 16EBB-16ED3 16FF2-16FF6 187F8-187FF 18D09-18D1E 18D80-18DF2
      1CCFA-1CCFC 1CEBA-1CED0 1CEE0-1CEF0 1E6C0-1E6DE 1E6E0-1E6F5 1E6FE-1E6FF 1F6D8 1F777-1F77A
      1F8D0-1F8D8 1FA54-1FA57 1FA8A 1FA8E 1FAC8 1FACD 1FAEA 1FAEF 1FBFA 2B73A-2B73F 2CEA2-2CEAD
      323B0-33479"

/-- The new characters that extend the one before them. -/
def addedExtending : CharSet :=
  .ofTable "1ACF-1ADD 1AE0-1AEB 10EFA-10EFB 11B60 11B62-11B64 11B66 1E6E3 1E6E6 1E6EE-1E6EF 1E6F5"

/-- The new characters that are alphabetic. -/
def addedAlphabetic : CharSet :=
  .ofTable
    "88F C5C CDC A7CE-A7CF A7D2 A7D4 A7F1 10940-10959 10EC5-10EC7 10EFA-10EFB 11B60-11B67
      11DB0-11DDB 16EA0-16EB8 16EBB-16ED3 16FF2-16FF6 187F8-187FF 18D09-18D1E 18D80-18DF2
      1E6C0-1E6DE 1E6E0-1E6F5 1E6FE-1E6FF 2B73A-2B73F 2CEA2-2CEAD 323B0-33479"

/-- The new characters that are numbers. -/
def addedNumeric : CharSet :=
  .ofTable "11DE0-11DE9 16FF4-16FF6"

/-- The characters without a glyph of their own, apart from the space. -/
def unprintable : CharSet :=
  ((Category.union [.control, .format, .privateUse, .unassigned, .spaceSeparator, .lineSeparator,
    .paragraphSeparator]).union Property.defaultIgnorableCodePoint.members).difference
      (added.union (.single ' '))

/-- The characters that extend the grapheme before them. The two sound marks of half width
    do so as well, but they take a place of their own and can be read alone. -/
def extending : CharSet :=
  (Property.graphemeExtend.members.difference (.ofTable "FF9E-FF9F")).union addedExtending

def alphabetic : CharSet :=
  Property.alphabetic.members.union addedAlphabetic

def numeric : CharSet :=
  (Category.union [.decimalNumber, .letterNumber, .otherNumber]).union addedNumeric

def isUnprintable (c : Char) : Bool :=
  unprintable.contains c

def isExtending (c : Char) : Bool :=
  extending.contains c

def isAlphabetic (c : Char) : Bool :=
  alphabetic.contains c

def isNumeric (c : Char) : Bool :=
  numeric.contains c

end DocumentMapper.Charset
