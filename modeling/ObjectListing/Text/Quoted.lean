import ObjectListing.Text.Lowercase
import ObjectListing.Text.PrintTable

/-!
Quoted text: a text between double quotes in which a quote, a backslash, a line break and a character
that shows nothing are written as escapes.
-/

namespace ObjectListing

/-- Characters that can be written as they are. -/
def isPlain (c : Char) : Bool := !inRanges extenderRanges c && !inRanges unprintableRanges c

namespace Text

/-- The code of a character as an escape, in small hexadecimal digits. -/
def codeEscape (c : Char) : Text :=
  ['\\', 'u', '\x7b'] ++ Nat.toDigits 16 c.toNat ++ ['\x7d']

/-- One character inside quotes. -/
def quotedChar (c : Char) : Text :=
  if c = '\x00' then ['\\', '0']
  else if c = '\t' then ['\\', 't']
  else if c = '\r' then ['\\', 'r']
  else if c = '\n' then ['\\', 'n']
  else if c = '\x22' || c = '\\' then ['\\', c]
  else if c.toNat < 127 && 32 ≤ c.toNat then [c]
  else if isPlain c then [c]
  else codeEscape c

/-- A text in quotes. -/
def quoted (t : Text) : String := str (['\x22'] ++ t.flatMap quotedChar ++ ['\x22'])

end Text

end ObjectListing
