import ObjectListing.Text.Basic

/-!
Text as bytes, in UTF-8. Any bytes can be read; a stretch of bytes that is no character and no part
of one is read as the replacement character, once for each beginning of a character that is cut off
and once for each byte that begins none.
-/

namespace ObjectListing

namespace Text

/-- The bytes of a text. -/
def bytes (t : Text) : List UInt8 := (str t).toUTF8.toList

/-- What stands for bytes that are no character. -/
def replacement : Char := Char.ofNat 0xfffd

/-- A character of which some bytes were read: how many bytes are owed, the range that the next one
has to lie in, and the bits so far. -/
structure Unfinished where
  owed : Nat
  least : Nat := 0x80
  most : Nat := 0xbf
  bits : Nat
  deriving DecidableEq, Repr

/-- What a byte between characters is the beginning of. -/
inductive Beginning
  | whole (c : Char)
  | part (u : Unfinished)
  | nothing
  deriving DecidableEq, Repr

/-- What a byte between characters is the beginning of: bytes that would encode a character in more
bytes than needed, half of a pair or a number beyond the last character are no beginning. -/
def beginning (b : Nat) : Beginning :=
  if b < 0x80 then .whole (Char.ofNat b)
  else if b < 0xc2 then .nothing
  else if b < 0xe0 then .part { owed := 1, bits := b - 0xc0 }
  else if b = 0xe0 then .part { owed := 2, least := 0xa0, bits := 0 }
  else if b = 0xed then .part { owed := 2, most := 0x9f, bits := 0xd }
  else if b < 0xf0 then .part { owed := 2, bits := b - 0xe0 }
  else if b = 0xf0 then .part { owed := 3, least := 0x90, bits := 0 }
  else if b < 0xf4 then .part { owed := 3, bits := b - 0xf0 }
  else if b = 0xf4 then .part { owed := 3, most := 0x8f, bits := 4 }
  else .nothing

/-- Reads bytes after those of an unfinished character, if there is one. -/
def readAfter : Option Unfinished → List UInt8 → Text
  | none, [] => []
  | some _, [] => [replacement]
  | none, b :: bs =>
    match beginning b.toNat with
    | .whole c => c :: readAfter none bs
    | .part u => readAfter (some u) bs
    | .nothing => replacement :: readAfter none bs
  | some u, b :: bs =>
    if u.least ≤ b.toNat && b.toNat ≤ u.most then
      let bits := u.bits * 64 + b.toNat % 64
      if u.owed ≤ 1 then Char.ofNat bits :: readAfter none bs
      else readAfter (some { owed := u.owed - 1, bits }) bs
    else
      match beginning b.toNat with
      | .whole c => replacement :: c :: readAfter none bs
      | .part u => replacement :: readAfter (some u) bs
      | .nothing => replacement :: replacement :: readAfter none bs

/-- Reads bytes as text. -/
def ofBytes (bs : List UInt8) : Text := readAfter none bs

/-- The text of which these are the bytes, if there is one. -/
def ofBytes? (bs : List UInt8) : Option Text :=
  if (ofBytes bs).bytes = bs then some (ofBytes bs) else none

end Text

end ObjectListing
