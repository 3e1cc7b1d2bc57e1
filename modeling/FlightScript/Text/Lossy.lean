import FlightScript.Bytes
/-!
# Reading bytes as text when they need not be UTF-8

Names and arguments are arbitrary octets, and still have to be shown. `decode` reads UTF-8 and puts
one U+FFFD in the place of each *maximal ill-formed part*: the longest run of octets that could
begin a character, or one octet where none could. A character cut off at the end of the text is one
such part; a surrogate written in three octets is three, because its second octet already rules the
character out.

## The table

Which octets may begin a character, how many follow, and what the first of those may be, is the
table of well-formed sequences (`Lead`). The narrow ranges for the second octet are what excludes
overlong forms, surrogates and numbers above U+10FFFF; every later octet is in `80 … BF`.
-/

namespace FlightScript.Text.Lossy

/-- What the first octet of a character of several octets asks of those after it. -/
structure Lead where
  following : Nat
  /-- The bits of the character that the first octet holds. -/
  bits : Nat
  /-- The least second octet. -/
  least : UInt8
  /-- The greatest second octet. -/
  greatest : UInt8

/-- The well-formed sequences of two octets and more, by their first octet. -/
def Lead.ofByte? (b : UInt8) : Option Lead :=
  if b < 0xC2 then none
  else if b ≤ 0xDF then some ⟨1, b.toNat - 0xC0, 0x80, 0xBF⟩
  else if b = 0xE0 then some ⟨2, 0, 0xA0, 0xBF⟩
  else if b = 0xED then some ⟨2, 0xD, 0x80, 0x9F⟩
  else if b ≤ 0xEF then some ⟨2, b.toNat - 0xE0, 0x80, 0xBF⟩
  else if b = 0xF0 then some ⟨3, 0, 0x90, 0xBF⟩
  else if b = 0xF4 then some ⟨3, 4, 0x80, 0x8F⟩
  else if b ≤ 0xF3 then some ⟨3, b.toNat - 0xF0, 0x80, 0xBF⟩
  else none

/-- The mark that stands for an ill-formed part. -/
def replacement : Char := '\uFFFD'

/-- What is read so far of the text: nothing of a character, or a part of one that owes `owed`
octets, the next of them between `least` and `greatest`. -/
inductive Partial where
  | none
  | some (bits : Nat) (owed : Nat) (least greatest : UInt8)

/-- An octet where a character may begin: the characters it completes, and what is then open. -/
def begin (b : UInt8) : List Char × Partial :=
  if b < 0x80 then ([Char.ofNat b.toNat], .none)
  else match Lead.ofByte? b with
    | some lead => ([], .some lead.bits lead.following lead.least lead.greatest)
    | none => ([replacement], .none)

/-- One octet of the text. An octet that cannot continue the open character ends it as ill-formed
and is read again as the beginning of the next. -/
def step : Partial → UInt8 → List Char × Partial
  | .none, b => begin b
  | .some bits owed least greatest, b =>
    if least ≤ b && b ≤ greatest then
      let bits := bits * 64 + (b.toNat - 0x80)
      if owed ≤ 1 then ([Char.ofNat bits], .none)
      else ([], .some bits (owed - 1) 0x80 0xBF)
    else
      let (chars, open') := begin b
      (replacement :: chars, open')

/-- The characters of a text whose first octets have been read as far as `open'` says. -/
def decodeFrom : Partial → Bytes → List Char
  | .none, [] => []
  | .some .., [] => [replacement]
  | open', b :: rest =>
    let (chars, open') := step open' b
    chars ++ decodeFrom open' rest

/-- The text that some octets spell, with a replacement mark for each maximal ill-formed part. -/
def decode (bytes : Bytes) : String :=
  String.ofList (decodeFrom .none bytes)

end FlightScript.Text.Lossy
