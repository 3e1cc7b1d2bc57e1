/-!
# Quoted text in logs and diagnostics

Arguments come from the ground and may hold anything, so log lines show them in double quotes with
everything escaped that would break a line or end the quote early: the quote itself, the backslash,
the usual short forms, and any other control character by its number.
-/

namespace FlightScript.Text.Quoted

/-- The characters that move the cursor or mean nothing on paper: both control ranges and DEL. -/
def isControl (c : Char) : Bool :=
  c.toNat < 0x20 || (0x7F ≤ c.toNat && c.toNat ≤ 0x9F)

/-- A control character by its number, in lower-case hexadecimal without padding. -/
def numbered (c : Char) : List Char :=
  '\\' :: 'u' :: '\x7b' :: (Nat.toDigits 16 c.toNat ++ ['\x7d'])

/-- One character as it stands between the quotes. -/
def escape (c : Char) : List Char :=
  if c = '\x00' then ['\\', '0']
  else if c = '\t' then ['\\', 't']
  else if c = '\r' then ['\\', 'r']
  else if c = '\n' then ['\\', 'n']
  else if c = '"' then ['\\', '"']
  else if c = '\\' then ['\\', '\\']
  else if isControl c then numbered c
  else [c]

/-- A text in double quotes, escaped. -/
def quote (text : String) : String :=
  String.ofList ('"' :: (text.toList.flatMap escape ++ ['"']))

end FlightScript.Text.Quoted
