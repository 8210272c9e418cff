import RobotTelemetry.Text.Character
/-!
# Quoted text

In messages a text stands between single quotes, or between double quotes if it holds a single quote
and no double one. The quote in use and the backslash are escaped, as are the characters that are
not printable, so that the text can be read off its quoted form.
-/

namespace RobotTelemetry.Text

/-- The single quote. -/
def singleQuote : Char :=
  Char.ofNat 0x27

/-- The last `width` hexadecimal digits of a number, in lower case. -/
def hexDigits : Nat → Nat → List Char
  | 0, _ => []
  | width + 1, n => hexDigits width (n / 16) ++ [Nat.digitChar (n % 16)]

/-- A character by its number, in as few digits as its size admits. -/
def escapeByNumber (c : Char) : List Char :=
  if c.toNat < 0x100 then '\\' :: 'x' :: hexDigits 2 c.toNat
  else if c.toNat < 0x10000 then '\\' :: 'u' :: hexDigits 4 c.toNat
  else '\\' :: 'U' :: hexDigits 8 c.toNat

/-- A character as it stands between quotes. -/
def quotedChar (quote c : Char) : List Char :=
  if c = quote ∨ c = '\\' then ['\\', c]
  else if c = '\n' then ['\\', 'n']
  else if c = '\r' then ['\\', 'r']
  else if c = '\t' then ['\\', 't']
  else if isPrintable c then [c]
  else escapeByNumber c

/-- The quote for a text: a double one exactly if that spares escaping a single one. -/
def quoteFor (cs : List Char) : Char :=
  if singleQuote ∈ cs ∧ '"' ∉ cs then '"' else singleQuote

/-- A text between quotes. -/
def quoted (s : String) : String :=
  let quote := quoteFor s.toList
  String.ofList (quote :: s.toList.flatMap (quotedChar quote) ++ [quote])

end RobotTelemetry.Text
