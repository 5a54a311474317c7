/-
# Switchboard.Text.Quoted -- a text between quotes, on one visible line

Used where a message repeats a text it was given.  The quote and the backslash
are escaped by a backslash; tab, line feed, carriage return and the null
character have short escapes; any other character that cannot be shown is
written as its code point in hexadecimal between braces.

* `Text.quoted_empty`: the empty text is two quotes.
-/
import Switchboard.Text.Graphic
import Switchboard.Text.Hex

namespace Switchboard.Text

set_option autoImplicit false

/-- How one character stands between the quotes. -/
def quotedChar (character : Char) : List Char :=
  if character = '"' then ['\\', '"']
  else if character = '\\' then ['\\', '\\']
  else if character = '\n' then ['\\', 'n']
  else if character = '\r' then ['\\', 'r']
  else if character = '\t' then ['\\', 't']
  else if character.toNat = 0 then ['\\', '0']
  else if isGraphic character then [character]
  else ['\\', 'u', '\x7b'] ++ Hex.plain character.toNat ++ ['\x7d']

/-- The text between quotes. -/
def quoted (text : String) : String :=
  String.ofList ('"' :: text.toList.flatMap quotedChar ++ ['"'])

theorem quoted_empty : quoted "" = "\"\"" := by
  simp [quoted]

end Switchboard.Text
