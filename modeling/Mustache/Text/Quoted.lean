import Mustache.Text.Printable

/-!
# Quoted text

Names and texts appear in messages and listings between double quotes. Quotes and backslashes are
escaped, and so is every character that would not show, so a quoted text is one line.
-/

namespace Mustache.Text

set_option autoImplicit false

/-- One character of a quoted text. Characters without a visible form are written by their code
point in lower-case hexadecimal digits. -/
def quoteChar (character : Char) : List Char :=
  if character = '\x22' then ['\\', '\x22']
  else if character = '\\' then ['\\', '\\']
  else if character = '\t' then ['\\', 't']
  else if character = '\r' then ['\\', 'r']
  else if character = '\n' then ['\\', 'n']
  else if character = '\x00' then ['\\', '0']
  else if isPrintable character then [character]
  else '\\' :: 'u' :: '\x7b' :: (Nat.toDigits 16 character.toNat ++ ['\x7d'])

def quote (text : String) : String :=
  String.ofList ('\x22' :: (text.toList.flatMap quoteChar ++ ['\x22']))

end Mustache.Text
