import StackSync.Text.Hex
import StackSync.Text.Unprintable

/-!
# Text quoted for a message

A message that quotes what it was given puts it between double quotes, so that blanks and line ends can be
seen: the quote and the backslash are escaped, the usual controls have their letters, and every other
character that is not shown as itself stands as its code point in braces.
-/

namespace StackSync.Text

def quoteChar (c : Char) : List Char :=
  match c with
  | '"' => ['\\', '"']
  | '\\' => ['\\', '\\']
  | '\n' => ['\\', 'n']
  | '\r' => ['\\', 'r']
  | '\t' => ['\\', 't']
  | '\x00' => ['\\', '0']
  | c => if isPrintable c then [c] else ['\\', 'u', '\x7b'] ++ hexChars c.toNat ++ ['\x7d']

def quoted (s : String) : String :=
  String.ofList ('"' :: (s.toList.flatMap quoteChar ++ ['"']))

end StackSync.Text
