import XPathValues.Text.Unprintable

/-!
# Quoted texts

A text is shown between double quotes. Quotes and backslashes get a backslash in front, the null
character, tab, line feed and carriage return have letter escapes, and every other character that
is not shown as itself becomes its hexadecimal code point between braces.
-/

namespace XPathValues.Text

/-- The written form of one character between the quotes. -/
def escapeChar (c : Char) : List Char :=
  match c with
  | '\x00' => ['\\', '0']
  | '\t' => ['\\', 't']
  | '\n' => ['\\', 'n']
  | '\r' => ['\\', 'r']
  | '"' => ['\\', '"']
  | '\\' => ['\\', '\\']
  | _ =>
    if isUnprintable c then
      ['\\', 'u', '\x7b'] ++ Nat.toDigits 16 c.toNat ++ ['\x7d']
    else [c]

def quote (text : String) : String :=
  String.ofList ('"' :: text.toList.flatMap escapeChar ++ ['"'])

end XPathValues.Text
