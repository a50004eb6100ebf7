import TransportStack.Text.Printable

/-!
Quoted text: between double quotes, with a backslash before quotes and backslashes, short forms for
the common controls, and the code point in hexadecimal for what cannot be shown.
-/

namespace TransportStack.Text

def quoteChar (c : Char) : List Char :=
  if c = '"' ∨ c = '\\' then ['\\', c]
  else if c = '\t' then ['\\', 't']
  else if c = '\n' then ['\\', 'n']
  else if c = '\r' then ['\\', 'r']
  else if c.toNat = 0 then ['\\', '0']
  else if isPrintable c then [c]
  else "\\u\x7b".toList ++ Nat.toDigits 16 c.toNat ++ ['\x7d']

def quote (s : String) : String :=
  String.ofList ('"' :: s.toList.flatMap quoteChar ++ ['"'])

end TransportStack.Text
