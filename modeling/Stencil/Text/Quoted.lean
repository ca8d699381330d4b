import Stencil.Text.Printable

/-!
# Quoted texts

A text between double quotes, for messages that show an argument exactly.
Quotes, backslashes and characters that cannot stand for themselves are escaped.
-/

namespace Stencil.Quoted

/-- The escape that names a character by its number. -/
def numbered (c : Char) : Text :=
  '\\' :: 'u' :: '{' :: Nat.toDigits 16 c.toNat ++ ['}']

/-- A character within a quoted text. -/
def escape (c : Char) : Text :=
  match c with
  | '\x00' => "\\0".toList
  | '\t' => "\\t".toList
  | '\r' => "\\r".toList
  | '\n' => "\\n".toList
  | '"' => "\\\"".toList
  | '\\' => "\\\\".toList
  | c => if Printable.isPrintable c then [c] else numbered c

/-- The text between double quotes. -/
def quote (text : Text) : Text :=
  '"' :: text.flatMap escape ++ ['"']

end Stencil.Quoted
