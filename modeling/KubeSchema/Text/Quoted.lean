import KubeSchema.Text.HiddenTable

/-!
# Quoted text in messages

A message shows a text between double quotes. The quote and the backslash are escaped, the common
controls have letters of their own, and a character that would not show is written as its code
point in hexadecimal.
-/

namespace KubeSchema.Text

/-- The hexadecimal digits of a number, in lowercase and without leading zeros. -/
def hexDigits (n : Nat) : List Char :=
  Nat.toDigits 16 n

/-- A character that would not show by itself: an ASCII control, or one of the tabulated
characters. -/
def isHidden (c : Char) : Bool :=
  if c.toNat < 0x80 then c.toNat < 0x20 || c.toNat == 0x7F
  else (hiddenBoundaries.takeWhile (· ≤ c.toNat)).length % 2 == 1

/-- How one character stands between the quotes. -/
def quotedChar (c : Char) : List Char :=
  match c with
  | '"' => ['\\', '"']
  | '\\' => ['\\', '\\']
  | '\n' => ['\\', 'n']
  | '\r' => ['\\', 'r']
  | '\t' => ['\\', 't']
  | '\x00' => ['\\', '0']
  | c => if isHidden c then ['\\', 'u', '\x7b'] ++ hexDigits c.toNat ++ ['\x7d'] else [c]

/-- A text between double quotes, escaped. -/
def quoted (text : String) : String :=
  String.ofList ('"' :: text.toList.flatMap quotedChar ++ ['"'])

end KubeSchema.Text
