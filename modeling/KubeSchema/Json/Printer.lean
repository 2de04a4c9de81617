import KubeSchema.Json.Basic

/-!
# Writing JSON text

Compact text has no blanks between tokens. Pretty text has a member or an element a line, indented by
two blanks a level, and keeps empty containers on one line. Members are written in the order they have.
Strings escape the quote, the backslash and the controls below the blank.
-/

namespace KubeSchema.Json

/-- The hexadecimal digits of a control character. -/
private def controlDigits (n : Nat) : List Char :=
  ['0', '0', Nat.digitChar (n / 16), Nat.digitChar (n % 16)]

/-- How a character stands in a string. -/
def stringChar (c : Char) : List Char :=
  match c with
  | '"' => ['\\', '"']
  | '\\' => ['\\', '\\']
  | '\x08' => ['\\', 'b']
  | '\x0c' => ['\\', 'f']
  | '\n' => ['\\', 'n']
  | '\r' => ['\\', 'r']
  | '\t' => ['\\', 't']
  | c => if c.toNat < 0x20 then '\\' :: 'u' :: controlDigits c.toNat else [c]

/-- A text as a JSON string. -/
def writeString (text : String) : String :=
  String.ofList ('"' :: text.toList.flatMap stringChar ++ ['"'])

/-- The text of a value that holds no other values. -/
def writeScalar : Json → String
  | null => "null"
  | bool true => "true"
  | bool false => "false"
  | integer n => toString n
  | float x => floatLayout.write x
  | string text => writeString text
  | array _ => "[]"
  | object _ => "\x7b\x7d"

mutual

/-- The text of a value without blanks. -/
def compact : Json → String
  | array (first :: rest) => "[" ++ compact first ++ compactElements rest ++ "]"
  | object ((key, first) :: rest) =>
    "\x7b" ++ writeString key ++ ":" ++ compact first ++ compactMembers rest ++ "\x7d"
  | value => writeScalar value

/-- The elements of an array behind the first one. -/
def compactElements : List Json → String
  | [] => ""
  | value :: rest => "," ++ compact value ++ compactElements rest

/-- The members of an object behind the first one. -/
def compactMembers : List (String × Json) → String
  | [] => ""
  | (key, value) :: rest =>
    "," ++ writeString key ++ ":" ++ compact value ++ compactMembers rest

end

/-- A new line at some depth. -/
def newLine (depth : Nat) : String :=
  String.ofList ('\n' :: List.replicate (2 * depth) ' ')

mutual

/-- The text of a value that begins at some depth, a member or an element a line. -/
def pretty (depth : Nat) : Json → String
  | array (first :: rest) =>
    "[" ++ newLine (depth + 1) ++ pretty (depth + 1) first ++ prettyElements depth rest ++
      newLine depth ++ "]"
  | object ((key, first) :: rest) =>
    "\x7b" ++ newLine (depth + 1) ++ writeString key ++ ": " ++ pretty (depth + 1) first ++
      prettyMembers depth rest ++ newLine depth ++ "\x7d"
  | value => writeScalar value

/-- The elements behind the first one of an array that begins at some depth. -/
def prettyElements (depth : Nat) : List Json → String
  | [] => ""
  | value :: rest =>
    "," ++ newLine (depth + 1) ++ pretty (depth + 1) value ++ prettyElements depth rest

/-- The members behind the first one of an object that begins at some depth. -/
def prettyMembers (depth : Nat) : List (String × Json) → String
  | [] => ""
  | (key, value) :: rest =>
    "," ++ newLine (depth + 1) ++ writeString key ++ ": " ++ pretty (depth + 1) value ++
      prettyMembers depth rest

end

/-- Whether a text is laid out for readers. -/
inductive Style
  | compact | pretty
  deriving DecidableEq, Repr

/-- The text of a value. -/
def write (style : Style) (value : Json) : String :=
  match style with
  | .compact => compact value
  | .pretty => pretty 0 value

end KubeSchema.Json
