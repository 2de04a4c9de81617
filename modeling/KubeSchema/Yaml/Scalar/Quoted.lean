import KubeSchema.Yaml.Scalar.Gap

/-!
# Quoted scalars

Between single quotes a quote is written twice and nothing is escaped. Between double quotes a
backslash escapes: a letter stands for a character, digits give a code point, and a line break that is
escaped joins the lines. Lines are folded in both. No line within may look like the end of a document.
-/

namespace KubeSchema.Yaml

/-- The quote around a scalar. -/
inductive Quote
  | single | double
  deriving DecidableEq, Repr

/-- The code point that an escape letter stands for. -/
def escapedCode? : Char → Option Nat
  | '0' => some 0x00
  | 'a' => some 0x07
  | 'b' => some 0x08
  | 't' | '\t' => some 0x09
  | 'n' => some 0x0A
  | 'v' => some 0x0B
  | 'f' => some 0x0C
  | 'r' => some 0x0D
  | 'e' => some 0x1B
  | ' ' => some 0x20
  | '"' => some 0x22
  | '/' => some 0x2F
  | '\\' => some 0x5C
  | 'N' => some 0x85
  | '_' => some 0xA0
  | 'L' => some 0x2028
  | 'P' => some 0x2029
  | _ => none

/-- The number of digits behind an escape letter that gives a code point. -/
def escapedDigits? : Char → Option Nat
  | 'x' => some 2
  | 'u' => some 4
  | 'U' => some 8
  | _ => none

/-- The character of a code point, unless it is half of a surrogate pair or out of range. -/
def charOfCode? (code : Nat) : Option Char :=
  if code < 0xD800 ∨ (0xDFFF < code ∧ code ≤ 0x10FFFF) then some (Char.ofNat code) else none

/-- Reads a quoted scalar behind its first quote. `read` is what has been read, last first; `gap` what
came since; `code` the digits still missing of a code point, and its value so far. -/
def readQuoted (quote : Quote) (read : List Char) (gap : Gap) (code : Option (Nat × Nat))
    (mark : Mark) : List Char → Option (List Char × Cursor)
  | [] => none
  | c :: rest =>
    match code with
    | some (missing, value) =>
      match hexDigit? c with
      | none => none
      | some digit =>
        let value := 16 * value + digit
        if missing ≤ 1 then
          match charOfCode? value with
          | none => none
          | some decoded => readQuoted quote (decoded :: read) {} none (mark.past c) rest
        else
          readQuoted quote read {} (some (missing - 1, value)) (mark.past c) rest
    | none =>
      if isBlank c then readQuoted quote read (gap.withBlank c) none (mark.past c) rest
      else if isBreak c then
        match c, rest with
        | '\r', '\n' :: rest => readQuoted quote read (gap.withBreak '\n') none mark.nextLineByPair rest
        | c, rest =>
          readQuoted quote read (gap.withBreak (plainBreak c)) none (mark.nextLine c) rest
      else if mark.column = 0 && startsDocumentMark (c :: rest) then none
      else
        let read := gap.text.reverse ++ read
        match quote, c, rest with
        | .single, '\'', '\'' :: rest => readQuoted quote ('\'' :: read) {} none ((mark.past c).past c) rest
        | .single, '\'', rest => some (read.reverse, ⟨rest, mark.past c⟩)
        | .double, '"', rest => some (read.reverse, ⟨rest, mark.past c⟩)
        | .double, '\\', '\r' :: '\n' :: rest =>
          readQuoted quote read .escapedBreak none (mark.past c).nextLineByPair rest
        | .double, '\\', letter :: rest =>
          if isBreak letter then
            readQuoted quote read .escapedBreak none ((mark.past c).nextLine letter) rest
          else
            match escapedCode? letter, escapedDigits? letter with
            | some code, _ => readQuoted quote (Char.ofNat code :: read) {} none ((mark.past c).past letter) rest
            | none, some digits => readQuoted quote read {} (some (digits, 0)) ((mark.past c).past letter) rest
            | none, none => none
        | .double, '\\', [] => none
        | _, c, rest => readQuoted quote (c :: read) {} none (mark.past c) rest

/-- Reads a quoted scalar from its first quote on. -/
def quotedScalar? (quote : Quote) (cursor : Cursor) : Option (List Char × Cursor) :=
  let inner := cursor.skip 1
  readQuoted quote [] {} none inner.mark inner.rest

end KubeSchema.Yaml
