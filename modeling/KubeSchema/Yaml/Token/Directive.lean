import KubeSchema.Yaml.Token.Basic

/-!
# Directives

A line in front of a document that begins with a percent sign. It gives the version of the format, or
what a tag handle stands for; there are no others.
-/

namespace KubeSchema.Yaml

/-- Reads a number of at most nine digits. -/
def versionNumber? (cursor : Cursor) : Option (Nat × Cursor) := do
  let (digits, behind) := cursor.span Char.isDigit
  guard (!digits.isEmpty && digits.length ≤ 9)
  return (digits.foldl (fun n c => 10 * n + (c.toNat - '0'.toNat)) 0, behind)

/-- Reads the value of a version directive. -/
def versionDirective? (cursor : Cursor) : Option (Token × Cursor) := do
  let (major, cursor) ← versionNumber? (cursor.skipWhile isBlank)
  guard (cursor.isAt '.')
  let (minor, cursor) ← versionNumber? (cursor.skip 1)
  return (.version major minor, cursor)

/-- Reads the value of a handle directive. -/
def handleDirective? (cursor : Cursor) : Option (Token × Cursor) := do
  let (handle, cursor) ← tagHandle? (cursor.skipWhile isBlank)
  guard (isFullHandle handle || handle == ['!'])
  guard (cursor.head?.any isBlank)
  let (address, cursor) ← address? true (cursor.skipWhile isBlank)
  guard (startsGap cursor.rest)
  return (.handle handle address, cursor)

/-- Reads a directive, from its percent sign to the end of its line. -/
def directive? (cursor : Cursor) : Option (Token × Cursor) := do
  let (name, cursor) := (cursor.skip 1).span isWord
  guard (!name.isEmpty && startsGap cursor.rest)
  let (token, cursor) ←
    if name = "YAML".toList then versionDirective? cursor
    else if name = "TAG".toList then handleDirective? cursor
    else none
  return (token, ← cursor.skipLineEnd?)

end KubeSchema.Yaml
