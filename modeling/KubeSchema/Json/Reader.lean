import KubeSchema.Json.Number

/-!
# Reading JSON text

The reader walks once over the characters with a stack of the arrays and objects that are still open,
so reading ends with the text. It accepts the standard's grammar and nothing beside it: no comments, no
trailing commas, no raw controls in strings, no halves of surrogate pairs. Nesting is bounded.
-/

namespace KubeSchema.Json

namespace Reader

/-- An array or object that is still open. Elements and members stand last first. -/
inductive Frame
  | array (elements : List Json)
  | object (members : List (String × Json)) (key : String)

/-- What a finished string is. -/
inductive Role
  | key | value
  deriving DecidableEq

/-- What the next character is part of. -/
inductive Mode
  /-- A value begins here. -/
  | value
  /-- A value begins here, or the array just opened ends. -/
  | firstElement
  /-- A key begins here. -/
  | key
  /-- A key begins here, or the object just opened ends. -/
  | firstKey
  /-- A colon follows the key. -/
  | colon
  /-- A value has ended: the container goes on or ends. -/
  | after
  /-- The whole text has been read up to blanks. -/
  | done (result : Json)
  /-- Within a string; its characters stand last first. -/
  | text (role : Role) (read : List Char)
  /-- After a backslash. -/
  | escape (role : Role) (read : List Char)
  /-- Within the four digits of a code unit, after the first half of a surrogate pair perhaps. -/
  | unit (role : Role) (read : List Char) (high : Option Nat) (missing : Nat) (code : Nat)
  /-- After the first half of a surrogate pair; `slash` tells that its backslash has been read. -/
  | lowHalf (role : Role) (read : List Char) (high : Nat) (slash : Bool)
  /-- Within a number; its characters stand last first. -/
  | number (read : List Char)
  /-- Within a word that stands for a value. -/
  | word (missing : List Char) (result : Json)

/-- The reader between two characters. -/
structure State where
  frames : List Frame
  mode : Mode

/-- Blanks between tokens. -/
def isBlank (c : Char) : Bool :=
  c == ' ' || c == '\t' || c == '\n' || c == '\r'

/-- Characters that numbers are made of. -/
def isNumeric (c : Char) : Bool :=
  c.isDigit || c == '-' || c == '+' || c == '.' || c == 'e' || c == 'E'

/-- The value of a hexadecimal digit. -/
def hexValue? (c : Char) : Option Nat :=
  if c.isDigit then some (c.toNat - '0'.toNat)
  else if 'a' ≤ c ∧ c ≤ 'f' then some (c.toNat - 'a'.toNat + 10)
  else if 'A' ≤ c ∧ c ≤ 'F' then some (c.toNat - 'A'.toNat + 10)
  else none

/-- Hands a finished value to the innermost open container. -/
def finish (frames : List Frame) (result : Json) : State :=
  match frames with
  | [] => ⟨[], .done result⟩
  | .array elements :: rest => ⟨.array (result :: elements) :: rest, .after⟩
  | .object members key :: rest => ⟨.object ((key, result) :: members) key :: rest, .after⟩

/-- Hands over a finished string. -/
def finishText (frames : List Frame) (role : Role) (read : List Char) : Option State :=
  let text := String.ofList read.reverse
  match role, frames with
  | .value, frames => some (finish frames (.string text))
  | .key, .object members _ :: rest => some ⟨.object members text :: rest, .colon⟩
  | .key, _ => none

/-- Closes the innermost container at its bracket. -/
def close? (c : Char) (frames : List Frame) : Option State :=
  match c, frames with
  | ']', .array elements :: rest => some (finish rest (.array elements.reverse))
  | '\x7d', .object members _ :: rest => some (finish rest (ofMembers members.reverse))
  | _, _ => none

/-- Opens a container, unless too many are open. -/
def open? (limit : Nat) (frames : List Frame) (frame : Frame) (mode : Mode) : Option State :=
  if frames.length < limit then some ⟨frame :: frames, mode⟩ else none

/-- Begins a value. -/
def begin? (limit : Nat) (frames : List Frame) (c : Char) : Option State :=
  match c with
  | '"' => some ⟨frames, .text .value []⟩
  | '[' => open? limit frames (.array []) .firstElement
  | '\x7b' => open? limit frames (.object [] "") .firstKey
  | 't' => some ⟨frames, .word "rue".toList (.bool true)⟩
  | 'f' => some ⟨frames, .word "alse".toList (.bool false)⟩
  | 'n' => some ⟨frames, .word "ull".toList .null⟩
  | c => if c.isDigit || c == '-' then some ⟨frames, .number [c]⟩ else none

/-- Goes on after a value. -/
def continue? (frames : List Frame) (c : Char) : Option State :=
  if isBlank c then some ⟨frames, .after⟩
  else if c = ',' then
    match frames with
    | .array _ :: _ => some ⟨frames, .value⟩
    | .object _ _ :: _ => some ⟨frames, .key⟩
    | [] => none
  else close? c frames

/-- The character of an escape letter. -/
def escaped? : Char → Option Char
  | '"' => some '"'
  | '\\' => some '\\'
  | '/' => some '/'
  | 'b' => some '\x08'
  | 'f' => some '\x0c'
  | 'n' => some '\n'
  | 'r' => some '\r'
  | 't' => some '\t'
  | _ => none

/-- Takes a whole code unit. The halves of a surrogate pair must come together and in order. -/
def takeUnit? (role : Role) (read : List Char) (high : Option Nat) (code : Nat) : Option Mode :=
  let isHigh := 0xD800 ≤ code ∧ code < 0xDC00
  let isLow := 0xDC00 ≤ code ∧ code < 0xE000
  match high with
  | some high =>
    if isLow then
      let full := 0x10000 + (high - 0xD800) * 0x400 + (code - 0xDC00)
      some (.text role (Char.ofNat full :: read))
    else none
  | none =>
    if isHigh then some (.lowHalf role read code false)
    else if isLow then none
    else some (.text role (Char.ofNat code :: read))

/-- After a value at the top, within a container, or at the first character behind a number. -/
def behind? (state : State) (c : Char) : Option State :=
  match state.mode with
  | .done _ => if isBlank c then some state else none
  | _ => continue? state.frames c

/-- Takes one character. -/
def step? (limit : Nat) (state : State) (c : Char) : Option State :=
  let frames := state.frames
  match state.mode with
  | .value => if isBlank c then some state else begin? limit frames c
  | .firstElement =>
    if isBlank c then some state
    else if c = ']' then close? c frames
    else begin? limit frames c
  | .key => if isBlank c then some state else if c = '"' then some ⟨frames, .text .key []⟩ else none
  | .firstKey =>
    if isBlank c then some state
    else if c = '"' then some ⟨frames, .text .key []⟩
    else if c = '\x7d' then close? c frames
    else none
  | .colon => if isBlank c then some state else if c = ':' then some ⟨frames, .value⟩ else none
  | .after | .done _ => behind? state c
  | .text role read =>
    if c = '"' then finishText frames role read
    else if c = '\\' then some ⟨frames, .escape role read⟩
    else if c.toNat < 0x20 then none
    else some ⟨frames, .text role (c :: read)⟩
  | .escape role read =>
    if c = 'u' then some ⟨frames, .unit role read none 4 0⟩
    else (escaped? c).map fun c => ⟨frames, .text role (c :: read)⟩
  | .unit role read high missing code => do
    let code := 16 * code + (← hexValue? c)
    if missing ≤ 1 then
      return ⟨frames, ← takeUnit? role read high code⟩
    else
      return ⟨frames, .unit role read high (missing - 1) code⟩
  | .lowHalf role read high slash =>
    if slash then
      if c = 'u' then some ⟨frames, .unit role read (some high) 4 0⟩ else none
    else
      if c = '\\' then some ⟨frames, .lowHalf role read high true⟩ else none
  | .number read =>
    if isNumeric c then some ⟨frames, .number (c :: read)⟩
    else do behind? (finish frames (← number? read.reverse)) c
  | .word missing result =>
    match missing with
    | [] => none
    | [last] => if c = last then some (finish frames result) else none
    | next :: rest => if c = next then some ⟨frames, .word rest result⟩ else none

/-- The value that has been read when the text ends here. -/
def result? (state : State) : Option Json :=
  match state.mode, state.frames with
  | .done result, _ => some result
  | .number read, [] => number? read.reverse
  | _, _ => none

end Reader

/-- The number of arrays and objects that may stand inside one another. -/
def nestingLimit : Nat := 127

/-- Reads a JSON text with at most `limit` containers inside one another. -/
def readWithin? (limit : Nat) (text : String) : Option Json := do
  let state ← text.toList.foldlM (Reader.step? limit) ⟨[], .value⟩
  Reader.result? state

/-- Reads a JSON text. -/
def read? (text : String) : Option Json :=
  readWithin? nestingLimit text

end KubeSchema.Json
