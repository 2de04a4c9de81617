import KubeSchema.Document.Shape
import KubeSchema.Json.Reader
import KubeSchema.Source.Format
import KubeSchema.Yaml.Reader

/-!
# Loading documents

A text is read into a generic value by its format, and the value is shaped into a document. Reading
from a file adds the failures of the file.
-/

namespace KubeSchema

/-- Why a file cannot be read or written. -/
inductive FileFault
  | notFound | notADirectory | isADirectory | nameTooLong
  /-- The bytes are no text. -/
  | invalidText
  /-- Any other cause, in the system's words. -/
  | other (message : String)
  deriving DecidableEq, Repr

/-- The text of a fault, in the system's words. -/
def FileFault.message : FileFault → String
  | notFound => "No such file or directory (os error 2)"
  | notADirectory => "Not a directory (os error 20)"
  | isADirectory => "Is a directory (os error 21)"
  | nameTooLong => "File name too long (os error 36)"
  | invalidText => "stream did not contain valid UTF-8"
  | other message => message

/-- What looking into a file gave. -/
inductive FileContent
  | missing
  | failed (fault : FileFault)
  | text (content : String)
  deriving DecidableEq, Repr

/-- The content of a file with the given bytes. -/
def FileContent.ofBytes (bytes : ByteArray) : FileContent :=
  match String.fromUTF8? bytes with
  | some content => .text content
  | none => .failed .invalidText

/-- Why a document cannot be loaded. -/
inductive LoadError
  | fileNotFound (path : String)
  | readError (path : String) (fault : FileFault)
  | invalidText (format : Format)
  | invalidDocument (error : ShapeError)

namespace LoadError

/-- The text of the error. -/
def message : LoadError → String
  | fileNotFound path => "file not found: " ++ path
  | readError path fault => "cannot read " ++ path ++ ": " ++ fault.message
  | invalidText .json => "invalid JSON: the text is not well formed"
  | invalidText .yaml => "invalid YAML: the text is not well formed"
  | invalidDocument error => "malformed schema document: " ++ error.message

/-- The exit code of a program that stops with the error. -/
def exitCode : LoadError → Nat
  | fileNotFound _ | readError _ _ => 3
  | invalidText _ | invalidDocument _ => 2

end LoadError

/-- Reads a text into a generic value. -/
def Format.read? (format : Format) (text : String) : Option Json :=
  match format with
  | .json => Json.read? text
  | .yaml => Yaml.read? text

/-- Loads a document from a generic value. -/
def Document.load (value : Json) : Except LoadError Document :=
  match Document.ofJson value with
  | .ok document => .ok document
  | .error error => .error (.invalidDocument error)

/-- Loads a document from a text. -/
def Document.loadText (format : Format) (text : String) : Except LoadError Document :=
  match format.read? text with
  | none => .error (.invalidText format)
  | some value => Document.load value

/-- Loads a document from what was found at a source. Addresses are not followed. -/
def Document.loadSource (source : String) (content : FileContent) : Except LoadError Document :=
  if isUrl source then .error (.fileNotFound source)
  else
    match content with
    | .missing => .error (.fileNotFound source)
    | .failed fault => .error (.readError source fault)
    | .text text => Document.loadText (Format.ofPath source) text

end KubeSchema
