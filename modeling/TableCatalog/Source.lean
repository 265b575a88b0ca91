import TableCatalog.Encoding
import TableCatalog.Files

/-!
# Sources

Where a script comes from, and why it may not come at all.
-/

namespace TableCatalog

/-- Where a script comes from. -/
inductive Source where
  | file (path : String)
  | standardInput
  deriving DecidableEq, Repr

/-- Why a script cannot be had, or why a database is not known. -/
inductive SourceError where
  | unreadable (source : Source) (cause : FileError)
  | undecodable (source : Source)
  | unknownDatabase (name : String)
  deriving DecidableEq, Repr

namespace SourceError

/-- The wording of an error. -/
def message : SourceError → String
  | unreadable (.file path) _ => "Failed to read DDL file: " ++ path
  | unreadable .standardInput _ => "Failed to read DDL from stdin"
  | undecodable (.file path) => "DDL file is neither valid UTF-8 nor GB18030: " ++ path
  | undecodable .standardInput => "DDL on stdin is neither UTF-8 nor GB18030"
  | unknownDatabase name => "Unknown database type: " ++ name

/-- The wording of what is behind an error, if anything is. -/
def cause? : SourceError → Option String
  | unreadable _ cause => some cause.message
  | _ => none

/-- An error with what is behind it. -/
def chain (error : SourceError) : List String :=
  error.message :: error.cause?.toList

end SourceError

/-- The script that comes from a source, given what reading the source comes to. -/
def Source.script (source : Source) (content : Except FileError (List UInt8)) :
    Except SourceError String :=
  match content with
  | .error cause => .error (.unreadable source cause)
  | .ok bytes =>
    match Encoding.decode bytes with
    | some text => .ok text
    | none => .error (.undecodable source)

end TableCatalog
