/-!
# Files

A tree of files and folders, and what reading a path in it comes to. The folders above
the one where paths begin are not known; nothing but folders is found there.
-/

namespace TableCatalog

/-- A file or a folder. -/
inductive FileNode where
  | file (content : List UInt8)
  | folder (entries : List (String × FileNode))

/-- Why a path cannot be read. -/
inductive FileError where
  | missing
  | notAFolder
  | isAFolder
  | nameTooLong
  | zeroByte
  /-- Any other reason, in the words of the system. -/
  | system (text : String)
  deriving DecidableEq, Repr

/-- The wording of an error. -/
def FileError.message : FileError → String
  | missing => "No such file or directory (os error 2)"
  | notAFolder => "Not a directory (os error 20)"
  | isAFolder => "Is a directory (os error 21)"
  | nameTooLong => "File name too long (os error 36)"
  | zeroByte => "file name contained an unexpected NUL byte"
  | system text => text

/-- The error of a number that the system gives, with the words that it has for it. -/
def FileError.ofCode (code : UInt32) (details : String) : FileError :=
  match code with
  | 2 => missing
  | 20 => notAFolder
  | 21 => isAFolder
  | 36 => nameTooLong
  | _ => system s!"{details} (os error {code})"

namespace FileNode

/-- What is found at the end of a path, given the folders above the place where it
begins, the nearest one first. -/
def walk : List FileNode → FileNode → List String → Except FileError FileNode
  | _, node, [] => .ok node
  | _, .file _, _ :: _ => .error .notAFolder
  | above, .folder entries, name :: rest =>
    if name == "" || name == "." then walk above (.folder entries) rest
    else if name == ".." then
      match above with
      | [] => walk [] (.folder []) rest
      | parent :: above => walk above parent rest
    else if 255 < name.utf8ByteSize then .error .nameTooLong
    else
      match entries.lookup name with
      | none => .error .missing
      | some node => walk (.folder entries :: above) node rest

/-- The parts of a path between its slashes. -/
def parts : List Char → List (List Char)
  | [] => [[]]
  | c :: rest =>
    if c == '/' then [] :: parts rest
    else
      match parts rest with
      | [] => [[c]]
      | first :: others => (c :: first) :: others

/-- The bytes of the file at a path. -/
def read (root : FileNode) (path : String) : Except FileError (List UInt8) :=
  if path.isEmpty then .error .missing
  else if path.toList.contains '\x00' then .error .zeroByte
  else
    match walk [] root ((parts path.toList).map String.ofList) with
    | .error error => .error error
    | .ok (.folder _) => .error .isAFolder
    | .ok (.file content) => .ok content

end FileNode

end TableCatalog
