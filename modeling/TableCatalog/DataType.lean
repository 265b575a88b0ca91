import TableCatalog.Name

/-!
# Data types

The types that a column can be declared with, and their canonical spelling. The
spelling is reported where the declaration itself cannot be quoted from the script.
-/

namespace TableCatalog

/-- The length of a character type. -/
inductive CharacterLength where
  | maximum
  | count (length : Nat) (unit : Option String)
  deriving DecidableEq, Repr

/-- A length as it stands in parentheses. -/
def CharacterLength.render : CharacterLength → String
  | maximum => "MAX"
  | count length none => toString length
  | count length (some unit) => toString length ++ " " ++ unit

/-- How a type of times tells its time zone. -/
inductive TimeZone where
  | unspecified
  | withZone
  | withoutZone
  | suffixed
  deriving DecidableEq, Repr

/-- How the element type of an array is written. -/
inductive ArrayStyle where
  | angle
  | round
  | square (size : Option Nat)
  deriving DecidableEq, Repr

/-- Parentheses or angle brackets around the fields of a struct. -/
inductive StructStyle where
  | angle
  | round
  deriving DecidableEq, Repr

mutual

/-- The type of a column. -/
inductive DataType where
  /-- A type without arguments. -/
  | plain (name : String)
  /-- A type with an optional size. -/
  | sized (name : String) (size : Option Nat)
  /-- An integer type with an optional display width. -/
  | integer (name : String) (width : Option Nat) (unsigned : Bool)
  /-- A number with optional precision and scale. -/
  | exact (name : String) (precision scale : Option Nat)
  /-- A character type with an optional length. -/
  | characters (name : String) (length : Option CharacterLength)
  /-- A time or a timestamp. -/
  | time (name : String) (precision : Option Nat) (zone : TimeZone)
  /-- A timestamp with a precision and the name of a time zone. -/
  | datetime64 (precision : Nat) (zone : Option String)
  /-- An enumeration: its width, its members and the numbers that some of them have. -/
  | enum (bits : Option Nat) (members : List (String × Option String))
  /-- A set of texts. -/
  | set (members : List String)
  /-- An array whose element type is not told. -/
  | anyArray
  | array (style : ArrayStyle) (element : DataType)
  | struct (style : StructStyle) (fields : List Field)
  | union (fields : List Field)
  | tuple (fields : List Field)
  /-- A type made from another by a name. -/
  | wrapped (name : String) (inner : DataType)
  | map (key value : DataType)
  /-- A nested table, by the spelling of its columns. -/
  | nested (columns : List String)
  /-- Any other name with its arguments. -/
  | custom (name : ObjectName) (arguments : List String)
  /-- No type at all. -/
  | unspecified

/-- A component of a composite type. -/
inductive Field where
  | mk (name : Option Identifier) (type : DataType)

end

namespace DataType

/-- An optional number in parentheses. -/
def renderSize (size : Option Nat) : String :=
  size.elim "" fun n => s!"({n})"

/-- The wording of a time zone. -/
def renderZone : TimeZone → String
  | .unspecified => ""
  | .withZone => " WITH TIME ZONE"
  | .withoutZone => " WITHOUT TIME ZONE"
  | .suffixed => "TZ"

/-- A member of an enumeration. -/
def renderMember (member : String × Option String) : String :=
  match member.2 with
  | none => quoteText member.1
  | some number => quoteText member.1 ++ " = " ++ number

mutual

/-- The canonical spelling of a type. -/
def render : DataType → String
  | plain name => name
  | sized name size => name ++ renderSize size
  | integer name width unsigned =>
    name ++ renderSize width ++ (if unsigned then " UNSIGNED" else "")
  | exact name precision scale =>
    match precision, scale with
    | none, _ => name
    | some p, none => name ++ s!"({p})"
    | some p, some s => name ++ s!"({p},{s})"
  | characters name length => name ++ length.elim "" fun l => "(" ++ l.render ++ ")"
  | time name precision .suffixed => name ++ "TZ" ++ renderSize precision
  | time name precision zone => name ++ renderSize precision ++ renderZone zone
  | datetime64 precision none => s!"DateTime64({precision})"
  | datetime64 precision (some zone) => s!"DateTime64({precision}, '" ++ zone ++ "')"
  | enum bits members =>
    "ENUM" ++ (bits.elim "" toString) ++ "(" ++ ", ".intercalate (members.map renderMember) ++ ")"
  | set members => "SET(" ++ ", ".intercalate (members.map quoteText) ++ ")"
  | anyArray => "ARRAY"
  | array .angle element => "ARRAY<" ++ render element ++ ">"
  | array .round element => "Array(" ++ render element ++ ")"
  | array (.square size) element => render element ++ "[" ++ size.elim "" toString ++ "]"
  | struct style fields =>
    if fields.isEmpty then "STRUCT"
    else
      let body := ", ".intercalate (renderFields fields)
      match style with
      | .angle => "STRUCT<" ++ body ++ ">"
      | .round => "STRUCT(" ++ body ++ ")"
  | union fields => "UNION(" ++ ", ".intercalate (renderFields fields) ++ ")"
  | tuple fields => "Tuple(" ++ ", ".intercalate (renderFields fields) ++ ")"
  | wrapped name inner => name ++ "(" ++ render inner ++ ")"
  | map key value => "Map(" ++ render key ++ ", " ++ render value ++ ")"
  | nested columns => "Nested(" ++ ", ".intercalate columns ++ ")"
  | custom name arguments =>
    if arguments.isEmpty then name.render
    else name.render ++ "(" ++ ", ".intercalate arguments ++ ")"
  | unspecified => ""

/-- The spellings of the components of a type. -/
def renderFields : List Field → List String
  | [] => []
  | field :: rest => renderField field :: renderFields rest

/-- The spelling of one component. -/
def renderField : Field → String
  | .mk none type => render type
  | .mk (some name) type => name.render ++ " " ++ render type

end

end DataType

end TableCatalog
