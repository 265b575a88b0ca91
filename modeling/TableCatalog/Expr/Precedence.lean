import TableCatalog.Parser

/-!
# Precedence of operators

How strongly an operator binds decides how far an expression reaches. PostgreSQL has
scales of its own.
-/

namespace TableCatalog

/-- The classes of operators that bind equally. -/
inductive Precedence where
  | period
  | doubleColon
  | subscript
  | collation
  | timeZone
  | product
  | sum
  | xor
  | ampersand
  | caret
  | pipe
  | between
  | equality
  | like
  | is
  | other
  | unaryNot
  | and
  | or
  deriving DecidableEq, Repr

namespace Precedence

/-- How strongly a class binds. -/
def strength (grammar : Grammar) (precedence : Precedence) : Nat :=
  if grammar == .postgres then
    match precedence with
    | period => 200
    | doubleColon => 140
    | subscript => 130
    | collation => 120
    | timeZone => 110
    | caret => 100
    | product => 90
    | sum => 80
    | xor => 75
    | other | ampersand | pipe => 70
    | between | like => 60
    | equality => 50
    | is => 40
    | unaryNot => 30
    | and => 20
    | or => 10
  else
    match precedence with
    | period => 100
    | doubleColon | subscript => 50
    | collation => 42
    | timeZone => 41
    | product => 40
    | sum => 30
    | xor => 24
    | ampersand => 23
    | caret => 22
    | pipe => 21
    | between | equality => 20
    | like => 19
    | is => 17
    | other => 16
    | unaryNot => 15
    | and => 10
    | or => 5

/-- The operators that PostgreSQL puts into the class of all that are not told apart. -/
def postgresOthers : List String :=
  ["->", "->>", "#>", "#>>", "@>", "<@", "#-", "@?", "@@", "?", "?&", "?|", "!", "&&", "^@", "||",
    "#", ">>", "<<"]

/-- Symbols made of operator characters that stand between no operands. -/
def notBetweenOperands : List String :=
  ["=>", "!!", "|/", "||/"]

/-- Whether a symbol is an operator that is known by its spelling alone. -/
def isFreeOperator (grammar : Grammar) (text : String) : Bool :=
  text.length > 1 && text.toList.all grammar.continuesOperator && !notBetweenOperands.contains text

/-- The class of an operator that is a symbol. -/
def ofSymbol? (grammar : Grammar) (text : String) : Option Precedence :=
  if grammar == .postgres && postgresOthers.contains text then some other
  else
    match text with
    | "." => some period
    | "=" | "<" | "<=" | "<>" | ">" | ">=" | "==" | "<=>" | "~" | "~*" | "!~" | "!~*" | "~~"
    | "~~*" | "!~~" | "!~~*" => some equality
    | "|" => some pipe
    | "^" | "#" | ">>" | "<<" => some caret
    | "&" => some ampersand
    | "+" | "-" => some sum
    | "*" | "/" | "//" | "%" | "||" => some product
    | "::" | "!" | "&&" | "^@" => some doubleColon
    | "[" => some subscript
    | "->" | "->>" | "#>" | "#>>" | "@>" | "<@" | "#-" | "@?" | "@@" | "?" | "?&" | "?|" =>
      some other
    | ":" => if grammar == .snowflake then some doubleColon else none
    | _ => if isFreeOperator grammar text then some other else none

/-- The class of an operator that is a keyword, given the two keywords after it. -/
def ofKeyword? (grammar : Grammar) (key second third : String) : Option Precedence :=
  match key with
  | "OR" => some or
  | "AND" => some and
  | "XOR" => some xor
  | "AT" => if second == "TIME" && third == "ZONE" then some timeZone else none
  | "NOT" =>
    match second with
    | "IN" | "BETWEEN" => some between
    | "LIKE" | "ILIKE" | "RLIKE" | "REGEXP" | "SIMILAR" => some like
    | _ => none
  | "IS" => some is
  | "IN" | "BETWEEN" | "OVERLAPS" | "OPERATOR" => some between
  | "LIKE" | "ILIKE" | "RLIKE" | "REGEXP" | "SIMILAR" => some like
  | "DIV" => some product
  | "COLLATE" => if grammar == .postgres then some collation else none
  | _ => none

/-- How strongly the operator that is next binds; zero if none is. -/
def next : Parser Nat := do
  let grammar ← Parser.grammar
  match ← Parser.peek with
  | some ⟨⟨.symbol text, _, _⟩, _⟩ => pure ((ofSymbol? grammar text).elim 0 (strength grammar))
  | some ⟨_, key⟩ =>
    if key.isEmpty then pure 0
    else
      pure ((ofKeyword? grammar key (← Parser.peekKeyAt 1) (← Parser.peekKeyAt 2)).elim 0
        (strength grammar))
  | none => pure 0

end Precedence

end TableCatalog
