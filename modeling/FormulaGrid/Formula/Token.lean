/-!
Contract: the tokens of a formula.

Owns:
- the lexemes of the notation (`Lexeme`) with their payload;
- a token: a lexeme, the text it is known by and the position of its first
  character (`Token`);
- the tokens of a whole formula with the position of its end (`TokenLine`).
-/

namespace FormulaGrid

/-- The operators; a minus sign is also a sign. -/
inductive Operator where
  | plus
  | minus
  | times
  | dividedBy
  | power
deriving DecidableEq, Repr

/-- The character that every spelling of an operator is known by. -/
def Operator.symbol : Operator → String
  | plus => "+"
  | minus => "-"
  | times => "*"
  | dividedBy => "/"
  | power => "^"

/-- The functions that a formula may name. -/
inductive FunctionName where
  | sin
  | cos
  | tan
  | ln
  | log
  | sqrt
deriving DecidableEq, Repr

namespace FunctionName

/-- The word that names the function. -/
def word : FunctionName → String
  | sin => "sin"
  | cos => "cos"
  | tan => "tan"
  | ln => "ln"
  | log => "log"
  | sqrt => "sqrt"

def all : List FunctionName :=
  [sin, cos, tan, ln, log, sqrt]

def ofWord? (word : String) : Option FunctionName :=
  all.find? fun name => name.word == word

end FunctionName

/-- The units of the notation. A superscript carries its exponent, a root its
index; a function may carry a power (`sin²`) and the logarithm a base
(`log₂`). -/
inductive Lexeme where
  | number (value : Float)
  | constant (value : Float)
  | operator (symbol : Operator)
  | factorial
  | superscript (exponent : Float)
  | leftParenthesis
  | rightParenthesis
  | bar
  | root (index : Float)
  | function (name : FunctionName) (power : Option Nat) (base : Option Float)

/-- A lexeme where it stands. -/
structure Token where
  lexeme : Lexeme
  text : String
  position : Nat

/-- The tokens of a formula, and the position just past its last character. -/
structure TokenLine where
  tokens : List Token
  finish : Nat

end FormulaGrid
