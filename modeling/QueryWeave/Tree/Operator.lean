namespace QueryWeave

inductive Comparison where
  | equal
  | unequal
  | differs
  | less
  | atMost
  | greater
  | atLeast
  deriving DecidableEq

namespace Comparison

def word : Comparison → String
  | equal => "="
  | unequal => "<>"
  | differs => "!="
  | less => "<"
  | atMost => "<="
  | greater => ">"
  | atLeast => ">="

def all : List Comparison := [equal, unequal, differs, less, atMost, greater, atLeast]

def ofWord? (word : String) : Option Comparison := all.find? (·.word == word)

theorem ofWord?_word (operator : Comparison) : ofWord? operator.word = some operator := by
  cases operator <;> decide

end Comparison

inductive Arithmetic where
  | add
  | subtract
  | multiply
  | divide
  | remainder
  | wholeDivide
  | modulo
  deriving DecidableEq

namespace Arithmetic

def word : Arithmetic → String
  | add => "+"
  | subtract => "-"
  | multiply => "*"
  | divide => "/"
  | remainder => "%"
  | wholeDivide => "DIV"
  | modulo => "MOD"

def all : List Arithmetic := [add, subtract, multiply, divide, remainder, wholeDivide, modulo]

def ofWord? (word : String) : Option Arithmetic := all.find? (·.word == word)

theorem ofWord?_word (operator : Arithmetic) : ofWord? operator.word = some operator := by
  cases operator <;> decide

end Arithmetic

inductive JoinKind where
  | inner
  | left
  | right
  | full
  | cross
  deriving DecidableEq

namespace JoinKind

def word : JoinKind → String
  | inner => "INNER"
  | left => "LEFT"
  | right => "RIGHT"
  | full => "FULL"
  | cross => "CROSS"

def all : List JoinKind := [inner, left, right, full, cross]

def ofWord? (word : String) : Option JoinKind := all.find? (·.word == word)

theorem ofWord?_word (kind : JoinKind) : ofWord? kind.word = some kind := by
  cases kind <;> decide

end JoinKind

inductive Direction where
  | ascending
  | descending
  deriving DecidableEq

namespace Direction

def word : Direction → String
  | ascending => "ASC"
  | descending => "DESC"

def all : List Direction := [ascending, descending]

def ofWord? (word : String) : Option Direction := all.find? (·.word == word)

theorem ofWord?_word (direction : Direction) : ofWord? direction.word = some direction := by
  cases direction <;> decide

end Direction

end QueryWeave
