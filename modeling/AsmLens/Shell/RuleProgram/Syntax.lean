import AsmLens.Shell.Regex.Basic

namespace AsmLens.Shell

/-- A variable in a program of rules: one of the whole program, or a parameter of a function. -/
inductive RuleVariable where
  | shared (name : Text)
  | parameter (place : Nat)

inductive RuleOperator where
  | add
  | subtract
  | multiply
  | divide
  | remainder
  | power

inductive RuleComparison where
  | equal
  | notEqual
  | less
  | atMost
  | greater
  | atLeast

/-- A function that every program of rules has. -/
inductive RulePrimitive where
  | length
  | substr
  | index
  | matchPlace
  | split
  | substitute (replacesAll : Bool)
  | sprintf
  | sine
  | cosine
  | arctangent
  | exponential
  | logarithm
  | squareRoot
  | integer
  | random
  | seed
  | lower
  | upper
  | system
  | close
  | flush

inductive RuleExpr where
  | number (value : Float)
  | text (text : Text)
  /-- A regular expression, which stands for a search in the whole record. -/
  | regex (regex : Regex)
  | variable (name : RuleVariable)
  | field (index : RuleExpr)
  | element (array : RuleVariable) (subscripts : List RuleExpr)
  | assign (target value : RuleExpr)
  | update (target : RuleExpr) (operator : RuleOperator) (value : RuleExpr)
  | step (target : RuleExpr) (isUp givesNew : Bool)
  | choice (condition first second : RuleExpr)
  | conjunction (first second : RuleExpr)
  | disjunction (first second : RuleExpr)
  | negation (operand : RuleExpr)
  | sign (isMinus : Bool) (operand : RuleExpr)
  | binary (operator : RuleOperator) (first second : RuleExpr)
  | compare (comparison : RuleComparison) (first second : RuleExpr)
  | joined (first second : RuleExpr)
  | search (isNegated : Bool) (text pattern : RuleExpr)
  | membership (subscripts : List RuleExpr) (array : RuleVariable)
  | group (inside : RuleExpr)
  | call (function : Text) (arguments : List RuleExpr)
  | primitive (primitive : RulePrimitive) (arguments : List RuleExpr)
  | readRecord (target : Option RuleExpr)
  | readFile (target : Option RuleExpr) (name : RuleExpr)
  | readCommand (target : Option RuleExpr) (command : RuleExpr)

/-- Where the output of a statement goes besides the standard output. -/
inductive RuleOutput where
  | file
  | appended
  | pipe
  deriving DecidableEq

inductive RuleStatement where
  | expression (expression : RuleExpr)
  | print (arguments : List RuleExpr) (output : Option (RuleOutput × RuleExpr))
  | printf (arguments : List RuleExpr) (output : Option (RuleOutput × RuleExpr))
  | branch (condition : RuleExpr) (yes no : RuleStatement)
  | loop (condition : RuleExpr) (body : RuleStatement)
  | repeated (body : RuleStatement) (condition : RuleExpr)
  | counted (start : Option RuleExpr) (condition : Option RuleExpr) (step : Option RuleExpr)
      (body : RuleStatement)
  | each (key : RuleVariable) (array : RuleVariable) (body : RuleStatement)
  | block (statements : List RuleStatement)
  | breaking
  | continuing
  | next
  | nextFile
  | exit (status : Option RuleExpr)
  | return (value : Option RuleExpr)
  | delete (array : RuleVariable) (subscripts : List RuleExpr)

/-- When a rule applies: before all input, after it, or to some records. A range is known by its
number. -/
inductive RulePattern where
  | first
  | last
  | always
  | condition (condition : RuleExpr)
  | range (number : Nat) (start finish : RuleExpr)

structure Rule where
  pattern : RulePattern
  /-- Without one, the record is printed. -/
  body : Option RuleStatement

structure RuleFunction where
  name : Text
  parameters : Nat
  body : RuleStatement

structure RuleProgram where
  rules : List Rule
  functions : List RuleFunction

end AsmLens.Shell
