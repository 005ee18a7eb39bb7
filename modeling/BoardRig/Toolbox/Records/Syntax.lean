/-
Programs that act on records.

A program is a row of rules. Each has a pattern, which says for which records
it is, and statements. Besides there are functions.
-/
import BoardRig.Regex.Syntax
import BoardRig.Shell.Octets

namespace BoardRig.Toolbox.Records

/-- How two values are compared. -/
inductive Comparison where
  | less
  | atMost
  | equal
  | unequal
  | greater
  | atLeast
deriving DecidableEq, Repr

/-- What is computed from two numbers. -/
inductive Arithmetic where
  | sum
  | difference
  | product
  | quotient
  | remainder
  | power
deriving DecidableEq, Repr

/-- The functions that every program has. -/
inductive Function where
  | length
  | part
  | position
  | split
  | replaceFirst
  | replaceAll
  | find
  | format
  | toLower
  | toUpper
  | whole
  | root
  | sine
  | cosine
  | exponential
  | logarithm
  | angle
  | random
  | seed
  | run
  | close
  | flush
  | time
  | date
deriving DecidableEq, Repr

/-- An expression. -/
inductive Expression where
  | number (x : Float)
  | text (cs : Octets)
  /-- A regular expression. -/
  | pattern (r : Regex)
  | variable (name : String)
  | element (name : String) (index : List Expression)
  | field (number : Expression)
  | assign (target value : Expression)
  | update (op : Arithmetic) (target value : Expression)
  /-- One more or one less; the value is the one before or the one behind. -/
  | step (increase : Bool) (before : Bool) (target : Expression)
  | arithmetic (op : Arithmetic) (a b : Expression)
  | negative (a : Expression)
  | positive (a : Expression)
  | opposite (a : Expression)
  | comparison (op : Comparison) (a b : Expression)
  /-- Whether a regular expression matches, or does not. -/
  | fits (wanted : Bool) (a b : Expression)
  | both (a b : Expression)
  | either (a b : Expression)
  | choice (condition a b : Expression)
  | joined (a b : Expression)
  | member (index : List Expression) (name : String)
  | call (name : String) (args : List Expression)
  | apply (f : Function) (args : List Expression)
  /-- Several values in parentheses. -/
  | group (es : List Expression)
  /-- Read a record of the input. -/
  | read (target : Option Expression)
  | readFile (target : Option Expression) (file : Expression)
  | readCommand (target : Option Expression) (command : Expression)

/-- Where output goes to. -/
inductive Direction where
  | file
  | append
  | command
deriving DecidableEq, Repr

/-- A statement. -/
inductive Statement where
  | expression (e : Expression)
  | print (args : List Expression) (target : Option (Direction × Expression))
  | printFormat (args : List Expression) (target : Option (Direction × Expression))
  | block (body : List Statement)
  | choice (condition : Expression) (a b : Statement)
  | whileLoop (condition : Expression) (body : Statement)
  | untilLoop (body : Statement) (condition : Expression)
  | forLoop (start : Option Statement) (condition : Option Expression) (next : Option Statement)
      (body : Statement)
  | forEach (name : String) (array : String) (body : Statement)
  | next
  | nextFile
  | exit (status : Option Expression)
  | return (value : Option Expression)
  | break
  | continue
  | delete (name : String) (index : Option (List Expression))

/-- For which records a rule is. -/
inductive Condition where
  | start
  | finish
  | always
  | holds (e : Expression)
  /-- From a record up to another. -/
  | range (first last : Expression)

/-- A rule. -/
structure Rule where
  condition : Condition
  /-- Without statements the record is written. -/
  body : Option Statement

/-- A function of a program. -/
structure Definition where
  parameters : List String
  body : Statement

/-- A program. -/
structure Program where
  rules : List Rule
  functions : List (String × Definition)

end BoardRig.Toolbox.Records
