/-
Commands that edit a text line by line.

A script is a row of commands. Each says at which lines it acts and what it
does there. The commands in braces are skipped as a whole at other lines.
-/
import BoardRig.Regex.Syntax
import BoardRig.Shell.Octets

namespace BoardRig.Toolbox.Edit

/-- Which lines are meant. -/
inductive Address where
  | line (number : Nat)
  | last
  /-- The first line and each so many lines behind it. -/
  | every (first step : Nat)
  /-- The lines in which an expression matches; without one, the expression that
  was used last. -/
  | found (r : Option Regex)

/-- Where a range of lines ends. -/
inductive Finish where
  | address (a : Address)
  /-- So many lines behind its start. -/
  | further (n : Nat)
  /-- At the next line whose number is a multiple. -/
  | multiple (n : Nat)

/-- The lines at which a command acts. -/
inductive Place where
  | everywhere
  | at (a : Address)
  | range (start : Address) (finish : Finish)

/-- A change of case. -/
inductive Casing where
  | upper
  | lower
  | plain
  /-- Only the next character. -/
  | upperNext
  | lowerNext
deriving DecidableEq

/-- A part of what is put in place of a match. -/
inductive Part where
  | text (cs : Octets)
  /-- What a group has matched. -/
  | group (number : Nat)
  | casing (c : Casing)

/-- Putting something in place of what an expression matches. -/
structure Substitution where
  pattern : Option Regex
  parts : List Part
  /-- The match that is replaced first. -/
  first : Nat := 1
  /-- Whether all behind that one are replaced as well. -/
  all : Bool := false
  prints : Bool := false
  /-- Whether the result is run as a command. -/
  runs : Bool := false
  file : Option Octets := none

/-- What a command does. -/
inductive Action where
  /-- Skip to a command, as braces do at other lines. -/
  | skip (target : Nat)
  | label (name : Octets)
  /-- Go on at a label, or at the end without one. -/
  | jump (name : Octets)
  | jumpIfChanged (name : Octets)
  | jumpIfUnchanged (name : Octets)
  | append (text : Octets)
  | insert (text : Octets)
  | change (text : Octets)
  | delete
  /-- Delete up to the end of the first line. -/
  | deleteLine
  | run (command : Octets)
  | name
  | recall
  | recallMore
  | keep
  | keepMore
  | exchange
  | show (width : Option Nat)
  | next
  | nextMore
  | print
  | printLine
  | quit (status : Nat)
  | quitSilently (status : Nat)
  | insertFile (file : Octets)
  | insertLine (file : Octets)
  | write (file : Octets)
  | writeLine (file : Octets)
  | substitute (s : Substitution)
  | translate (pairs : List (Char × Char))
  | number
  | clear
  | nothing

/-- A command. -/
structure Command where
  place : Place
  /-- Whether it acts at all other lines. -/
  negated : Bool
  action : Action

end BoardRig.Toolbox.Edit
