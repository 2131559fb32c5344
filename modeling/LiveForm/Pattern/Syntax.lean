import LiveForm.CharSet

/-!
# The syntax of patterns

An `Ast` is a pattern as it is written: literals, classes, assertions and groups, with the flag
changes still in place. What a match captures and whether a repetition is greedy never decide
whether there is a match, but they count in the size of a pattern.

Patterns may be nested `maxDepth` deep, counting groups, repetitions, sequences, alternatives
and the parts of bracketed classes.
-/

namespace LiveForm.Pattern

/-- A flag that changes how the rest of a group is read. -/
inductive Flag where
  | ignoreCase
  | multiLine
  | dotAll
  | swapGreed
  | unicode
  | crlf
  | verbose
  deriving DecidableEq

/-- The flags that a group or a directive turns on and off. -/
structure FlagChange where
  on : List Flag
  off : List Flag
  deriving DecidableEq

/-- What a change says about one flag: on, off, or nothing. -/
def FlagChange.state? (change : FlagChange) (flag : Flag) : Option Bool :=
  if change.on.contains flag then some true
  else if change.off.contains flag then some false
  else none

/-- A literal character. One that is written as two hexadecimal digits stands for a byte where
characters are bytes. -/
structure Literal where
  char : Char
  isByte : Bool
  deriving DecidableEq

inductive Assertion where
  | lineStart
  | lineEnd
  | textStart
  | textEnd
  | wordBoundary
  | noWordBoundary
  | wordStart
  | wordEnd
  | wordStartHalf
  | wordEndHalf
  deriving DecidableEq

/-- The classes that have a letter of their own. -/
inductive Shorthand where
  | digit
  | space
  | word
  deriving DecidableEq

/-- A class of characters asked for by property: by a bare name, or as the characters for which a
property has a value or, when `differs` says so, another value. -/
inductive PropertyQuery where
  | named (name : String)
  | valued (property : String) (differs : Bool) (value : String)
  deriving DecidableEq

/-- An operation on two classes. -/
inductive ClassOp where
  | intersection
  | difference
  | symmetricDifference
  deriving DecidableEq

/-- The inside of a bracketed class. -/
inductive ClassTree where
  | literal (l : Literal)
  | range (lo hi : Literal)
  | posix (negated : Bool) (set : CharSet)
  | shorthand (negated : Bool) (kind : Shorthand)
  | property (negated : Bool) (query : PropertyQuery)
  | bracketed (negated : Bool) (inner : ClassTree)
  | union (items : List ClassTree)
  | operation (op : ClassOp) (lhs rhs : ClassTree)
  deriving Inhabited

/-- A pattern as it is written. -/
inductive Ast where
  | empty
  | flags (change : FlagChange)
  | literal (l : Literal)
  | dot
  | assertion (kind : Assertion)
  | shorthand (negated : Bool) (kind : Shorthand)
  | property (negated : Bool) (query : PropertyQuery)
  | bracketed (negated : Bool) (inner : ClassTree)
  | repetition (min : Nat) (max : Option Nat) (greedy : Bool) (child : Ast)
  | group (change : Option FlagChange) (captures : Bool) (child : Ast)
  | alternation (branches : List Ast)
  | concat (items : List Ast)
  deriving Inhabited

namespace ClassTree

def ofItems : List ClassTree → ClassTree
  | [item] => item
  | items => .union items

mutual

/-- How deep the parts of a class are nested. -/
def depth : ClassTree → Nat
  | .bracketed _ inner => inner.depth + 1
  | .union [] => 0
  | .union items => depthOfItems items + 1
  | .operation _ lhs rhs => max lhs.depth rhs.depth + 1
  | _ => 0

def depthOfItems : List ClassTree → Nat
  | [] => 0
  | item :: rest => max item.depth (depthOfItems rest)

end

end ClassTree

namespace Ast

def ofItems : List Ast → Ast
  | [] => .empty
  | [item] => item
  | items => .concat items

/-- A choice; a single branch stands for itself. -/
def ofBranches : List Ast → Ast
  | [branch] => branch
  | branches => .alternation branches

mutual

/-- How deep the parts of a pattern are nested. -/
def depth : Ast → Nat
  | .bracketed _ inner => inner.depth + 1
  | .repetition _ _ _ child => child.depth + 1
  | .group _ _ child => child.depth + 1
  | .alternation branches => depthOfAll branches + 1
  | .concat items => depthOfAll items + 1
  | _ => 0

def depthOfAll : List Ast → Nat
  | [] => 0
  | item :: rest => max item.depth (depthOfAll rest)

end

/-- How deep a pattern may be nested. -/
def maxDepth : Nat := 250

end Ast

end LiveForm.Pattern
