import LiveForm.Pattern.Parser
import LiveForm.Pattern.Tidy
import LiveForm.Unicode.CaseFold
import LiveForm.Unicode.Lookup

/-!
# From a written pattern to a regular expression

The flags in force decide what a literal, a class and an assertion mean. Without case, a class is
closed under simple case folding before it is negated. Where characters are bytes, only ASCII may
be asked for: a class or a literal that would take part of a character is refused.
-/

namespace LiveForm.Pattern

/-- The flags in force at a place of a pattern. -/
structure Flags where
  ignoreCase : Bool
  multiLine : Bool
  dotAll : Bool
  swapGreed : Bool
  unicode : Bool
  crlf : Bool

def Flags.initial : Flags := ⟨false, false, false, false, true, false⟩

def Flags.apply (flags : Flags) (change : FlagChange) : Flags :=
  let now (flag : Flag) (old : Bool) := (change.state? flag).getD old
  { ignoreCase := now .ignoreCase flags.ignoreCase
    multiLine := now .multiLine flags.multiLine
    dotAll := now .dotAll flags.dotAll
    swapGreed := now .swapGreed flags.swapGreed
    unicode := now .unicode flags.unicode
    crlf := now .crlf flags.crlf }

/-- Conditions on the characters on both sides of a position. -/
inductive WordLook where
  | boundary
  | noBoundary
  | start
  | stop
  | startHalf
  | stopHalf
  deriving DecidableEq

/-- A condition on a position. -/
inductive Look where
  | textStart
  | textEnd
  | lineStart (crlf : Bool)
  | lineEnd (crlf : Bool)
  | word (kind : WordLook) (unicode : Bool)
  deriving DecidableEq

/-- A class of characters. `ofBytes` says that it was written where characters are bytes, which
tells it from a class with the same members that was not. -/
structure CharClass where
  set : CharSet
  ofBytes : Bool
  deriving DecidableEq, Inhabited

/-- A pattern as a regular expression over characters. -/
abbrev Node := Regex CharClass Look

/-- The expression that takes one character of a class. A single member makes it a word. -/
def CharClass.toNode (c : CharClass) : Node :=
  if c.set.isSingleton then .word [⟨c.set, false⟩]
  else if c.set.isEmpty then .consume ⟨.empty, false⟩
  else .consume c

/-- The expression that takes one character of any of several classes. -/
def CharClass.joined (classes : List CharClass) : Node :=
  CharClass.toNode ⟨.unions (classes.map CharClass.set), false⟩

def ClassOp.apply : ClassOp → CharSet → CharSet → CharSet
  | .intersection => CharSet.inter
  | .difference => CharSet.diff
  | .symmetricDifference => CharSet.symmDiff

namespace Flags

/-- A set together with what equals its members when case does not count. -/
def fold (flags : Flags) (set : CharSet) : CharSet :=
  if flags.ignoreCase then
    if flags.unicode then Unicode.CaseFold.close set else Unicode.CaseFold.closeAscii set
  else set

/-- The complement when asked for. Where characters are bytes it would hold parts of characters. -/
def negate? (flags : Flags) (negated : Bool) (set : CharSet) : Option CharSet :=
  if negated then if flags.unicode then some set.compl else none else some set

def literal? (flags : Flags) (l : Literal) : Option Char :=
  if !flags.unicode && l.isByte && 0x80 ≤ l.char.toNat then none else some l.char

/-- The character of a literal in a class. -/
def classLiteral? (flags : Flags) (l : Literal) : Option Char :=
  if !flags.unicode && 0x80 ≤ l.char.toNat then none else some l.char

def shorthand (flags : Flags) (kind : Shorthand) : CharSet :=
  match kind, flags.unicode with
  | .digit, true => Unicode.digitChars
  | .space, true => Unicode.spaceChars
  | .word, true => Unicode.wordChars
  | .digit, false => .ofText "30-39"
  | .space, false => .ofText "9-d 20"
  | .word, false => .ofText "30-39 41-5a 5f 61-7a"

/-- The set of a shorthand or its complement. Shorthands are closed under case folding. -/
def shorthand? (flags : Flags) (negated : Bool) (kind : Shorthand) : Option CharSet :=
  flags.negate? negated (flags.shorthand kind)

def property? (flags : Flags) (negated : Bool) (query : PropertyQuery) : Option CharSet := do
  guard flags.unicode
  match query with
  | .named name => flags.negate? negated (flags.fold (← Unicode.classNamed? name))
  | .valued property differs value =>
    flags.negate? (negated != differs) (flags.fold (← Unicode.classValued? property value))

mutual

/-- The set of the inside of a bracketed class. -/
def class? (flags : Flags) : ClassTree → Option CharSet
  | .literal l => return .singleton (← flags.classLiteral? l)
  | .range lo hi => do
    return .range (← flags.classLiteral? lo).toNat (← flags.classLiteral? hi).toNat
  | .posix negated set => flags.negate? negated (flags.fold set)
  | .shorthand negated kind => flags.shorthand? negated kind
  | .property negated query => flags.property? negated query
  | .bracketed negated inner => do flags.negate? negated (flags.fold (← flags.class? inner))
  | .union items => return .unions (← flags.classes? items)
  | .operation op lhs rhs => do
    return op.apply (flags.fold (← flags.class? lhs)) (flags.fold (← flags.class? rhs))

def classes? (flags : Flags) : List ClassTree → Option (List CharSet)
  | [] => some []
  | item :: rest => return (← flags.class? item) :: (← flags.classes? rest)

end

/-- What the dot takes: any character but a line end, or any at all. -/
def dot? (flags : Flags) : Option CharSet :=
  if !flags.unicode then none
  else if flags.dotAll then some .full
  else if flags.crlf then some (CharSet.ofText "a d").compl
  else some (CharSet.ofText "a").compl

/-- The condition of an assertion. -/
def look (flags : Flags) : Assertion → Look
  | .lineStart => if flags.multiLine then .lineStart flags.crlf else .textStart
  | .lineEnd => if flags.multiLine then .lineEnd flags.crlf else .textEnd
  | .textStart => .textStart
  | .textEnd => .textEnd
  | .wordBoundary => .word .boundary flags.unicode
  | .noWordBoundary => .word .noBoundary flags.unicode
  | .wordStart => .word .start flags.unicode
  | .wordEnd => .word .stop flags.unicode
  | .wordStartHalf => .word .startHalf flags.unicode
  | .wordEndHalf => .word .stopHalf flags.unicode

/-- The expression that takes one character of a set. -/
def consume (flags : Flags) (set : CharSet) : Node := CharClass.toNode ⟨set, !flags.unicode⟩

end Flags

mutual

/-- The expression of a pattern, and the flags after it. A directive changes the flags up to the
end of its group, across the branches of a choice. -/
def Ast.toNode? (flags : Flags) : Ast → Option (Node × Flags)
  | .empty => some (.empty, flags)
  | .flags change => some (.empty, flags.apply change)
  | .literal l => do
    return (flags.consume (flags.fold (.singleton (← flags.literal? l))), flags)
  | .dot => return (flags.consume (← flags.dot?), flags)
  | .assertion kind => some (.look (flags.look kind), flags)
  | .shorthand negated kind => return (flags.consume (← flags.shorthand? negated kind), flags)
  | .property negated query => return (flags.consume (← flags.property? negated query), flags)
  | .bracketed negated inner => do
    return (flags.consume (← flags.negate? negated (flags.fold (← flags.class? inner))), flags)
  | .repetition min max greedy child => do
    let (body, flags) ← child.toNode? flags
    return (.times min max (greedy != flags.swapGreed) body, flags)
  | .group change captures child => do
    let inside := (change.map flags.apply).getD flags
    let (body, _) ← child.toNode? inside
    return (if captures then .capture body else body, flags)
  | .alternation branches => do
    let (nodes, flags) ← Ast.toNodes? flags branches
    return (.choice CharClass.joined nodes, flags)
  | .concat items => do
    let (nodes, flags) ← Ast.toNodes? flags items
    return (.row nodes, flags)

def Ast.toNodes? (flags : Flags) : List Ast → Option (List Node × Flags)
  | [] => some ([], flags)
  | item :: rest => do
    let (node, flags) ← item.toNode? flags
    let (nodes, flags) ← Ast.toNodes? flags rest
    return (node :: nodes, flags)

end

end LiveForm.Pattern
