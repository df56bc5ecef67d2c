import PathTemplate.Pattern.Segment
import PathTemplate.Pattern.Token

/-!
# Outline: a pattern read in part

The tokens of a pattern are read from left to right.  Between two tokens the outline holds what is
complete at the top level and, from the innermost outwards, the groups that are still open with what
each of them holds so far.  The pattern is well formed if no group is open at its end.
-/

namespace PathTemplate

structure PartialGroup where
  /-- The byte offset of the opening parenthesis. -/
  start : Nat
  content : Array Segment
  deriving Repr, DecidableEq

structure Outline where
  top : Array Segment
  /-- The groups still open, the innermost first. -/
  groups : List PartialGroup
  deriving Repr, DecidableEq

namespace Outline

def empty : Outline := ⟨#[], []⟩

def add (outline : Outline) (segment : Segment) : Outline :=
  match outline.groups with
  | [] => { outline with top := outline.top.push segment }
  | group :: outer =>
    { outline with groups := { group with content := group.content.push segment } :: outer }

def enterGroup (outline : Outline) (start : Nat) : Outline :=
  { outline with groups := ⟨start, #[]⟩ :: outline.groups }

/-- Turns the innermost open group into a segment of what surrounds it. -/
def leaveGroup? (outline : Outline) : Option Outline :=
  match outline.groups with
  | [] => none
  | group :: outer =>
    some (add { outline with groups := outer } (.group group.content.toList))

def step (outline : Outline) (token : Token) : Except PatternError Outline :=
  match token.kind with
  | .separator => .ok (outline.add .separator)
  | .text content => .ok (outline.add (.text content))
  | .var name => .ok (outline.add (.var name))
  | .groupOpen => .ok (outline.enterGroup token.position)
  | .groupClose =>
    match outline.leaveGroup? with
    | some outer => .ok outer
    | none => .error (.strayClose token.position)

def complete (outline : Outline) : Except PatternError Pattern :=
  match outline.groups with
  | [] => .ok outline.top.toList
  | group :: _ => .error (.unfinishedGroup group.start)

end Outline

/-- A fault of a single token is reported before any fault of the parentheses. -/
def Pattern.parse (raw : String) : Except PatternError Pattern := do
  let tokens ← Token.scan raw
  let outline ← tokens.foldlM Outline.step Outline.empty
  outline.complete

end PathTemplate
