import SnippetForge.Machine.Control

/-!
# Leaving loops and commands

What is left of an agenda when a script leaves a loop, goes on with the next round of one, or leaves
a command that it has named. Tasks on the way that put something back are kept.
-/

namespace SnippetForge.Machine

/-- Whether a task puts something back, so that it is done whatever is left out before it. -/
def putsBack : Task → Bool
  | .restore _ => true
  | .forget _ => true
  | .relabel _ => true
  | _ => false

/-! ### Loops -/

/-- The start of the next round of a loop, if a task is part of one. -/
def nextRound? : Task → Option Task
  | .again isNegated condition body isTested => some (.again isNegated condition body isTested)
  | .loop isNegated condition body isTested _ => some (.again isNegated condition body isTested)
  | .each name values body isTested => some (.each name values body isTested)
  | _ => none

/-- Whether a task ends a command that the script has named. -/
def endsCall : Task → Bool
  | .returned _ => true
  | _ => false

/-- Whether some tasks are part of a loop of the command that runs. -/
def isInLoop : List Task → Bool
  | [] => false
  | task :: rest => (nextRound? task).isSome || (!endsCall task && isInLoop rest)

/-- The tasks after leaving some loops, or after going on with the last one of them. -/
def leaveLoops (goesOn : Bool) : (levels : Nat) → List Task → List Task
  | _, [] => []
  | n, task :: rest =>
    match nextRound? task with
    | some next =>
      if n ≤ 1 || !isInLoop rest then if goesOn then next :: rest else rest
      else leaveLoops goesOn (n - 1) rest
    | none =>
      if putsBack task then task :: leaveLoops goesOn n rest else leaveLoops goesOn n rest

/-! ### Commands and files -/

/-- Whether a task ends what the script can return from. -/
def endsReturn : Task → Bool
  | .returned _ => true
  | .sourced => true
  | .quit => true
  | _ => false

/-- The tasks after leaving a command that the script has named, a file that is run as a part of it,
or the script. -/
def leaveCommand : List Task → List Task
  | [] => []
  | task :: rest =>
    if endsReturn task then task :: rest
    else if putsBack task then task :: leaveCommand rest
    else leaveCommand rest

/-- The status from before the signal that is being handled, if one is. -/
def recalled? (agenda : List Task) : Option Nat :=
  agenda.findSome? fun task =>
    match task with
    | .recall status => some status
    | _ => none

end SnippetForge.Machine
