import CrudScripts.Data.Value

/-!
The checker of statements. A checker belongs to someone else: it is any function from a statement
and the dialect to read it in to a verdict, and only refused statements become issues.
-/
namespace CrudScripts.Check
open CrudScripts.Data

/-- What a checker says about a statement. -/
inductive Verdict where
  | accepted
  /-- The checker came back with nothing. -/
  | nothing
  /-- The checker failed, with a text that may be empty. -/
  | failed (text : String)
deriving DecidableEq

/-- A checker of statements; no dialect stands for its own default. -/
abbrev Checker := String → Option String → Verdict

/-- One consultation of a checker: the statement and the dialect it was read in. -/
abbrev Consultation := String × Option String

def Verdict.isAccepted : Verdict → Bool
  | .accepted => true
  | _ => false

def Verdict.failure? : Verdict → Option String
  | .failed text => some text
  | _ => none

/-- The error to report for a verdict; a failure without a text counts as nothing. -/
def Verdict.error? : Verdict → Option String
  | .accepted => none
  | .nothing => some "Parser returned no expression"
  | .failed text => some (if text = "" then "Parser returned no expression" else text)

/-- A statement that a checker refused, under the target it was generated for. -/
structure Issue where
  target : Value
  statement : String
  error : String

def Issue.toValue (issue : Issue) : Value :=
  .dict [("dialect", issue.target), ("statement", .text issue.statement),
    ("error", .text issue.error)]

end CrudScripts.Check
