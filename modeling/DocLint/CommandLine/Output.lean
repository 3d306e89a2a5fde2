import DocLint.Fault
/-!
# What a program leaves behind

The text that a program writes, and how it ends.
-/

namespace DocLint.CommandLine

/-- How a program ends. -/
inductive Ending
  /-- It comes to its end. -/
  | finished (status : Nat)
  /-- It stops because of its arguments. -/
  | stopped (status : Nat)
  /-- It fails, with the family of the fault and what happened. -/
  | failed (label message : String)
  deriving DecidableEq, Repr

/-- What a program writes, and how it ends. -/
structure Output where
  ending : Ending
  written : String := ""
  complaints : String := ""
  deriving DecidableEq, Repr

/-- The end of a program at a fault. -/
def Ending.ofFault (fault : Fault) : Ending := .failed fault.label fault.message

/-- Lines of text, each with its end. -/
def textOfLines (lines : List String) : String := String.join (lines.map (· ++ "\n"))

end DocLint.CommandLine
