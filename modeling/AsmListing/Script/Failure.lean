import AsmListing.Kind

/-!
# Failures of a running script
-/

namespace AsmListing

namespace Script

inductive Failure where
  | nameMissing
  | commentType
  | operandCount (cause : OperandCountError)
  | other (problem : String)
deriving DecidableEq, Repr

def Failure.message : Failure → String
  | .nameMissing => "instruction name missing"
  | .commentType => "comment must be a string or None"
  | .operandCount cause => cause.message
  | .other problem => problem

end Script

end AsmListing
