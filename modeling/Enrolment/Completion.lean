/-!
When an enrolment counts as complete.
-/
namespace Enrolment

structure CompletionInputs where
  registered : Bool
  profileNameSet : Bool
  hasPin : Bool
  optedOut : Bool
  alreadyComplete : Bool
  deriving DecidableEq, Inhabited

/-- An enrolled account with a profile name is complete once its owner has set a PIN or declined
one; it becomes so only once. -/
def CompletionInputs.shouldComplete (i : CompletionInputs) : Bool :=
  !i.alreadyComplete && i.registered && i.profileNameSet && (i.hasPin || i.optedOut)

end Enrolment
