import ModuleImport.Loading.Error

namespace ModuleImport

inductive RunError where
  | moduleNotFound (name : String)
  | notAPackage (name parent : String)
  | raised (module message : String) (filename : Path)
  | attributeNotFound (module attr : String)
  | failedLoad (cause : LoadError RunError)

namespace RunError

def message : RunError → String
  | moduleNotFound name => "No module named '" ++ name ++ "'"
  | notAPackage name parent =>
    "No module named '" ++ name ++ "'; '" ++ parent ++ "' is not a package"
  | raised module message filename =>
    message ++ " (in module '" ++ module ++ "', " ++ filename.text ++ ")"
  | attributeNotFound module attr =>
    "module '" ++ module ++ "' has no attribute '" ++ attr ++ "'"
  | failedLoad (.registry name cause) => (LoadError.registry name cause).messageAround cause.message
  | failedLoad (.execution name cause) =>
    (LoadError.execution name cause).messageAround cause.message
  | failedLoad cause => cause.messageAround ""

/-- The innermost error: what a body or the registry failed with, followed inwards. -/
def rootCause : RunError → RunError
  | failedLoad (.registry _ cause) => cause.rootCause
  | failedLoad (.execution _ cause) => cause.rootCause
  | e => e

def hasInnerCause : RunError → Bool
  | failedLoad cause => cause.hostError?.isSome
  | _ => false

def chain : RunError → List (LoadError RunError)
  | failedLoad (.registry name cause) => .registry name cause :: cause.chain
  | failedLoad (.execution name cause) => .execution name cause :: cause.chain
  | failedLoad cause => [cause]
  | _ => []

theorem rootCause_of_not_hasInnerCause {e : RunError} (h : e.hasInnerCause = false) :
    e.rootCause = e := by
  cases e with
  | failedLoad cause => cases cause <;> simp_all [hasInnerCause, LoadError.hostError?, rootCause]
  | _ => rfl

end RunError

end ModuleImport
