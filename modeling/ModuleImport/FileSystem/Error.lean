namespace ModuleImport

/-- A failure that has nothing to do with what is there. -/
inductive Fault where
  | permissionDenied
  | inputOutput
  | other (message : String)
deriving DecidableEq, Repr

def Fault.message : Fault → String
  | .permissionDenied => "Permission denied (os error 13)"
  | .inputOutput => "Input/output error (os error 5)"
  | .other message => message

inductive IoError where
  | notFound
  | notADirectory
  | isADirectory
  | nameTooLong
  | tooManyLinks
  | nulInPath
  | failed (fault : Fault)
deriving DecidableEq, Repr

def IoError.message : IoError → String
  | .notFound => "No such file or directory (os error 2)"
  | .notADirectory => "Not a directory (os error 20)"
  | .isADirectory => "Is a directory (os error 21)"
  | .nameTooLong => "File name too long (os error 36)"
  | .tooManyLinks => "Too many levels of symbolic links (os error 40)"
  | .nulInPath => "file name contained an unexpected NUL byte"
  | .failed fault => fault.message

end ModuleImport
