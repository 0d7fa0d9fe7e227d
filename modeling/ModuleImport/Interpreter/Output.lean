namespace ModuleImport

inductive Output where
  | stdout (written : List String)
  | buffer (kept : List String)
  | silent
deriving DecidableEq, Repr

namespace Output

def empty : Output := buffer []

def println : Output → String → Output
  | stdout written, line => stdout (written ++ [line])
  | buffer kept, line => buffer (kept ++ [line])
  | silent, _ => silent

def lines : Output → List String
  | buffer kept => kept
  | _ => []

/-- Drops the kept lines. What was written out cannot be taken back. -/
def clear : Output → Output
  | buffer _ => buffer []
  | output => output

def written : Output → List String
  | stdout written => written
  | _ => []

def shown : Output → String
  | stdout _ => "Output::Stdout"
  | buffer kept => s!"Output::Buffer({kept.length} lines)"
  | silent => "Output::Silent"

end Output

end ModuleImport
