import ModuleImport.Text.Visible

namespace ModuleImport.Text

def codePointEscape (c : Char) : List Char :=
  ['\\', 'u', '{'] ++ Nat.toDigits 16 c.toNat ++ ['}']

def escape (c : Char) : List Char :=
  if c = '\x00' then ['\\', '0']
  else if c = '\t' then ['\\', 't']
  else if c = '\r' then ['\\', 'r']
  else if c = '\n' then ['\\', 'n']
  else if c = '"' then ['\\', '"']
  else if c = '\\' then ['\\', '\\']
  else if visible c then [c]
  else codePointEscape c

def quoted (s : String) : String :=
  String.ofList ('"' :: (s.toList.flatMap escape ++ ['"']))

/-- A character that shows and has no meaning inside quotation marks stands for itself. -/
theorem escape_of_visible {c : Char} (h : visible c = true) (mark : c ≠ '"') (slash : c ≠ '\\') :
    escape c = [c] := by
  have low : ¬c.toNat < 0x20 := fun lt => by simp [visible_of_lt lt] at h
  unfold escape
  repeat rw [if_neg (by rintro rfl; exact low (by decide))]
  simp [mark, slash, h]

end ModuleImport.Text
