import ModuleImport.Proofs.FileSystem.Spelling
import ModuleImport.Proofs.Path.Normal

namespace ModuleImport.FileSystem

open ModuleImport.Path

variable {fs : FileSystem} {p q root : Path} {name : String}

/-- A spelling of a path below which everything is spelled with no more bytes. -/
structure Shortens (p q : Path) : Prop extends Aliased p q where
  extent_le : p.extent ≤ q.extent

theorem Shortens.refl (absolute : p.isAbsolute = true) : Shortens p p :=
  ⟨⟨absolute, absolute, rfl⟩, Nat.le_refl _⟩

theorem Shortens.join (shortens : Shortens p q) (isName : IsName name) :
    Shortens (p.join name) (q.join name) where
  toAliased := (respelled_join shortens.toAliased isName).toAliased
  extent_le := by
    have le := shortens.extent_le
    rw [extent_join p isName, extent_join q isName]
    omega

theorem Shortens.absoluteForm (shortens : Shortens p q) {base? : Option Path}
    (formed : p.absolute? base? = some root) : Shortens root q where
  absolute := by
    obtain ⟨other, formed', around⟩ := absolute?_of_isAbsolute shortens.absolute base?
    cases formed.symm.trans formed'
    exact around.isAbsolute (isAbsolute_slash _)
  absolute' := shortens.absolute'
  names := (names_of_absolute? shortens.absolute formed).trans shortens.names
  extent_le := Nat.le_trans (extent_absolute?_le shortens.absolute formed) shortens.extent_le

/-- Nothing below the shorter spelling is too long if it is not too long below the other one. -/
theorem Shortens.short (shortens : Shortens p q) (isName : IsName name)
    (readable : fs.IsReadable (q.join name)) :
    (p.join name).text.utf8ByteSize ≤ pathLimit := by
  have relative := isAbsolute_of_isName isName
  have size := size_join p relative
  have size' := size_join q relative
  have le := shortens.extent_le
  have short := readable.short
  omega

theorem Shortens.stat_join (shortens : Shortens p q) (isName : IsName name)
    (readable : fs.IsReadable (q.join name)) : fs.stat (p.join name) = fs.stat (q.join name) := by
  have respelled := respelled_join shortens.toAliased isName
  have plain := respelled.toAliased.symm.plain readable.plain
  rw [stat_of_endsInName respelled.absolute respelled.ends plain (shortens.short isName readable),
    stat_of_endsInName respelled.absolute' respelled.ends' readable.plain readable.short,
    respelled.names]

/-- A directory in which something can be looked up is a directory in any shorter spelling without
dots. -/
theorem Shortens.isDirectory (shortens : Shortens p q) (noDot : "." ∉ p.steps) (isName : IsName name)
    (readable : fs.IsReadable (q.join name)) (directory : fs.isDirectory q = true) :
    fs.isDirectory p = true := by
  refine isDirectory_of_aliased shortens.toAliased.symm directory noDot ?_
  have below := size_join p (isAbsolute_of_isName isName)
  have short := shortens.short isName readable
  have within := size_le_extent p
  omega

end ModuleImport.FileSystem
