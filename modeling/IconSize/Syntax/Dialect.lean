import IconSize.Files.Path

/-!
The dialect in which a source is read: with or without type syntax, with or without markup, and
whether it only describes a module that is defined elsewhere.
-/

namespace IconSize.Syntax
open Files

/-- What a source may contain beyond the plain language. Every source is a module. -/
structure Dialect where
  /-- Type syntax is read. -/
  typescript : Bool
  /-- Markup is read, so that an angle bracket in an expression opens an element. -/
  jsx : Bool
  /-- The source describes definitions without giving their bodies. -/
  definition : Bool
deriving DecidableEq, Repr, Inhabited

namespace Dialect

/-- The dialect of a source without a path: types and markup. -/
def standard : Dialect := ⟨true, true, false⟩

/-- The parts of a file name between its dots. -/
def dotParts (name : List Char) : List (List Char) :=
  name.foldr (fun character parts =>
    match character, parts with
    | '.', parts => [] :: parts
    | character, part :: parts => (character :: part) :: parts
    | character, [] => [[character]]) [[]]

/-- Does a `.ts` file with this stem hold definitions only? One of the last two parts of the stem
is then a plain `d`. -/
def isDefinitionStem (stem : List Char) : Bool :=
  ((dotParts stem).reverse.take 2).contains ['d']

/-- The dialect of a file, decided by the extension of its name. Names without an extension, and
with an extension not listed here, are read in the standard dialect. -/
def ofPath (path : Path) : Dialect :=
  match path.stemAndExtension? with
  | none => standard
  | some (stem, extension) =>
    match extension with
    | "js" | "jsx" | "mjs" | "cjs" => ⟨false, true, false⟩
    | "ts" => ⟨true, false, isDefinitionStem stem.toList⟩
    | "mts" | "cts" => ⟨true, false, ['d', '.'].isPrefixOf stem.toList.reverse⟩
    | _ => standard

example : ofPath ⟨"src/a.d.ts"⟩ = ⟨true, false, true⟩ := by decide +kernel
example : ofPath ⟨"a.ts/"⟩ = ⟨true, false, false⟩ := by decide +kernel
example : ofPath ⟨".ts"⟩ = standard := by decide +kernel

end Dialect
end IconSize.Syntax
