/-!
The options of a transform.
-/

namespace IconSize

/-- Which quotes surround a module specifier that is written anew. -/
inductive QuoteStyle where
  /-- The quotes that the literal had before. -/
  | auto
  | single
  | double
deriving DecidableEq, Repr, Inhabited

namespace QuoteStyle

/-- The quote for a literal that was written as `raw`. -/
def resolve (style : QuoteStyle) (raw : List Char) : Char :=
  match style with
  | single => '\''
  | double => '"'
  | auto =>
    match raw.head? with
    | some '"' => '"'
    | _ => '\''

end QuoteStyle

/-- How new text is written. -/
structure PrintOptions where
  quote : QuoteStyle
  /-- A comma stands after the last member of an object that is written over several lines. -/
  trailingComma : Bool
deriving DecidableEq, Repr, Inhabited

/-- The print options that hold where none are given. -/
def PrintOptions.standard : PrintOptions := ⟨.auto, true⟩

/-- What a transform is told. -/
structure Options where
  /-- The module from which sized icons are imported. -/
  targetModule : String
  /-- The module that they name afterwards; `none` leaves their specifier as it is. -/
  newModule : Option String
  /-- The size that an icon has without being told. -/
  defaultSize : UInt32
  /-- What is appended to a name that is already taken. -/
  collisionSuffix : String
  printOptions : PrintOptions
deriving DecidableEq, Repr, Inhabited

def Options.standard : Options where
  targetModule := "@carbon/icons-react"
  newModule := some "@carbon/icons-react/next"
  defaultSize := 32
  collisionSuffix := "Icon"
  printOptions := .standard

end IconSize
