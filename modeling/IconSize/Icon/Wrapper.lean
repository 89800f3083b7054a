import IconSize.Options
import IconSize.Text.Lowercase

/-!
Wrappers: the expressions that stand for an icon of a fixed size where it is used as a plain value.
A wrapper is a component that passes its reference and the size on to the icon.
-/

namespace IconSize

/-- How a wrapper renders the icon. -/
inductive WrapperKind where
  | tag
  /-- By a call, for a name with a small first letter, which an element would take for a built-in
  one. -/
  | callable
deriving DecidableEq, Repr, Inhabited

namespace WrapperKind

/-- The kind that an icon's name calls for. -/
def ofName (name : String) : WrapperKind :=
  match name.toList with
  | first :: _ => if Text.isLowercase first then .callable else .tag
  | [] => .tag

end WrapperKind

namespace Wrapper

/-- An element that is the icon at a size. -/
def tagText (name : String) (size : Nat) : String :=
  "React.forwardRef((props, ref) => <" ++ name ++ " ref=\x7bref\x7d size=\x7b" ++ toString size
    ++ "\x7d \x7b...props\x7d />)"

/-- A call that makes the icon at a size, written over several lines. -/
def callText (name : String) (size : Nat) (indent : String) (trailingComma : Bool) : String :=
  let inner := indent ++ "  "
  let comma := if trailingComma then "," else ""
  "(props) => React.forwardRef((props, ref) => React.createElement(" ++ name ++ ", \x7b\n"
    ++ inner ++ "ref,\n"
    ++ inner ++ "size: " ++ toString size ++ ",\n"
    ++ inner ++ "...props" ++ comma ++ "\n"
    ++ indent ++ "\x7d))"

/-- The wrapper for an icon at a size; `indent` is what the line begins with on which it is
used. -/
def text (name : String) (size : Nat) (indent : String) (print : PrintOptions) : String :=
  match WrapperKind.ofName name with
  | .tag => tagText name size
  | .callable => callText name size indent print.trailingComma

end Wrapper
end IconSize
