import IconSize.Scope.Table
import IconSize.Syntax.Tree

/-!
References: where identifiers refer to something, and how what is around them uses them.
-/

namespace IconSize
open Syntax

/-- How the form around a reference uses it. -/
inductive Usage where
  /-- It names the element of an opening tag; an attribute can be put in at the offset. -/
  | tag (insertAt : Nat)
  /-- It is the value of a property of an object literal; in the short form it is the key as
  well. -/
  | value (shorthand : Bool)
  /-- Anything else; the flag marks an entry of an export list that keeps its name. -/
  | other (exportShorthand : Bool)
deriving DecidableEq, Repr, Inhabited

/-- The usage of a reference that nothing is known about. -/
def Usage.plain : Usage := .other false

/-- An identifier that refers to something. -/
structure Reference where
  name : String
  span : Span
  scope : Option ScopeHandle
  usage : Usage
  space : Namespace
deriving DecidableEq, Repr, Inhabited

/-- What a name would mean where the reference stands. -/
def Reference.resolve (reference : Reference) (table : ScopeTable) (name : String) : Resolution :=
  table.resolveIn reference.scope name reference.space

end IconSize
