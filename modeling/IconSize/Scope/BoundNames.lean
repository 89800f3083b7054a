import IconSize.Syntax.Tree

/-!
The names that a pattern binds. Default values, computed keys, types and decorators hold references
and bind nothing.
-/

namespace IconSize.Syntax

namespace Pattern

mutual

/-- The names that a pattern binds, in the order in which they are written. -/
def boundNames : Pattern → List String
  | .name binder => [binder.name]
  | .object properties => boundNamesOf properties
  | .array elements => boundNamesOf elements
  | .hole => []
  | .keyed _ value => value.boundNames
  | .withDefault target _ => target.boundNames
  | .rest target => target.boundNames

def boundNamesOf : List Pattern → List String
  | [] => []
  | pattern :: others => pattern.boundNames ++ boundNamesOf others

end

end Pattern

def Parameter.boundNames (parameters : List Parameter) : List String :=
  parameters.flatMap fun parameter => parameter.pattern.boundNames

def Declarator.boundNames (declarators : List Declarator) : List String :=
  declarators.flatMap fun declarator => declarator.pattern.boundNames

end IconSize.Syntax
