import IconSize.Syntax.Tree

/-!
Assignment targets. What stands before an equals sign is first read as an expression; only then it
turns out to be a target, and its object and array literals are taken as patterns.
-/

namespace IconSize.Syntax
namespace Node

/-- Is this what parentheses and type operators may surround in a target: a name or a member? -/
def isAssignable : Node → Bool
  | reference _ => true
  | group .member _ => true
  | group .index _ => true
  | parenthesized inner => inner.isAssignable
  | group .asType [inner, _] => inner.isAssignable
  | group .satisfies [inner, _] => inner.isAssignable
  | group .nonNull [inner] => inner.isAssignable
  | group .cast [_, inner] => inner.isAssignable
  | _ => false

/-- Is this an object or array literal? -/
def isPatternLiteral : Node → Bool
  | group (.array _) _ => true
  | group (.object _) _ => true
  | _ => false

/-- The expression as a target that is no pattern. -/
def toSimpleTarget? : Node → Option Node
  | reference name => some (reference name)
  | group .member parts => some (group .member parts)
  | group .index parts => some (group .index parts)
  | parenthesized inner => if inner.isPatternLiteral then none else inner.toSimpleTarget?
  | group .asType [inner, type] =>
    if inner.isAssignable then some (group .asType [inner, type]) else none
  | group .satisfies [inner, type] =>
    if inner.isAssignable then some (group .satisfies [inner, type]) else none
  | group .nonNull [inner] => if inner.isAssignable then some (group .nonNull [inner]) else none
  | group .cast [type, inner] =>
    if inner.isAssignable then some (group .cast [type, inner]) else none
  | _ => none

mutual

/-- The expression as a target: a pattern or a simple target. -/
def toTarget? : Node → Option Node
  | group (.array comma) elements =>
    (toElements? comma elements).map (group .arrayTarget ·)
  | group (.object comma) members =>
    (toMembers? comma members).map (group .objectTarget ·)
  | node => node.toSimpleTarget?

/-- The elements of an array literal as those of an array pattern. A rest is last, and no comma
follows it. -/
def toElements? (comma : Bool) : List Node → Option (List Node)
  | [] => some []
  | group .spread [inner] :: rest =>
    if rest.isEmpty && !comma then
      inner.toTarget?.map fun target => [group .targetRest [target]]
    else none
  | group .hole parts :: rest => do
    return group .hole parts :: (← toElements? comma rest)
  | group .assignment [target, value] :: rest => do
    return group .targetDefault [target, value] :: (← toElements? comma rest)
  | node :: rest => do
    return (← node.toTarget?) :: (← toElements? comma rest)

/-- The members of an object literal as those of an object pattern. -/
def toMembers? (comma : Bool) : List Node → Option (List Node)
  | [] => some []
  | group .spread [inner] :: rest =>
    if rest.isEmpty && !comma then
      inner.toSimpleTarget?.map fun target => [group .targetRest [target]]
    else none
  | shorthand name :: rest => do
    return targetShorthand name :: (← toMembers? comma rest)
  | shorthandDefault name value :: rest => do
    return group .targetDefault [targetShorthand name, value] :: (← toMembers? comma rest)
  | property key (group .assignment [target, value]) :: rest => do
    return group .keyedTarget [key, group .targetDefault [target, value]]
      :: (← toMembers? comma rest)
  | property key value :: rest => do
    return group .keyedTarget [key, ← value.toTarget?] :: (← toMembers? comma rest)
  | _ :: _ => none

end

mutual

/-- Where the short names of a target stand, leaving out what is inside values. -/
def shortNames : Node → List Nat
  | targetShorthand name => [name.span.start]
  | group .targetDefault (target :: _) => target.shortNames
  | group .keyedTarget [_, target] => target.shortNames
  | group .targetRest [target] => target.shortNames
  | group .arrayTarget elements => shortNamesOf elements
  | group .objectTarget members => shortNamesOf members
  | _ => []

def shortNamesOf : List Node → List Nat
  | [] => []
  | target :: rest => target.shortNames ++ shortNamesOf rest

end

end Node
end IconSize.Syntax
