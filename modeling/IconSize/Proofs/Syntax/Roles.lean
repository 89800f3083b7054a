import IconSize.Scope.Reference

/-!
What an identifier is to the node around it, read off the tree. Every node hands down to its parts
the role that an identifier has there; parentheses hand on the role that they are given. What comes
out is the identifiers of a tree that refer to something, each with its role, and with them the
names in lists of exports from other modules, which refer to nothing here.
-/

namespace IconSize.Syntax

/-- What an identifier is to the node around it, parentheses left out. -/
inductive Role where
  /-- The name of an element, in its opening tag. -/
  | openingTag (attributesAt : Nat)
  /-- The value of a property of an object literal; in the short form it is the key as well. -/
  | property (shorthand : Bool)
  /-- The key of a property of an assignment target, and what is assigned to. -/
  | targetShorthand
  /-- The local name of an entry of an export list; the flag tells whether it is written once only,
  as the exported name as well. -/
  | exported (writtenOnce : Bool)
  /-- The first name of an entry of an export list of another module. -/
  | foreign (writtenOnce : Bool)
  /-- All of the name of a type. -/
  | typeName
  /-- Any other part. -/
  | plain
deriving DecidableEq, Repr

namespace Role

/-- Does the identifier refer to something here? -/
def refers : Role → Bool
  | foreign _ => false
  | _ => true

/-- How the node around an identifier in this role uses it. -/
def usage : Role → Usage
  | openingTag attributesAt => .tag attributesAt
  | property shorthand => .value shorthand
  | exported writtenOnce => .other writtenOnce
  | foreign writtenOnce => .other writtenOnce
  | targetShorthand | typeName | plain => .plain

/-- In which of the two spaces an identifier in this role is looked up. -/
def space : Role → Namespace
  | typeName => .type
  | _ => .value

variable {role : Role}

theorem usage_eq_tag_iff {insertAt : Nat} :
    role.usage = .tag insertAt ↔ role = .openingTag insertAt := by
  cases role <;> simp [usage, Usage.plain]

theorem usage_eq_value_iff {shorthand : Bool} :
    role.usage = .value shorthand ↔ role = .property shorthand := by
  cases role <;> simp [usage, Usage.plain]

theorem usage_eq_other_true_iff (refers : role.refers = true) :
    role.usage = .other true ↔ role = .exported true := by
  cases role <;> simp [usage, Usage.plain, Role.refers] at refers ⊢

theorem usage_eq_plain_iff (refers : role.refers = true) :
    role.usage = .plain ↔ (∀ insertAt, role ≠ .openingTag insertAt) ∧
      (∀ shorthand, role ≠ .property shorthand) ∧ role ≠ .exported true := by
  cases role <;> simp [usage, Usage.plain, Role.refers] at refers ⊢

theorem space_eq_type_iff : role.space = .type ↔ role = .typeName := by
  cases role <;> simp [space]

end Role

/-- An identifier of a tree, with its role. -/
structure Mention where
  name : Identifier
  role : Role
deriving DecidableEq, Repr

def TagName.openingMentions (attributesAt : Nat) : TagName → List Mention
  | .reference name => [⟨name, .openingTag attributesAt⟩]
  | .member object => [⟨object, .plain⟩]
  | .intrinsic => []

def TagName.closingMentions : Option TagName → List Mention
  | some (.reference name) => [⟨name, .plain⟩]
  | some (.member object) => [⟨object, .plain⟩]
  | _ => []

/-- Is the entry written as one name? -/
def ExportSpecifier.writtenOnce (specifier : ExportSpecifier) : Bool :=
  decide (specifier.name.span = specifier.exported.span)

def ExportSpecifier.mention (specifier : ExportSpecifier) : Mention where
  name := ⟨specifier.name.name, specifier.name.span⟩
  role := if specifier.fromModule then .foreign specifier.writtenOnce
    else .exported specifier.writtenOnce

mutual

/-- The mentions in a node, in the order of the walk, if the node has this role. -/
def Node.mentions : Node → Role → List Mention
  | .reference name, role => [⟨name, role⟩]
  | .typeReference name arguments, _ => ⟨name, .typeName⟩ :: Node.mentionsOfAll arguments
  | .typeParameter _ bounds, _ => Node.mentionsOfAll bounds
  | .group _ parts, _ => Node.mentionsOfAll parts
  | .parenthesized inner, role => inner.mentions role
  | .property key value, _ => key.mentions .plain ++ value.mentions (.property false)
  | .shorthand name, _ => [⟨name, .property true⟩]
  | .shorthandDefault name value, _ => ⟨name, .property true⟩ :: value.mentions .plain
  | .targetShorthand name, _ => [⟨name, .targetShorthand⟩]
  | .block _ parts, _ => Node.mentionsOfAll parts
  | .staticBlock body, _ => Node.mentionsOfAll body
  | .variables _ declarators, _ => Declarator.mentionsOfAll declarators
  | .function _ _ typeParameters receiver parameters result body, _ =>
    Node.mentionsOfAll typeParameters ++ Node.mentionsOfOption receiver
      ++ Parameter.mentionsOfAll parameters ++ Node.mentionsOfOption result
      ++ Node.mentionsOfAll body
  | .signature head parameters result, _ =>
    Node.mentionsOfAll head ++ Parameter.mentionsOfAll parameters ++ Node.mentionsOfOption result
  | .classNode _ decorators _ inside, _ =>
    Node.mentionsOfAll decorators ++ Node.mentionsOfAll inside
  | .catchClause parameter body, _ => parameter.mentions ++ body.mentions .plain
  | .enumeration _ members, _ => Node.mentionsOfAll members
  | .enumMember _ value, _ => Node.mentionsOfOption value
  | .namespaceBlock _ body, _ => Node.mentionsOfAll body
  | .interface _ inside, _ => Node.mentionsOfAll inside
  | .typeAlias _ inside, _ => Node.mentionsOfAll inside
  | .importing _, _ => []
  | .importEquals _ target, _ => Node.mentionsOfAll target
  | .exportSpecifier specifier, _ => [specifier.mention]
  | .element name typeArguments attributesAt attributes children closing, _ =>
    name.openingMentions attributesAt ++ Node.mentionsOfAll typeArguments
      ++ Node.mentionsOfAll attributes ++ Node.mentionsOfAll children
      ++ TagName.closingMentions closing

def Node.mentionsOfAll : List Node → List Mention
  | [] => []
  | node :: rest => node.mentions .plain ++ Node.mentionsOfAll rest

def Node.mentionsOfOption : Option Node → List Mention
  | none => []
  | some node => node.mentions .plain

def Pattern.mentions : Pattern → List Mention
  | .name _ => []
  | .object properties => Pattern.mentionsOfAll properties
  | .array elements => Pattern.mentionsOfAll elements
  | .hole => []
  | .keyed key value => key.mentions .plain ++ value.mentions
  | .withDefault target value => target.mentions ++ value.mentions .plain
  | .rest target => target.mentions

def Pattern.mentionsOfAll : List Pattern → List Mention
  | [] => []
  | pattern :: rest => pattern.mentions ++ Pattern.mentionsOfAll rest

def Parameter.mentions : Parameter → List Mention
  | .mk decorators pattern ascription default =>
    Node.mentionsOfAll decorators ++ pattern.mentions ++ Node.mentionsOfOption ascription
      ++ Node.mentionsOfOption default

def Parameter.mentionsOfAll : List Parameter → List Mention
  | [] => []
  | parameter :: rest => parameter.mentions ++ Parameter.mentionsOfAll rest

def Declarator.mentions : Declarator → List Mention
  | .mk pattern ascription initializer =>
    pattern.mentions ++ Node.mentionsOfOption ascription ++ Node.mentionsOfOption initializer

def Declarator.mentionsOfAll : List Declarator → List Mention
  | [] => []
  | declarator :: rest => declarator.mentions ++ Declarator.mentionsOfAll rest

end

def Program.mentions (program : Program) : List Mention := Node.mentionsOfAll program.body

/-- A node that is a reference in parentheses is mentioned as a whole in its role; to any other node
its role does not matter. -/
theorem Node.mentions_withoutParentheses (node : Node) :
    (∃ name, node.withoutParentheses = .reference name ∧
        ∀ role, node.mentions role = [⟨name, role⟩]) ∨
      (∀ name, node.withoutParentheses ≠ .reference name) ∧
        ∀ role, node.mentions role = node.mentions .plain := by
  cases node
  case reference name => exact .inl ⟨name, rfl, fun _ => rfl⟩
  case parenthesized inner => exact inner.mentions_withoutParentheses
  all_goals exact .inr ⟨fun _ => by simp [Node.withoutParentheses], fun _ => rfl⟩

end IconSize.Syntax
