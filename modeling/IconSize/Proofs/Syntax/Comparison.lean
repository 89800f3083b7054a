import IconSize.Syntax.Program

/-!
Trees can be compared, so that what a source is read as is decided by reading it.
-/

namespace IconSize.Syntax

mutual

/-- The nodes have the same form and the same parts. -/
def Node.same : Node → Node → Bool
  | .reference name, .reference other => name == other
  | .typeReference name arguments, .typeReference other others =>
    name == other && Node.sameAll arguments others
  | .typeParameter name bounds, .typeParameter other others =>
    name == other && Node.sameAll bounds others
  | .group form parts, .group other others => form == other && Node.sameAll parts others
  | .parenthesized inner, .parenthesized other => inner.same other
  | .property key value, .property otherKey other => key.same otherKey && value.same other
  | .shorthand name, .shorthand other => name == other
  | .shorthandDefault name value, .shorthandDefault otherName other =>
    name == otherName && value.same other
  | .targetShorthand name, .targetShorthand other => name == other
  | .block form parts, .block other others => form == other && Node.sameAll parts others
  | .staticBlock body, .staticBlock others => Node.sameAll body others
  | .variables kind declarators, .variables other others =>
    kind == other && Declarator.sameAll declarators others
  | .function role name typeParameters receiver parameters result body,
      .function otherRole otherName otherTypes otherReceiver others otherResult otherBody =>
    role == otherRole && name == otherName && Node.sameAll typeParameters otherTypes &&
      Node.sameOption receiver otherReceiver && Parameter.sameAll parameters others &&
      Node.sameOption result otherResult && Node.sameAll body otherBody
  | .signature head parameters result, .signature otherHead others otherResult =>
    Node.sameAll head otherHead && Parameter.sameAll parameters others &&
      Node.sameOption result otherResult
  | .classNode role decorators name inside, .classNode otherRole others otherName otherInside =>
    role == otherRole && Node.sameAll decorators others && name == otherName &&
      Node.sameAll inside otherInside
  | .catchClause parameter body, .catchClause other otherBody =>
    parameter.same other && body.same otherBody
  | .enumeration name members, .enumeration other others =>
    name == other && Node.sameAll members others
  | .enumMember name value, .enumMember otherName other =>
    name == otherName && Node.sameOption value other
  | .namespaceBlock name body, .namespaceBlock other others =>
    name == other && Node.sameAll body others
  | .interface name inside, .interface other others => name == other && Node.sameAll inside others
  | .typeAlias name inside, .typeAlias other others => name == other && Node.sameAll inside others
  | .importing declaration, .importing other => declaration == other
  | .importEquals name target, .importEquals other others =>
    name == other && Node.sameAll target others
  | .exportSpecifier specifier, .exportSpecifier other => specifier == other
  | .element name typeArguments attributesAt attributes children closing,
      .element otherName otherArguments otherAt otherAttributes others otherClosing =>
    name == otherName && Node.sameAll typeArguments otherArguments && attributesAt == otherAt &&
      Node.sameAll attributes otherAttributes && Node.sameAll children others &&
      closing == otherClosing
  | _, _ => false

def Node.sameAll : List Node → List Node → Bool
  | [], [] => true
  | node :: nodes, other :: others => node.same other && Node.sameAll nodes others
  | _, _ => false

def Node.sameOption : Option Node → Option Node → Bool
  | none, none => true
  | some node, some other => node.same other
  | _, _ => false

def Pattern.same : Pattern → Pattern → Bool
  | .name name, .name other => name == other
  | .object properties, .object others => Pattern.sameAll properties others
  | .array elements, .array others => Pattern.sameAll elements others
  | .hole, .hole => true
  | .keyed key value, .keyed otherKey other => key.same otherKey && value.same other
  | .withDefault target value, .withDefault other otherValue =>
    target.same other && value.same otherValue
  | .rest target, .rest other => target.same other
  | _, _ => false

def Pattern.sameAll : List Pattern → List Pattern → Bool
  | [], [] => true
  | pattern :: patterns, other :: others => pattern.same other && Pattern.sameAll patterns others
  | _, _ => false

def Parameter.same : Parameter → Parameter → Bool
  | .mk decorators pattern ascription default, .mk others other otherAscription otherDefault =>
    Node.sameAll decorators others && pattern.same other &&
      Node.sameOption ascription otherAscription && Node.sameOption default otherDefault

def Parameter.sameAll : List Parameter → List Parameter → Bool
  | [], [] => true
  | parameter :: parameters, other :: others =>
    parameter.same other && Parameter.sameAll parameters others
  | _, _ => false

def Declarator.same : Declarator → Declarator → Bool
  | .mk pattern ascription initializer, .mk other otherAscription otherInitializer =>
    pattern.same other && Node.sameOption ascription otherAscription &&
      Node.sameOption initializer otherInitializer

def Declarator.sameAll : List Declarator → List Declarator → Bool
  | [], [] => true
  | declarator :: declarators, other :: others =>
    declarator.same other && Declarator.sameAll declarators others
  | _, _ => false

end

theorem Node.eq_of_same {node other : Node} : node.same other = true → node = other := by
  apply Node.same.induct (fun node other => node.same other = true → node = other)
    (fun parameter other => parameter.same other = true → parameter = other)
    (fun node other => Node.sameOption node other = true → node = other)
    (fun pattern other => pattern.same other = true → pattern = other)
    (fun patterns others => Pattern.sameAll patterns others = true → patterns = others)
    (fun nodes others => Node.sameAll nodes others = true → nodes = others)
    (fun parameters others => Parameter.sameAll parameters others = true → parameters = others)
    (fun declarators others => Declarator.sameAll declarators others = true → declarators = others)
    (fun declarator other => declarator.same other = true → declarator = other)
  all_goals
    intros
    simp_all [Node.same, Node.sameAll, Node.sameOption, Pattern.same, Pattern.sameAll,
      Parameter.same, Parameter.sameAll, Declarator.same, Declarator.sameAll]

theorem Node.same_self (node : Node) : node.same node = true := by
  apply @Node.rec (fun node => node.same node = true)
    (fun pattern => pattern.same pattern = true)
    (fun parameter => parameter.same parameter = true)
    (fun declarator => declarator.same declarator = true)
    (fun nodes => Node.sameAll nodes nodes = true)
    (fun declarators => Declarator.sameAll declarators declarators = true)
    (fun node => Node.sameOption node node = true)
    (fun parameters => Parameter.sameAll parameters parameters = true)
    (fun patterns => Pattern.sameAll patterns patterns = true)
  all_goals
    intros
    simp_all [Node.same, Node.sameAll, Node.sameOption, Pattern.same, Pattern.sameAll,
      Parameter.same, Parameter.sameAll, Declarator.same, Declarator.sameAll]

instance : DecidableEq Node := fun node other =>
  decidable_of_iff (node.same other = true) ⟨Node.eq_of_same, fun same => same ▸ node.same_self⟩

deriving instance DecidableEq for Program

end IconSize.Syntax
