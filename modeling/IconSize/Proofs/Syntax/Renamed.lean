import IconSize.Proofs.Scope.Steps

/-!
Trees with other names. A renaming gives every identifier that refers to something a new name; all
that binds keeps its own. A property in short form whose value gets a new name is written out, since
its key stays, and an entry of an export list keeps the name under which it is exported.

The walk takes the same steps through both trees, apart from the names.
-/

namespace IconSize
namespace Syntax

/-- A new name for each identifier that refers to something. -/
abbrev Renaming := Identifier → String

def Identifier.renamed (newName : Renaming) (identifier : Identifier) : Identifier :=
  ⟨newName identifier, identifier.span⟩

def TagName.renamed (newName : Renaming) : TagName → TagName
  | .reference name => .reference (name.renamed newName)
  | .member object => .member (object.renamed newName)
  | .intrinsic => .intrinsic

def ExportSpecifier.renamed (newName : Renaming) (specifier : ExportSpecifier) :
    ExportSpecifier :=
  if specifier.fromModule then specifier
  else
    { specifier with
      name := { specifier.name with
        name := newName ⟨specifier.name.name, specifier.name.span⟩ } }

mutual

/-- The node with other names. -/
def Node.renamed (newName : Renaming) : Node → Node
  | .reference name => .reference (name.renamed newName)
  | .typeReference name arguments =>
    .typeReference (name.renamed newName) (Node.renamedAll newName arguments)
  | .typeParameter name bounds => .typeParameter name (Node.renamedAll newName bounds)
  | .group form parts => .group form (Node.renamedAll newName parts)
  | .parenthesized inner => .parenthesized (inner.renamed newName)
  | .property key value => .property (key.renamed newName) (value.renamed newName)
  | .shorthand name =>
    if newName name = name.name then .shorthand name
    else .property (.group .plainKey []) (.reference (name.renamed newName))
  | .shorthandDefault name value =>
    .shorthandDefault (name.renamed newName) (value.renamed newName)
  | .targetShorthand name => .targetShorthand (name.renamed newName)
  | .block form parts => .block form (Node.renamedAll newName parts)
  | .staticBlock body => .staticBlock (Node.renamedAll newName body)
  | .variables kind declarators => .variables kind (Declarator.renamedAll newName declarators)
  | .function role name typeParameters receiver parameters result body =>
    .function role name (Node.renamedAll newName typeParameters)
      (Node.renamedOption newName receiver) (Parameter.renamedAll newName parameters)
      (Node.renamedOption newName result) (Node.renamedAll newName body)
  | .signature head parameters result =>
    .signature (Node.renamedAll newName head) (Parameter.renamedAll newName parameters)
      (Node.renamedOption newName result)
  | .classNode role decorators name inside =>
    .classNode role (Node.renamedAll newName decorators) name (Node.renamedAll newName inside)
  | .catchClause parameter body =>
    .catchClause (parameter.renamed newName) (body.renamed newName)
  | .enumeration name members => .enumeration name (Node.renamedAll newName members)
  | .enumMember name value => .enumMember name (Node.renamedOption newName value)
  | .namespaceBlock name body => .namespaceBlock name (Node.renamedAll newName body)
  | .interface name inside => .interface name (Node.renamedAll newName inside)
  | .typeAlias name inside => .typeAlias name (Node.renamedAll newName inside)
  | .importing declaration => .importing declaration
  | .importEquals name target => .importEquals name (Node.renamedAll newName target)
  | .exportSpecifier specifier => .exportSpecifier (specifier.renamed newName)
  | .element name typeArguments attributesAt attributes children closing =>
    .element (name.renamed newName) (Node.renamedAll newName typeArguments) attributesAt
      (Node.renamedAll newName attributes) (Node.renamedAll newName children)
      (closing.map (TagName.renamed newName))

def Node.renamedAll (newName : Renaming) : List Node → List Node
  | [] => []
  | node :: rest => node.renamed newName :: Node.renamedAll newName rest

def Node.renamedOption (newName : Renaming) : Option Node → Option Node
  | none => none
  | some node => some (node.renamed newName)

def Pattern.renamed (newName : Renaming) : Pattern → Pattern
  | .name name => .name name
  | .object properties => .object (Pattern.renamedAll newName properties)
  | .array elements => .array (Pattern.renamedAll newName elements)
  | .hole => .hole
  | .keyed key value => .keyed (key.renamed newName) (value.renamed newName)
  | .withDefault target value => .withDefault (target.renamed newName) (value.renamed newName)
  | .rest target => .rest (target.renamed newName)

def Pattern.renamedAll (newName : Renaming) : List Pattern → List Pattern
  | [] => []
  | pattern :: rest => pattern.renamed newName :: Pattern.renamedAll newName rest

def Parameter.renamed (newName : Renaming) : Parameter → Parameter
  | .mk decorators pattern ascription default =>
    .mk (Node.renamedAll newName decorators) (pattern.renamed newName)
      (Node.renamedOption newName ascription) (Node.renamedOption newName default)

def Parameter.renamedAll (newName : Renaming) : List Parameter → List Parameter
  | [] => []
  | parameter :: rest => parameter.renamed newName :: Parameter.renamedAll newName rest

def Declarator.renamed (newName : Renaming) : Declarator → Declarator
  | .mk pattern ascription initializer =>
    .mk (pattern.renamed newName) (Node.renamedOption newName ascription)
      (Node.renamedOption newName initializer)

def Declarator.renamedAll (newName : Renaming) : List Declarator → List Declarator
  | [] => []
  | declarator :: rest => declarator.renamed newName :: Declarator.renamedAll newName rest

end

/-- The module with other names, in which the import declarations at the top level are changed as
given. -/
def Program.renamed (newName : Renaming) (change : ImportDeclaration → ImportDeclaration)
    (program : Program) : Program :=
  ⟨program.body.map fun
    | .importing declaration => .importing (change declaration)
    | node => node.renamed newName⟩

/-! ## Binders stay -/

mutual

theorem Pattern.boundNames_renamed (newName : Renaming) :
    ∀ pattern : Pattern, (pattern.renamed newName).boundNames = pattern.boundNames
  | .name _ => rfl
  | .object properties => Pattern.boundNamesOf_renamedAll newName properties
  | .array elements => Pattern.boundNamesOf_renamedAll newName elements
  | .hole => rfl
  | .keyed _ value => Pattern.boundNames_renamed newName value
  | .withDefault target _ => Pattern.boundNames_renamed newName target
  | .rest target => Pattern.boundNames_renamed newName target

theorem Pattern.boundNamesOf_renamedAll (newName : Renaming) :
    ∀ patterns : List Pattern,
      Pattern.boundNamesOf (Pattern.renamedAll newName patterns) = Pattern.boundNamesOf patterns
  | [] => rfl
  | pattern :: others => by
      simp only [Pattern.renamedAll, Pattern.boundNamesOf, Pattern.boundNames_renamed newName,
        Pattern.boundNamesOf_renamedAll newName others]

end

theorem Parameter.boundNames_renamedAll (newName : Renaming) (parameters : List Parameter) :
    Parameter.boundNames (Parameter.renamedAll newName parameters) =
      Parameter.boundNames parameters := by
  induction parameters with
  | nil => rfl
  | cons parameter rest induction =>
      rcases parameter with ⟨decorators, pattern, ascription, default⟩
      simp only [Parameter.boundNames, Parameter.renamedAll, List.flatMap_cons] at induction ⊢
      rw [induction]
      exact congrArg (· ++ _) (Pattern.boundNames_renamed newName pattern)

theorem Declarator.boundNames_renamedAll (newName : Renaming) (declarators : List Declarator) :
    Declarator.boundNames (Declarator.renamedAll newName declarators) =
      Declarator.boundNames declarators := by
  induction declarators with
  | nil => rfl
  | cons declarator rest induction =>
      rcases declarator with ⟨pattern, ascription, initializer⟩
      simp only [Declarator.boundNames, Declarator.renamedAll, List.flatMap_cons] at induction ⊢
      rw [induction]
      exact congrArg (· ++ _) (Pattern.boundNames_renamed newName pattern)

/-! ## The steps through a renamed tree -/

end Syntax

namespace Walk.Step
open Syntax

/-- The step without the flag that tells a short property from a long one. -/
def erased : Step → Step
  | .markValue span _ => .markValue span false
  | step => step

/-- The step with another name, and without that flag. -/
def renamed (newName : Renaming) : Step → Step
  | .markValue span _ => .markValue span false
  | .refer name => .refer (name.renamed newName)
  | .referType name => .referType (name.renamed newName)
  | .openTag attributesAt name => .openTag attributesAt (name.renamed newName)
  | step => step

end Walk.Step

namespace Syntax
open Walk (Step)

variable (newName : Renaming)

theorem map_scopeSteps (change : Step → Step) (kind : ScopeKind) (inside : List Step)
    (enter : change (.enter kind) = .enter kind) (leave : change .leave = .leave) :
    (scopeSteps kind inside).map change = scopeSteps kind (inside.map change) := by
  simp [scopeSteps, enter, leave]

@[simp] theorem erased_scopeSteps (kind : ScopeKind) (inside : List Step) :
    (scopeSteps kind inside).map Step.erased = scopeSteps kind (inside.map Step.erased) :=
  map_scopeSteps _ kind inside rfl rfl

@[simp] theorem renamed_scopeSteps (kind : ScopeKind) (inside : List Step) :
    (scopeSteps kind inside).map (Step.renamed newName) =
      scopeSteps kind (inside.map (Step.renamed newName)) :=
  map_scopeSteps _ kind inside rfl rfl

theorem erased_functionNameSteps (role : FunctionRole) (name : Option Identifier) :
    (functionNameSteps role name).map Step.erased =
      (functionNameSteps role name).map (Step.renamed newName) := by
  cases role <;> cases name <;> rfl

theorem erased_classNameSteps (role : ClassRole) (name : Option Identifier) :
    (classNameSteps role name).map Step.erased =
      (classNameSteps role name).map (Step.renamed newName) := by
  cases role <;> cases name <;> rfl

theorem erased_variableSteps (kind : VariableKind) (names : List String) :
    (variableSteps kind names).map Step.erased =
      (variableSteps kind names).map (Step.renamed newName) := by
  cases kind <;> simp only [variableSteps, List.map_map] <;> rfl

theorem erased_valueSteps_renamed (value : Node) :
    (valueSteps (value.renamed newName)).map Step.erased =
      (valueSteps value).map (Step.renamed newName) := by
  induction value using Node.withoutParentheses.induct with
  | case1 inner induction => exact induction
  | case2 node different =>
      cases node with
      | parenthesized inner => exact absurd rfl (different inner)
      | shorthand name =>
          unfold Node.renamed
          split <;> rfl
      | _ => rfl

theorem erased_openingSteps_renamed (attributesAt : Nat) (name : TagName) :
    (openingSteps attributesAt (name.renamed newName)).map Step.erased =
      (openingSteps attributesAt name).map (Step.renamed newName) := by
  cases name <;> rfl

theorem erased_closingSteps_renamed (name : Option TagName) :
    (closingSteps (name.map (TagName.renamed newName))).map Step.erased =
      (closingSteps name).map (Step.renamed newName) := by
  rcases name with _ | name
  · rfl
  · cases name <;> rfl

theorem ExportSpecifier.erased_steps_renamed (specifier : ExportSpecifier) :
    (specifier.renamed newName).steps.map Step.erased =
      specifier.steps.map (Step.renamed newName) := by
  cases foreign : specifier.fromModule <;>
    simp only [ExportSpecifier.renamed, foreign, ExportSpecifier.steps, Bool.false_eq_true,
      if_false, if_true] <;>
    split <;> rfl

mutual

theorem Node.erased_steps_renamed :
    ∀ node : Node,
      (node.renamed newName).steps.map Step.erased = node.steps.map (Step.renamed newName)
  | .reference _ => rfl
  | .typeReference _ arguments => by
      simp [Node.renamed, Node.steps, Node.erased_stepsOfAll_renamed arguments, Step.erased,
        Step.renamed]
  | .typeParameter _ bounds => Node.erased_stepsOfAll_renamed bounds
  | .group _ parts => Node.erased_stepsOfAll_renamed parts
  | .parenthesized inner => Node.erased_steps_renamed inner
  | .property key value => by
      simp [Node.renamed, Node.steps, erased_valueSteps_renamed, Node.erased_steps_renamed key,
        Node.erased_steps_renamed value]
  | .shorthand name => by
      unfold Node.renamed
      split
      · rename_i same
        simp [Node.steps, Step.erased, Step.renamed, Identifier.renamed, same]
      · rfl
  | .shorthandDefault _ value => by
      simp [Node.renamed, Node.steps, Node.erased_steps_renamed value, Step.erased, Step.renamed,
        Identifier.renamed]
  | .targetShorthand _ => rfl
  | .block _ parts => by
      simp [Node.renamed, Node.steps, Node.erased_stepsOfAll_renamed parts]
  | .staticBlock body => by
      simp [Node.renamed, Node.steps, Node.erased_stepsOfAll_renamed body]
  | .variables _ declarators => by
      simp [Node.renamed, Node.steps, Declarator.boundNames_renamedAll,
        erased_variableSteps newName, Declarator.erased_stepsOfAll_renamed declarators]
  | .function _ _ typeParameters receiver parameters result body => by
      simp [Node.renamed, Node.steps, Parameter.boundNames_renamedAll,
        erased_functionNameSteps newName, Node.erased_stepsOfAll_renamed typeParameters,
        Node.erased_stepsOfOption_renamed receiver,
        Parameter.erased_stepsOfAll_renamed parameters, Node.erased_stepsOfOption_renamed result,
        Node.erased_stepsOfAll_renamed body, Step.erased, Step.renamed]
  | .signature head parameters result => by
      simp [Node.renamed, Node.steps, Node.erased_stepsOfAll_renamed head,
        Parameter.erased_stepsOfAll_renamed parameters, Node.erased_stepsOfOption_renamed result]
  | .classNode _ decorators _ inside => by
      simp [Node.renamed, Node.steps, erased_classNameSteps newName,
        Node.erased_stepsOfAll_renamed decorators, Node.erased_stepsOfAll_renamed inside]
  | .catchClause (.mk decorators pattern ascription default) body => by
      have inside := Parameter.erased_steps_renamed (.mk decorators pattern ascription default)
      have bound := Pattern.boundNames_renamed newName pattern
      simp only [Parameter.renamed] at inside
      simp [Node.renamed, Node.steps, Parameter.renamed, Parameter.pattern, bound, inside,
        Node.erased_steps_renamed body, Step.erased, Step.renamed]
  | .enumeration _ members => by
      simp [Node.renamed, Node.steps, Node.erased_stepsOfAll_renamed members, Step.erased,
        Step.renamed]
  | .enumMember _ value => Node.erased_stepsOfOption_renamed value
  | .namespaceBlock name body => by
      cases name <;>
        simp [Node.renamed, Node.steps, Node.erased_stepsOfAll_renamed body, Step.erased,
          Step.renamed]
  | .interface _ inside => by
      simp [Node.renamed, Node.steps, Node.erased_stepsOfAll_renamed inside, Step.erased,
        Step.renamed]
  | .typeAlias _ inside => by
      simp [Node.renamed, Node.steps, Node.erased_stepsOfAll_renamed inside, Step.erased,
        Step.renamed]
  | .importing _ => by
      simp [Node.renamed, Node.steps, Step.erased, Step.renamed]
  | .importEquals _ target => Node.erased_stepsOfAll_renamed target
  | .exportSpecifier specifier => specifier.erased_steps_renamed newName
  | .element _ typeArguments _ attributes children _ => by
      simp [Node.renamed, Node.steps, erased_openingSteps_renamed, erased_closingSteps_renamed,
        Node.erased_stepsOfAll_renamed typeArguments, Node.erased_stepsOfAll_renamed attributes,
        Node.erased_stepsOfAll_renamed children]

theorem Node.erased_stepsOfAll_renamed :
    ∀ nodes : List Node,
      (Node.stepsOfAll (Node.renamedAll newName nodes)).map Step.erased =
        (Node.stepsOfAll nodes).map (Step.renamed newName)
  | [] => rfl
  | node :: others => by
      simp [Node.renamedAll, Node.stepsOfAll, Node.erased_steps_renamed node,
        Node.erased_stepsOfAll_renamed others]

theorem Node.erased_stepsOfOption_renamed :
    ∀ node : Option Node,
      (Node.stepsOfOption (Node.renamedOption newName node)).map Step.erased =
        (Node.stepsOfOption node).map (Step.renamed newName)
  | none => rfl
  | some node => Node.erased_steps_renamed node

theorem Pattern.erased_steps_renamed :
    ∀ pattern : Pattern,
      (pattern.renamed newName).steps.map Step.erased = pattern.steps.map (Step.renamed newName)
  | .name _ => rfl
  | .object properties => Pattern.erased_stepsOfAll_renamed properties
  | .array elements => Pattern.erased_stepsOfAll_renamed elements
  | .hole => rfl
  | .keyed key value => by
      simp [Pattern.renamed, Pattern.steps, Node.erased_steps_renamed key,
        Pattern.erased_steps_renamed value]
  | .withDefault target value => by
      simp [Pattern.renamed, Pattern.steps, Pattern.erased_steps_renamed target,
        Node.erased_steps_renamed value]
  | .rest target => Pattern.erased_steps_renamed target

theorem Pattern.erased_stepsOfAll_renamed :
    ∀ patterns : List Pattern,
      (Pattern.stepsOfAll (Pattern.renamedAll newName patterns)).map Step.erased =
        (Pattern.stepsOfAll patterns).map (Step.renamed newName)
  | [] => rfl
  | pattern :: others => by
      simp [Pattern.renamedAll, Pattern.stepsOfAll, Pattern.erased_steps_renamed pattern,
        Pattern.erased_stepsOfAll_renamed others]

theorem Parameter.erased_steps_renamed :
    ∀ parameter : Parameter,
      (parameter.renamed newName).steps.map Step.erased =
        parameter.steps.map (Step.renamed newName)
  | .mk decorators pattern ascription default => by
      simp [Parameter.renamed, Parameter.steps, Node.erased_stepsOfAll_renamed decorators,
        Pattern.erased_steps_renamed pattern, Node.erased_stepsOfOption_renamed ascription,
        Node.erased_stepsOfOption_renamed default]

theorem Parameter.erased_stepsOfAll_renamed :
    ∀ parameters : List Parameter,
      (Parameter.stepsOfAll (Parameter.renamedAll newName parameters)).map Step.erased =
        (Parameter.stepsOfAll parameters).map (Step.renamed newName)
  | [] => rfl
  | parameter :: others => by
      simp [Parameter.renamedAll, Parameter.stepsOfAll, Parameter.erased_steps_renamed parameter,
        Parameter.erased_stepsOfAll_renamed others]

theorem Declarator.erased_steps_renamed :
    ∀ declarator : Declarator,
      (declarator.renamed newName).steps.map Step.erased =
        declarator.steps.map (Step.renamed newName)
  | .mk pattern ascription initializer => by
      simp [Declarator.renamed, Declarator.steps, Pattern.erased_steps_renamed pattern,
        Node.erased_stepsOfOption_renamed ascription,
        Node.erased_stepsOfOption_renamed initializer]

theorem Declarator.erased_stepsOfAll_renamed :
    ∀ declarators : List Declarator,
      (Declarator.stepsOfAll (Declarator.renamedAll newName declarators)).map Step.erased =
        (Declarator.stepsOfAll declarators).map (Step.renamed newName)
  | [] => rfl
  | declarator :: others => by
      simp [Declarator.renamedAll, Declarator.stepsOfAll,
        Declarator.erased_steps_renamed declarator, Declarator.erased_stepsOfAll_renamed others]

end

end Syntax
end IconSize
