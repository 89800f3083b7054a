import IconSize.Scope.Walk

/-!
The walk as a list of steps. What a node makes the walk do is a list that depends on the node
alone; `visit_eq_follow` says that visiting the node is following that list. Facts about the walk
are then facts about single steps, carried along a list.
-/

namespace IconSize
open Syntax

namespace Walk

/-- One thing that the walk does. -/
inductive Step where
  | enter (kind : ScopeKind)
  | leave
  | hold (name : String)
  | declare (name : String)
  | declareVar (name : String)
  | declareType (name : String)
  /-- Mark the value of a property. -/
  | markValue (span : Span) (shorthand : Bool)
  /-- Mark an entry of an export list that keeps its name. -/
  | markExport (span : Span)
  | refer (name : Identifier)
  /-- Refer to a type. -/
  | referType (name : Identifier)
  /-- Refer to what the opening tag of an element names. -/
  | openTag (attributesAt : Nat) (name : Identifier)
deriving DecidableEq, Repr

def Step.take : Step → Walk → Walk
  | .enter kind, walk => walk.enter kind
  | .leave, walk => walk.leave
  | .hold name, walk => walk.hold name
  | .declare name, walk => walk.declare name
  | .declareVar name, walk => walk.declareVar name
  | .declareType name, walk => walk.declareType name
  | .markValue span shorthand, walk => walk.mark span (.value shorthand)
  | .markExport span, walk => walk.mark span (.other true)
  | .refer name, walk => walk.refer name
  | .referType name, walk => (walk.markType name.span).refer name
  | .openTag attributesAt name, walk => (walk.mark name.span (.tag attributesAt)).refer name

def follow (steps : List Step) (walk : Walk) : Walk :=
  steps.foldl (fun walk step => step.take walk) walk

@[simp] theorem follow_nil (walk : Walk) : follow [] walk = walk := rfl

@[simp] theorem follow_cons (step : Step) (steps : List Step) (walk : Walk) :
    follow (step :: steps) walk = follow steps (step.take walk) := rfl

@[simp] theorem follow_append (first second : List Step) (walk : Walk) :
    follow (first ++ second) walk = follow second (follow first walk) :=
  List.foldl_append

end Walk

/-! ## The steps of a node -/

namespace Syntax
open Walk (Step)

def scopeSteps (kind : ScopeKind) (inside : List Step) : List Step :=
  .enter kind :: (inside ++ [.leave])

def functionNameSteps : FunctionRole → Option Identifier → List Step
  | .declaration, some name => [.declare name.name]
  | .expression, some name => [.hold name.name]
  | _, none => []

def classNameSteps : ClassRole → Option Identifier → List Step
  | .declaration, some name => [.declare name.name]
  | .expression, some name => [.hold name.name]
  | _, none => []

def variableSteps : VariableKind → List String → List Step
  | .var, names => names.map .declareVar
  | _, names => names.map .declare

/-- The step that marks the value of a property, if that is a reference. -/
def valueSteps (value : Node) : List Step :=
  match value.withoutParentheses with
  | .reference name => [.markValue name.span false]
  | _ => []

def openingSteps (attributesAt : Nat) : TagName → List Step
  | .reference name => [.openTag attributesAt name]
  | .member object => [.refer object]
  | .intrinsic => []

def closingSteps : Option TagName → List Step
  | some (.reference name) => [.refer name]
  | some (.member object) => [.refer object]
  | _ => []

def ExportSpecifier.steps (specifier : ExportSpecifier) : List Step :=
  (if specifier.name.span = specifier.exported.span then [.markExport specifier.name.span]
    else []) ++
  (if specifier.fromModule then []
    else [.refer ⟨specifier.name.name, specifier.name.span⟩])

mutual

/-- The steps of the walk through a node. -/
def Node.steps : Node → List Step
  | .reference name => [.refer name]
  | .typeReference name arguments => .referType name :: Node.stepsOfAll arguments
  | .typeParameter _ bounds => Node.stepsOfAll bounds
  | .group _ parts => Node.stepsOfAll parts
  | .parenthesized inner => inner.steps
  | .property key value => valueSteps value ++ key.steps ++ value.steps
  | .shorthand name => [.markValue name.span true, .refer name]
  | .shorthandDefault name value => .markValue name.span true :: .refer name :: value.steps
  | .targetShorthand name => [.refer name]
  | .block _ parts => scopeSteps .block (Node.stepsOfAll parts)
  | .staticBlock body => scopeSteps .function (Node.stepsOfAll body)
  | .variables kind declarators =>
    variableSteps kind (Declarator.boundNames declarators) ++ Declarator.stepsOfAll declarators
  | .function role name typeParameters receiver parameters result body =>
    functionNameSteps role name ++ (Parameter.boundNames parameters).map .hold
      ++ scopeSteps .function (Node.stepsOfAll typeParameters ++ Node.stepsOfOption receiver
        ++ Parameter.stepsOfAll parameters ++ Node.stepsOfOption result ++ Node.stepsOfAll body)
  | .signature head parameters result =>
    scopeSteps .block (Node.stepsOfAll head ++ Parameter.stepsOfAll parameters
      ++ Node.stepsOfOption result)
  | .classNode role decorators name inside =>
    classNameSteps role name ++ Node.stepsOfAll decorators
      ++ scopeSteps .block (Node.stepsOfAll inside)
  | .catchClause parameter body =>
    parameter.pattern.boundNames.map .hold
      ++ scopeSteps .block (parameter.steps ++ body.steps)
  | .enumeration name members =>
    .declare name.name :: scopeSteps .block (Node.stepsOfAll members)
  | .enumMember _ value => Node.stepsOfOption value
  | .namespaceBlock name body =>
    (name.map fun name => Step.declare name.name).toList
      ++ scopeSteps .function (Node.stepsOfAll body)
  | .interface name inside =>
    .declareType name.name :: scopeSteps .block (Node.stepsOfAll inside)
  | .typeAlias name inside =>
    .declareType name.name :: scopeSteps .block (Node.stepsOfAll inside)
  | .importing declaration => declaration.clauses.map fun clause => .declare clause.bound.name
  | .importEquals _ target => Node.stepsOfAll target
  | .exportSpecifier specifier => specifier.steps
  | .element name typeArguments attributesAt attributes children closing =>
    openingSteps attributesAt name ++ Node.stepsOfAll typeArguments ++ Node.stepsOfAll attributes
      ++ Node.stepsOfAll children ++ closingSteps closing

def Node.stepsOfAll : List Node → List Step
  | [] => []
  | node :: rest => node.steps ++ Node.stepsOfAll rest

def Node.stepsOfOption : Option Node → List Step
  | none => []
  | some node => node.steps

def Pattern.steps : Pattern → List Step
  | .name _ => []
  | .object properties => Pattern.stepsOfAll properties
  | .array elements => Pattern.stepsOfAll elements
  | .hole => []
  | .keyed key value => key.steps ++ value.steps
  | .withDefault target value => target.steps ++ value.steps
  | .rest target => target.steps

def Pattern.stepsOfAll : List Pattern → List Step
  | [] => []
  | pattern :: rest => pattern.steps ++ Pattern.stepsOfAll rest

def Parameter.steps : Parameter → List Step
  | .mk decorators pattern ascription default =>
    Node.stepsOfAll decorators ++ pattern.steps ++ Node.stepsOfOption ascription
      ++ Node.stepsOfOption default

def Parameter.stepsOfAll : List Parameter → List Step
  | [] => []
  | parameter :: rest => parameter.steps ++ Parameter.stepsOfAll rest

def Declarator.steps : Declarator → List Step
  | .mk pattern ascription initializer =>
    pattern.steps ++ Node.stepsOfOption ascription ++ Node.stepsOfOption initializer

def Declarator.stepsOfAll : List Declarator → List Step
  | [] => []
  | declarator :: rest => declarator.steps ++ Declarator.stepsOfAll rest

end

def Program.steps (program : Program) : List Step :=
  scopeSteps .module (Node.stepsOfAll program.body)

end Syntax

/-! ## Visiting is following -/

namespace Walk

@[simp] theorem follow_scopeSteps (kind : ScopeKind) (inside : List Step) (walk : Walk) :
    follow (scopeSteps kind inside) walk = (follow inside (walk.enter kind)).leave := by
  simp [scopeSteps, Step.take]

theorem holdAll_eq_follow (names : List String) (walk : Walk) :
    walk.holdAll names = follow (names.map .hold) walk := by
  induction names generalizing walk with
  | nil => rfl
  | cons name names induction => exact induction (walk.hold name)

theorem declareAll_eq_follow (names : List String) (walk : Walk) :
    walk.declareAll names = follow (names.map .declare) walk := by
  induction names generalizing walk with
  | nil => rfl
  | cons name names induction => exact induction (walk.declare name)

theorem declareVariables_eq_follow (kind : VariableKind) (names : List String) (walk : Walk) :
    walk.declareVariables kind names = follow (variableSteps kind names) walk := by
  cases kind
  case var =>
      show names.foldl (fun walk name => walk.declareVar name) walk = _
      induction names generalizing walk with
      | nil => rfl
      | cons name names induction => exact induction (walk.declareVar name)
  all_goals exact walk.declareAll_eq_follow names

theorem nameFunction_eq_follow (role : FunctionRole) (name : Option Identifier) (walk : Walk) :
    walk.nameFunction role name = follow (functionNameSteps role name) walk := by
  cases role <;> cases name <;> rfl

theorem nameClass_eq_follow (role : ClassRole) (name : Option Identifier) (walk : Walk) :
    walk.nameClass role name = follow (classNameSteps role name) walk := by
  cases role <;> cases name <;> rfl

theorem markValue_eq_follow (value : Node) (walk : Walk) :
    walk.markValue value = follow (valueSteps value) walk := by
  unfold markValue valueSteps
  generalize value.withoutParentheses = inner
  cases inner <;> rfl

theorem openTag_eq_follow (attributesAt : Nat) (name : TagName) (walk : Walk) :
    walk.openTag attributesAt name = follow (openingSteps attributesAt name) walk := by
  cases name <;> rfl

theorem closeTag_eq_follow (name : Option TagName) (walk : Walk) :
    walk.closeTag name = follow (closingSteps name) walk := by
  rcases name with _ | name
  · rfl
  · cases name <;> rfl

theorem visitExport_eq_follow (specifier : ExportSpecifier) (walk : Walk) :
    walk.visitExport specifier = follow specifier.steps walk := by
  rw [visitExport, ExportSpecifier.steps]
  split <;> split <;> rfl

mutual

/-- Visiting a node is following its steps. -/
theorem visit_eq_follow : ∀ (node : Node) (walk : Walk), visit node walk = follow node.steps walk
  | .reference _, _ => rfl
  | .typeReference _ arguments, _ => by
      simp [visit, Node.steps, Step.take, visitAll_eq_follow arguments]
  | .typeParameter _ bounds, walk => visitAll_eq_follow bounds walk
  | .group _ parts, walk => visitAll_eq_follow parts walk
  | .parenthesized inner, walk => visit_eq_follow inner walk
  | .property key value, _ => by
      simp [visit, Node.steps, markValue_eq_follow, visit_eq_follow key, visit_eq_follow value]
  | .shorthand _, _ => rfl
  | .shorthandDefault _ value, _ => by
      simp [visit, Node.steps, Step.take, visit_eq_follow value]
  | .targetShorthand _, _ => rfl
  | .block _ parts, _ => by
      simp [visit, Node.steps, visitAll_eq_follow parts]
  | .staticBlock body, _ => by
      simp [visit, Node.steps, visitAll_eq_follow body]
  | .variables _ declarators, _ => by
      simp [visit, Node.steps, declareVariables_eq_follow, visitDeclarators_eq_follow declarators]
  | .function _ _ typeParameters receiver parameters result body, _ => by
      simp [visit, Node.steps, nameFunction_eq_follow, holdAll_eq_follow,
        visitAll_eq_follow typeParameters, visitOption_eq_follow receiver,
        visitParameters_eq_follow parameters, visitOption_eq_follow result,
        visitAll_eq_follow body]
  | .signature head parameters result, _ => by
      simp [visit, Node.steps, visitAll_eq_follow head,
        visitParameters_eq_follow parameters, visitOption_eq_follow result]
  | .classNode _ decorators _ inside, _ => by
      simp [visit, Node.steps, nameClass_eq_follow, visitAll_eq_follow decorators,
        visitAll_eq_follow inside]
  | .catchClause parameter body, _ => by
      simp [visit, Node.steps, holdAll_eq_follow, visitParameter_eq_follow parameter,
        visit_eq_follow body]
  | .enumeration _ members, _ => by
      simp [visit, Node.steps, Step.take, visitAll_eq_follow members]
  | .enumMember _ value, walk => visitOption_eq_follow value walk
  | .namespaceBlock name body, _ => by
      cases name <;> simp [visit, Node.steps, Step.take, visitAll_eq_follow body]
  | .interface _ inside, _ => by
      simp [visit, Node.steps, Step.take, visitAll_eq_follow inside]
  | .typeAlias _ inside, _ => by
      simp [visit, Node.steps, Step.take, visitAll_eq_follow inside]
  | .importing declaration, walk => by
      simp [visit, Node.steps, declareAll_eq_follow, Function.comp_def]
  | .importEquals _ target, walk => visitAll_eq_follow target walk
  | .exportSpecifier specifier, walk => visitExport_eq_follow specifier walk
  | .element _ typeArguments _ attributes children _, _ => by
      simp [visit, Node.steps, openTag_eq_follow, closeTag_eq_follow,
        visitAll_eq_follow typeArguments, visitAll_eq_follow attributes,
        visitAll_eq_follow children]

theorem visitAll_eq_follow :
    ∀ (nodes : List Node) (walk : Walk), visitAll nodes walk = follow (Node.stepsOfAll nodes) walk
  | [], _ => rfl
  | node :: rest, _ => by
      simp [visitAll, Node.stepsOfAll, visit_eq_follow node, visitAll_eq_follow rest]

theorem visitOption_eq_follow :
    ∀ (node : Option Node) (walk : Walk),
      visitOption node walk = follow (Node.stepsOfOption node) walk
  | none, _ => rfl
  | some node, walk => visit_eq_follow node walk

theorem visitPattern_eq_follow :
    ∀ (pattern : Pattern) (walk : Walk), visitPattern pattern walk = follow pattern.steps walk
  | .name _, _ => rfl
  | .object properties, walk => visitPatterns_eq_follow properties walk
  | .array elements, walk => visitPatterns_eq_follow elements walk
  | .hole, _ => rfl
  | .keyed key value, _ => by
      simp [visitPattern, Pattern.steps, visit_eq_follow key, visitPattern_eq_follow value]
  | .withDefault target value, _ => by
      simp [visitPattern, Pattern.steps, visitPattern_eq_follow target, visit_eq_follow value]
  | .rest target, walk => visitPattern_eq_follow target walk

theorem visitPatterns_eq_follow :
    ∀ (patterns : List Pattern) (walk : Walk),
      visitPatterns patterns walk = follow (Pattern.stepsOfAll patterns) walk
  | [], _ => rfl
  | pattern :: rest, _ => by
      simp [visitPatterns, Pattern.stepsOfAll, visitPattern_eq_follow pattern,
        visitPatterns_eq_follow rest]

theorem visitParameter_eq_follow :
    ∀ (parameter : Parameter) (walk : Walk),
      visitParameter parameter walk = follow parameter.steps walk
  | .mk decorators pattern ascription default, _ => by
      simp [visitParameter, Parameter.steps, visitAll_eq_follow decorators,
        visitPattern_eq_follow pattern, visitOption_eq_follow ascription,
        visitOption_eq_follow default]

theorem visitParameters_eq_follow :
    ∀ (parameters : List Parameter) (walk : Walk),
      visitParameters parameters walk = follow (Parameter.stepsOfAll parameters) walk
  | [], _ => rfl
  | parameter :: rest, _ => by
      simp [visitParameters, Parameter.stepsOfAll, visitParameter_eq_follow parameter,
        visitParameters_eq_follow rest]

theorem visitDeclarator_eq_follow :
    ∀ (declarator : Declarator) (walk : Walk),
      visitDeclarator declarator walk = follow declarator.steps walk
  | .mk pattern ascription initializer, _ => by
      simp [visitDeclarator, Declarator.steps, visitPattern_eq_follow pattern,
        visitOption_eq_follow ascription, visitOption_eq_follow initializer]

theorem visitDeclarators_eq_follow :
    ∀ (declarators : List Declarator) (walk : Walk),
      visitDeclarators declarators walk = follow (Declarator.stepsOfAll declarators) walk
  | [], _ => rfl
  | declarator :: rest, _ => by
      simp [visitDeclarators, Declarator.stepsOfAll, visitDeclarator_eq_follow declarator,
        visitDeclarators_eq_follow rest]

end

theorem visitProgram_eq_follow (program : Program) (walk : Walk) :
    walk.visitProgram program = follow program.steps walk := by
  simp [visitProgram, Program.steps, visitAll_eq_follow]

end Walk
end IconSize
