import IconSize.Proofs.Scope.RenamedWalk
import IconSize.Proofs.Scope.Structure

/-!
The steps of the walk as steps through items. Marks of usages apart, the walk through a node takes
the steps of its items, and those that bind nothing in the scope table take none.
-/

namespace IconSize
open Syntax
open Walk (Step)

/-! ## The steps of items -/

def Binder.steps (binder : Binder) : List Step :=
  match binder.form with
  | .var => [.declareVar binder.name]
  | .interface | .typeAlias => [.declareType binder.name]
  | .importAlias | .signatureParameter | .enumMember | .typeParameter => []
  | _ => [.declare binder.name]

/-- The steps that hold names for the next scope. -/
def Binder.holdSteps (binders : List Binder) : List Step :=
  binders.map fun binder => .hold binder.name

theorem Binder.holdSteps_map (form : BinderForm) (names : List String) :
    Binder.holdSteps (names.map (⟨form, ·⟩)) = names.map .hold := by
  simp [Binder.holdSteps]

def referenceSteps (name : Identifier) : Namespace → List Step
  | .value => [.refer name]
  | .type => [.referType name]

namespace ScopeItem

mutual

def steps : ScopeItem → List Step
  | binder found => found.steps
  | reference name space => referenceSteps name space
  | scope kind own before inside =>
    Binder.holdSteps own ++ stepsOfAll before ++ scopeSteps kind (stepsOfAll inside)

def stepsOfAll : List ScopeItem → List Step
  | [] => []
  | item :: items => item.steps ++ stepsOfAll items

end

@[simp] theorem stepsOfAll_append (front back : List ScopeItem) :
    stepsOfAll (front ++ back) = stepsOfAll front ++ stepsOfAll back := by
  induction front with
  | nil => rfl
  | cons item front induction => simp [stepsOfAll, induction]

theorem stepsOfAll_binders (form : BinderForm) (names : List String) :
    stepsOfAll (names.map fun name => .binder ⟨form, name⟩) =
      names.flatMap fun name => (Binder.mk form name).steps := by
  induction names with
  | nil => rfl
  | cons name names induction => simp [stepsOfAll, steps, induction]

end ScopeItem

/-! ## Leaving out the marks -/

namespace Walk

/-- The step without its mark of a usage; a step that only leaves such a mark is left out. -/
def Step.unmarked : Step → Option Step
  | .markValue _ _ => none
  | .markExport _ => none
  | .openTag _ name => some (.refer name)
  | step => some step

/-- The walk without what it knows about usages. -/
def unmarked (walk : Walk) : Walk :=
  { walk with usages := [], references := walk.references.map Reference.erased }

theorem unmarked_refer (name : Identifier) (walk : Walk) :
    (walk.refer name).unmarked = walk.unmarked.refer name := by
  simp [unmarked, refer, Reference.erased, current]

theorem unmarked_take (step : Step) (walk : Walk) :
    (step.take walk).unmarked = follow step.unmarked.toList walk.unmarked := by
  cases step with
  | declare name =>
      simp only [Step.unmarked, Option.toList, follow_cons, follow_nil, Step.take, declare]
      rw [show walk.unmarked.current = walk.current from rfl]
      split <;> rfl
  | declareVar name =>
      simp only [Step.unmarked, Option.toList, follow_cons, follow_nil, Step.take, declareVar]
      rw [show walk.unmarked.hoistingScope = walk.hoistingScope from rfl]
      split <;> rfl
  | declareType name =>
      simp only [Step.unmarked, Option.toList, follow_cons, follow_nil, Step.take, declareType]
      rw [show walk.unmarked.current = walk.current from rfl]
      split <;> rfl
  | refer name => exact unmarked_refer name walk
  | referType name => exact unmarked_refer name (walk.markType name.span)
  | openTag attributesAt name => exact unmarked_refer name (walk.mark name.span (.tag attributesAt))
  | _ => rfl

/-- What the walk finds, usages apart, does not depend on the marks. -/
theorem unmarked_follow (steps : List Step) (walk : Walk) :
    (follow steps walk).unmarked = follow (steps.filterMap Step.unmarked) walk.unmarked := by
  induction steps generalizing walk with
  | nil => rfl
  | cons step steps induction =>
      rw [follow_cons, induction, unmarked_take]
      cases unmarked : step.unmarked with
      | none => rw [List.filterMap_cons_none unmarked]; rfl
      | some taken => rw [List.filterMap_cons_some unmarked]; rfl

end Walk

/-! ## The steps of a tree -/

namespace Syntax
open ScopeItem (stepsOfAll)

@[simp] theorem unmarked_scopeSteps (kind : ScopeKind) (inside : List Step) :
    (scopeSteps kind inside).filterMap Step.unmarked =
      scopeSteps kind (inside.filterMap Step.unmarked) := by
  simp [scopeSteps, Step.unmarked]

theorem unmarked_holds (names : List String) :
    (names.map Step.hold).filterMap Step.unmarked = names.map Step.hold := by
  rw [List.filterMap_map]
  exact congrFun (List.filterMap_eq_map (f := Step.hold)) names

/-- The names of a function are declared around it or held for it. -/
theorem unmarked_functionNameSteps (role : FunctionRole) (name : Option Identifier)
    (parameters : List Parameter) :
    (functionNameSteps role name ++ (Parameter.boundNames parameters).map Step.hold).filterMap
        Step.unmarked =
      stepsOfAll (role.declared name) ++ Binder.holdSteps (role.own name parameters) := by
  rw [List.filterMap_append, unmarked_holds]
  cases role <;> cases name <;>
    simp [functionNameSteps, FunctionRole.declared, FunctionRole.own, Binder.holdSteps,
      Step.unmarked, stepsOfAll, ScopeItem.steps, Binder.steps]

/-- The name of a class is declared around it or held for it. -/
theorem unmarked_classNameSteps (role : ClassRole) (name : Option Identifier) :
    (classNameSteps role name).filterMap Step.unmarked =
      stepsOfAll (role.declared name) ++ Binder.holdSteps (role.own name) := by
  cases role <;> cases name <;> rfl

theorem unmarked_variableSteps (kind : VariableKind) (names : List String) :
    (variableSteps kind names).filterMap Step.unmarked =
      stepsOfAll (names.map fun name => .binder ⟨kind.form, name⟩) := by
  rw [ScopeItem.stepsOfAll_binders]
  cases kind <;>
    simp [variableSteps, VariableKind.form, Binder.steps, Step.unmarked, List.filterMap_map,
      Function.comp_def, ← List.map_eq_flatMap]

@[simp] theorem unmarked_valueSteps (value : Node) :
    (valueSteps value).filterMap Step.unmarked = [] := by
  unfold valueSteps
  split <;> rfl

@[simp] theorem unmarked_openingSteps (attributesAt : Nat) (name : TagName) :
    (openingSteps attributesAt name).filterMap Step.unmarked = stepsOfAll name.scopeItems := by
  cases name <;> rfl

@[simp] theorem unmarked_closingSteps (name : Option TagName) :
    (closingSteps name).filterMap Step.unmarked =
      stepsOfAll (TagName.scopeItemsOption name) := by
  rcases name with _ | name
  · rfl
  · cases name <;> rfl

@[simp] theorem ExportSpecifier.unmarked_steps (specifier : ExportSpecifier) :
    specifier.steps.filterMap Step.unmarked = stepsOfAll specifier.scopeItems := by
  rw [ExportSpecifier.steps, ExportSpecifier.scopeItems]
  split <;> split <;> rfl

/-- Parameters of signatures are passed over. -/
theorem stepsOfAll_signatureParameters (names : List String) :
    stepsOfAll (names.map fun name => .binder ⟨.signatureParameter, name⟩) = [] := by
  rw [ScopeItem.stepsOfAll_binders]
  simp [Binder.steps]

theorem stepsOfAll_imports (clauses : List ImportClause) :
    stepsOfAll (clauses.map fun clause => .binder ⟨.imported, clause.bound.name⟩) =
      clauses.map fun clause => Step.declare clause.bound.name := by
  induction clauses with
  | nil => rfl
  | cons clause clauses induction =>
      simp [stepsOfAll, ScopeItem.steps, Binder.steps, induction]

mutual

/-- Marks apart, the steps of a node are those of its items. -/
theorem Node.unmarked_steps :
    ∀ node : Node, node.steps.filterMap Step.unmarked = stepsOfAll node.scopeItems
  | .reference _ => rfl
  | .typeReference _ arguments => by
      simp [Node.steps, Node.scopeItems, stepsOfAll, ScopeItem.steps, referenceSteps,
        Step.unmarked, Node.unmarked_stepsOfAll arguments]
  | .typeParameter _ bounds => Node.unmarked_stepsOfAll bounds
  | .group _ parts => Node.unmarked_stepsOfAll parts
  | .parenthesized inner => inner.unmarked_steps
  | .property key value => by
      simp [Node.steps, Node.scopeItems, key.unmarked_steps, value.unmarked_steps]
  | .shorthand _ => rfl
  | .shorthandDefault name value => congrArg (Step.refer name :: ·) value.unmarked_steps
  | .targetShorthand _ => rfl
  | .block _ parts => by
      simp [Node.steps, Node.scopeItems, stepsOfAll, ScopeItem.steps, Binder.holdSteps,
        Node.unmarked_stepsOfAll parts]
  | .staticBlock body => by
      simp [Node.steps, Node.scopeItems, stepsOfAll, ScopeItem.steps, Binder.holdSteps,
        Node.unmarked_stepsOfAll body]
  | .variables _ declarators => by
      simp [Node.steps, Node.scopeItems, unmarked_variableSteps,
        Declarator.unmarked_stepsOfAll declarators]
  | .function _ _ typeParameters receiver parameters result body => by
      rw [Node.steps, List.filterMap_append, unmarked_functionNameSteps]
      simp [Node.scopeItems, stepsOfAll, ScopeItem.steps, Node.unmarked_stepsOfAll typeParameters,
        Node.unmarked_stepsOfOption receiver, Parameter.unmarked_stepsOfAll parameters,
        Node.unmarked_stepsOfOption result, Node.unmarked_stepsOfAll body]
  | .signature head parameters result => by
      simp [Node.steps, Node.scopeItems, stepsOfAll, ScopeItem.steps, Binder.holdSteps,
        stepsOfAll_signatureParameters, Node.unmarked_stepsOfAll head,
        Parameter.unmarked_stepsOfAll parameters, Node.unmarked_stepsOfOption result]
  | .classNode _ decorators _ inside => by
      simp [Node.steps, Node.scopeItems, stepsOfAll, ScopeItem.steps, unmarked_classNameSteps,
        Node.unmarked_stepsOfAll decorators, Node.unmarked_stepsOfAll inside]
  | .catchClause parameter body => by
      rw [Node.steps, List.filterMap_append, unmarked_holds]
      simp [Node.scopeItems, stepsOfAll, ScopeItem.steps, Binder.holdSteps_map,
        parameter.unmarked_steps, body.unmarked_steps]
  | .enumeration _ members => by
      simp [Node.steps, Node.scopeItems, stepsOfAll, ScopeItem.steps, Binder.holdSteps,
        Binder.steps, Step.unmarked, Node.unmarked_stepsOfAll members]
  | .enumMember _ value => Node.unmarked_stepsOfOption value
  | .namespaceBlock name body => by
      cases name <;>
        simp [Node.steps, Node.scopeItems, stepsOfAll, ScopeItem.steps, Binder.holdSteps,
          Binder.steps, Step.unmarked, Node.unmarked_stepsOfAll body]
  | .interface _ inside => by
      simp [Node.steps, Node.scopeItems, stepsOfAll, ScopeItem.steps, Binder.holdSteps,
        Binder.steps, Step.unmarked, Node.unmarked_stepsOfAll inside]
  | .typeAlias _ inside => by
      simp [Node.steps, Node.scopeItems, stepsOfAll, ScopeItem.steps, Binder.holdSteps,
        Binder.steps, Step.unmarked, Node.unmarked_stepsOfAll inside]
  | .importing declaration => by
      simp [Node.steps, Node.scopeItems, stepsOfAll_imports, List.filterMap_map,
        Function.comp_def, Step.unmarked]
  | .importEquals _ target => Node.unmarked_stepsOfAll target
  | .exportSpecifier specifier => specifier.unmarked_steps
  | .element _ typeArguments _ attributes children _ => by
      simp [Node.steps, Node.scopeItems, Node.unmarked_stepsOfAll typeArguments,
        Node.unmarked_stepsOfAll attributes, Node.unmarked_stepsOfAll children]

theorem Node.unmarked_stepsOfAll :
    ∀ nodes : List Node,
      (Node.stepsOfAll nodes).filterMap Step.unmarked = stepsOfAll (Node.scopeItemsAll nodes)
  | [] => rfl
  | node :: rest => by
      simp [Node.stepsOfAll, Node.scopeItemsAll, node.unmarked_steps,
        Node.unmarked_stepsOfAll rest]

theorem Node.unmarked_stepsOfOption :
    ∀ node : Option Node,
      (Node.stepsOfOption node).filterMap Step.unmarked = stepsOfAll (Node.scopeItemsOption node)
  | none => rfl
  | some node => node.unmarked_steps

theorem Pattern.unmarked_steps :
    ∀ pattern : Pattern, pattern.steps.filterMap Step.unmarked = stepsOfAll pattern.scopeItems
  | .name _ => rfl
  | .object properties => Pattern.unmarked_stepsOfAll properties
  | .array elements => Pattern.unmarked_stepsOfAll elements
  | .hole => rfl
  | .keyed key value => by
      simp [Pattern.steps, Pattern.scopeItems, key.unmarked_steps, value.unmarked_steps]
  | .withDefault target value => by
      simp [Pattern.steps, Pattern.scopeItems, target.unmarked_steps, value.unmarked_steps]
  | .rest target => target.unmarked_steps

theorem Pattern.unmarked_stepsOfAll :
    ∀ patterns : List Pattern,
      (Pattern.stepsOfAll patterns).filterMap Step.unmarked =
        stepsOfAll (Pattern.scopeItemsAll patterns)
  | [] => rfl
  | pattern :: rest => by
      simp [Pattern.stepsOfAll, Pattern.scopeItemsAll, pattern.unmarked_steps,
        Pattern.unmarked_stepsOfAll rest]

theorem Parameter.unmarked_steps :
    ∀ parameter : Parameter,
      parameter.steps.filterMap Step.unmarked = stepsOfAll parameter.scopeItems
  | .mk decorators pattern ascription default => by
      simp [Parameter.steps, Parameter.scopeItems, Node.unmarked_stepsOfAll decorators,
        pattern.unmarked_steps, Node.unmarked_stepsOfOption ascription,
        Node.unmarked_stepsOfOption default]

theorem Parameter.unmarked_stepsOfAll :
    ∀ parameters : List Parameter,
      (Parameter.stepsOfAll parameters).filterMap Step.unmarked =
        stepsOfAll (Parameter.scopeItemsAll parameters)
  | [] => rfl
  | parameter :: rest => by
      simp [Parameter.stepsOfAll, Parameter.scopeItemsAll, parameter.unmarked_steps,
        Parameter.unmarked_stepsOfAll rest]

theorem Declarator.unmarked_steps :
    ∀ declarator : Declarator,
      declarator.steps.filterMap Step.unmarked = stepsOfAll declarator.scopeItems
  | .mk pattern ascription initializer => by
      simp [Declarator.steps, Declarator.scopeItems, pattern.unmarked_steps,
        Node.unmarked_stepsOfOption ascription, Node.unmarked_stepsOfOption initializer]

theorem Declarator.unmarked_stepsOfAll :
    ∀ declarators : List Declarator,
      (Declarator.stepsOfAll declarators).filterMap Step.unmarked =
        stepsOfAll (Declarator.scopeItemsAll declarators)
  | [] => rfl
  | declarator :: rest => by
      simp [Declarator.stepsOfAll, Declarator.scopeItemsAll, declarator.unmarked_steps,
        Declarator.unmarked_stepsOfAll rest]

end

end Syntax

/-- Usages apart, the walk through a module follows the steps of its items. -/
theorem Walk.unmarked_visitProgram (program : Program) :
    (Walk.start.visitProgram program).unmarked =
      follow (scopeSteps .module (ScopeItem.stepsOfAll program.scopeItems)) Walk.start := by
  rw [visitProgram_eq_follow, unmarked_follow, Program.steps, unmarked_scopeSteps,
    Node.unmarked_stepsOfAll]
  simp [unmarked, start, Program.scopeItems]

end IconSize
