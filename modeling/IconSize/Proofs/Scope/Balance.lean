import IconSize.Proofs.Scope.Steps

/-!
The steps of a node leave every scope that they enter. So the walk stands in the same scope after a
node as before it, and what is kept by single steps and by whole scopes is kept by nodes.
-/

namespace IconSize
open Syntax

namespace Walk

/-- Is the step neither one into a scope nor one out of a scope? -/
def Step.isPlain : Step → Bool
  | .enter _ => false
  | .leave => false
  | _ => true

/-- Steps that leave every scope that they enter, and no other. -/
inductive Balanced : List Step → Prop
  | nil : Balanced []
  | plain (step : Step) (isPlain : step.isPlain = true) : Balanced [step]
  | append {first second : List Step} :
      Balanced first → Balanced second → Balanced (first ++ second)
  | scope (kind : ScopeKind) {inside : List Step} :
      Balanced inside → Balanced (scopeSteps kind inside)

namespace Balanced

theorem of_forall_isPlain {steps : List Step} (plain : ∀ step ∈ steps, step.isPlain = true) :
    Balanced steps := by
  induction steps with
  | nil => exact .nil
  | cons step steps induction =>
      have first : Balanced [step] := .plain step (plain step List.mem_cons_self)
      exact first.append (induction fun later member => plain later (List.mem_cons_of_mem _ member))

theorem cons {step : Step} {steps : List Step} (isPlain : step.isPlain = true)
    (balanced : Balanced steps) : Balanced (step :: steps) :=
  (Balanced.plain step isPlain).append balanced

/-- The stack is after balanced steps what it was before them. -/
theorem stack_follow {steps : List Step} (balanced : Balanced steps) (walk : Walk) :
    (follow steps walk).stack = walk.stack := by
  induction balanced generalizing walk with
  | nil => rfl
  | plain step isPlain =>
      cases step with
      | enter kind => simp [Step.isPlain] at isPlain
      | leave => simp [Step.isPlain] at isPlain
      | declare name =>
          simp only [follow_cons, follow_nil, Step.take, declare]
          split <;> rfl
      | declareVar name =>
          simp only [follow_cons, follow_nil, Step.take, declareVar]
          split <;> rfl
      | declareType name =>
          simp only [follow_cons, follow_nil, Step.take, declareType]
          split <;> rfl
      | _ => rfl
  | append _ _ first second =>
      rw [follow_append, second, first]
  | scope kind _ induction =>
      rw [follow_scopeSteps]
      simp [leave, induction, enter]

end Balanced
end Walk

/-! ## The steps of a tree are balanced -/

namespace Syntax
open Walk (Balanced)

theorem balanced_functionNameSteps (role : FunctionRole) (name : Option Identifier) :
    Balanced (functionNameSteps role name) := by
  apply Balanced.of_forall_isPlain
  cases role <;> cases name <;> simp [functionNameSteps, Walk.Step.isPlain]

theorem balanced_classNameSteps (role : ClassRole) (name : Option Identifier) :
    Balanced (classNameSteps role name) := by
  apply Balanced.of_forall_isPlain
  cases role <;> cases name <;> simp [classNameSteps, Walk.Step.isPlain]

theorem balanced_holds (names : List String) :
    Balanced (names.map Walk.Step.hold) :=
  .of_forall_isPlain (by simp [Walk.Step.isPlain])

theorem balanced_variableSteps (kind : VariableKind) (names : List String) :
    Balanced (variableSteps kind names) := by
  apply Balanced.of_forall_isPlain
  cases kind <;> simp [variableSteps, Walk.Step.isPlain]

theorem balanced_valueSteps (value : Node) : Balanced (valueSteps value) := by
  apply Balanced.of_forall_isPlain
  unfold valueSteps
  split <;> simp [Walk.Step.isPlain]

theorem balanced_openingSteps (attributesAt : Nat) (name : TagName) :
    Balanced (openingSteps attributesAt name) := by
  apply Balanced.of_forall_isPlain
  cases name <;> simp [openingSteps, Walk.Step.isPlain]

theorem balanced_closingSteps (name : Option TagName) : Balanced (closingSteps name) := by
  apply Balanced.of_forall_isPlain
  rcases name with _ | name
  · simp [closingSteps]
  · cases name <;> simp [closingSteps, Walk.Step.isPlain]

theorem ExportSpecifier.balanced_steps (specifier : ExportSpecifier) :
    Balanced specifier.steps := by
  apply Balanced.of_forall_isPlain
  unfold ExportSpecifier.steps
  split <;> split <;> simp [Walk.Step.isPlain]

mutual

/-- The steps of a node leave every scope that they enter. -/
theorem Node.balanced_steps : ∀ node : Node, Balanced node.steps
  | .reference _ => .plain _ rfl
  | .typeReference _ arguments => .cons rfl (Node.balanced_stepsOfAll arguments)
  | .typeParameter _ bounds => Node.balanced_stepsOfAll bounds
  | .group _ parts => Node.balanced_stepsOfAll parts
  | .parenthesized inner => inner.balanced_steps
  | .property key value =>
      ((balanced_valueSteps value).append key.balanced_steps).append value.balanced_steps
  | .shorthand _ => .cons rfl (.plain _ rfl)
  | .shorthandDefault _ value => .cons rfl (.cons rfl value.balanced_steps)
  | .targetShorthand _ => .plain _ rfl
  | .block _ parts => .scope _ (Node.balanced_stepsOfAll parts)
  | .staticBlock body => .scope _ (Node.balanced_stepsOfAll body)
  | .variables kind declarators =>
      (balanced_variableSteps kind _).append (Declarator.balanced_stepsOfAll declarators)
  | .function role name typeParameters receiver parameters result body =>
      ((balanced_functionNameSteps role name).append (balanced_holds _)).append
        (.scope _ (((((Node.balanced_stepsOfAll typeParameters).append
          (Node.balanced_stepsOfOption receiver)).append
          (Parameter.balanced_stepsOfAll parameters)).append
          (Node.balanced_stepsOfOption result)).append (Node.balanced_stepsOfAll body)))
  | .signature head parameters result =>
      .scope _ (((Node.balanced_stepsOfAll head).append
        (Parameter.balanced_stepsOfAll parameters)).append (Node.balanced_stepsOfOption result))
  | .classNode role decorators name inside =>
      ((balanced_classNameSteps role name).append (Node.balanced_stepsOfAll decorators)).append
        (.scope _ (Node.balanced_stepsOfAll inside))
  | .catchClause parameter body =>
      (balanced_holds _).append (.scope _ (parameter.balanced_steps.append body.balanced_steps))
  | .enumeration _ members => .cons rfl (.scope _ (Node.balanced_stepsOfAll members))
  | .enumMember _ value => Node.balanced_stepsOfOption value
  | .namespaceBlock name body => by
      have named : Balanced (name.map fun name => Walk.Step.declare name.name).toList := by
        cases name <;> exact .of_forall_isPlain (by simp [Walk.Step.isPlain])
      exact named.append (.scope _ (Node.balanced_stepsOfAll body))
  | .interface _ inside => .cons rfl (.scope _ (Node.balanced_stepsOfAll inside))
  | .typeAlias _ inside => .cons rfl (.scope _ (Node.balanced_stepsOfAll inside))
  | .importing _ => .of_forall_isPlain (by simp [Node.steps, Walk.Step.isPlain])
  | .importEquals _ target => Node.balanced_stepsOfAll target
  | .exportSpecifier specifier => specifier.balanced_steps
  | .element name typeArguments attributesAt attributes children closing =>
      ((((balanced_openingSteps attributesAt name).append
        (Node.balanced_stepsOfAll typeArguments)).append
        (Node.balanced_stepsOfAll attributes)).append
        (Node.balanced_stepsOfAll children)).append (balanced_closingSteps closing)

theorem Node.balanced_stepsOfAll : ∀ nodes : List Node, Balanced (Node.stepsOfAll nodes)
  | [] => .nil
  | node :: rest => node.balanced_steps.append (Node.balanced_stepsOfAll rest)

theorem Node.balanced_stepsOfOption :
    ∀ node : Option Node, Balanced (Node.stepsOfOption node)
  | none => .nil
  | some node => node.balanced_steps

theorem Pattern.balanced_steps : ∀ pattern : Pattern, Balanced pattern.steps
  | .name _ => .nil
  | .object properties => Pattern.balanced_stepsOfAll properties
  | .array elements => Pattern.balanced_stepsOfAll elements
  | .hole => .nil
  | .keyed key value => key.balanced_steps.append value.balanced_steps
  | .withDefault target value => target.balanced_steps.append value.balanced_steps
  | .rest target => target.balanced_steps

theorem Pattern.balanced_stepsOfAll :
    ∀ patterns : List Pattern, Balanced (Pattern.stepsOfAll patterns)
  | [] => .nil
  | pattern :: rest => pattern.balanced_steps.append (Pattern.balanced_stepsOfAll rest)

theorem Parameter.balanced_steps : ∀ parameter : Parameter, Balanced parameter.steps
  | .mk decorators pattern ascription default =>
      (((Node.balanced_stepsOfAll decorators).append pattern.balanced_steps).append
        (Node.balanced_stepsOfOption ascription)).append (Node.balanced_stepsOfOption default)

theorem Parameter.balanced_stepsOfAll :
    ∀ parameters : List Parameter, Balanced (Parameter.stepsOfAll parameters)
  | [] => .nil
  | parameter :: rest => parameter.balanced_steps.append (Parameter.balanced_stepsOfAll rest)

theorem Declarator.balanced_steps : ∀ declarator : Declarator, Balanced declarator.steps
  | .mk pattern ascription initializer =>
      (pattern.balanced_steps.append (Node.balanced_stepsOfOption ascription)).append
        (Node.balanced_stepsOfOption initializer)

theorem Declarator.balanced_stepsOfAll :
    ∀ declarators : List Declarator, Balanced (Declarator.stepsOfAll declarators)
  | [] => .nil
  | declarator :: rest => declarator.balanced_steps.append (Declarator.balanced_stepsOfAll rest)

end

end Syntax
end IconSize
