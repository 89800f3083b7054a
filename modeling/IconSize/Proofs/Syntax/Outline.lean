import IconSize.Proofs.Edits.Splicing
import IconSize.Proofs.Scope.Steps
import IconSize.Transform

/-!
Where the names of a tree stand. The outline of a node keeps its shape and the spans of the
identifiers that refer to something, and, aside from these, those of the names that belong to other
modules. An outline fits a source if the span of each node lies in the span of the node around it
and siblings do not overlap; then no two names of the tree overlap, and no place for attributes lies
inside a name.
-/

namespace IconSize.Syntax
open Walk (Step)

/-- The shape of a node. -/
inductive Outline where
  /-- A name. -/
  | leaf (span : Span)
  /-- Something that takes no part in what the module itself says: an import, or a name in an export
  list of another module. -/
  | aside (span : Span)
  /-- A node with others inside it. -/
  | parts (inside : List Outline)
  /-- The beginning of an opening tag: its name and its type arguments, up to the offset where the
  attributes begin. -/
  | head (name : Span) (arguments : List Outline) (stop : Nat)

namespace Outline

mutual

/-- The spans of the names, and the places where an attribute can be put in. -/
def stretches : Outline → List Span
  | leaf span => [span]
  | aside _ => []
  | parts inside => stretchesOfAll inside
  | head name arguments stop => name :: ⟨stop, stop⟩ :: stretchesOfAll arguments

def stretchesOfAll : List Outline → List Span
  | [] => []
  | outline :: others => outline.stretches ++ stretchesOfAll others

end

/-- The spans do not overlap, and all of them lie in the outer one. -/
def Nested (spans : List Span) (outer : Span) : Prop :=
  spans.Pairwise Span.Apart ∧ ∀ span ∈ spans, outer.start ≤ span.start ∧ span.stop ≤ outer.stop

instance (spans : List Span) (outer : Span) : Decidable (Nested spans outer) :=
  inferInstanceAs (Decidable (_ ∧ _))

mutual

/-- The node can have this span in the source. -/
def Fits (source : List Char) : Outline → Span → Prop
  | leaf span, outer => outer = span ∧ span.LiesIn source
  | aside _, _ => True
  | parts inside, outer => ∃ spans, FitAll source inside spans ∧ Nested spans outer
  | head name arguments stop, outer =>
    outer.LiesIn source ∧ outer.stop = stop ∧ name.LiesIn source ∧
      ∃ spans, FitAll source arguments spans ∧ Nested (name :: spans) outer

/-- The nodes can have these spans, one by one. -/
def FitAll (source : List Char) : List Outline → List Span → Prop
  | [], spans => spans = []
  | outline :: others, spans =>
    ∃ first later, spans = first :: later ∧ outline.Fits source first ∧ FitAll source others later

end

/-! ## Stretches of a fitting outline -/

mutual

theorem stretches_within {source : List Char} :
    ∀ {outline : Outline} {outer : Span}, outline.Fits source outer →
      ∀ stretch ∈ outline.stretches,
        stretch.LiesIn source ∧ outer.start ≤ stretch.start ∧ stretch.stop ≤ outer.stop
  | .leaf span, outer, fits, stretch, member => by
      rcases fits with ⟨rfl, lies⟩
      rcases List.mem_singleton.mp member with rfl
      exact ⟨lies, Nat.le_refl _, Nat.le_refl _⟩
  | .aside _, _, _, _, member => by cases member
  | .parts inside, outer, fits, stretch, member => by
      rcases fits with ⟨spans, fit, _, within⟩
      rcases stretches_within_all fit stretch member with ⟨span, inSpans, lies, inSpan⟩
      have := within span inSpans
      exact ⟨lies, by omega, by omega⟩
  | .head name arguments stop, outer, fits, stretch, member => by
      rcases fits with ⟨outerLies, rfl, nameLies, spans, fit, _, within⟩
      have ordered := outerLies.ordered
      rcases List.mem_cons.mp member with rfl | member
      · exact ⟨nameLies, within stretch List.mem_cons_self⟩
      rcases List.mem_cons.mp member with rfl | member
      · exact ⟨⟨Nat.le_refl _, outerLies.stop, outerLies.stop⟩, ordered, Nat.le_refl _⟩
      · rcases stretches_within_all fit stretch member with ⟨span, inSpans, lies, inSpan⟩
        have := within span (List.mem_cons_of_mem name inSpans)
        exact ⟨lies, by omega, by omega⟩

theorem stretches_within_all {source : List Char} :
    ∀ {outlines : List Outline} {spans : List Span}, FitAll source outlines spans →
      ∀ stretch ∈ stretchesOfAll outlines, ∃ span ∈ spans,
        stretch.LiesIn source ∧ span.start ≤ stretch.start ∧ stretch.stop ≤ span.stop
  | [], _, _, _, member => by cases member
  | outline :: others, _, fit, stretch, member => by
      rcases fit with ⟨first, later, rfl, fits, fit⟩
      rcases List.mem_append.mp member with member | member
      · exact ⟨first, List.mem_cons_self, stretches_within fits stretch member⟩
      · rcases stretches_within_all fit stretch member with ⟨span, inLater, holds⟩
        exact ⟨span, List.mem_cons_of_mem first inLater, holds⟩

end

mutual

/-- The stretches of a fitting outline do not overlap. -/
theorem pairwise_stretches {source : List Char} :
    ∀ {outline : Outline} {outer : Span}, outline.Fits source outer →
      outline.stretches.Pairwise Span.Apart
  | .leaf span, _, _ => List.pairwise_singleton Span.Apart span
  | .aside _, _, _ => .nil
  | .parts inside, _, fits => by
      rcases fits with ⟨spans, fit, apart, _⟩
      exact pairwise_stretchesOfAll fit apart
  | .head name arguments stop, outer, fits => by
      rcases fits with ⟨_, rfl, _, spans, fit, apart, within⟩
      rcases List.pairwise_cons.mp apart with ⟨nameApart, apart⟩
      have nameWithin := within name List.mem_cons_self
      refine List.pairwise_cons.mpr ⟨?_, List.pairwise_cons.mpr ⟨?_, ?_⟩⟩
      · intro stretch member
        rcases List.mem_cons.mp member with rfl | member
        · exact .inl nameWithin.2
        · rcases stretches_within_all fit stretch member with ⟨span, inSpans, lies, inSpan⟩
          have := nameApart span inSpans
          unfold Span.Apart at this ⊢
          omega
      · intro stretch member
        rcases stretches_within_all fit stretch member with ⟨span, inSpans, lies, inSpan⟩
        have := within span (List.mem_cons_of_mem name inSpans)
        exact .inr (by show stretch.stop ≤ outer.stop; omega)
      · exact pairwise_stretchesOfAll fit apart

theorem pairwise_stretchesOfAll {source : List Char} :
    ∀ {outlines : List Outline} {spans : List Span}, FitAll source outlines spans →
      spans.Pairwise Span.Apart → (stretchesOfAll outlines).Pairwise Span.Apart
  | [], _, _, _ => .nil
  | outline :: others, _, fit, apart => by
      rcases fit with ⟨first, later, rfl, fits, fit⟩
      rcases List.pairwise_cons.mp apart with ⟨firstApart, apart⟩
      refine List.pairwise_append.mpr
        ⟨pairwise_stretches fits, pairwise_stretchesOfAll fit apart, ?_⟩
      intro left leftMember right rightMember
      rcases stretches_within fits left leftMember with ⟨_, leftWithin⟩
      rcases stretches_within_all fit right rightMember with ⟨span, inLater, _, rightWithin⟩
      have := firstApart span inLater
      unfold Span.Apart at this ⊢
      omega

end

theorem stretchesOfAll_leaves (spans : List Span) : stretchesOfAll (spans.map .leaf) = spans := by
  induction spans with
  | nil => rfl
  | cons span spans induction => simp [stretchesOfAll, stretches, induction]

@[simp] theorem stretchesOfAll_asides (spans : List Span) :
    stretchesOfAll (spans.map .aside) = [] := by
  induction spans with
  | nil => rfl
  | cons span spans induction => exact induction

end Outline

/-! ## Outlines of trees -/

/-- The spans of an import that an edit can cover: its entries and its literal. -/
def ImportDeclaration.pieces (declaration : ImportDeclaration) : List Span :=
  declaration.specifiers.map (·.span) ++ [declaration.literal]

/-- The outline of an opening tag. -/
def TagName.outline (attributesAt : Nat) (arguments : List Outline) : TagName → Outline
  | .reference name => .head name.span arguments attributesAt
  | .member object => .parts (.leaf object.span :: arguments)
  | .intrinsic => .parts arguments

/-- The outline of the name in a closing tag. -/
def TagName.closingOutline : Option TagName → List Outline
  | some (.reference name) => [.leaf name.span]
  | some (.member object) => [.leaf object.span]
  | _ => []

/-- In `export { A }` the two names share a span, and only the first of them refers to something. -/
def ExportSpecifier.outline (specifier : ExportSpecifier) : Outline :=
  if specifier.fromModule then .aside specifier.name.span else .leaf specifier.name.span

mutual

def Node.outline : Node → Outline
  | .reference name => .leaf name.span
  | .typeReference name arguments => .parts (.leaf name.span :: Node.outlineAll arguments)
  | .typeParameter _ bounds => .parts (Node.outlineAll bounds)
  | .group _ parts => .parts (Node.outlineAll parts)
  | .parenthesized inner => .parts [inner.outline]
  | .property key value => .parts [key.outline, value.outline]
  | .shorthand name => .leaf name.span
  | .shorthandDefault name value => .parts [.leaf name.span, value.outline]
  | .targetShorthand name => .leaf name.span
  | .block _ parts => .parts (Node.outlineAll parts)
  | .staticBlock body => .parts (Node.outlineAll body)
  | .variables _ declarators => .parts (Declarator.outlineAll declarators)
  | .function _ _ typeParameters receiver parameters result body =>
    .parts (Node.outlineAll typeParameters ++ Node.outlineOption receiver
      ++ Parameter.outlineAll parameters ++ Node.outlineOption result ++ Node.outlineAll body)
  | .signature head parameters result =>
    .parts (Node.outlineAll head ++ Parameter.outlineAll parameters ++ Node.outlineOption result)
  | .classNode _ decorators _ inside =>
    .parts (Node.outlineAll decorators ++ Node.outlineAll inside)
  | .catchClause parameter body => .parts [parameter.outline, body.outline]
  | .enumeration _ members => .parts (Node.outlineAll members)
  | .enumMember _ value => .parts (Node.outlineOption value)
  | .namespaceBlock _ body => .parts (Node.outlineAll body)
  | .interface _ inside => .parts (Node.outlineAll inside)
  | .typeAlias _ inside => .parts (Node.outlineAll inside)
  | .importing declaration => .parts (declaration.pieces.map .aside)
  | .importEquals _ target => .parts (Node.outlineAll target)
  | .exportSpecifier specifier => specifier.outline
  | .element name typeArguments attributesAt attributes children closing =>
    .parts (name.outline attributesAt (Node.outlineAll typeArguments)
      :: (Node.outlineAll attributes ++ Node.outlineAll children ++ TagName.closingOutline closing))

def Node.outlineAll : List Node → List Outline
  | [] => []
  | node :: others => node.outline :: Node.outlineAll others

def Node.outlineOption : Option Node → List Outline
  | none => []
  | some node => [node.outline]

def Pattern.outline : Pattern → Outline
  | .name _ => .parts []
  | .object properties => .parts (Pattern.outlineAll properties)
  | .array elements => .parts (Pattern.outlineAll elements)
  | .hole => .parts []
  | .keyed key value => .parts [key.outline, value.outline]
  | .withDefault target value => .parts [target.outline, value.outline]
  | .rest target => .parts [target.outline]

def Pattern.outlineAll : List Pattern → List Outline
  | [] => []
  | pattern :: others => pattern.outline :: Pattern.outlineAll others

def Parameter.outline : Parameter → Outline
  | .mk decorators pattern ascription default =>
    .parts (Node.outlineAll decorators ++ [pattern.outline] ++ Node.outlineOption ascription
      ++ Node.outlineOption default)

def Parameter.outlineAll : List Parameter → List Outline
  | [] => []
  | parameter :: others => parameter.outline :: Parameter.outlineAll others

def Declarator.outline : Declarator → Outline
  | .mk pattern ascription initializer =>
    .parts (pattern.outline :: (Node.outlineOption ascription ++ Node.outlineOption initializer))

def Declarator.outlineAll : List Declarator → List Outline
  | [] => []
  | declarator :: others => declarator.outline :: Declarator.outlineAll others

end

end IconSize.Syntax

namespace IconSize
open Syntax

/-- The spans that a step of the walk mentions: the name that it refers to, and the place where an
attribute can be put in. -/
def Walk.Step.stretches : Walk.Step → List Span
  | .refer name => [name.span]
  | .referType name => [name.span]
  | .openTag attributesAt name => [name.span, ⟨attributesAt, attributesAt⟩]
  | _ => []

namespace Syntax
open Walk (Step)

@[simp] theorem Outline.stretchesOfAll_append (front back : List Outline) :
    Outline.stretchesOfAll (front ++ back) =
      Outline.stretchesOfAll front ++ Outline.stretchesOfAll back := by
  induction front with
  | nil => rfl
  | cons outline front induction => simp [Outline.stretchesOfAll, induction]

/-- No name stands where a name is bound. -/
theorem stretches_of_names {steps : List Step} (bind : ∀ step ∈ steps, step.stretches = []) :
    steps.flatMap Step.stretches = [] :=
  List.flatMap_eq_nil_iff.mpr bind

@[simp] theorem flatMap_stretches_scopeSteps (kind : ScopeKind) (inside : List Step) :
    (scopeSteps kind inside).flatMap Step.stretches = inside.flatMap Step.stretches := by
  simp [scopeSteps, Step.stretches]

@[simp] theorem stretches_functionNameSteps (role : FunctionRole) (name : Option Identifier) :
    (functionNameSteps role name).flatMap Step.stretches = [] := by
  cases role <;> cases name <;> rfl

@[simp] theorem stretches_classNameSteps (role : ClassRole) (name : Option Identifier) :
    (classNameSteps role name).flatMap Step.stretches = [] := by
  cases role <;> cases name <;> rfl

@[simp] theorem stretches_holds (names : List String) :
    (names.map Step.hold).flatMap Step.stretches = [] :=
  stretches_of_names (by simp [Step.stretches])

@[simp] theorem stretches_variableSteps (kind : VariableKind) (names : List String) :
    (variableSteps kind names).flatMap Step.stretches = [] := by
  apply stretches_of_names
  cases kind <;> simp [variableSteps, Step.stretches]

@[simp] theorem stretches_valueSteps (value : Node) :
    (valueSteps value).flatMap Step.stretches = [] := by
  unfold valueSteps
  split <;> rfl

theorem stretches_openingSteps (attributesAt : Nat) (arguments : List Outline)
    (name : TagName) :
    (openingSteps attributesAt name).flatMap Step.stretches ++
      Outline.stretchesOfAll arguments = (name.outline attributesAt arguments).stretches := by
  cases name <;> rfl

@[simp] theorem stretches_closingSteps (name : Option TagName) :
    (closingSteps name).flatMap Step.stretches =
      Outline.stretchesOfAll (TagName.closingOutline name) := by
  rcases name with _ | name
  · rfl
  · cases name <;> rfl

@[simp] theorem ExportSpecifier.stretches_steps (specifier : ExportSpecifier) :
    specifier.steps.flatMap Step.stretches = specifier.outline.stretches := by
  rw [ExportSpecifier.steps, ExportSpecifier.outline]
  split <;> split <;> rfl

mutual

/-- What the walk mentions in a node are the stretches of its outline. -/
theorem Node.stretches_steps :
    ∀ node : Node, node.steps.flatMap Step.stretches = node.outline.stretches
  | .reference _ => rfl
  | .typeReference _ arguments => by
      simp [Node.steps, Node.outline, Outline.stretches, Outline.stretchesOfAll, Step.stretches,
        Node.stretches_stepsOfAll arguments]
  | .typeParameter _ bounds => Node.stretches_stepsOfAll bounds
  | .group _ parts => Node.stretches_stepsOfAll parts
  | .parenthesized inner => by
      simp [Node.steps, Node.outline, Outline.stretches, Outline.stretchesOfAll,
        Node.stretches_steps inner]
  | .property key value => by
      simp [Node.steps, Node.outline, Outline.stretches, Outline.stretchesOfAll,
        Node.stretches_steps key, Node.stretches_steps value]
  | .shorthand _ => rfl
  | .shorthandDefault _ value => by
      simp [Node.steps, Node.outline, Outline.stretches, Outline.stretchesOfAll, Step.stretches,
        Node.stretches_steps value]
  | .targetShorthand _ => rfl
  | .block _ parts => by
      simp [Node.steps, Node.outline, Outline.stretches, Node.stretches_stepsOfAll parts]
  | .staticBlock body => by
      simp [Node.steps, Node.outline, Outline.stretches, Node.stretches_stepsOfAll body]
  | .variables _ declarators => by
      simp [Node.steps, Node.outline, Outline.stretches,
        Declarator.stretches_stepsOfAll declarators]
  | .function _ _ typeParameters receiver parameters result body => by
      simp [Node.steps, Node.outline, Outline.stretches, Node.stretches_stepsOfAll typeParameters,
        Node.stretches_stepsOfOption receiver, Parameter.stretches_stepsOfAll parameters,
        Node.stretches_stepsOfOption result, Node.stretches_stepsOfAll body]
  | .signature head parameters result => by
      simp [Node.steps, Node.outline, Outline.stretches, Node.stretches_stepsOfAll head,
        Parameter.stretches_stepsOfAll parameters, Node.stretches_stepsOfOption result]
  | .classNode _ decorators _ inside => by
      simp [Node.steps, Node.outline, Outline.stretches, Node.stretches_stepsOfAll decorators,
        Node.stretches_stepsOfAll inside]
  | .catchClause parameter body => by
      simp [Node.steps, Node.outline, Outline.stretches, Outline.stretchesOfAll,
        Parameter.stretches_steps parameter, Node.stretches_steps body]
  | .enumeration _ members => by
      simp [Node.steps, Node.outline, Outline.stretches, Step.stretches,
        Node.stretches_stepsOfAll members]
  | .enumMember _ value => Node.stretches_stepsOfOption value
  | .namespaceBlock name body => by
      cases name <;>
        simp [Node.steps, Node.outline, Outline.stretches, Step.stretches,
          Node.stretches_stepsOfAll body]
  | .interface _ inside => by
      simp [Node.steps, Node.outline, Outline.stretches, Step.stretches,
        Node.stretches_stepsOfAll inside]
  | .typeAlias _ inside => by
      simp [Node.steps, Node.outline, Outline.stretches, Step.stretches,
        Node.stretches_stepsOfAll inside]
  | .importing declaration => by
      simp [Node.steps, Node.outline, Outline.stretches, Step.stretches]
  | .importEquals _ target => Node.stretches_stepsOfAll target
  | .exportSpecifier specifier => specifier.stretches_steps
  | .element name typeArguments attributesAt attributes children closing => by
      rw [Node.steps, Node.outline, Outline.stretches, Outline.stretchesOfAll,
        ← stretches_openingSteps]
      simp [Node.stretches_stepsOfAll typeArguments, Node.stretches_stepsOfAll attributes,
        Node.stretches_stepsOfAll children]

theorem Node.stretches_stepsOfAll : ∀ nodes : List Node,
    (Node.stepsOfAll nodes).flatMap Step.stretches =
      Outline.stretchesOfAll (Node.outlineAll nodes)
  | [] => rfl
  | node :: others => by
      simp [Node.stepsOfAll, Node.outlineAll, Outline.stretchesOfAll, Node.stretches_steps node,
        Node.stretches_stepsOfAll others]

theorem Node.stretches_stepsOfOption : ∀ node : Option Node,
    (Node.stepsOfOption node).flatMap Step.stretches =
      Outline.stretchesOfAll (Node.outlineOption node)
  | none => rfl
  | some node => by
      simp [Node.stepsOfOption, Node.outlineOption, Outline.stretchesOfAll,
        Node.stretches_steps node]

theorem Pattern.stretches_steps : ∀ pattern : Pattern,
    pattern.steps.flatMap Step.stretches = pattern.outline.stretches
  | .name _ => rfl
  | .object properties => Pattern.stretches_stepsOfAll properties
  | .array elements => Pattern.stretches_stepsOfAll elements
  | .hole => rfl
  | .keyed key value => by
      simp [Pattern.steps, Pattern.outline, Outline.stretches, Outline.stretchesOfAll,
        Node.stretches_steps key, Pattern.stretches_steps value]
  | .withDefault target value => by
      simp [Pattern.steps, Pattern.outline, Outline.stretches, Outline.stretchesOfAll,
        Pattern.stretches_steps target, Node.stretches_steps value]
  | .rest target => by
      simp [Pattern.steps, Pattern.outline, Outline.stretches, Outline.stretchesOfAll,
        Pattern.stretches_steps target]

theorem Pattern.stretches_stepsOfAll : ∀ patterns : List Pattern,
    (Pattern.stepsOfAll patterns).flatMap Step.stretches =
      Outline.stretchesOfAll (Pattern.outlineAll patterns)
  | [] => rfl
  | pattern :: others => by
      simp [Pattern.stepsOfAll, Pattern.outlineAll, Outline.stretchesOfAll,
        Pattern.stretches_steps pattern, Pattern.stretches_stepsOfAll others]

theorem Parameter.stretches_steps : ∀ parameter : Parameter,
    parameter.steps.flatMap Step.stretches = parameter.outline.stretches
  | .mk decorators pattern ascription default => by
      simp [Parameter.steps, Parameter.outline, Outline.stretches, Outline.stretchesOfAll,
        Node.stretches_stepsOfAll decorators, Pattern.stretches_steps pattern,
        Node.stretches_stepsOfOption ascription, Node.stretches_stepsOfOption default]

theorem Parameter.stretches_stepsOfAll : ∀ parameters : List Parameter,
    (Parameter.stepsOfAll parameters).flatMap Step.stretches =
      Outline.stretchesOfAll (Parameter.outlineAll parameters)
  | [] => rfl
  | parameter :: others => by
      simp [Parameter.stepsOfAll, Parameter.outlineAll, Outline.stretchesOfAll,
        Parameter.stretches_steps parameter, Parameter.stretches_stepsOfAll others]

theorem Declarator.stretches_steps : ∀ declarator : Declarator,
    declarator.steps.flatMap Step.stretches = declarator.outline.stretches
  | .mk pattern ascription initializer => by
      simp [Declarator.steps, Declarator.outline, Outline.stretches, Outline.stretchesOfAll,
        Pattern.stretches_steps pattern, Node.stretches_stepsOfOption ascription,
        Node.stretches_stepsOfOption initializer]

theorem Declarator.stretches_stepsOfAll : ∀ declarators : List Declarator,
    (Declarator.stepsOfAll declarators).flatMap Step.stretches =
      Outline.stretchesOfAll (Declarator.outlineAll declarators)
  | [] => rfl
  | declarator :: others => by
      simp [Declarator.stepsOfAll, Declarator.outlineAll, Outline.stretchesOfAll,
        Declarator.stretches_steps declarator, Declarator.stretches_stepsOfAll others]

end

end Syntax
end IconSize
