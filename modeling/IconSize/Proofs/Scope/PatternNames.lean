import IconSize.Scope.BoundNames
import Mathlib.Data.List.Perm.Basic

/-!
The names that patterns bind, gathered by a visitor. A visitor of binding identifiers goes through
a pattern at any depth; what it finds in an expression or a type is up to it. The names of a pattern
are what the visitor finds that passes over those. Every other identifier that is bound somewhere in
the pattern is bound inside one of them: `boundNames_gathered_exactly`.
-/

namespace IconSize.Syntax

/-! ## Parts of patterns -/

namespace Pattern

/-- A pattern is a part of another one: it is reached through elements, properties, their values,
the targets of default values, and rests. -/
inductive IsPart : Pattern → Pattern → Prop where
  | whole (pattern : Pattern) : IsPart pattern pattern
  | property {part property : Pattern} {properties : List Pattern} :
    property ∈ properties → IsPart part property → IsPart part (.object properties)
  | element {part element : Pattern} {elements : List Pattern} :
    element ∈ elements → IsPart part element → IsPart part (.array elements)
  | value {part value : Pattern} (key : Node) : IsPart part value → IsPart part (.keyed key value)
  | target {part target : Pattern} (value : Node) :
    IsPart part target → IsPart part (.withDefault target value)
  | rest {part target : Pattern} : IsPart part target → IsPart part (.rest target)

/-- The identifier is bound by the pattern: it is a part that is nothing but a name. -/
def Binds (pattern : Pattern) (binder : Identifier) : Prop := IsPart (.name binder) pattern

end Pattern

/-! ## Visitors of patterns and parameters

What a visitor finds, in the order of the visit; `visit` says what it finds in an expression or a
type. -/

namespace Pattern

mutual

def gather (visit : Node → List Identifier) : Pattern → List Identifier
  | .name binder => [binder]
  | .object properties => gatherOf visit properties
  | .array elements => gatherOf visit elements
  | .hole => []
  | .keyed key value => visit key ++ value.gather visit
  | .withDefault target value => target.gather visit ++ visit value
  | .rest target => target.gather visit

def gatherOf (visit : Node → List Identifier) : List Pattern → List Identifier
  | [] => []
  | pattern :: others => pattern.gather visit ++ gatherOf visit others

end

mutual

/-- The keys and default values of a pattern. -/
def nodes : Pattern → List Node
  | .name _ => []
  | .object properties => nodesOf properties
  | .array elements => nodesOf elements
  | .hole => []
  | .keyed key value => key :: value.nodes
  | .withDefault target value => target.nodes ++ [value]
  | .rest target => target.nodes

def nodesOf : List Pattern → List Node
  | [] => []
  | pattern :: others => pattern.nodes ++ nodesOf others

end

/-- What the visitor finds that passes over expressions and types. -/
def binders (pattern : Pattern) : List Identifier := pattern.gather fun _ => []

theorem mem_gatherOf {visit : Node → List Identifier} {patterns : List Pattern}
    {binder : Identifier} :
    binder ∈ gatherOf visit patterns ↔ ∃ pattern ∈ patterns, binder ∈ pattern.gather visit := by
  induction patterns with
  | nil => simp [gatherOf]
  | cons pattern patterns induction => simp [gatherOf, induction]

/-- What is found in a part is found in the pattern. -/
theorem IsPart.gather_subset {part pattern : Pattern} (visit : Node → List Identifier)
    (isPart : IsPart part pattern) : part.gather visit ⊆ pattern.gather visit := by
  induction isPart with
  | whole => exact fun binder member => member
  | property inside _ induction =>
      exact fun binder member => mem_gatherOf.mpr ⟨_, inside, induction member⟩
  | element inside _ induction =>
      exact fun binder member => mem_gatherOf.mpr ⟨_, inside, induction member⟩
  | value _ _ induction => exact fun binder member => List.mem_append_right _ (induction member)
  | target _ _ induction => exact fun binder member => List.mem_append_left _ (induction member)
  | rest _ induction => exact induction

mutual

theorem binds_of_mem : ∀ {pattern : Pattern} {binder : Identifier},
    binder ∈ pattern.gather (fun _ => []) → pattern.Binds binder
  | .name _, _, member => List.mem_singleton.mp member ▸ .whole _
  | .object _, _, member =>
      have ⟨_, inside, binds⟩ := exists_binds_of_mem member
      .property inside binds
  | .array _, _, member =>
      have ⟨_, inside, binds⟩ := exists_binds_of_mem member
      .element inside binds
  | .hole, _, member => by cases member
  | .keyed key value, binder, member =>
      have found : binder ∈ value.gather fun _ => [] := member
      .value key (binds_of_mem found)
  | .withDefault target value, binder, member => by
      have found : binder ∈ target.gather fun _ => [] := by simpa [gather] using member
      exact .target value (binds_of_mem found)
  | .rest target, binder, member =>
      have found : binder ∈ target.gather fun _ => [] := member
      .rest (binds_of_mem found)

theorem exists_binds_of_mem : ∀ {patterns : List Pattern} {binder : Identifier},
    binder ∈ gatherOf (fun _ => []) patterns → ∃ pattern ∈ patterns, pattern.Binds binder
  | [], _, member => by cases member
  | pattern :: others, _, member => by
      rcases List.mem_append.mp member with member | member
      · exact ⟨pattern, List.mem_cons_self, binds_of_mem member⟩
      · rcases exists_binds_of_mem member with ⟨other, inside, binds⟩
        exact ⟨other, List.mem_cons_of_mem pattern inside, binds⟩

end

theorem mem_binders_iff {pattern : Pattern} {binder : Identifier} :
    binder ∈ pattern.binders ↔ pattern.Binds binder :=
  ⟨binds_of_mem, fun binds => binds.gather_subset _ (List.mem_singleton_self binder)⟩

mutual

theorem boundNames_eq_binders : ∀ pattern : Pattern,
    pattern.boundNames = pattern.binders.map Identifier.name
  | .name _ => rfl
  | .object properties => boundNamesOf_eq_gatherOf properties
  | .array elements => boundNamesOf_eq_gatherOf elements
  | .hole => rfl
  | .keyed _ value => boundNames_eq_binders value
  | .withDefault target _ => by
      simpa [boundNames, binders, gather] using boundNames_eq_binders target
  | .rest target => boundNames_eq_binders target

theorem boundNamesOf_eq_gatherOf : ∀ patterns : List Pattern,
    boundNamesOf patterns = (gatherOf (fun _ => []) patterns).map Identifier.name
  | [] => rfl
  | pattern :: others => by
      simp only [boundNamesOf, gatherOf, List.map_append, boundNamesOf_eq_gatherOf others,
        boundNames_eq_binders pattern, binders]

end

/-- The names of a pattern are those of the identifiers that it binds. -/
theorem mem_boundNames_iff {pattern : Pattern} {name : String} :
    name ∈ pattern.boundNames ↔ ∃ binder, pattern.Binds binder ∧ binder.name = name := by
  simp only [boundNames_eq_binders, List.mem_map, mem_binders_iff]

mutual

/-- Whatever a visitor finds besides the binders of the pattern, it finds in a key or in a default
value. -/
theorem gather_perm (visit : Node → List Identifier) : ∀ pattern : Pattern,
    (pattern.gather visit).Perm (pattern.binders ++ pattern.nodes.flatMap visit)
  | .name binder => .refl [binder]
  | .object properties => gatherOf_perm visit properties
  | .array elements => gatherOf_perm visit elements
  | .hole => .refl []
  | .keyed key value => by
      have inside := (gather_perm visit value).append_left (visit key)
      simp only [binders, gather, nodes, List.flatMap_cons, List.nil_append] at inside ⊢
      exact inside.trans (List.perm_append_comm_assoc ..)
  | .withDefault target value => by
      have inside := (gather_perm visit target).append_right (visit value)
      simpa [binders, gather, nodes] using inside
  | .rest target => gather_perm visit target

theorem gatherOf_perm (visit : Node → List Identifier) : ∀ patterns : List Pattern,
    (gatherOf visit patterns).Perm
      (gatherOf (fun _ => []) patterns ++ (nodesOf patterns).flatMap visit)
  | [] => .refl []
  | pattern :: others => by
      have both := (gather_perm visit pattern).append (gatherOf_perm visit others)
      simp only [gatherOf, nodesOf, List.flatMap_append, List.append_assoc] at both ⊢
      exact both.trans ((List.perm_append_comm_assoc ..).append_left _)

end

end Pattern

namespace Parameter

def gather (visit : Node → List Identifier) : Parameter → List Identifier
  | .mk decorators pattern ascription default =>
    decorators.flatMap visit ++ pattern.gather visit ++ ascription.toList.flatMap visit
      ++ default.toList.flatMap visit

/-- The decorators, keys, types and default values of a parameter. -/
def nodes : Parameter → List Node
  | .mk decorators pattern ascription default =>
    decorators ++ pattern.nodes ++ ascription.toList ++ default.toList

/-- What the visitor finds that passes over expressions and types. -/
def binders (parameter : Parameter) : List Identifier := parameter.gather fun _ => []

theorem binders_eq (parameter : Parameter) : parameter.binders = parameter.pattern.binders := by
  rcases parameter with ⟨decorators, pattern, ascription, default⟩
  have nothing (nodes : List Node) : nodes.flatMap (fun _ => ([] : List Identifier)) = [] :=
    List.flatMap_eq_nil_iff.mpr fun _ _ => rfl
  simp only [binders, gather, nothing, List.nil_append, List.append_nil, Parameter.pattern,
    Pattern.binders]

/-- The names of a parameter list are those of the identifiers that its patterns bind. -/
theorem mem_boundNames_iff {parameters : List Parameter} {name : String} :
    name ∈ Parameter.boundNames parameters ↔
      ∃ parameter ∈ parameters, ∃ binder, parameter.pattern.Binds binder ∧ binder.name = name := by
  simp only [Parameter.boundNames, List.mem_flatMap, Pattern.mem_boundNames_iff]

theorem boundNames_eq_binders (parameters : List Parameter) :
    Parameter.boundNames parameters = (parameters.flatMap binders).map Identifier.name := by
  simp only [Parameter.boundNames, Pattern.boundNames_eq_binders, List.map_flatMap, binders_eq]

theorem gather_perm (visit : Node → List Identifier) (parameter : Parameter) :
    (parameter.gather visit).Perm (parameter.binders ++ parameter.nodes.flatMap visit) := by
  rw [binders_eq]
  rcases parameter with ⟨decorators, pattern, ascription, default⟩
  have inside := ((pattern.gather_perm visit).append_left (decorators.flatMap visit)).append_right
    (ascription.toList.flatMap visit ++ default.toList.flatMap visit)
  simp only [gather, nodes, Parameter.pattern, List.flatMap_append, List.append_assoc] at inside ⊢
  exact inside.trans (List.perm_append_comm_assoc ..)

/-- Whatever a visitor finds in a parameter list besides the binders of its patterns, it finds in an
expression or a type. -/
theorem flatMap_gather_perm (visit : Node → List Identifier) (parameters : List Parameter) :
    (parameters.flatMap (gather visit)).Perm
      (parameters.flatMap binders ++ (parameters.flatMap nodes).flatMap visit) := by
  rw [List.flatMap_assoc]
  exact (List.Perm.flatMap_left _ fun parameter _ => parameter.gather_perm visit).trans
    (List.flatMap_append_perm ..).symm

end Parameter

/-! ## The visitor of the whole tree -/

mutual

/-- The identifiers that are bound somewhere in a node, at any depth and in any scope. -/
def Node.boundAnywhere : Node → List Identifier
  | .reference _ => []
  | .typeReference _ arguments => Node.boundAnywhereAll arguments
  | .typeParameter name bounds => name :: Node.boundAnywhereAll bounds
  | .group _ parts => Node.boundAnywhereAll parts
  | .parenthesized inner => inner.boundAnywhere
  | .property key value => key.boundAnywhere ++ value.boundAnywhere
  | .shorthand _ => []
  | .shorthandDefault _ value => value.boundAnywhere
  | .targetShorthand _ => []
  | .block _ parts => Node.boundAnywhereAll parts
  | .staticBlock body => Node.boundAnywhereAll body
  | .variables _ declarators => Declarator.boundAnywhereAll declarators
  | .function _ name typeParameters receiver parameters result body =>
    name.toList ++ Node.boundAnywhereAll typeParameters ++ Node.boundAnywhereOption receiver
      ++ Parameter.boundAnywhereAll parameters ++ Node.boundAnywhereOption result
      ++ Node.boundAnywhereAll body
  | .signature head parameters result =>
    Node.boundAnywhereAll head ++ Parameter.boundAnywhereAll parameters
      ++ Node.boundAnywhereOption result
  | .classNode _ decorators name inside =>
    Node.boundAnywhereAll decorators ++ name.toList ++ Node.boundAnywhereAll inside
  | .catchClause parameter body => parameter.boundAnywhere ++ body.boundAnywhere
  | .enumeration name members => name :: Node.boundAnywhereAll members
  | .enumMember _ value => Node.boundAnywhereOption value
  | .namespaceBlock name body => name.toList ++ Node.boundAnywhereAll body
  | .interface name inside => name :: Node.boundAnywhereAll inside
  | .typeAlias name inside => name :: Node.boundAnywhereAll inside
  | .importing declaration => declaration.clauses.map ImportClause.bound
  | .importEquals name target => name :: Node.boundAnywhereAll target
  | .exportSpecifier _ => []
  | .element _ typeArguments _ attributes children _ =>
    Node.boundAnywhereAll typeArguments ++ Node.boundAnywhereAll attributes
      ++ Node.boundAnywhereAll children

def Node.boundAnywhereAll : List Node → List Identifier
  | [] => []
  | node :: rest => node.boundAnywhere ++ Node.boundAnywhereAll rest

def Node.boundAnywhereOption : Option Node → List Identifier
  | none => []
  | some node => node.boundAnywhere

def Pattern.boundAnywhere : Pattern → List Identifier
  | .name binder => [binder]
  | .object properties => Pattern.boundAnywhereAll properties
  | .array elements => Pattern.boundAnywhereAll elements
  | .hole => []
  | .keyed key value => key.boundAnywhere ++ value.boundAnywhere
  | .withDefault target value => target.boundAnywhere ++ value.boundAnywhere
  | .rest target => target.boundAnywhere

def Pattern.boundAnywhereAll : List Pattern → List Identifier
  | [] => []
  | pattern :: rest => pattern.boundAnywhere ++ Pattern.boundAnywhereAll rest

def Parameter.boundAnywhere : Parameter → List Identifier
  | .mk decorators pattern ascription default =>
    Node.boundAnywhereAll decorators ++ pattern.boundAnywhere
      ++ Node.boundAnywhereOption ascription ++ Node.boundAnywhereOption default

def Parameter.boundAnywhereAll : List Parameter → List Identifier
  | [] => []
  | parameter :: rest => parameter.boundAnywhere ++ Parameter.boundAnywhereAll rest

def Declarator.boundAnywhere : Declarator → List Identifier
  | .mk pattern ascription initializer =>
    pattern.boundAnywhere ++ Node.boundAnywhereOption ascription
      ++ Node.boundAnywhereOption initializer

def Declarator.boundAnywhereAll : List Declarator → List Identifier
  | [] => []
  | declarator :: rest => declarator.boundAnywhere ++ Declarator.boundAnywhereAll rest

end

theorem Node.boundAnywhereAll_eq (nodes : List Node) :
    Node.boundAnywhereAll nodes = nodes.flatMap Node.boundAnywhere := by
  induction nodes with
  | nil => rfl
  | cons node nodes induction => simp [Node.boundAnywhereAll, induction]

theorem Node.boundAnywhereOption_eq (node : Option Node) :
    Node.boundAnywhereOption node = node.toList.flatMap Node.boundAnywhere := by
  cases node <;> simp [Node.boundAnywhereOption]

namespace Pattern

mutual

/-- In patterns the visitor of the whole tree is one of those above. -/
theorem boundAnywhere_eq_gather : ∀ pattern : Pattern,
    pattern.boundAnywhere = pattern.gather Node.boundAnywhere
  | .name _ => rfl
  | .object properties => boundAnywhereAll_eq_gatherOf properties
  | .array elements => boundAnywhereAll_eq_gatherOf elements
  | .hole => rfl
  | .keyed key value => congrArg (key.boundAnywhere ++ ·) (boundAnywhere_eq_gather value)
  | .withDefault target value =>
    congrArg (· ++ value.boundAnywhere) (boundAnywhere_eq_gather target)
  | .rest target => boundAnywhere_eq_gather target

theorem boundAnywhereAll_eq_gatherOf : ∀ patterns : List Pattern,
    boundAnywhereAll patterns = gatherOf Node.boundAnywhere patterns
  | [] => rfl
  | pattern :: others =>
    congrArg₂ (· ++ ·) (boundAnywhere_eq_gather pattern) (boundAnywhereAll_eq_gatherOf others)

end

end Pattern

namespace Parameter

theorem boundAnywhere_eq_gather (parameter : Parameter) :
    parameter.boundAnywhere = parameter.gather Node.boundAnywhere := by
  rcases parameter with ⟨decorators, pattern, ascription, default⟩
  simp only [boundAnywhere, gather, Node.boundAnywhereAll_eq, Node.boundAnywhereOption_eq,
    pattern.boundAnywhere_eq_gather]

theorem boundAnywhereAll_eq (parameters : List Parameter) :
    boundAnywhereAll parameters = parameters.flatMap (gather Node.boundAnywhere) := by
  induction parameters with
  | nil => rfl
  | cons parameter parameters induction =>
      simp [boundAnywhereAll, boundAnywhere_eq_gather, induction]

end Parameter

/-! ## What is gathered -/

/-- The names that are gathered from a pattern or a parameter list are exactly those that it binds.
They are what the visitor finds that passes over expressions and types, and those are all that is
missing: the visitor of the whole tree finds the same identifiers and those bound inside a key, a
default value, a decorator or a type, such as the names of functions and classes there and their
parameters. -/
theorem boundNames_gathered_exactly :
    (∀ (pattern : Pattern) (name : String),
      name ∈ pattern.boundNames ↔ ∃ binder, pattern.Binds binder ∧ binder.name = name) ∧
    (∀ (parameters : List Parameter) (name : String),
      name ∈ Parameter.boundNames parameters ↔
        ∃ parameter ∈ parameters, ∃ binder,
          parameter.pattern.Binds binder ∧ binder.name = name) ∧
    (∀ pattern : Pattern,
      pattern.boundNames = pattern.binders.map Identifier.name ∧
      pattern.boundAnywhere.Perm
        (pattern.binders ++ pattern.nodes.flatMap Node.boundAnywhere)) ∧
    (∀ parameters : List Parameter,
      Parameter.boundNames parameters =
        (parameters.flatMap Parameter.binders).map Identifier.name ∧
      (Parameter.boundAnywhereAll parameters).Perm
        (parameters.flatMap Parameter.binders ++
          (parameters.flatMap Parameter.nodes).flatMap Node.boundAnywhere)) := by
  refine ⟨fun pattern name => Pattern.mem_boundNames_iff,
    fun parameters name => Parameter.mem_boundNames_iff, fun pattern => ?_, fun parameters => ?_⟩
  · refine ⟨pattern.boundNames_eq_binders, ?_⟩
    rw [pattern.boundAnywhere_eq_gather]
    exact pattern.gather_perm Node.boundAnywhere
  · refine ⟨Parameter.boundNames_eq_binders parameters, ?_⟩
    rw [Parameter.boundAnywhereAll_eq]
    exact Parameter.flatMap_gather_perm Node.boundAnywhere parameters

end IconSize.Syntax
