import IconSize.Scope.Walk

/-!
The scopes of a module as its tree has them. What a node means to the scope around it is a list of
items: the names that it binds, those that it refers to, and the scopes that it opens, each with
items of its own. The records of all scopes are read off the items from the outside in. No part of
the tree hands anything on to the next: a scope depends on its own items, on the scope around it,
and on how many scopes begin before it.
-/

namespace IconSize
open Syntax

/-! ## Binders -/

/-- How a name is bound. -/
inductive BinderForm where
  /-- By an import declaration. -/
  | imported
  /-- `import name = target` -/
  | importAlias
  /-- As a parameter of a function. -/
  | parameter
  /-- As a parameter of a function type or of a signature. -/
  | signatureParameter
  | catchParameter
  /-- By `let`, `const` or `using`. -/
  | lexical
  | var
  | functionDeclaration
  | functionExpression
  | classDeclaration
  | classExpression
  | enumeration
  | enumMember
  | namespaceBlock
  | interface
  | typeAlias
  | typeParameter
deriving DecidableEq, Repr

namespace BinderForm

/-- Do values refer to what is bound in this way? -/
def isValue : BinderForm → Bool
  | interface | typeAlias | typeParameter => false
  | _ => true

/-- Is the name among the values that its scope declares? -/
def declaresValue : BinderForm → Bool
  | imported | parameter | catchParameter | lexical | var | functionDeclaration
  | functionExpression | classDeclaration | classExpression | enumeration | namespaceBlock => true
  | _ => false

/-- Is the name among the types that its scope declares? -/
def declaresType : BinderForm → Bool
  | interface | typeAlias => true
  | _ => false

end BinderForm

structure Binder where
  form : BinderForm
  name : String
deriving DecidableEq, Repr

/-! ## Items of scopes -/

/-- What a node means to the scope around it. -/
inductive ScopeItem where
  | binder (binder : Binder)
  | reference (name : Identifier) (space : Namespace)
  /-- A form that opens a scope. `own` are the names that the form itself binds in its scope, as
  parameters are. `before` are items of the form that stand outside of its scope and before it: only
  a class has some, those of its decorators. -/
  | scope (kind : ScopeKind) (own : List Binder) (before inside : List ScopeItem)

namespace ScopeItem

mutual

/-- How many scopes the item opens, one in the other or one after the other. -/
def scopeCount : ScopeItem → Nat
  | binder _ => 0
  | reference _ _ => 0
  | scope _ _ before inside => scopeCountAll before + 1 + scopeCountAll inside

def scopeCountAll : List ScopeItem → Nat
  | [] => 0
  | item :: items => item.scopeCount + scopeCountAll items

end

mutual

/-- The binders whose nearest scope is the one around the item, without each `var`. -/
def localBinders : ScopeItem → List Binder
  | binder found => if found.form = .var then [] else [found]
  | reference _ _ => []
  | scope _ _ before _ => localBindersAll before

def localBindersAll : List ScopeItem → List Binder
  | [] => []
  | item :: items => item.localBinders ++ localBindersAll items

end

mutual

/-- Each `var` that stands in the item or in blocks of it, at any depth. Other scopes keep
theirs. -/
def hoistedBinders : ScopeItem → List Binder
  | binder found => if found.form = .var then [found] else []
  | reference _ _ => []
  | scope kind _ before inside =>
    hoistedBindersAll before ++ if kind = .block then hoistedBindersAll inside else []

def hoistedBindersAll : List ScopeItem → List Binder
  | [] => []
  | item :: items => item.hoistedBinders ++ hoistedBindersAll items

end

theorem mem_localBindersAll {binder : Binder} {items : List ScopeItem} :
    binder ∈ localBindersAll items ↔ ∃ item ∈ items, binder ∈ item.localBinders := by
  induction items with
  | nil => simp [localBindersAll]
  | cons item items induction => simp [localBindersAll, induction]

mutual

theorem form_of_mem_hoistedBinders :
    ∀ (item : ScopeItem) {found : Binder}, found ∈ item.hoistedBinders → found.form = .var
  | binder other, found, member => by
      rw [hoistedBinders] at member
      split at member
      case isTrue isVar => rwa [List.mem_singleton.mp member]
      case isFalse => cases member
  | reference _ _, _, member => nomatch member
  | scope kind _ before inside, found, member => by
      rcases List.mem_append.mp member with outer | inner
      · exact form_of_mem_hoistedBindersAll before outer
      · split at inner
        case isTrue => exact form_of_mem_hoistedBindersAll inside inner
        case isFalse => cases inner

theorem form_of_mem_hoistedBindersAll :
    ∀ (items : List ScopeItem) {found : Binder}, found ∈ hoistedBindersAll items →
      found.form = .var
  | [], _, member => nomatch member
  | item :: items, _, member => by
      rcases List.mem_append.mp member with first | rest
      · exact form_of_mem_hoistedBinders item first
      · exact form_of_mem_hoistedBindersAll items rest

end

@[simp] theorem scopeCountAll_append (front back : List ScopeItem) :
    scopeCountAll (front ++ back) = scopeCountAll front + scopeCountAll back := by
  induction front with
  | nil => simp [scopeCountAll]
  | cons item front induction => simp [scopeCountAll, induction, Nat.add_assoc]

@[simp] theorem localBindersAll_append (front back : List ScopeItem) :
    localBindersAll (front ++ back) = localBindersAll front ++ localBindersAll back := by
  induction front with
  | nil => rfl
  | cons item front induction => simp [localBindersAll, induction]

@[simp] theorem hoistedBindersAll_append (front back : List ScopeItem) :
    hoistedBindersAll (front ++ back) = hoistedBindersAll front ++ hoistedBindersAll back := by
  induction front with
  | nil => rfl
  | cons item front induction => simp [hoistedBindersAll, induction]

/-- The values that the items declare in the scope around them, without each `var`. -/
def declaredValues (items : List ScopeItem) : List String :=
  ((localBindersAll items).filter (·.form.declaresValue)).map Binder.name

/-- The types that the items declare in the scope around them. -/
def declaredTypes (items : List ScopeItem) : List String :=
  ((localBindersAll items).filter (·.form.declaresType)).map Binder.name

end ScopeItem

/-! ## Records of scopes -/

/-- A scope for itself: its kind, the names that its form binds in it, and its items. -/
structure Frame where
  kind : ScopeKind
  own : List Binder
  inside : List ScopeItem

namespace Frame
open ScopeItem

/-- Each `var` of the scope; a block has none. -/
def hoisted (frame : Frame) : List Binder :=
  if frame.kind = .block then [] else hoistedBindersAll frame.inside

/-- All that is bound in the scope. -/
def binders (frame : Frame) : List Binder :=
  frame.own ++ localBindersAll frame.inside ++ frame.hoisted

/-- The record of the scope. -/
def record (frame : Frame) (parent : Option ScopeHandle) : ScopeRecord where
  parent := parent
  kind := frame.kind
  names := frame.own.map Binder.name ++ declaredValues frame.inside
    ++ frame.hoisted.map Binder.name
  types := declaredTypes frame.inside

theorem form_of_mem_hoisted {frame : Frame} {binder : Binder} (hoisted : binder ∈ frame.hoisted) :
    binder.form = .var := by
  unfold Frame.hoisted at hoisted
  split at hoisted
  · cases hoisted
  · exact form_of_mem_hoistedBindersAll frame.inside hoisted

end Frame

namespace ScopeItem

mutual

/-- The records of the scopes of an item in the order in which they begin. `parent` is the scope
around the item, `next` the number of scopes that begin before it. -/
def records (parent : ScopeHandle) (next : Nat) : ScopeItem → List ScopeRecord
  | binder _ => []
  | reference _ _ => []
  | scope kind own before inside =>
    let opened := next + scopeCountAll before
    recordsAll parent next before
      ++ (Frame.mk kind own inside).record (some parent)
        :: recordsAll ⟨opened⟩ (opened + 1) inside

def recordsAll (parent : ScopeHandle) (next : Nat) : List ScopeItem → List ScopeRecord
  | [] => []
  | item :: items =>
    item.records parent next ++ recordsAll parent (next + item.scopeCount) items

end

mutual

/-- The references of an item, each with its nearest scope; their usages are left open. -/
def references (parent : ScopeHandle) (next : Nat) : ScopeItem → List Reference
  | binder _ => []
  | reference name space => [⟨name.name, name.span, some parent, .plain, space⟩]
  | scope _ _ before inside =>
    let opened := next + scopeCountAll before
    referencesAll parent next before ++ referencesAll ⟨opened⟩ (opened + 1) inside

def referencesAll (parent : ScopeHandle) (next : Nat) : List ScopeItem → List Reference
  | [] => []
  | item :: items =>
    item.references parent next ++ referencesAll parent (next + item.scopeCount) items

end

end ScopeItem

/-! ## Items of a tree -/

namespace Syntax

/-- What a function binds in the scope around it. -/
def FunctionRole.declared : FunctionRole → Option Identifier → List ScopeItem
  | .declaration, some name => [.binder ⟨.functionDeclaration, name.name⟩]
  | _, _ => []

/-- What a function binds in its own scope. -/
def FunctionRole.own (role : FunctionRole) (name : Option Identifier)
    (parameters : List Parameter) : List Binder :=
  (match role, name with
    | .expression, some name => [⟨.functionExpression, name.name⟩]
    | _, _ => []) ++
  (Parameter.boundNames parameters).map (⟨.parameter, ·⟩)

/-- What a class binds in the scope around it. -/
def ClassRole.declared : ClassRole → Option Identifier → List ScopeItem
  | .declaration, some name => [.binder ⟨.classDeclaration, name.name⟩]
  | _, _ => []

/-- What a class binds in its own scope. -/
def ClassRole.own : ClassRole → Option Identifier → List Binder
  | .expression, some name => [⟨.classExpression, name.name⟩]
  | _, _ => []

def VariableKind.form : VariableKind → BinderForm
  | .var => .var
  | _ => .lexical

def TagName.scopeItems : TagName → List ScopeItem
  | .reference name => [.reference name .value]
  | .member object => [.reference object .value]
  | .intrinsic => []

def TagName.scopeItemsOption : Option TagName → List ScopeItem
  | none => []
  | some name => name.scopeItems

def ExportSpecifier.scopeItems (specifier : ExportSpecifier) : List ScopeItem :=
  if specifier.fromModule then []
  else [.reference ⟨specifier.name.name, specifier.name.span⟩ .value]

mutual

def Node.scopeItems : Node → List ScopeItem
  | .reference name => [.reference name .value]
  | .typeReference name arguments => .reference name .type :: Node.scopeItemsAll arguments
  | .typeParameter name bounds =>
    .binder ⟨.typeParameter, name.name⟩ :: Node.scopeItemsAll bounds
  | .group _ parts => Node.scopeItemsAll parts
  | .parenthesized inner => inner.scopeItems
  | .property key value => key.scopeItems ++ value.scopeItems
  | .shorthand name => [.reference name .value]
  | .shorthandDefault name value => .reference name .value :: value.scopeItems
  | .targetShorthand name => [.reference name .value]
  | .block _ parts => [.scope .block [] [] (Node.scopeItemsAll parts)]
  | .staticBlock body => [.scope .function [] [] (Node.scopeItemsAll body)]
  | .variables kind declarators =>
    (Declarator.boundNames declarators).map (fun name => .binder ⟨kind.form, name⟩)
      ++ Declarator.scopeItemsAll declarators
  | .function role name typeParameters receiver parameters result body =>
    role.declared name ++
      [.scope .function (role.own name parameters) []
        (Node.scopeItemsAll typeParameters ++ Node.scopeItemsOption receiver
          ++ Parameter.scopeItemsAll parameters ++ Node.scopeItemsOption result
          ++ Node.scopeItemsAll body)]
  | .signature head parameters result =>
    [.scope .block [] []
      (Node.scopeItemsAll head
        ++ (Parameter.boundNames parameters).map (fun name => .binder ⟨.signatureParameter, name⟩)
        ++ Parameter.scopeItemsAll parameters ++ Node.scopeItemsOption result)]
  | .classNode role decorators name inside =>
    role.declared name ++
      [.scope .block (role.own name) (Node.scopeItemsAll decorators) (Node.scopeItemsAll inside)]
  | .catchClause parameter body =>
    [.scope .block (parameter.pattern.boundNames.map (⟨.catchParameter, ·⟩)) []
      (parameter.scopeItems ++ body.scopeItems)]
  | .enumeration name members =>
    [.binder ⟨.enumeration, name.name⟩, .scope .block [] [] (Node.scopeItemsAll members)]
  | .enumMember name value => .binder ⟨.enumMember, name⟩ :: Node.scopeItemsOption value
  | .namespaceBlock name body =>
    (name.map fun name => ScopeItem.binder ⟨.namespaceBlock, name.name⟩).toList
      ++ [.scope .function [] [] (Node.scopeItemsAll body)]
  | .interface name inside =>
    [.binder ⟨.interface, name.name⟩, .scope .block [] [] (Node.scopeItemsAll inside)]
  | .typeAlias name inside =>
    [.binder ⟨.typeAlias, name.name⟩, .scope .block [] [] (Node.scopeItemsAll inside)]
  | .importing declaration =>
    declaration.clauses.map fun clause => .binder ⟨.imported, clause.bound.name⟩
  | .importEquals name target => .binder ⟨.importAlias, name.name⟩ :: Node.scopeItemsAll target
  | .exportSpecifier specifier => specifier.scopeItems
  | .element name typeArguments _ attributes children closing =>
    name.scopeItems ++ Node.scopeItemsAll typeArguments ++ Node.scopeItemsAll attributes
      ++ Node.scopeItemsAll children ++ TagName.scopeItemsOption closing

def Node.scopeItemsAll : List Node → List ScopeItem
  | [] => []
  | node :: rest => node.scopeItems ++ Node.scopeItemsAll rest

def Node.scopeItemsOption : Option Node → List ScopeItem
  | none => []
  | some node => node.scopeItems

/-- The items of the keys and default values of a pattern. -/
def Pattern.scopeItems : Pattern → List ScopeItem
  | .name _ => []
  | .object properties => Pattern.scopeItemsAll properties
  | .array elements => Pattern.scopeItemsAll elements
  | .hole => []
  | .keyed key value => key.scopeItems ++ value.scopeItems
  | .withDefault target value => target.scopeItems ++ value.scopeItems
  | .rest target => target.scopeItems

def Pattern.scopeItemsAll : List Pattern → List ScopeItem
  | [] => []
  | pattern :: rest => pattern.scopeItems ++ Pattern.scopeItemsAll rest

def Parameter.scopeItems : Parameter → List ScopeItem
  | .mk decorators pattern ascription default =>
    Node.scopeItemsAll decorators ++ pattern.scopeItems ++ Node.scopeItemsOption ascription
      ++ Node.scopeItemsOption default

def Parameter.scopeItemsAll : List Parameter → List ScopeItem
  | [] => []
  | parameter :: rest => parameter.scopeItems ++ Parameter.scopeItemsAll rest

def Declarator.scopeItems : Declarator → List ScopeItem
  | .mk pattern ascription initializer =>
    pattern.scopeItems ++ Node.scopeItemsOption ascription ++ Node.scopeItemsOption initializer

def Declarator.scopeItemsAll : List Declarator → List ScopeItem
  | [] => []
  | declarator :: rest => declarator.scopeItems ++ Declarator.scopeItemsAll rest

end

theorem Node.mem_scopeItemsAll {item : ScopeItem} {nodes : List Node} :
    item ∈ Node.scopeItemsAll nodes ↔ ∃ node ∈ nodes, item ∈ node.scopeItems := by
  induction nodes with
  | nil => simp [Node.scopeItemsAll]
  | cons node nodes induction => simp [Node.scopeItemsAll, induction]

@[simp] theorem Node.scopeItemsAll_append (front back : List Node) :
    Node.scopeItemsAll (front ++ back) = Node.scopeItemsAll front ++ Node.scopeItemsAll back := by
  induction front with
  | nil => rfl
  | cons node front induction => simp [Node.scopeItemsAll, induction]

theorem Pattern.boundNamesOf_append (front back : List Pattern) :
    Pattern.boundNamesOf (front ++ back) =
      Pattern.boundNamesOf front ++ Pattern.boundNamesOf back := by
  induction front with
  | nil => rfl
  | cons pattern front induction => simp [Pattern.boundNamesOf, induction]

theorem Pattern.scopeItemsAll_append (front back : List Pattern) :
    Pattern.scopeItemsAll (front ++ back) =
      Pattern.scopeItemsAll front ++ Pattern.scopeItemsAll back := by
  induction front with
  | nil => rfl
  | cons pattern front induction => simp [Pattern.scopeItemsAll, induction]

theorem Parameter.scopeItemsAll_append (front back : List Parameter) :
    Parameter.scopeItemsAll (front ++ back) =
      Parameter.scopeItemsAll front ++ Parameter.scopeItemsAll back := by
  induction front with
  | nil => rfl
  | cons parameter front induction => simp [Parameter.scopeItemsAll, induction]

theorem Declarator.scopeItemsAll_append (front back : List Declarator) :
    Declarator.scopeItemsAll (front ++ back) =
      Declarator.scopeItemsAll front ++ Declarator.scopeItemsAll back := by
  induction front with
  | nil => rfl
  | cons declarator front induction => simp [Declarator.scopeItemsAll, induction]

namespace Program

/-- The items at the top of a module. -/
def scopeItems (program : Program) : List ScopeItem := Node.scopeItemsAll program.body

/-- The scope of the module itself. -/
def frame (program : Program) : Frame := ⟨.module, [], program.scopeItems⟩

/-- The records of all scopes of a module. -/
def scopeRecords (program : Program) : List ScopeRecord :=
  program.frame.record none :: ScopeItem.recordsAll .root 1 program.scopeItems

/-- The references of a module, each with its nearest scope. -/
def scopedReferences (program : Program) : List Reference :=
  ScopeItem.referencesAll .root 1 program.scopeItems

end Program
end Syntax
end IconSize
