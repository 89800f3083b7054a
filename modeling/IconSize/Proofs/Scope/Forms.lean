import IconSize.Proofs.Scope.Structure

/-!
The forms that open scopes and those that bind names around them. A condition on scopes and binders
that all of these forms satisfy holds of every scope and every binder of a tree:
`Node.meet_scopeItems`.
-/

namespace IconSize
open Syntax

/-- Is a name bound in this way by the form that opens its scope? -/
def BinderForm.isOwn : BinderForm → Bool
  | parameter | catchParameter | functionExpression | classExpression => true
  | _ => false

namespace ScopeItem

/-- A condition on the items of a tree. -/
structure Condition where
  /-- On a scope: on its kind, on what its form binds in it, and on the items of the form that stand
  before it. -/
  scope : ScopeKind → List Binder → List ScopeItem → Bool
  /-- On what is bound in the scope around. -/
  binder : BinderForm → Bool := fun _ => true

mutual

/-- Does each scope and each binder of the item meet the condition? -/
def scopesMeet (condition : Condition) : ScopeItem → Bool
  | binder found => condition.binder found.form
  | reference _ _ => true
  | scope kind own before inside =>
    condition.scope kind own before && allScopesMeet condition before
      && allScopesMeet condition inside

def allScopesMeet (condition : Condition) : List ScopeItem → Bool
  | [] => true
  | item :: items => item.scopesMeet condition && allScopesMeet condition items

end

/-- The forms that open scopes and those that bind names around them meet the condition. -/
structure Condition.HoldsOfForms (condition : Condition) : Prop where
  plain : ∀ kind, kind ≠ .module → condition.scope kind [] [] = true
  function : ∀ (role : FunctionRole) (name : Option Identifier) (parameters : List Parameter),
    condition.scope .function (role.own name parameters) [] = true
  classNode : ∀ (role : ClassRole) (name : Option Identifier) (decorators : List ScopeItem),
    condition.scope .block (role.own name) decorators = true
  catchClause : ∀ names : List String,
    condition.scope .block (names.map (⟨.catchParameter, ·⟩)) [] = true
  binder : ∀ form : BinderForm, form.isOwn = false → condition.binder form = true

variable {condition : Condition}

@[simp] theorem allScopesMeet_append (front back : List ScopeItem) :
    allScopesMeet condition (front ++ back) =
      (allScopesMeet condition front && allScopesMeet condition back) := by
  induction front with
  | nil => rfl
  | cons item front induction => simp [allScopesMeet, induction, Bool.and_assoc]

mutual

/-- What an item binds in the scope around it meets the condition. -/
theorem binder_of_mem_localBinders :
    ∀ (item : ScopeItem), item.scopesMeet condition = true →
      ∀ found ∈ item.localBinders, condition.binder found.form = true
  | binder other, meets, found, member => by
      rw [localBinders] at member
      split at member
      case isTrue => cases member
      case isFalse => rwa [List.mem_singleton.mp member]
  | reference _ _, _, _, member => nomatch member
  | scope _ _ before _, meets, found, member => by
      simp only [scopesMeet, Bool.and_eq_true] at meets
      exact binder_of_mem_localBindersAll before meets.1.2 found member

theorem binder_of_mem_localBindersAll :
    ∀ (items : List ScopeItem), allScopesMeet condition items = true →
      ∀ found ∈ localBindersAll items, condition.binder found.form = true
  | [], _, _, member => nomatch member
  | item :: items, meets, found, member => by
      rw [allScopesMeet, Bool.and_eq_true] at meets
      rcases List.mem_append.mp member with first | rest
      · exact binder_of_mem_localBinders item meets.1 found first
      · exact binder_of_mem_localBindersAll items meets.2 found rest

end

theorem allScopesMeet_map {Element : Type} (item : Element → ScopeItem)
    (meet : ∀ element, (item element).scopesMeet condition = true) (elements : List Element) :
    allScopesMeet condition (elements.map item) = true := by
  induction elements with
  | nil => rfl
  | cons element elements induction => simp [allScopesMeet, meet, induction]

end ScopeItem

namespace Syntax
open ScopeItem (scopesMeet allScopesMeet Condition)

variable {condition : Condition}

theorem allScopesMeet_functionDeclared (forms : condition.HoldsOfForms) (role : FunctionRole)
    (name : Option Identifier) : allScopesMeet condition (role.declared name) = true := by
  cases role <;> cases name <;>
    simp [FunctionRole.declared, allScopesMeet, scopesMeet, forms.binder .functionDeclaration rfl]

theorem allScopesMeet_classDeclared (forms : condition.HoldsOfForms) (role : ClassRole)
    (name : Option Identifier) : allScopesMeet condition (role.declared name) = true := by
  cases role <;> cases name <;>
    simp [ClassRole.declared, allScopesMeet, scopesMeet, forms.binder .classDeclaration rfl]

@[simp] theorem VariableKind.isOwn_form (kind : VariableKind) : kind.form.isOwn = false := by
  cases kind <;> rfl

theorem allScopesMeet_tagName (name : TagName) :
    allScopesMeet condition name.scopeItems = true := by
  cases name <;> rfl

theorem allScopesMeet_tagNameOption (name : Option TagName) :
    allScopesMeet condition (TagName.scopeItemsOption name) = true := by
  cases name with
  | none => rfl
  | some name => exact allScopesMeet_tagName name

theorem allScopesMeet_exportSpecifier (specifier : ExportSpecifier) :
    allScopesMeet condition specifier.scopeItems = true := by
  unfold ExportSpecifier.scopeItems
  split <;> rfl

theorem allScopesMeet_binders (forms : condition.HoldsOfForms) {Element : Type}
    (form : BinderForm) (around : form.isOwn = false) (name : Element → String)
    (elements : List Element) :
    allScopesMeet condition (elements.map fun element => .binder ⟨form, name element⟩) = true :=
  ScopeItem.allScopesMeet_map (fun element => .binder ⟨form, name element⟩)
    (fun _ => forms.binder form around) elements

mutual

/-- Each scope of a node meets a condition that the forms that open scopes meet. -/
theorem Node.meet_scopeItems (forms : condition.HoldsOfForms) :
    ∀ node : Node, allScopesMeet condition node.scopeItems = true
  | .reference _ => rfl
  | .typeReference _ arguments => Node.meet_scopeItemsAll forms arguments
  | .typeParameter _ bounds => by
      simp [Node.scopeItems, allScopesMeet, scopesMeet, forms.binder .typeParameter rfl,
        Node.meet_scopeItemsAll forms bounds]
  | .group _ parts => Node.meet_scopeItemsAll forms parts
  | .parenthesized inner => inner.meet_scopeItems forms
  | .property key value => by
      simp [Node.scopeItems, key.meet_scopeItems forms, value.meet_scopeItems forms]
  | .shorthand _ => rfl
  | .shorthandDefault _ value => value.meet_scopeItems forms
  | .targetShorthand _ => rfl
  | .block _ parts => by
      simp [Node.scopeItems, allScopesMeet, scopesMeet, forms.plain,
        Node.meet_scopeItemsAll forms parts]
  | .staticBlock body => by
      simp [Node.scopeItems, allScopesMeet, scopesMeet, forms.plain,
        Node.meet_scopeItemsAll forms body]
  | .variables kind declarators => by
      simp [Node.scopeItems, allScopesMeet_binders forms kind.form kind.isOwn_form,
        Declarator.meet_scopeItemsAll forms declarators]
  | .function role name typeParameters receiver parameters result body => by
      simp [Node.scopeItems, allScopesMeet, scopesMeet, forms.function,
        allScopesMeet_functionDeclared forms, Node.meet_scopeItemsAll forms typeParameters,
        Node.meet_scopeItemsOption forms receiver, Parameter.meet_scopeItemsAll forms parameters,
        Node.meet_scopeItemsOption forms result, Node.meet_scopeItemsAll forms body]
  | .signature head parameters result => by
      simp [Node.scopeItems, allScopesMeet, scopesMeet, forms.plain,
        allScopesMeet_binders forms .signatureParameter rfl, Node.meet_scopeItemsAll forms head,
        Parameter.meet_scopeItemsAll forms parameters, Node.meet_scopeItemsOption forms result]
  | .classNode role decorators name inside => by
      simp [Node.scopeItems, allScopesMeet, scopesMeet, forms.classNode,
        allScopesMeet_classDeclared forms, Node.meet_scopeItemsAll forms decorators,
        Node.meet_scopeItemsAll forms inside]
  | .catchClause parameter body => by
      simp [Node.scopeItems, allScopesMeet, scopesMeet, forms.catchClause,
        parameter.meet_scopeItems forms, body.meet_scopeItems forms]
  | .enumeration _ members => by
      simp [Node.scopeItems, allScopesMeet, scopesMeet, forms.plain,
        forms.binder .enumeration rfl, Node.meet_scopeItemsAll forms members]
  | .enumMember _ value => by
      simp [Node.scopeItems, allScopesMeet, scopesMeet, forms.binder .enumMember rfl,
        Node.meet_scopeItemsOption forms value]
  | .namespaceBlock name body => by
      cases name <;> simp [Node.scopeItems, allScopesMeet, scopesMeet, forms.plain,
        forms.binder .namespaceBlock rfl, Node.meet_scopeItemsAll forms body]
  | .interface _ inside => by
      simp [Node.scopeItems, allScopesMeet, scopesMeet, forms.plain,
        forms.binder .interface rfl, Node.meet_scopeItemsAll forms inside]
  | .typeAlias _ inside => by
      simp [Node.scopeItems, allScopesMeet, scopesMeet, forms.plain,
        forms.binder .typeAlias rfl, Node.meet_scopeItemsAll forms inside]
  | .importing declaration => allScopesMeet_binders forms .imported rfl _ declaration.clauses
  | .importEquals _ target => by
      simp [Node.scopeItems, allScopesMeet, scopesMeet, forms.binder .importAlias rfl,
        Node.meet_scopeItemsAll forms target]
  | .exportSpecifier specifier => allScopesMeet_exportSpecifier specifier
  | .element name typeArguments _ attributes children closing => by
      simp [Node.scopeItems, allScopesMeet_tagName, allScopesMeet_tagNameOption,
        Node.meet_scopeItemsAll forms typeArguments, Node.meet_scopeItemsAll forms attributes,
        Node.meet_scopeItemsAll forms children]

theorem Node.meet_scopeItemsAll (forms : condition.HoldsOfForms) :
    ∀ nodes : List Node, allScopesMeet condition (Node.scopeItemsAll nodes) = true
  | [] => rfl
  | node :: rest => by
      simp [Node.scopeItemsAll, node.meet_scopeItems forms, Node.meet_scopeItemsAll forms rest]

theorem Node.meet_scopeItemsOption (forms : condition.HoldsOfForms) :
    ∀ node : Option Node, allScopesMeet condition (Node.scopeItemsOption node) = true
  | none => rfl
  | some node => node.meet_scopeItems forms

theorem Pattern.meet_scopeItems (forms : condition.HoldsOfForms) :
    ∀ pattern : Pattern, allScopesMeet condition pattern.scopeItems = true
  | .name _ => rfl
  | .object properties => Pattern.meet_scopeItemsAll forms properties
  | .array elements => Pattern.meet_scopeItemsAll forms elements
  | .hole => rfl
  | .keyed key value => by
      simp [Pattern.scopeItems, key.meet_scopeItems forms, value.meet_scopeItems forms]
  | .withDefault target value => by
      simp [Pattern.scopeItems, target.meet_scopeItems forms, value.meet_scopeItems forms]
  | .rest target => target.meet_scopeItems forms

theorem Pattern.meet_scopeItemsAll (forms : condition.HoldsOfForms) :
    ∀ patterns : List Pattern, allScopesMeet condition (Pattern.scopeItemsAll patterns) = true
  | [] => rfl
  | pattern :: rest => by
      simp [Pattern.scopeItemsAll, pattern.meet_scopeItems forms,
        Pattern.meet_scopeItemsAll forms rest]

theorem Parameter.meet_scopeItems (forms : condition.HoldsOfForms) :
    ∀ parameter : Parameter, allScopesMeet condition parameter.scopeItems = true
  | .mk decorators pattern ascription default => by
      simp [Parameter.scopeItems, Node.meet_scopeItemsAll forms decorators,
        pattern.meet_scopeItems forms, Node.meet_scopeItemsOption forms ascription,
        Node.meet_scopeItemsOption forms default]

theorem Parameter.meet_scopeItemsAll (forms : condition.HoldsOfForms) :
    ∀ parameters : List Parameter,
      allScopesMeet condition (Parameter.scopeItemsAll parameters) = true
  | [] => rfl
  | parameter :: rest => by
      simp [Parameter.scopeItemsAll, parameter.meet_scopeItems forms,
        Parameter.meet_scopeItemsAll forms rest]

theorem Declarator.meet_scopeItems (forms : condition.HoldsOfForms) :
    ∀ declarator : Declarator, allScopesMeet condition declarator.scopeItems = true
  | .mk pattern ascription initializer => by
      simp [Declarator.scopeItems, pattern.meet_scopeItems forms,
        Node.meet_scopeItemsOption forms ascription,
        Node.meet_scopeItemsOption forms initializer]

theorem Declarator.meet_scopeItemsAll (forms : condition.HoldsOfForms) :
    ∀ declarators : List Declarator,
      allScopesMeet condition (Declarator.scopeItemsAll declarators) = true
  | [] => rfl
  | declarator :: rest => by
      simp [Declarator.scopeItemsAll, declarator.meet_scopeItems forms,
        Declarator.meet_scopeItemsAll forms rest]

end

/-- A name that is bound at the top of a module is not bound by a form in its own scope. -/
theorem Program.isOwn_of_mem_binders {program : Program} {binder : Binder}
    (bound : binder ∈ program.frame.binders) : binder.form.isOwn = false := by
  have forms : Condition.HoldsOfForms ⟨fun _ _ _ => true, fun form => !form.isOwn⟩ :=
    ⟨fun _ _ => rfl, fun _ _ _ => rfl, fun _ _ _ => rfl, fun _ => rfl, fun _ => by simp⟩
  rcases List.mem_append.mp bound with inside | hoisted
  · have held := ScopeItem.binder_of_mem_localBindersAll _
      (Node.meet_scopeItemsAll forms program.body) binder inside
    simpa using held
  · rw [Frame.form_of_mem_hoisted hoisted]
    rfl

end Syntax
end IconSize
