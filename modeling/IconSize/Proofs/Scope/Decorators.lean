import IconSize.Proofs.Scope.ModuleScopes

/-!
Decorators of named class expressions. They are all that can stand between a name and the scope that
it waits for: in a module without them every name reaches its scope.
-/

namespace IconSize
open ScopeItem

namespace Syntax

mutual

/-- Does no class in the node carry decorators while its name waits for the scope of the class? -/
def Node.isUndecorated : Node → Bool
  | .reference _ | .shorthand _ | .targetShorthand _ | .importing _ | .exportSpecifier _ => true
  | .typeReference _ parts | .typeParameter _ parts | .group _ parts | .block _ parts
  | .staticBlock parts | .enumeration _ parts | .namespaceBlock _ parts | .interface _ parts
  | .typeAlias _ parts | .importEquals _ parts => Node.isUndecoratedAll parts
  | .parenthesized inner => inner.isUndecorated
  | .property key value => key.isUndecorated && value.isUndecorated
  | .shorthandDefault _ value => value.isUndecorated
  | .variables _ declarators => Declarator.isUndecoratedAll declarators
  | .function _ _ typeParameters receiver parameters result body =>
    Node.isUndecoratedAll typeParameters && Node.isUndecoratedOption receiver &&
      Parameter.isUndecoratedAll parameters && Node.isUndecoratedOption result &&
      Node.isUndecoratedAll body
  | .signature head parameters result =>
    Node.isUndecoratedAll head && Parameter.isUndecoratedAll parameters &&
      Node.isUndecoratedOption result
  | .classNode role decorators name inside =>
    ((role.own name).isEmpty || decorators.isEmpty) && Node.isUndecoratedAll decorators &&
      Node.isUndecoratedAll inside
  | .catchClause parameter body => parameter.isUndecorated && body.isUndecorated
  | .enumMember _ value => Node.isUndecoratedOption value
  | .element _ typeArguments _ attributes children _ =>
    Node.isUndecoratedAll typeArguments && Node.isUndecoratedAll attributes &&
      Node.isUndecoratedAll children

def Node.isUndecoratedAll : List Node → Bool
  | [] => true
  | node :: nodes => node.isUndecorated && Node.isUndecoratedAll nodes

def Node.isUndecoratedOption : Option Node → Bool
  | none => true
  | some node => node.isUndecorated

def Pattern.isUndecorated : Pattern → Bool
  | .name _ | .hole => true
  | .object parts | .array parts => Pattern.isUndecoratedAll parts
  | .keyed key value => key.isUndecorated && value.isUndecorated
  | .withDefault target value => target.isUndecorated && value.isUndecorated
  | .rest target => target.isUndecorated

def Pattern.isUndecoratedAll : List Pattern → Bool
  | [] => true
  | pattern :: patterns => pattern.isUndecorated && Pattern.isUndecoratedAll patterns

def Parameter.isUndecorated : Parameter → Bool
  | .mk decorators pattern ascription default =>
    Node.isUndecoratedAll decorators && pattern.isUndecorated &&
      Node.isUndecoratedOption ascription && Node.isUndecoratedOption default

def Parameter.isUndecoratedAll : List Parameter → Bool
  | [] => true
  | parameter :: parameters => parameter.isUndecorated && Parameter.isUndecoratedAll parameters

def Declarator.isUndecorated : Declarator → Bool
  | .mk pattern ascription initializer =>
    pattern.isUndecorated && Node.isUndecoratedOption ascription &&
      Node.isUndecoratedOption initializer

def Declarator.isUndecoratedAll : List Declarator → Bool
  | [] => true
  | declarator :: declarators =>
    declarator.isUndecorated && Declarator.isUndecoratedAll declarators

end

end Syntax

/-! ## Items of a tree without such decorators -/

@[simp] theorem ScopeItem.isTightAll_append (front back : List ScopeItem) :
    isTightAll (front ++ back) = (isTightAll front && isTightAll back) := by
  induction front with
  | nil => rfl
  | cons item front induction => simp [isTightAll, induction, Bool.and_assoc]

@[simp] theorem ScopeItem.isTightAll_binders {Name : Type} (binder : Name → Binder)
    (names : List Name) : isTightAll (names.map fun name => .binder (binder name)) = true := by
  induction names with
  | nil => rfl
  | cons name names induction => simpa [isTightAll, isTight] using induction

namespace Syntax

@[simp] theorem FunctionRole.isTightAll_declared (role : FunctionRole) (name : Option Identifier) :
    isTightAll (role.declared name) = true := by
  cases role <;> cases name <;> rfl

@[simp] theorem ClassRole.isTightAll_declared (role : ClassRole) (name : Option Identifier) :
    isTightAll (role.declared name) = true := by
  cases role <;> cases name <;> rfl

@[simp] theorem TagName.isTightAll_scopeItems (name : TagName) :
    isTightAll name.scopeItems = true := by
  cases name <;> rfl

@[simp] theorem TagName.isTightAll_scopeItemsOption (name : Option TagName) :
    isTightAll (scopeItemsOption name) = true := by
  cases name <;> simp [scopeItemsOption, isTightAll]

theorem ExportSpecifier.isTightAll_scopeItems (specifier : ExportSpecifier) :
    isTightAll specifier.scopeItems = true := by
  unfold scopeItems
  split <;> rfl

mutual

theorem Node.isTightAll_scopeItems :
    ∀ node : Node, node.isUndecorated = true → isTightAll node.scopeItems = true
  | .reference _, _ | .shorthand _, _ | .targetShorthand _, _ => rfl
  | .typeReference _ parts, plain | .typeParameter _ parts, plain | .importEquals _ parts, plain
  | .block _ parts, plain | .staticBlock parts, plain | .enumeration _ parts, plain
  | .interface _ parts, plain | .typeAlias _ parts, plain => by
      have inside := Node.isTightAll_scopeItemsAll parts plain
      simp [Node.scopeItems, isTightAll, isTight, inside]
  | .group _ parts, plain => Node.isTightAll_scopeItemsAll parts plain
  | .parenthesized inner, plain => inner.isTightAll_scopeItems plain
  | .property key value, plain => by
      simp only [Node.isUndecorated, Bool.and_eq_true] at plain
      simp [Node.scopeItems, key.isTightAll_scopeItems plain.1,
        value.isTightAll_scopeItems plain.2]
  | .shorthandDefault _ value, plain => by
      simp [Node.scopeItems, isTightAll, isTight, value.isTightAll_scopeItems plain]
  | .variables _ declarators, plain => by
      simp [Node.scopeItems, Declarator.isTightAll_scopeItemsAll declarators plain]
  | .function _ _ typeParameters receiver parameters result body, plain => by
      simp only [Node.isUndecorated, Bool.and_eq_true] at plain
      rcases plain with ⟨⟨⟨⟨typed, received⟩, given⟩, returned⟩, inside⟩
      simp [Node.scopeItems, isTightAll, isTight, scopeCountAll,
        Node.isTightAll_scopeItemsAll typeParameters typed,
        Node.isTightAll_scopeItemsOption receiver received,
        Parameter.isTightAll_scopeItemsAll parameters given,
        Node.isTightAll_scopeItemsOption result returned,
        Node.isTightAll_scopeItemsAll body inside]
  | .signature head parameters result, plain => by
      simp only [Node.isUndecorated, Bool.and_eq_true] at plain
      simp [Node.scopeItems, isTightAll, isTight, Node.isTightAll_scopeItemsAll head plain.1.1,
        Parameter.isTightAll_scopeItemsAll parameters plain.1.2,
        Node.isTightAll_scopeItemsOption result plain.2]
  | .classNode role decorators name inside, plain => by
      simp only [Node.isUndecorated, Bool.and_eq_true, Bool.or_eq_true, List.isEmpty_iff] at plain
      rcases plain with ⟨⟨free, before⟩, within⟩
      -- Either nothing waits for the class, or nothing stands before it.
      have reached : (role.own name).isEmpty = true ∨
          scopeCountAll (Node.scopeItemsAll decorators) = 0 := by
        rcases free with unnamed | rfl
        · exact .inl (List.isEmpty_iff.mpr unnamed)
        · exact .inr rfl
      simpa [Node.scopeItems, isTightAll, isTight, Node.isTightAll_scopeItemsAll decorators before,
        Node.isTightAll_scopeItemsAll inside within] using reached
  | .catchClause parameter body, plain => by
      simp only [Node.isUndecorated, Bool.and_eq_true] at plain
      simp [Node.scopeItems, isTightAll, isTight, scopeCountAll,
        parameter.isTightAll_scopeItems plain.1, body.isTightAll_scopeItems plain.2]
  | .enumMember _ value, plain => by
      simp [Node.scopeItems, isTightAll, isTight, Node.isTightAll_scopeItemsOption value plain]
  | .namespaceBlock name body, plain => by
      cases name <;>
        simp [Node.scopeItems, isTightAll, isTight, Node.isTightAll_scopeItemsAll body plain]
  | .importing declaration, _ => by simp [Node.scopeItems]
  | .exportSpecifier specifier, _ => specifier.isTightAll_scopeItems
  | .element _ typeArguments _ attributes children _, plain => by
      simp only [Node.isUndecorated, Bool.and_eq_true] at plain
      simp [Node.scopeItems, Node.isTightAll_scopeItemsAll typeArguments plain.1.1,
        Node.isTightAll_scopeItemsAll attributes plain.1.2,
        Node.isTightAll_scopeItemsAll children plain.2]

theorem Node.isTightAll_scopeItemsAll : ∀ nodes : List Node,
    Node.isUndecoratedAll nodes = true → isTightAll (Node.scopeItemsAll nodes) = true
  | [], _ => rfl
  | node :: nodes, plain => by
      simp only [Node.isUndecoratedAll, Bool.and_eq_true] at plain
      simp [Node.scopeItemsAll, node.isTightAll_scopeItems plain.1,
        Node.isTightAll_scopeItemsAll nodes plain.2]

theorem Node.isTightAll_scopeItemsOption : ∀ node : Option Node,
    Node.isUndecoratedOption node = true → isTightAll (Node.scopeItemsOption node) = true
  | none, _ => rfl
  | some node, plain => node.isTightAll_scopeItems plain

theorem Pattern.isTightAll_scopeItems :
    ∀ pattern : Pattern, pattern.isUndecorated = true → isTightAll pattern.scopeItems = true
  | .name _, _ | .hole, _ => rfl
  | .object parts, plain | .array parts, plain => Pattern.isTightAll_scopeItemsAll parts plain
  | .keyed key value, plain => by
      simp only [Pattern.isUndecorated, Bool.and_eq_true] at plain
      simp [Pattern.scopeItems, key.isTightAll_scopeItems plain.1,
        value.isTightAll_scopeItems plain.2]
  | .withDefault target value, plain => by
      simp only [Pattern.isUndecorated, Bool.and_eq_true] at plain
      simp [Pattern.scopeItems, target.isTightAll_scopeItems plain.1,
        value.isTightAll_scopeItems plain.2]
  | .rest target, plain => target.isTightAll_scopeItems plain

theorem Pattern.isTightAll_scopeItemsAll : ∀ patterns : List Pattern,
    Pattern.isUndecoratedAll patterns = true → isTightAll (Pattern.scopeItemsAll patterns) = true
  | [], _ => rfl
  | pattern :: patterns, plain => by
      simp only [Pattern.isUndecoratedAll, Bool.and_eq_true] at plain
      simp [Pattern.scopeItemsAll, pattern.isTightAll_scopeItems plain.1,
        Pattern.isTightAll_scopeItemsAll patterns plain.2]

theorem Parameter.isTightAll_scopeItems : ∀ parameter : Parameter,
    parameter.isUndecorated = true → isTightAll parameter.scopeItems = true
  | .mk decorators pattern ascription default, plain => by
      simp only [Parameter.isUndecorated, Bool.and_eq_true] at plain
      rcases plain with ⟨⟨⟨before, bound⟩, typed⟩, otherwise⟩
      simp [Parameter.scopeItems, Node.isTightAll_scopeItemsAll decorators before,
        pattern.isTightAll_scopeItems bound, Node.isTightAll_scopeItemsOption ascription typed,
        Node.isTightAll_scopeItemsOption default otherwise]

theorem Parameter.isTightAll_scopeItemsAll : ∀ parameters : List Parameter,
    Parameter.isUndecoratedAll parameters = true →
      isTightAll (Parameter.scopeItemsAll parameters) = true
  | [], _ => rfl
  | parameter :: parameters, plain => by
      simp only [Parameter.isUndecoratedAll, Bool.and_eq_true] at plain
      simp [Parameter.scopeItemsAll, parameter.isTightAll_scopeItems plain.1,
        Parameter.isTightAll_scopeItemsAll parameters plain.2]

theorem Declarator.isTightAll_scopeItems : ∀ declarator : Declarator,
    declarator.isUndecorated = true → isTightAll declarator.scopeItems = true
  | .mk pattern ascription initializer, plain => by
      simp only [Declarator.isUndecorated, Bool.and_eq_true] at plain
      simp [Declarator.scopeItems, pattern.isTightAll_scopeItems plain.1.1,
        Node.isTightAll_scopeItemsOption ascription plain.1.2,
        Node.isTightAll_scopeItemsOption initializer plain.2]

theorem Declarator.isTightAll_scopeItemsAll : ∀ declarators : List Declarator,
    Declarator.isUndecoratedAll declarators = true →
      isTightAll (Declarator.scopeItemsAll declarators) = true
  | [], _ => rfl
  | declarator :: declarators, plain => by
      simp only [Declarator.isUndecoratedAll, Bool.and_eq_true] at plain
      simp [Declarator.scopeItemsAll, declarator.isTightAll_scopeItems plain.1,
        Declarator.isTightAll_scopeItemsAll declarators plain.2]

end

/-- Where no named class expression of a module carries decorators, all names reach the scope that
they wait for. -/
theorem Program.isTight_of_isUndecorated (program : Program)
    (plain : Node.isUndecoratedAll program.body = true) : program.isTight = true :=
  Node.isTightAll_scopeItemsAll program.body plain

end Syntax
end IconSize
