import IconSize.Proofs.Scope.Replacement

/-!
What the body of a function does to its parameter list. Both share one scope, so that a name that
the body declares at its top or by a `var` hides the module's from the default values, keys and
types of the parameters. Otherwise references in a parameter list do not depend on the body.
-/

namespace IconSize
open Syntax ScopeItem

/-! ## References in a hole -/

section
variable {First Second Shared : Type} {Left : First → Shared → Prop}
  {Right : Second → Shared → Prop}

theorem forall₂_of_shared {Both : First → Second → Prop} {firsts : List First}
    {seconds : List Second} {shared : List Shared} (left : List.Forall₂ Left firsts shared)
    (right : List.Forall₂ Right seconds shared)
    (both : ∀ first second common, Left first common → Right second common → Both first second) :
    List.Forall₂ Both firsts seconds := by
  induction left generalizing seconds with
  | nil => cases right; exact .nil
  | cons holds _ induction =>
      rcases right with _ | ⟨holds', rest⟩
      exact .cons (both _ _ _ holds holds') (induction rest)

theorem exists_prefix_of_forall₂ {firsts : List First} {shared part : List Shared} {offset : Nat}
    (left : List.Forall₂ Left firsts shared) (lies : part <+: shared.drop offset) :
    ∃ found, found <+: firsts.drop offset ∧ List.Forall₂ Left found part := by
  refine ⟨(firsts.drop offset).take part.length, List.take_prefix _ _, ?_⟩
  have taken := List.forall₂_take part.length (List.forall₂_drop offset left)
  rwa [← List.prefix_iff_eq_take.mp lies] at taken

end

/-- A reference in a hole means the module's exactly if no scope around it does declare its name:
neither one inside the hole nor one of the layers. -/
theorem ScopeAnalysis.exists_references_in_hole {program : Program} {items : List ScopeItem}
    {layers : List Layer} (holds : program.scopeItems = fillAll items layers)
    (taken : waitingAt [] layers = []) :
    ∃ found, found <+: (ofProgram program).references.drop (referencesBefore layers) ∧
      List.Forall₂ (fun reference place => place.site.IsOf reference ∧ ∀ name space,
          (ofProgram program).scopes.resolveIn reference.scope name space = .root ↔
            (∀ surrounding ∈ place.around, ¬ surrounding.frame.DeclaresIn name space) ∧
              ∀ surrounding ∈ aroundAt items [] [] layers,
                ¬ surrounding.frame.DeclaresIn name space)
        found (placesAll [] [] items) := by
  have lies := places_prefix_fillAll items layers [] []
  rw [← holds, taken, placesAll_eq_map] at lies
  rcases exists_prefix_of_forall₂ (resolveIn_eq_root_iff program) lies with ⟨found, part, resolved⟩
  rw [List.forall₂_map_right_iff] at resolved
  refine ⟨found, part, resolved.imp fun reference place resolved => ⟨⟨resolved.1.name,
    resolved.1.span, resolved.1.space⟩, fun name space => ?_⟩⟩
  rw [resolved.2 name space, Place.inside, List.forall_mem_append]

/-! ## Parameter lists -/

theorem Frame.declaresIn_append {own : List Binder} {front back : List ScopeItem} {name : String}
    {space : Namespace} :
    (Frame.mk .function own (front ++ back)).DeclaresIn name space ↔
      (Frame.mk .function own front).DeclaresIn name space ∨
        (Frame.mk .function [] back).DeclaresIn name space := by
  cases space <;>
    simp only [DeclaresIn, record, hoisted, declaredValues, declaredTypes, localBindersAll_append,
      hoistedBindersAll_append, List.filter_append, List.map_append, List.mem_append, List.map_nil,
      List.not_mem_nil, reduceCtorEq, if_false, false_or] <;>
    tauto

section
variable (role : FunctionRole) (name : Option Identifier) (typeParameters : List Node)
  (receiver : Option Node) (parameters : List Parameter) (result : Option Node) (body : List Node)

/-- A function with a hole for what its parameters mean to scopes. -/
def Syntax.Node.parameterLayers : List ScopeItem.Layer :=
  [.beside (role.declared name) [], .within .function (role.own name parameters) [],
    .beside (Node.scopeItemsAll typeParameters ++ Node.scopeItemsOption receiver)
      (Node.scopeItemsOption result ++ Node.scopeItemsAll body)]

theorem referenceCountAll_declared : referenceCountAll (role.declared name) = 0 := by
  cases role <;> cases name <;> rfl

theorem Syntax.Node.scopeItems_function :
    (Node.function role name typeParameters receiver parameters result body).scopeItems =
      fillAll (Parameter.scopeItemsAll parameters)
        (Node.parameterLayers role name typeParameters receiver parameters result body) := by
  simp [Node.scopeItems, Node.parameterLayers, ScopeItem.Layer.fill]

/-- What stands in the body of a function makes no difference to the scopes around it. -/
theorem Syntax.Node.alike_function (other : List Node) :
    Alike (Node.function role name typeParameters receiver parameters result body).scopeItems
      (Node.function role name typeParameters receiver parameters result other).scopeItems where
  bound := by simp [Node.scopeItems, localBindersAll, localBinders]
  hoisted := by simp [Node.scopeItems, hoistedBindersAll, hoistedBinders]
  opens := by simp [Node.scopeItems, scopeCountAll, scopeCount]

/-- The scope of a function that is given these binders. -/
def Syntax.Node.functionScope (given : List Binder) : Surrounding :=
  ⟨⟨⟨.function, role.own name parameters, Node.scopeItemsAll typeParameters
    ++ Node.scopeItemsOption receiver ++ Parameter.scopeItemsAll parameters
    ++ Node.scopeItemsOption result ++ Node.scopeItemsAll body⟩, []⟩, given⟩

/-- One scope lies between a function and its parameters. -/
theorem aroundAt_parameterLayers (held : List Binder) (outer : List Surrounding) :
    aroundAt (Parameter.scopeItemsAll parameters) held outer
        (Node.parameterLayers role name typeParameters receiver parameters result body) =
      Node.functionScope role name typeParameters receiver parameters result body
        (stillHeld held (scopeCountAll (role.declared name)) ++ role.own name parameters)
        :: outer := by
  simp [aroundAt, Node.parameterLayers, Node.functionScope, Layer.around, Layer.waiting,
    Layer.fill, scopeCountAll, stillHeld]

/-- The scope of a function declares what it declares with an empty body and what the body
declares. -/
theorem declaresIn_functionScope_iff (given : List Binder) (target : String) (space : Namespace) :
    (Node.functionScope role name typeParameters receiver parameters result body
        given).frame.DeclaresIn target space ↔
      (Node.functionScope role name typeParameters receiver parameters result []
          given).frame.DeclaresIn target space ∨
        (Frame.mk .function [] (Node.scopeItemsAll body)).DeclaresIn target space := by
  simp only [Node.functionScope, Surrounding.frame, Node.scopeItemsAll, List.append_nil]
  exact Frame.declaresIn_append

end

/-- A reference in the parameter list of a function means the module's exactly if it does so where
the body is empty and the body does not declare its name. -/
theorem parameter_lists_see_what_bodies_declare (context : Program.Context) (role : FunctionRole)
    (name : Option Identifier) (typeParameters : List Node) (receiver : Option Node)
    (parameters : List Parameter) (result : Option Node) (body : List Node) :
    let function := Node.function role name typeParameters receiver parameters result
    let analysis := ScopeAnalysis.ofProgram (context.fill (function body))
    let emptied := ScopeAnalysis.ofProgram (context.fill (function []))
    let offset := context.referencesBefore
      + referenceCountAll (Node.scopeItemsAll typeParameters ++ Node.scopeItemsOption receiver)
    ∃ found twins,
      found <+: analysis.references.drop offset ∧ twins <+: emptied.references.drop offset ∧
        List.Forall₂ (fun reference place => place.site.IsOf reference) found
          (placesAll [] [] (Parameter.scopeItemsAll parameters)) ∧
        List.Forall₂ (fun reference twin => twin.name = reference.name ∧
            twin.span = reference.span ∧ twin.space = reference.space ∧
            (reference.resolve analysis.scopes reference.name = .root ↔
              twin.resolve emptied.scopes twin.name = .root ∧
                ¬ (Frame.mk .function [] (Node.scopeItemsAll body)).DeclaresIn reference.name
                  reference.space))
          found twins := by
  intro function analysis emptied offset
  let inner (body : List Node) : List Layer :=
    Node.parameterLayers role name typeParameters receiver parameters result body
  have holds (body : List Node) : (context.fill (function body)).scopeItems =
      fillAll (Parameter.scopeItemsAll parameters) (context.itemLayers ++ inner body) := by
    rw [context.scopeItems_fill, Node.scopeItems_function, ← fillAll_append]
  have taken (body : List Node) : waitingAt [] (context.itemLayers ++ inner body) = [] := by
    simp [inner, waitingAt, Node.parameterLayers, Layer.waiting]
  have alike := (Node.alike_function role name typeParameters receiver parameters result body
    []).aroundAt context.itemLayers [] .nil
  rcases ScopeAnalysis.exists_references_in_hole (holds body) (taken body) with
    ⟨found, part, resolved⟩
  rcases ScopeAnalysis.exists_references_in_hole (holds []) (taken []) with
    ⟨twins, part', resolved'⟩
  have start (body : List Node) : referencesBefore (context.itemLayers ++ inner body) = offset := by
    simp [referencesBefore_append, referencesBefore, inner, Node.parameterLayers,
      Layer.referencesBefore, offset, Program.Context.referencesBefore, referenceCountAll,
      referenceCountAll_declared]
  rw [start] at part part'
  refine ⟨found, twins, part, part', resolved.imp fun _ _ holds => holds.1,
    forall₂_of_shared resolved resolved' ?_⟩
  rintro reference twin place ⟨isOf, meaning⟩ ⟨isOf', meaning'⟩
  have same : twin.name = reference.name ∧ twin.span = reference.span ∧
      twin.space = reference.space :=
    ⟨isOf'.name.trans isOf.name.symm, isOf'.span.trans isOf.span.symm,
      isOf'.space.trans isOf.space.symm⟩
  refine ⟨same.1, same.2.1, same.2.2, ?_⟩
  rw [Reference.resolve, Reference.resolve, meaning, meaning', same.1, same.2.2,
    aroundAt_append, aroundAt_append, aroundAt_parameterLayers, aroundAt_parameterLayers,
    List.forall_mem_cons, List.forall_mem_cons, declaresIn_functionScope_iff,
    ← Node.scopeItems_function, ← Node.scopeItems_function,
    Surrounding.forall_not_declaresIn_iff alike]
  tauto

/-! ## Default values that a body hides -/

/-- `function f(a = A) { … }` with statements in its body. -/
private def defaultValue (body : List Node) : Program :=
  ⟨[.function .declaration (some ⟨"f", ⟨9, 10⟩⟩) [] none
    [.mk [] (.name ⟨"a", ⟨11, 12⟩⟩) none (some (.reference ⟨"A", ⟨15, 16⟩⟩))] none body]⟩

/-- `const A = 1;` -/
private def constantInBody : Node :=
  .variables .const [.mk (.name ⟨"A", ⟨26, 27⟩⟩) none (some (.group .literal []))]

/-- A constant in the body of a function hides the module's from a default value, where it is not in
scope. -/
theorem bodies_hide_default_values :
    Program.parse .standard "function f(a = A) \x7b const A = 1; \x7d" =
        .ok (defaultValue [constantInBody]) ∧
      Program.parse .standard "function f(a = A) \x7b\x7d" = .ok (defaultValue []) ∧
      (defaultValue [constantInBody]).meanings = [.shadowed ⟨1⟩] ∧
      (defaultValue []).meanings = [.root] :=
  ⟨by decide +kernel, by decide +kernel, by decide +kernel, by decide +kernel⟩

end IconSize
