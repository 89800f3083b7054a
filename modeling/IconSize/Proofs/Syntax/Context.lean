import IconSize.Proofs.Scope.Structure

/-!
Modules with a hole for one node. A context is the way from the top of a module to the hole, layer
by layer, with all that stands beside it. What a filled context means to scopes is what the node
means, within the same layers: `Program.Context.scopeItems_fill`.
-/

namespace IconSize
open Syntax

/-! ## Items with a hole -/

namespace ScopeItem

/-- A form around a hole for items. -/
inductive Layer where
  /-- Items of the same scope, before and after. -/
  | beside (front back : List ScopeItem)
  /-- A scope that has the hole in it. -/
  | within (kind : ScopeKind) (own : List Binder) (before : List ScopeItem)
  /-- A scope that has the hole in the items of its form that stand before it. -/
  | ahead (kind : ScopeKind) (own : List Binder) (inside : List ScopeItem)

namespace Layer

def fill (items : List ScopeItem) : Layer → List ScopeItem
  | beside front back => front ++ items ++ back
  | within kind own before => [.scope kind own before items]
  | ahead kind own inside => [.scope kind own items inside]

def scopesBefore : Layer → Nat
  | beside front _ => scopeCountAll front
  | within _ _ before => scopeCountAll before + 1
  | ahead _ _ _ => 0

end Layer

/-- The layers around items, the outermost first. -/
def fillAll (items : List ScopeItem) (layers : List Layer) : List ScopeItem :=
  layers.foldr (fun layer inner => layer.fill inner) items

@[simp] theorem fillAll_nil (items : List ScopeItem) : fillAll items [] = items := rfl

@[simp] theorem fillAll_cons (items : List ScopeItem) (layer : Layer) (layers : List Layer) :
    fillAll items (layer :: layers) = layer.fill (fillAll items layers) := rfl

/-- How many scopes of the layers begin before the hole. -/
def scopesBefore : List Layer → Nat
  | [] => 0
  | layer :: layers => layer.scopesBefore + scopesBefore layers

theorem fillAll_append (items : List ScopeItem) (outer inner : List Layer) :
    fillAll items (outer ++ inner) = fillAll (fillAll items inner) outer :=
  List.foldr_append

end ScopeItem

/-! ## Trees with a hole -/

namespace Syntax
open ScopeItem

/-- A pattern with a hole for one of its keys or default values. -/
inductive Pattern.Context where
  | inProperty (front : List Pattern) (inner : Context) (back : List Pattern)
  | inElement (front : List Pattern) (inner : Context) (back : List Pattern)
  | inKey (value : Pattern)
  | inValue (key : Node) (inner : Context)
  | inTarget (inner : Context) (value : Node)
  | inDefault (target : Pattern)
  | inRest (inner : Context)

namespace Pattern.Context

def fill (node : Node) : Context → Pattern
  | inProperty front inner back => .object (front ++ inner.fill node :: back)
  | inElement front inner back => .array (front ++ inner.fill node :: back)
  | inKey value => .keyed node value
  | inValue key inner => .keyed key (inner.fill node)
  | inTarget inner value => .withDefault (inner.fill node) value
  | inDefault target => .withDefault target node
  | inRest inner => .rest (inner.fill node)

/-- The names that the pattern binds, whatever is in the hole. -/
def boundNames : Context → List String
  | inProperty front inner back =>
    Pattern.boundNamesOf front ++ inner.boundNames ++ Pattern.boundNamesOf back
  | inElement front inner back =>
    Pattern.boundNamesOf front ++ inner.boundNames ++ Pattern.boundNamesOf back
  | inKey value => value.boundNames
  | inValue _ inner => inner.boundNames
  | inTarget inner _ => inner.boundNames
  | inDefault target => target.boundNames
  | inRest inner => inner.boundNames

def itemLayers : Context → List Layer
  | inProperty front inner back =>
    .beside (Pattern.scopeItemsAll front) (Pattern.scopeItemsAll back) :: inner.itemLayers
  | inElement front inner back =>
    .beside (Pattern.scopeItemsAll front) (Pattern.scopeItemsAll back) :: inner.itemLayers
  | inKey value => [.beside [] value.scopeItems]
  | inValue key inner => .beside key.scopeItems [] :: inner.itemLayers
  | inTarget inner value => .beside [] value.scopeItems :: inner.itemLayers
  | inDefault target => [.beside target.scopeItems []]
  | inRest inner => inner.itemLayers

@[simp] theorem boundNames_fill (context : Context) (node : Node) :
    (context.fill node).boundNames = context.boundNames := by
  induction context with
  | inProperty front inner back induction =>
      simp [fill, boundNames, Pattern.boundNames, Pattern.boundNamesOf_append, Pattern.boundNamesOf,
        induction]
  | inElement front inner back induction =>
      simp [fill, boundNames, Pattern.boundNames, Pattern.boundNamesOf_append, Pattern.boundNamesOf,
        induction]
  | inKey value => rfl
  | inValue key inner induction => exact induction
  | inTarget inner value induction => exact induction
  | inDefault target => rfl
  | inRest inner induction => exact induction

theorem scopeItems_fill (context : Context) (node : Node) :
    (context.fill node).scopeItems = fillAll node.scopeItems context.itemLayers := by
  induction context with
  | inProperty front inner back induction =>
      simp [fill, itemLayers, Layer.fill, Pattern.scopeItems, Pattern.scopeItemsAll_append,
        Pattern.scopeItemsAll, induction]
  | inElement front inner back induction =>
      simp [fill, itemLayers, Layer.fill, Pattern.scopeItems, Pattern.scopeItemsAll_append,
        Pattern.scopeItemsAll, induction]
  | inKey value => simp [fill, itemLayers, Layer.fill, Pattern.scopeItems]
  | inValue key inner induction =>
      simp [fill, itemLayers, Layer.fill, Pattern.scopeItems, induction]
  | inTarget inner value induction =>
      simp [fill, itemLayers, Layer.fill, Pattern.scopeItems, induction]
  | inDefault target => simp [fill, itemLayers, Layer.fill, Pattern.scopeItems]
  | inRest inner induction => exact induction

end Pattern.Context

/-- A parameter with a hole. -/
inductive Parameter.Context where
  | inDecorator (front back : List Node) (pattern : Pattern) (ascription default : Option Node)
  | inPattern (decorators : List Node) (inner : Pattern.Context) (ascription default : Option Node)
  | inAscription (decorators : List Node) (pattern : Pattern) (default : Option Node)
  | inDefault (decorators : List Node) (pattern : Pattern) (ascription : Option Node)

namespace Parameter.Context

def fill (node : Node) : Context → Parameter
  | inDecorator front back pattern ascription default =>
    .mk (front ++ node :: back) pattern ascription default
  | inPattern decorators inner ascription default =>
    .mk decorators (inner.fill node) ascription default
  | inAscription decorators pattern default => .mk decorators pattern (some node) default
  | inDefault decorators pattern ascription => .mk decorators pattern ascription (some node)

def boundNames : Context → List String
  | inDecorator _ _ pattern _ _ => pattern.boundNames
  | inPattern _ inner _ _ => inner.boundNames
  | inAscription _ pattern _ => pattern.boundNames
  | inDefault _ pattern _ => pattern.boundNames

def itemLayers : Context → List Layer
  | inDecorator front back pattern ascription default =>
    [.beside (Node.scopeItemsAll front) (Node.scopeItemsAll back ++ pattern.scopeItems
      ++ Node.scopeItemsOption ascription ++ Node.scopeItemsOption default)]
  | inPattern decorators inner ascription default =>
    .beside (Node.scopeItemsAll decorators)
      (Node.scopeItemsOption ascription ++ Node.scopeItemsOption default) :: inner.itemLayers
  | inAscription decorators pattern default =>
    [.beside (Node.scopeItemsAll decorators ++ pattern.scopeItems)
      (Node.scopeItemsOption default)]
  | inDefault decorators pattern ascription =>
    [.beside (Node.scopeItemsAll decorators ++ pattern.scopeItems
      ++ Node.scopeItemsOption ascription) []]

@[simp] theorem boundNames_fill (context : Context) (node : Node) :
    (context.fill node).pattern.boundNames = context.boundNames := by
  cases context with
  | inPattern _ inner _ _ => exact inner.boundNames_fill node
  | _ => rfl

theorem scopeItems_fill (context : Context) (node : Node) :
    (context.fill node).scopeItems = fillAll node.scopeItems context.itemLayers := by
  cases context <;>
    simp [fill, itemLayers, Layer.fill, Parameter.scopeItems, Node.scopeItemsAll,
      Node.scopeItemsOption, Pattern.Context.scopeItems_fill]

end Parameter.Context

/-- A declarator with a hole. -/
inductive Declarator.Context where
  | inPattern (inner : Pattern.Context) (ascription initializer : Option Node)
  | inAscription (pattern : Pattern) (initializer : Option Node)
  | inInitializer (pattern : Pattern) (ascription : Option Node)

namespace Declarator.Context

def fill (node : Node) : Context → Declarator
  | inPattern inner ascription initializer => .mk (inner.fill node) ascription initializer
  | inAscription pattern initializer => .mk pattern (some node) initializer
  | inInitializer pattern ascription => .mk pattern ascription (some node)

def boundNames : Context → List String
  | inPattern inner _ _ => inner.boundNames
  | inAscription pattern _ => pattern.boundNames
  | inInitializer pattern _ => pattern.boundNames

def itemLayers : Context → List Layer
  | inPattern inner ascription initializer =>
    .beside [] (Node.scopeItemsOption ascription ++ Node.scopeItemsOption initializer)
      :: inner.itemLayers
  | inAscription pattern initializer =>
    [.beside pattern.scopeItems (Node.scopeItemsOption initializer)]
  | inInitializer pattern ascription =>
    [.beside (pattern.scopeItems ++ Node.scopeItemsOption ascription) []]

@[simp] theorem boundNames_fill (context : Context) (node : Node) :
    (context.fill node).pattern.boundNames = context.boundNames := by
  cases context with
  | inPattern inner _ _ => exact inner.boundNames_fill node
  | _ => rfl

theorem scopeItems_fill (context : Context) (node : Node) :
    (context.fill node).scopeItems = fillAll node.scopeItems context.itemLayers := by
  cases context <;>
    simp [fill, itemLayers, Layer.fill, Declarator.scopeItems, Node.scopeItemsOption,
      Pattern.Context.scopeItems_fill]

end Declarator.Context

/-- A node with a hole for one of the nodes right below it. -/
inductive Node.Layer where
  | inTypeArgument (name : Identifier) (front back : List Node)
  | inBound (name : Identifier) (front back : List Node)
  | inPart (form : Form) (front back : List Node)
  | inParenthesized
  | inKey (value : Node)
  | inValue (key : Node)
  | inShorthandDefault (name : Identifier)
  | inBlockPart (form : BlockForm) (front back : List Node)
  | inStaticPart (front back : List Node)
  | inDeclarator (kind : VariableKind) (front : List Declarator) (inner : Declarator.Context)
      (back : List Declarator)
  | inFunctionTypeParameter (role : FunctionRole) (name : Option Identifier)
      (front back : List Node) (receiver : Option Node) (parameters : List Parameter)
      (result : Option Node) (body : List Node)
  | inFunctionReceiver (role : FunctionRole) (name : Option Identifier) (typeParameters : List Node)
      (parameters : List Parameter) (result : Option Node) (body : List Node)
  | inFunctionParameter (role : FunctionRole) (name : Option Identifier)
      (typeParameters : List Node) (receiver : Option Node) (front : List Parameter)
      (inner : Parameter.Context) (back : List Parameter) (result : Option Node) (body : List Node)
  | inFunctionResult (role : FunctionRole) (name : Option Identifier) (typeParameters : List Node)
      (receiver : Option Node) (parameters : List Parameter) (body : List Node)
  | inFunctionBody (role : FunctionRole) (name : Option Identifier) (typeParameters : List Node)
      (receiver : Option Node) (parameters : List Parameter) (result : Option Node)
      (front back : List Node)
  | inSignatureHead (front back : List Node) (parameters : List Parameter) (result : Option Node)
  | inSignatureParameter (head : List Node) (front : List Parameter) (inner : Parameter.Context)
      (back : List Parameter) (result : Option Node)
  | inSignatureResult (head : List Node) (parameters : List Parameter)
  | inClassDecorator (role : ClassRole) (front back : List Node) (name : Option Identifier)
      (inside : List Node)
  | inClassPart (role : ClassRole) (decorators : List Node) (name : Option Identifier)
      (front back : List Node)
  | inCatchParameter (inner : Parameter.Context) (body : Node)
  | inCatchBody (parameter : Parameter)
  | inEnumerationMember (name : Identifier) (front back : List Node)
  | inMemberValue (name : String)
  | inNamespacePart (name : Option Identifier) (front back : List Node)
  | inInterfacePart (name : Identifier) (front back : List Node)
  | inAliasPart (name : Identifier) (front back : List Node)
  | inImportTarget (name : Identifier) (front back : List Node)
  | inElementTypeArgument (name : TagName) (front back : List Node) (attributesAt : Nat)
      (attributes children : List Node) (closing : Option TagName)
  | inElementAttribute (name : TagName) (typeArguments : List Node) (attributesAt : Nat)
      (front back children : List Node) (closing : Option TagName)
  | inElementChild (name : TagName) (typeArguments : List Node) (attributesAt : Nat)
      (attributes front back : List Node) (closing : Option TagName)

namespace Node.Layer

def fill (node : Node) : Layer → Node
  | inTypeArgument name front back => .typeReference name (front ++ node :: back)
  | inBound name front back => .typeParameter name (front ++ node :: back)
  | inPart form front back => .group form (front ++ node :: back)
  | inParenthesized => .parenthesized node
  | inKey value => .property node value
  | inValue key => .property key node
  | inShorthandDefault name => .shorthandDefault name node
  | inBlockPart form front back => .block form (front ++ node :: back)
  | inStaticPart front back => .staticBlock (front ++ node :: back)
  | inDeclarator kind front inner back => .variables kind (front ++ inner.fill node :: back)
  | inFunctionTypeParameter role name front back receiver parameters result body =>
    .function role name (front ++ node :: back) receiver parameters result body
  | inFunctionReceiver role name typeParameters parameters result body =>
    .function role name typeParameters (some node) parameters result body
  | inFunctionParameter role name typeParameters receiver front inner back result body =>
    .function role name typeParameters receiver (front ++ inner.fill node :: back) result body
  | inFunctionResult role name typeParameters receiver parameters body =>
    .function role name typeParameters receiver parameters (some node) body
  | inFunctionBody role name typeParameters receiver parameters result front back =>
    .function role name typeParameters receiver parameters result (front ++ node :: back)
  | inSignatureHead front back parameters result =>
    .signature (front ++ node :: back) parameters result
  | inSignatureParameter head front inner back result =>
    .signature head (front ++ inner.fill node :: back) result
  | inSignatureResult head parameters => .signature head parameters (some node)
  | inClassDecorator role front back name inside =>
    .classNode role (front ++ node :: back) name inside
  | inClassPart role decorators name front back =>
    .classNode role decorators name (front ++ node :: back)
  | inCatchParameter inner body => .catchClause (inner.fill node) body
  | inCatchBody parameter => .catchClause parameter node
  | inEnumerationMember name front back => .enumeration name (front ++ node :: back)
  | inMemberValue name => .enumMember name (some node)
  | inNamespacePart name front back => .namespaceBlock name (front ++ node :: back)
  | inInterfacePart name front back => .interface name (front ++ node :: back)
  | inAliasPart name front back => .typeAlias name (front ++ node :: back)
  | inImportTarget name front back => .importEquals name (front ++ node :: back)
  | inElementTypeArgument name front back attributesAt attributes children closing =>
    .element name (front ++ node :: back) attributesAt attributes children closing
  | inElementAttribute name typeArguments attributesAt front back children closing =>
    .element name typeArguments attributesAt (front ++ node :: back) children closing
  | inElementChild name typeArguments attributesAt attributes front back closing =>
    .element name typeArguments attributesAt attributes (front ++ node :: back) closing

/-- What the layer is to scopes. -/
def itemLayers : Layer → List ScopeItem.Layer
  | inTypeArgument name front back =>
    [.beside (.reference name .type :: Node.scopeItemsAll front) (Node.scopeItemsAll back)]
  | inBound name front back =>
    [.beside (.binder ⟨.typeParameter, name.name⟩ :: Node.scopeItemsAll front)
      (Node.scopeItemsAll back)]
  | inPart _ front back => [.beside (Node.scopeItemsAll front) (Node.scopeItemsAll back)]
  | inParenthesized => []
  | inKey value => [.beside [] value.scopeItems]
  | inValue key => [.beside key.scopeItems []]
  | inShorthandDefault name => [.beside [.reference name .value] []]
  | inBlockPart _ front back =>
    [.within .block [] [], .beside (Node.scopeItemsAll front) (Node.scopeItemsAll back)]
  | inStaticPart front back =>
    [.within .function [] [], .beside (Node.scopeItemsAll front) (Node.scopeItemsAll back)]
  | inDeclarator kind front inner back =>
    .beside ((Declarator.boundNames front ++ inner.boundNames ++ Declarator.boundNames back).map
        (fun name => .binder ⟨kind.form, name⟩) ++ Declarator.scopeItemsAll front)
      (Declarator.scopeItemsAll back) :: inner.itemLayers
  | inFunctionTypeParameter role name front back receiver parameters result body =>
    [.beside (role.declared name) [], .within .function (role.own name parameters) [],
      .beside (Node.scopeItemsAll front)
        (Node.scopeItemsAll back ++ Node.scopeItemsOption receiver
          ++ Parameter.scopeItemsAll parameters ++ Node.scopeItemsOption result
          ++ Node.scopeItemsAll body)]
  | inFunctionReceiver role name typeParameters parameters result body =>
    [.beside (role.declared name) [], .within .function (role.own name parameters) [],
      .beside (Node.scopeItemsAll typeParameters)
        (Parameter.scopeItemsAll parameters ++ Node.scopeItemsOption result
          ++ Node.scopeItemsAll body)]
  | inFunctionParameter role name typeParameters receiver front inner back result body =>
    [.beside (role.declared name) [],
      .within .function (role.own name []
        ++ (Parameter.boundNames front ++ inner.boundNames ++ Parameter.boundNames back).map
          (⟨.parameter, ·⟩)) [],
      .beside (Node.scopeItemsAll typeParameters ++ Node.scopeItemsOption receiver
          ++ Parameter.scopeItemsAll front)
        (Parameter.scopeItemsAll back ++ Node.scopeItemsOption result
          ++ Node.scopeItemsAll body)] ++ inner.itemLayers
  | inFunctionResult role name typeParameters receiver parameters body =>
    [.beside (role.declared name) [], .within .function (role.own name parameters) [],
      .beside (Node.scopeItemsAll typeParameters ++ Node.scopeItemsOption receiver
        ++ Parameter.scopeItemsAll parameters) (Node.scopeItemsAll body)]
  | inFunctionBody role name typeParameters receiver parameters result front back =>
    [.beside (role.declared name) [], .within .function (role.own name parameters) [],
      .beside (Node.scopeItemsAll typeParameters ++ Node.scopeItemsOption receiver
        ++ Parameter.scopeItemsAll parameters ++ Node.scopeItemsOption result
        ++ Node.scopeItemsAll front) (Node.scopeItemsAll back)]
  | inSignatureHead front back parameters result =>
    [.within .block [] [],
      .beside (Node.scopeItemsAll front)
        (Node.scopeItemsAll back
          ++ (Parameter.boundNames parameters).map (fun name => .binder ⟨.signatureParameter, name⟩)
          ++ Parameter.scopeItemsAll parameters ++ Node.scopeItemsOption result)]
  | inSignatureParameter head front inner back result =>
    [.within .block [] [],
      .beside (Node.scopeItemsAll head
          ++ (Parameter.boundNames front ++ inner.boundNames ++ Parameter.boundNames back).map
            (fun name => .binder ⟨.signatureParameter, name⟩)
          ++ Parameter.scopeItemsAll front)
        (Parameter.scopeItemsAll back ++ Node.scopeItemsOption result)] ++ inner.itemLayers
  | inSignatureResult head parameters =>
    [.within .block [] [],
      .beside (Node.scopeItemsAll head
        ++ (Parameter.boundNames parameters).map (fun name => .binder ⟨.signatureParameter, name⟩)
        ++ Parameter.scopeItemsAll parameters) []]
  | inClassDecorator role front back name inside =>
    [.beside (role.declared name) [],
      .ahead .block (role.own name) (Node.scopeItemsAll inside),
      .beside (Node.scopeItemsAll front) (Node.scopeItemsAll back)]
  | inClassPart role decorators name front back =>
    [.beside (role.declared name) [],
      .within .block (role.own name) (Node.scopeItemsAll decorators),
      .beside (Node.scopeItemsAll front) (Node.scopeItemsAll back)]
  | inCatchParameter inner body =>
    [.within .block (inner.boundNames.map (⟨.catchParameter, ·⟩)) [],
      .beside [] body.scopeItems] ++ inner.itemLayers
  | inCatchBody parameter =>
    [.within .block (parameter.pattern.boundNames.map (⟨.catchParameter, ·⟩)) [],
      .beside parameter.scopeItems []]
  | inEnumerationMember name front back =>
    [.beside [.binder ⟨.enumeration, name.name⟩] [], .within .block [] [],
      .beside (Node.scopeItemsAll front) (Node.scopeItemsAll back)]
  | inMemberValue name => [.beside [.binder ⟨.enumMember, name⟩] []]
  | inNamespacePart name front back =>
    [.beside (name.map fun name => ScopeItem.binder ⟨.namespaceBlock, name.name⟩).toList [],
      .within .function [] [], .beside (Node.scopeItemsAll front) (Node.scopeItemsAll back)]
  | inInterfacePart name front back =>
    [.beside [.binder ⟨.interface, name.name⟩] [], .within .block [] [],
      .beside (Node.scopeItemsAll front) (Node.scopeItemsAll back)]
  | inAliasPart name front back =>
    [.beside [.binder ⟨.typeAlias, name.name⟩] [], .within .block [] [],
      .beside (Node.scopeItemsAll front) (Node.scopeItemsAll back)]
  | inImportTarget name front back =>
    [.beside (.binder ⟨.importAlias, name.name⟩ :: Node.scopeItemsAll front)
      (Node.scopeItemsAll back)]
  | inElementTypeArgument name front back _ attributes children closing =>
    [.beside (name.scopeItems ++ Node.scopeItemsAll front)
      (Node.scopeItemsAll back ++ Node.scopeItemsAll attributes ++ Node.scopeItemsAll children
        ++ TagName.scopeItemsOption closing)]
  | inElementAttribute name typeArguments _ front back children closing =>
    [.beside (name.scopeItems ++ Node.scopeItemsAll typeArguments ++ Node.scopeItemsAll front)
      (Node.scopeItemsAll back ++ Node.scopeItemsAll children
        ++ TagName.scopeItemsOption closing)]
  | inElementChild name typeArguments _ attributes front back closing =>
    [.beside (name.scopeItems ++ Node.scopeItemsAll typeArguments
        ++ Node.scopeItemsAll attributes ++ Node.scopeItemsAll front)
      (Node.scopeItemsAll back ++ TagName.scopeItemsOption closing)]

theorem scopeItems_fill (layer : Layer) (node : Node) :
    (layer.fill node).scopeItems = fillAll node.scopeItems layer.itemLayers := by
  cases layer with
  | inDeclarator kind front inner back =>
      simp [fill, itemLayers, ScopeItem.Layer.fill, Node.scopeItems, Declarator.boundNames,
        Declarator.scopeItemsAll, Declarator.scopeItemsAll_append, inner.scopeItems_fill]
  | inFunctionParameter role name typeParameters receiver front inner back result body =>
      simp [fill, itemLayers, ScopeItem.Layer.fill, Node.scopeItems, FunctionRole.own,
        Parameter.boundNames, Parameter.scopeItemsAll, Parameter.scopeItemsAll_append,
        inner.scopeItems_fill]
  | inSignatureParameter head front inner back result =>
      simp [fill, itemLayers, ScopeItem.Layer.fill, Node.scopeItems, Parameter.boundNames,
        Parameter.scopeItemsAll, Parameter.scopeItemsAll_append, inner.scopeItems_fill]
  | inCatchParameter inner body =>
      simp [fill, itemLayers, ScopeItem.Layer.fill, Node.scopeItems, inner.scopeItems_fill]
  | inNamespacePart name front back =>
      cases name <;>
        simp [fill, itemLayers, ScopeItem.Layer.fill, Node.scopeItems, Node.scopeItemsAll]
  | _ =>
      simp [fill, itemLayers, ScopeItem.Layer.fill, Node.scopeItems, Node.scopeItemsAll,
        Node.scopeItemsOption]

end Node.Layer

/-- A module with a hole: the statements before and after that with the hole, and the layers of that
one, the outermost first. -/
structure Program.Context where
  front : List Node
  layers : List Node.Layer
  back : List Node

namespace Program.Context

/-- The statement that holds the hole. -/
def statement (context : Context) (node : Node) : Node :=
  context.layers.foldr (fun layer inner => layer.fill inner) node

def fill (context : Context) (node : Node) : Program :=
  ⟨context.front ++ context.statement node :: context.back⟩

def itemLayers (context : Context) : List ScopeItem.Layer :=
  .beside (Node.scopeItemsAll context.front) (Node.scopeItemsAll context.back)
    :: context.layers.flatMap Node.Layer.itemLayers

/-- How many scopes begin before the hole, that of the module not counted. -/
def scopesBefore (context : Context) : Nat := ScopeItem.scopesBefore context.itemLayers

theorem scopeItems_statement (context : Context) (node : Node) :
    (context.statement node).scopeItems =
      fillAll node.scopeItems (context.layers.flatMap Node.Layer.itemLayers) := by
  unfold statement
  induction context.layers with
  | nil => rfl
  | cons layer layers induction =>
      rw [List.foldr_cons, layer.scopeItems_fill, induction, List.flatMap_cons, fillAll_append]

theorem scopeItems_fill (context : Context) (node : Node) :
    (context.fill node).scopeItems = fillAll node.scopeItems context.itemLayers := by
  simp [fill, Program.scopeItems, itemLayers, ScopeItem.Layer.fill, Node.scopeItemsAll,
    context.scopeItems_statement]

end Program.Context
end Syntax
end IconSize
