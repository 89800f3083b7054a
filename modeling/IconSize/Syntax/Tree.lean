/-!
The syntax tree of a module. It tells apart the forms that bind names, open scopes or use a
reference in a way of their own; every other form is a group of its parts in the order in which
they are visited, with a tag that says which form it is.

Type syntax, markup elements, statements and expressions are nodes of one type, because they nest
in each other freely: an expression holds types, a type holds expressions.
-/

namespace IconSize.Syntax

/-- A stretch of the source, in bytes: `stop` is the offset after its last one. -/
structure Span where
  start : Nat
  stop : Nat
deriving DecidableEq, Repr, Inhabited

/-- An identifier where it stands: the name that it spells, with escapes decoded, and its span. -/
structure Identifier where
  name : String
  span : Span
deriving DecidableEq, Repr, Inhabited

/-- The name by which a module exports something: written as an identifier or as a string. -/
structure ModuleName where
  name : String
  span : Span
  quoted : Bool
deriving DecidableEq, Repr, Inhabited

/-- One entry of the braces of an import: `type A as B`. Without `as` the local name is the
imported one and has the same span. -/
structure ImportSpecifier where
  imported : ModuleName
  binder : Identifier
  typeOnly : Bool
  span : Span
deriving DecidableEq, Repr, Inhabited

/-- The three ways in which an import declaration binds a name. -/
inductive ImportClause where
  /-- `import a from 'm'` -/
  | defaultName (binder : Identifier)
  /-- `import * as a from 'm'` -/
  | everything (binder : Identifier)
  /-- `import { a } from 'm'` -/
  | named (specifier : ImportSpecifier)
deriving DecidableEq, Repr, Inhabited

def ImportClause.bound : ImportClause → Identifier
  | .defaultName binder => binder
  | .everything binder => binder
  | .named specifier => specifier.binder

/-- An import declaration. `module` is the text that the module specifier denotes, `literal` the
span of the string literal that it is written as. -/
structure ImportDeclaration where
  clauses : List ImportClause
  module : String
  literal : Span
deriving DecidableEq, Repr, Inhabited

/-- One entry of the braces of an export: `A as B`. In `export { A } from 'm'` the first name
belongs to the other module and refers to nothing here. -/
structure ExportSpecifier where
  name : ModuleName
  exported : ModuleName
  fromModule : Bool
deriving DecidableEq, Repr, Inhabited

/-- The keyword of a variable declaration; `lexical` is `let`. -/
inductive VariableKind where
  | var
  | lexical
  | const
  | using
  | awaitUsing
deriving DecidableEq, Repr, Inhabited

/-- How a function comes to its name: a declaration names itself in the scope around it (so does
every function without a body), an expression only inside itself. -/
inductive FunctionRole where
  | declaration
  | expression
deriving DecidableEq, Repr, Inhabited

/-- How a class comes to its name: a declaration names itself in the scope around it, an expression
only inside itself. -/
inductive ClassRole where
  | declaration
  | expression
deriving DecidableEq, Repr, Inhabited

/-- The forms that are neither binders nor references and open no scope of their own. -/
inductive Form where
  -- values
  | literal | hole | this | super | metaProperty | privateName
  | template | member | index | optionalChain | call | construct | taggedTemplate | instantiation
  | importCall | unary | update | await | yield | binary | logical | coalesce | privateIn
  | conditional | assignment | compoundAssignment | sequence | spread | asType | satisfies | cast
  | nonNull | method | plainKey | computedKey | decorator
  /-- The flag tells whether a comma stands before the closing bracket. -/
  | array (trailingComma : Bool)
  | object (trailingComma : Bool)
  -- assignment targets
  | arrayTarget | objectTarget | keyedTarget | targetDefault | targetRest
  -- statements
  | expressionStatement | directive | empty | ifStatement | whileStatement | doStatement
  | returnStatement | throwStatement | tryStatement | switchStatement | switchCase | labelled
  | withStatement | jump
  -- classes and modules
  | classMember | indexSignature | heritage | exporting | exportAll | exportNamespace
  -- types
  | keywordType | union | intersection | arrayType | indexedAccess | typeOperator | tuple
  | tupleElement | conditionalType | typeQuery | importType | predicate | templateType
  | typeLiteral | qualifiedName | typeArguments | typeSignature | inferType | annotated
  -- markup
  | fragment | text | tagAttribute
deriving DecidableEq, Repr, Inhabited

/-- The forms that open a block scope and bind nothing by themselves. -/
inductive BlockForm where
  | block | forLoop | forIn | forOf | cases | withBody | catchBody | conditionalBranch | mappedType
deriving DecidableEq, Repr, Inhabited

/-- The name of a markup element. -/
inductive TagName where
  /-- A plain name that refers to a component. -/
  | reference (name : Identifier)
  /-- A dotted name that begins with a reference. -/
  | member (object : Identifier)
  /-- Any other name: a built-in element, `a:b`, or a dotted name that begins with `this`. -/
  | intrinsic
deriving DecidableEq, Repr, Inhabited

mutual

inductive Node where
  /-- An identifier that refers to something: a value, or the leftmost part of a dotted type
  name. -/
  | reference (name : Identifier)
  /-- A type named by a single identifier, with its type arguments. -/
  | typeReference (name : Identifier) (arguments : List Node)
  /-- A type parameter (also that of `infer` and the key of a mapped type), with its constraint
  and its default. -/
  | typeParameter (name : Identifier) (bounds : List Node)
  /-- A form without binders of its own. -/
  | group (form : Form) (parts : List Node)
  | parenthesized (inner : Node)
  /-- `key: value` in an object literal. -/
  | property (key : Node) (value : Node)
  /-- `{ name }` in an object literal. -/
  | shorthand (name : Identifier)
  /-- `{ name = value }`, which has the shape of an object literal and is legal only where that
  turns out to be an assignment target. -/
  | shorthandDefault (name : Identifier) (value : Node)
  /-- `{ name }` in an assignment target: the name is the key and what is assigned to. -/
  | targetShorthand (name : Identifier)
  /-- A form that opens a block scope around its parts. -/
  | block (form : BlockForm) (parts : List Node)
  | staticBlock (body : List Node)
  | variables (kind : VariableKind) (declarators : List Declarator)
  /-- A function, method, accessor, constructor or arrow function: name, type parameters, type of
  `this`, parameters, return type, body. -/
  | function (role : FunctionRole) (name : Option Identifier) (typeParameters : List Node)
      (receiver : Option Node) (parameters : List Parameter) (result : Option Node)
      (body : List Node)
  /-- A function type, constructor type, or a call, construct or method signature. `head` holds
  the key, the type parameters and the type of `this`. Its parameters bind nothing. -/
  | signature (head : List Node) (parameters : List Parameter) (result : Option Node)
  /-- A class. `inside` holds type parameters, heritage and members. -/
  | classNode (role : ClassRole) (decorators : List Node) (name : Option Identifier)
      (inside : List Node)
  | catchClause (parameter : Parameter) (body : Node)
  | enumeration (name : Identifier) (members : List Node)
  | enumMember (name : String) (value : Option Node)
  /-- `namespace`, `module`, or `declare global`; only the first two with an identifier have a
  name. -/
  | namespaceBlock (name : Option Identifier) (body : List Node)
  /-- An interface. `inside` holds type parameters, heritage and members. -/
  | interface (name : Identifier) (inside : List Node)
  /-- A type alias. `inside` holds type parameters and the type. -/
  | typeAlias (name : Identifier) (inside : List Node)
  | importing (declaration : ImportDeclaration)
  /-- `import name = target`. -/
  | importEquals (name : Identifier) (target : List Node)
  /-- An entry of an export list. -/
  | exportSpecifier (specifier : ExportSpecifier)
  /-- A markup element. `attributesAt` is the offset after the name and its type arguments, where
  the attributes begin; `closing` is the name in the closing tag. -/
  | element (name : TagName) (typeArguments : List Node) (attributesAt : Nat)
      (attributes : List Node) (children : List Node) (closing : Option TagName)

/-- What a declaration or parameter binds. -/
inductive Pattern where
  | name (name : Identifier)
  /-- `{ … }`; the properties are `keyed` patterns and possibly a `rest` at the end. -/
  | object (properties : List Pattern)
  /-- `[ … ]`, with `hole`s and possibly a `rest` at the end. -/
  | array (elements : List Pattern)
  /-- An omitted element. -/
  | hole
  /-- `key: value`; in the short form the key is plain and the value a name. -/
  | keyed (key : Node) (value : Pattern)
  /-- `target = value` -/
  | withDefault (target : Pattern) (value : Node)
  /-- `...target` -/
  | rest (target : Pattern)

/-- A parameter: decorators, pattern, type, default value. -/
inductive Parameter where
  | mk (decorators : List Node) (pattern : Pattern) (ascription : Option Node)
      (default : Option Node)

/-- One declarator of a variable declaration: pattern, type, initializer. -/
inductive Declarator where
  | mk (pattern : Pattern) (ascription : Option Node) (initializer : Option Node)

end

instance : Inhabited Node := ⟨.group .empty []⟩
instance : Inhabited Pattern := ⟨.hole⟩
instance : Inhabited Parameter := ⟨.mk [] .hole none none⟩
instance : Inhabited Declarator := ⟨.mk .hole none none⟩

def Parameter.pattern : Parameter → Pattern
  | .mk _ pattern _ _ => pattern

def Declarator.pattern : Declarator → Pattern
  | .mk pattern _ _ => pattern

def Declarator.initializer : Declarator → Option Node
  | .mk _ _ initializer => initializer

/-- A module: its statements in order. -/
structure Program where
  body : List Node
deriving Inhabited

namespace Node

/-- The expression without the parentheses around it. -/
def withoutParentheses : Node → Node
  | parenthesized inner => inner.withoutParentheses
  | node => node

end Node
end IconSize.Syntax
