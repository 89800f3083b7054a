/-!
The scopes of a module in the order in which they are entered. Each one but the first lies in
another one, its parent; looking a name up goes from scope to parent.
-/

namespace IconSize

/-- The place of a scope in the table. -/
structure ScopeHandle where
  index : Nat
deriving DecidableEq, Repr, Inhabited

def ScopeHandle.root : ScopeHandle := ⟨0⟩

/-- What a scope belongs to. A `var` lands in the nearest scope that is no block. -/
inductive ScopeKind where
  | module
  /-- Functions, static blocks of classes, and namespaces. -/
  | function
  | block
deriving DecidableEq, Repr, Inhabited

/-- A scope with the names that it declares. Names in `types` are interfaces and type aliases,
which no value refers to. -/
structure ScopeRecord where
  parent : Option ScopeHandle
  kind : ScopeKind
  names : List String
  types : List String
deriving Repr, Inhabited

/-- Which names a reference sees. -/
inductive Namespace where
  | value
  | type
deriving DecidableEq, Repr, Inhabited

/-- What a name means at some place. -/
inductive Resolution where
  /-- No scope below the module declares it. -/
  | root
  /-- The scope given declares it. -/
  | shadowed (scope : ScopeHandle)
  /-- The place lies in no scope of the module. -/
  | unreachable
deriving DecidableEq, Repr, Inhabited

/-- All scopes of a module. -/
structure ScopeTable where
  records : Array ScopeRecord
deriving Repr, Inhabited

namespace ScopeTable

def empty : ScopeTable := ⟨#[]⟩

def size (table : ScopeTable) : Nat := table.records.size

def get? (table : ScopeTable) (handle : ScopeHandle) : Option ScopeRecord :=
  table.records[handle.index]?

/-- The scope around this one. -/
def parent? (table : ScopeTable) (handle : ScopeHandle) : Option ScopeHandle :=
  (table.get? handle).bind ScopeRecord.parent

/-- Does the scope declare the name as a value? -/
def declares (table : ScopeTable) (handle : ScopeHandle) (name : String) : Bool :=
  (table.get? handle).any fun record => record.names.contains name

/-- Does the scope declare the name as a type only? -/
def declaresType (table : ScopeTable) (handle : ScopeHandle) (name : String) : Bool :=
  (table.get? handle).any fun record => record.types.contains name

/-- Does the scope declare the name, as a reference of this kind sees it? All declared values may
be types too, as classes are. -/
def declaresIn (table : ScopeTable) (handle : ScopeHandle) (name : String) :
    Namespace → Bool
  | .value => table.declares handle name
  | .type => table.declares handle name || table.declaresType handle name

/-- The first scopes on the way from a scope outwards, the scope itself included. -/
def ancestors (table : ScopeTable) : Nat → ScopeHandle → List ScopeHandle
  | 0, _ => []
  | count + 1, handle =>
    match table.get? handle with
    | none => []
    | some record =>
      match record.parent with
      | none => [handle]
      | some parent => handle :: table.ancestors count parent

/-- The scopes from a scope outwards, the scope itself included. Parents come earlier in the table,
so that there are no more of them than the index tells. -/
def chain (table : ScopeTable) (handle : ScopeHandle) : List ScopeHandle :=
  table.ancestors (handle.index + 1) handle

/-- Look a name up in these scopes, one after the other. -/
def resolveAlong (table : ScopeTable) (name : String) (space : Namespace) :
    List ScopeHandle → Resolution
  | [] => .unreachable
  | scope :: outer =>
    if scope = .root then .root
    else if table.declaresIn scope name space then .shadowed scope
    else table.resolveAlong name space outer

/-- What a name means at a place in the given scope. What the module itself declares makes no
difference. -/
def resolveIn (table : ScopeTable) (scope : Option ScopeHandle) (name : String)
    (space : Namespace) : Resolution :=
  match scope with
  | none => .unreachable
  | some scope => table.resolveAlong name space (table.chain scope)

/-! ## Growing the table -/

/-- Enter a scope: its handle and the table with it. -/
def push (table : ScopeTable) (record : ScopeRecord) : ScopeHandle × ScopeTable :=
  (⟨table.size⟩, ⟨table.records.push record⟩)

def declare (table : ScopeTable) (handle : ScopeHandle) (name : String) : ScopeTable :=
  ⟨table.records.modify handle.index fun record =>
    { record with names := record.names.insert name }⟩

def declareType (table : ScopeTable) (handle : ScopeHandle) (name : String) : ScopeTable :=
  ⟨table.records.modify handle.index fun record =>
    { record with types := record.types.insert name }⟩

end ScopeTable
end IconSize
