import IconSize.Proofs.Scope.Replacement

/-!
Where the name of a class expression goes. It waits for the next scope that begins, which is that of
the class if its decorators open none; otherwise the first scope in the decorators has the name and
the class is without it. No other scope is touched, so that references mean what they mean where the
class has no name, unless they are of this name and lie in that one scope.
-/

namespace IconSize
open Syntax

/-! ## Records with one more name -/

/-- The new list of binders has this name in addition. -/
def Wider (extra : String) (old new : List Binder) : Prop :=
  ∀ name, name ∈ new.map Binder.name ↔ name ∈ old.map Binder.name ∨ name = extra

theorem Wider.append {extra : String} {old new : List Binder} (wider : Wider extra old new)
    (own : List Binder) : Wider extra (old ++ own) (new ++ own) := by
  intro name
  simp only [List.map_append, List.mem_append, wider name]
  tauto

/-- The new records are the old ones but for a name that one of them has in addition. -/
def Gains (index : Nat) (extra : String) (old new : List ScopeRecord) : Prop :=
  ∃ record names, old[index]? = some record ∧
    new = old.set index { record with names := names } ∧
    ∀ name, name ∈ names ↔ name ∈ record.names ∨ name = extra

namespace Gains

variable {index : Nat} {extra : String} {old new : List ScopeRecord}

theorem append_right (gains : Gains index extra old new) (back : List ScopeRecord) :
    Gains index extra (old ++ back) (new ++ back) := by
  rcases gains with ⟨record, names, found, rfl, wider⟩
  have inside := (List.getElem?_eq_some_iff.mp found).1
  exact ⟨record, names, (List.getElem?_append_left inside).trans found,
    (List.set_append_left _ _ inside).symm, wider⟩

theorem append_left (gains : Gains index extra old new) (front : List ScopeRecord) :
    Gains (front.length + index) extra (front ++ old) (front ++ new) := by
  rcases gains with ⟨record, names, found, rfl, wider⟩
  refine ⟨record, names, ?_, ?_, wider⟩
  · rw [List.getElem?_append_right (Nat.le_add_right ..), Nat.add_sub_cancel_left, found]
  · rw [List.set_append_right _ _ (Nat.le_add_right ..), Nat.add_sub_cancel_left]

theorem cons (gains : Gains index extra old new) (record : ScopeRecord) :
    Gains (index + 1) extra (record :: old) (record :: new) := by
  rw [Nat.add_comm]
  exact gains.append_left [record]

theorem shapes (gains : Gains index extra old new) :
    new.map ScopeRecord.shape = old.map ScopeRecord.shape := by
  rcases gains with ⟨record, names, found, rfl, -⟩
  have inside := (List.getElem?_eq_some_iff.mp found).1
  apply List.ext_getElem?
  intro other
  rw [List.getElem?_map, List.getElem?_map]
  by_cases same : index = other
  · subst same
    rw [List.getElem?_set_self inside, found]
    rfl
  · rw [List.getElem?_set_ne same]

theorem names_iff (gains : Gains index extra old new) (other : Nat) (name : String) :
    (∃ record, new[other]? = some record ∧ name ∈ record.names) ↔
      (∃ record, old[other]? = some record ∧ name ∈ record.names) ∨
        (other = index ∧ name = extra) := by
  rcases gains with ⟨record, names, found, rfl, wider⟩
  have inside := (List.getElem?_eq_some_iff.mp found).1
  by_cases same : index = other
  · subst same
    rw [List.getElem?_set_self inside, found]
    simp [wider]
  · rw [List.getElem?_set_ne same]
    simp [Ne.symm same]

theorem types_iff (gains : Gains index extra old new) (other : Nat) (name : String) :
    (∃ record, new[other]? = some record ∧ name ∈ record.types) ↔
      ∃ record, old[other]? = some record ∧ name ∈ record.types := by
  rcases gains with ⟨record, names, found, rfl, -⟩
  have inside := (List.getElem?_eq_some_iff.mp found).1
  by_cases same : index = other
  · subst same
    rw [List.getElem?_set_self inside, found]
    simp
  · rw [List.getElem?_set_ne same]

/-- A scope that is given one more name has it. -/
theorem record {kind : ScopeKind} {given given' : List Binder} {inside : List ScopeItem}
    {parent : Option ScopeHandle} (rest : List ScopeRecord) (wider : Wider extra given given') :
    Gains 0 extra ((Frame.mk kind given inside).record parent :: rest)
      ((Frame.mk kind given' inside).record parent :: rest) := by
  refine ⟨_, ((Frame.mk kind given' inside).record parent).names, rfl, rfl, fun name => ?_⟩
  simp only [Frame.record, List.mem_append, wider name, Frame.hoisted]
  tauto

end Gains

namespace ScopeItem

variable {extra : String}

/-- The first scope of a form gets what waits for it in addition. -/
theorem gains_scope {waiting waiting' : List Binder} (wider : Wider extra waiting waiting')
    {parent : ScopeHandle} {next : Nat} {before : List ScopeItem} (kind : ScopeKind)
    (inside : List ScopeItem) (rest : List ScopeRecord)
    (outside : scopeCountAll before ≠ 0 →
      Gains 0 extra (walkedRecordsAll waiting parent next before)
        (walkedRecordsAll waiting' parent next before)) :
    Gains 0 extra
      (walkedRecordsAll waiting parent next before
        ++ (Frame.mk kind (stillHeld waiting (scopeCountAll before)) inside).record (some parent)
          :: rest)
      (walkedRecordsAll waiting' parent next before
        ++ (Frame.mk kind (stillHeld waiting' (scopeCountAll before)) inside).record (some parent)
          :: rest) := by
  by_cases none : scopeCountAll before = 0
  · rw [walkedRecordsAll_of_scopeCountAll_eq_zero none waiting,
      walkedRecordsAll_of_scopeCountAll_eq_zero none waiting',
      List.eq_nil_of_length_eq_zero ((length_walkedRecordsAll before [] parent next).trans none)]
    simp only [stillHeld, none, if_true, List.nil_append]
    exact .record rest wider
  · simp only [stillHeld, none, if_false]
    exact (outside none).append_right _

mutual

/-- What waits in addition goes to the first scope of an item. -/
theorem gains_walkedRecords :
    ∀ (item : ScopeItem) {held held' : List Binder} (parent : ScopeHandle) (next : Nat),
      Wider extra held held' → item.scopeCount ≠ 0 →
        Gains 0 extra (item.walkedRecords held parent next) (item.walkedRecords held' parent next)
  | binder _, _, _, _, _, _, opens => absurd rfl opens
  | reference _ _, _, _, _, _, _, opens => absurd rfl opens
  | scope kind own before inside, _, _, parent, next, wider, _ =>
      gains_scope (wider.append own) kind inside _
        (gains_walkedRecordsAll before parent next (wider.append own))

theorem gains_walkedRecordsAll :
    ∀ (items : List ScopeItem) {held held' : List Binder} (parent : ScopeHandle) (next : Nat),
      Wider extra held held' → scopeCountAll items ≠ 0 →
        Gains 0 extra (walkedRecordsAll held parent next items)
          (walkedRecordsAll held' parent next items)
  | [], _, _, _, _, _, opens => absurd rfl opens
  | item :: items, held, held', parent, next, wider, opens => by
      rw [walkedRecordsAll, walkedRecordsAll]
      by_cases none : item.scopeCount = 0
      · rw [List.eq_nil_of_length_eq_zero ((length_walkedRecords item held parent next).trans none),
          List.eq_nil_of_length_eq_zero ((length_walkedRecords item held' parent next).trans none)]
        simp only [stillHeld, none, if_true, List.nil_append]
        rw [scopeCountAll, none, Nat.zero_add] at opens
        exact gains_walkedRecordsAll items parent _ wider opens
      · simp only [stillHeld, none, if_false]
        exact (gains_walkedRecords item parent next wider none).append_right _

end

/-- A name that a replaced part of a module gives to its first scope makes no difference to the
others. -/
theorem gains_fillAll {old new : List ScopeItem} (alike : Alike old new)
    (scopes : scopeCountAll old = scopeCountAll new)
    (gains : ∀ held parent next, Gains 0 extra (walkedRecordsAll held parent next old)
      (walkedRecordsAll held parent next new))
    (layers : List Layer) (held : List Binder) (here : ScopeHandle) (next : Nat) :
    Gains (scopesBefore layers) extra (walkedRecordsAll held here next (fillAll old layers))
      (walkedRecordsAll held here next (fillAll new layers)) := by
  induction layers generalizing held here next with
  | nil => exact gains held here next
  | cons layer layers induction =>
      -- All that a layer sees of what is in it is what that binds and how many scopes it opens.
      have count := scopeCountAll_fillAll scopes layers
      have record := (alike.fillAll layers).record_eq
      cases layer with
      | beside front back =>
          simp only [fillAll_cons, Layer.fill, walkedRecordsAll_append, scopeCountAll_append, count]
          have inner := (induction (stillHeld held (scopeCountAll front)) here
            (next + scopeCountAll front)).append_left (walkedRecordsAll held here next front)
          rw [length_walkedRecordsAll] at inner
          exact inner.append_right _
      | within kind own before =>
          simp only [fillAll_cons, Layer.fill, walkedRecordsAll, walkedRecords, List.append_nil,
            record]
          have inner := ((induction [] ⟨next + scopeCountAll before⟩
            (next + scopeCountAll before + 1)).cons
              ((Frame.mk kind (stillHeld (held ++ own) (scopeCountAll before))
                (fillAll new layers)).record (some here))).append_left
              (walkedRecordsAll (held ++ own) here next before)
          rw [length_walkedRecordsAll] at inner
          rw [scopesBefore, Layer.scopesBefore, Nat.add_assoc, Nat.add_comm 1]
          exact inner
      | ahead kind own inside =>
          simp only [fillAll_cons, Layer.fill, walkedRecordsAll, walkedRecords, List.append_nil,
            count]
          rw [scopesBefore, Layer.scopesBefore, Nat.zero_add]
          exact (induction (held ++ own) here next).append_right _

end ScopeItem

/-! ## Tables with one more name -/

namespace ScopeTable

/-- The new table is the old one but for a name that one scope declares in addition. -/
structure GainsName (old new : ScopeTable) (target : ScopeHandle) (extra : String) : Prop where
  shapes : new.shapes = old.shapes
  names : ∀ handle name, new.declares handle name = true ↔
    old.declares handle name = true ∨ (handle = target ∧ name = extra)
  types : ∀ handle name, new.declaresType handle name = true ↔ old.declaresType handle name = true

namespace GainsName

variable {old new : ScopeTable} {target : ScopeHandle} {extra : String}

theorem of_records {records records' : List ScopeRecord}
    (same : List.Forall₂ ScopeRecord.Same old.records.toList records)
    (same' : List.Forall₂ ScopeRecord.Same new.records.toList records')
    (gains : Gains target.index extra records records') : old.GainsName new target extra where
  shapes := by rw [shapes_of_same same, shapes_of_same same', gains.shapes]
  names handle name := by
    rw [declares_iff_exists_record same, declares_iff_exists_record same', gains.names_iff]
    rcases handle with ⟨index⟩
    rcases target with ⟨target⟩
    simp
  types handle name := by
    rw [declaresType_iff_exists_record same, declaresType_iff_exists_record same',
      gains.types_iff]

theorem nestedScopes_eq (gains : old.GainsName new target extra) (scope : Option ScopeHandle) :
    new.nestedScopes scope = old.nestedScopes scope := by
  cases scope with
  | none => rfl
  | some scope => simp only [nestedScopes, chain, ancestors_eq_of_shapes gains.shapes]

theorem declaresIn_iff (gains : old.GainsName new target extra) (handle : ScopeHandle)
    (name : String) (space : Namespace) :
    new.declaresIn handle name space = true ↔
      old.declaresIn handle name space = true ∨ (handle = target ∧ name = extra) := by
  cases space with
  | value => exact gains.names handle name
  | type =>
      simp only [declaresIn, Bool.or_eq_true, gains.names, gains.types]
      tauto

/-- A name means the module's as before, unless it is the additional one and the scope that declares
that one lies around the place. -/
theorem resolveIn_eq_root_iff (gains : old.GainsName new target extra)
    (scope : Option ScopeHandle) (name : String) (space : Namespace) :
    new.resolveIn scope name space = .root ↔
      old.resolveIn scope name space = .root ∧
        ¬ (name = extra ∧ target ∈ old.nestedScopes scope) := by
  have chains (inner : ScopeHandle) : new.chain inner = old.chain inner :=
    ancestors_eq_of_shapes gains.shapes _ inner
  simp only [ScopeTable.resolveIn_eq_root_iff, gains.nestedScopes_eq, chains,
    ← Bool.not_eq_true, gains.declaresIn_iff, not_or]
  constructor
  · rintro ⟨inner, free⟩
    exact ⟨⟨inner, fun nested around => (free nested around).1⟩,
      fun ⟨same, around⟩ => (free target around).2 ⟨rfl, same⟩⟩
  · rintro ⟨⟨inner, free⟩, apart⟩
    refine ⟨inner, fun nested around => ⟨free nested around, ?_⟩⟩
    rintro ⟨rfl, same⟩
    exact apart ⟨same, around⟩

end GainsName
end ScopeTable

/-! ## Class expressions -/

open ScopeItem

section
variable (context : Program.Context) (decorators : List Node) (name : Option Identifier)
  (inside : List Node)

/-- The name of a class expression makes no difference to the scopes around it. -/
theorem Syntax.Node.alike_classExpression (name' : Option Identifier) :
    Alike (Node.classNode .expression decorators name inside).scopeItems
      (Node.classNode .expression decorators name' inside).scopeItems :=
  ⟨rfl, rfl, Iff.rfl⟩

theorem walkedRecordsAll_classExpression (held : List Binder) (parent : ScopeHandle) (next : Nat) :
    walkedRecordsAll held parent next
        (Node.classNode .expression decorators name inside).scopeItems =
      walkedRecordsAll (held ++ ClassRole.own .expression name) parent next
          (Node.scopeItemsAll decorators)
        ++ (Frame.mk .block (stillHeld (held ++ ClassRole.own .expression name)
            (scopeCountAll (Node.scopeItemsAll decorators)))
            (Node.scopeItemsAll inside)).record (some parent)
          :: walkedRecordsAll [] ⟨next + scopeCountAll (Node.scopeItemsAll decorators)⟩
            (next + scopeCountAll (Node.scopeItemsAll decorators) + 1)
            (Node.scopeItemsAll inside) :=
  List.append_nil _

theorem referencesAll_classExpression (parent : ScopeHandle) (next : Nat) :
    referencesAll parent next (Node.classNode .expression decorators name inside).scopeItems =
      referencesAll parent next (Node.scopeItemsAll decorators)
        ++ referencesAll ⟨next + scopeCountAll (Node.scopeItemsAll decorators)⟩
          (next + scopeCountAll (Node.scopeItemsAll decorators) + 1)
          (Node.scopeItemsAll inside) :=
  List.append_nil _

namespace Syntax.Program.Context

/-- The scope of a class begins after those of its decorators. -/
theorem record_classExpression :
    (context.fill (.classNode .expression decorators name inside)).walkedRecords[
        1 + context.scopesBefore + scopeCountAll (Node.scopeItemsAll decorators)]? =
      some ((Frame.mk .block
        (stillHeld (context.waiting ++ ClassRole.own .expression name)
          (scopeCountAll (Node.scopeItemsAll decorators)))
        (Node.scopeItemsAll inside)).record (some context.scope)) := by
  have lies := records_prefix_fillAll
    (Node.classNode .expression decorators name inside).scopeItems context.itemLayers [] .root 1
  rw [← context.scopeItems_fill, walkedRecordsAll_classExpression] at lies
  have second := (prefix_drop_append lies).2
  rw [length_walkedRecordsAll] at second
  rw [walkedRecords, Nat.add_assoc, Nat.add_comm 1, List.getElem?_cons_succ]
  exact (getElem?_of_prefix_drop second).1

/-- The references of a class expression are those of its decorators and then those of the class. -/
theorem references_classExpression :
    referencesAll context.scope (1 + context.scopesBefore) (Node.scopeItemsAll decorators)
        ++ referencesAll
          ⟨1 + context.scopesBefore + scopeCountAll (Node.scopeItemsAll decorators)⟩
          (1 + context.scopesBefore + scopeCountAll (Node.scopeItemsAll decorators) + 1)
          (Node.scopeItemsAll inside) <+:
      (context.fill (.classNode .expression decorators name inside)).scopedReferences.drop
        context.referencesBefore := by
  have lies := references_prefix_fillAll
    (Node.classNode .expression decorators name inside).scopeItems context.itemLayers .root 1
  rwa [← context.scopeItems_fill, referencesAll_classExpression] at lies

/-- The first scope of a class expression has the name of the class in addition to what it has
where the class has none. -/
theorem gains_walkedRecords (name : Identifier) :
    Gains (1 + context.scopesBefore) name.name
      (context.fill (.classNode .expression decorators none inside)).walkedRecords
      (context.fill (.classNode .expression decorators (some name) inside)).walkedRecords := by
  have alike := Node.alike_classExpression decorators none inside (some name)
  have gains (held : List Binder) (parent : ScopeHandle) (next : Nat) : Gains 0 name.name
      (walkedRecordsAll held parent next
        (Node.classNode .expression decorators none inside).scopeItems)
      (walkedRecordsAll held parent next
        (Node.classNode .expression decorators (some name) inside).scopeItems) := by
    have wider : Wider name.name (held ++ []) (held ++ [⟨.classExpression, name.name⟩]) := by
      intro other
      simp
    rw [walkedRecordsAll_classExpression, walkedRecordsAll_classExpression]
    exact gains_scope wider .block _ _ (gains_walkedRecordsAll _ parent next wider)
  rw [Nat.add_comm]
  simp only [Program.walkedRecords, Program.frame, context.scopeItems_fill,
    (alike.fillAll context.itemLayers).record_eq]
  exact (gains_fillAll alike rfl gains context.itemLayers [] .root 1).cons _

/-- References have the same scopes whether or not a class has a name. -/
theorem scopedReferences_classExpression (name' : Option Identifier) :
    (context.fill (.classNode .expression decorators name inside)).scopedReferences =
      (context.fill (.classNode .expression decorators name' inside)).scopedReferences := by
  have count : scopeCountAll (Node.classNode .expression decorators name inside).scopeItems =
      scopeCountAll (Node.classNode .expression decorators name' inside).scopeItems := rfl
  rw [Program.scopedReferences, Program.scopedReferences, context.scopeItems_fill,
    context.scopeItems_fill]
  refine referencesAll_fillAll count (fun here next => ?_) context.itemLayers .root 1
  rw [referencesAll_classExpression, referencesAll_classExpression]

end Syntax.Program.Context
end

/-- The name of a class expression goes to the first scope that begins in the class, decorators
included, and to no other. This is the own scope of the class exactly if the decorators open none.
References mean what they mean where the class has no name, unless they are of its name and lie in
that first scope. -/
theorem class_names_go_to_first_scope (context : Program.Context) (decorators : List Node)
    (name : Identifier) (inside : List Node) :
    let named := ScopeAnalysis.ofProgram
      (context.fill (.classNode .expression decorators (some name) inside))
    let anonymous := ScopeAnalysis.ofProgram
      (context.fill (.classNode .expression decorators none inside))
    let before := Node.scopeItemsAll decorators
    let items := Node.scopeItemsAll inside
    let first : ScopeHandle := ⟨1 + context.scopesBefore⟩
    let own : ScopeHandle := ⟨first.index + scopeCountAll before⟩
    let given := stillHeld (context.waiting ++ [⟨.classExpression, name.name⟩])
      (scopeCountAll before)
    (∃ record, named.scopes.get? own = some record ∧
        record.Same ((Frame.mk .block given items).record (some context.scope))) ∧
      referencesAll context.scope first.index before ++ referencesAll own (own.index + 1) items <+:
        (named.references.map Reference.erased).drop context.referencesBefore ∧
      anonymous.scopes.GainsName named.scopes first name.name ∧
      List.Forall₂ (fun reference twin => twin.erased = reference.erased ∧
          (reference.resolve named.scopes reference.name = .root ↔
            twin.resolve anonymous.scopes twin.name = .root ∧
              ¬ (reference.name = name.name ∧
                first ∈ named.scopes.nestedScopes reference.scope)))
        named.references anonymous.references := by
  intro named anonymous before items first own given
  have same := ScopeAnalysis.same_walkedRecords
    (context.fill (.classNode .expression decorators (some name) inside))
  have gains : anonymous.scopes.GainsName named.scopes first name.name :=
    .of_records (ScopeAnalysis.same_walkedRecords _) same
      (context.gains_walkedRecords decorators inside name)
  have erased : named.references.map Reference.erased =
      anonymous.references.map Reference.erased := by
    rw [ScopeAnalysis.erased_references, ScopeAnalysis.erased_references]
    exact context.scopedReferences_classExpression decorators (some name) inside none
  refine ⟨ScopeTable.exists_same same
    (context.record_classExpression decorators (some name) inside), ?_, gains, ?_⟩
  · rw [ScopeAnalysis.erased_references]
    exact context.references_classExpression decorators (some name) inside
  · rw [← List.forall₂_eq_eq_eq, List.forall₂_map_left_iff, List.forall₂_map_right_iff] at erased
    refine erased.imp fun reference twin erased => ⟨erased.symm, ?_⟩
    have name : twin.name = reference.name := (congrArg Reference.name erased).symm
    have scope : twin.scope = reference.scope := (congrArg Reference.scope erased).symm
    have space : twin.space = reference.space := (congrArg Reference.space erased).symm
    rw [Reference.resolve, Reference.resolve, name, scope, space, gains.resolveIn_eq_root_iff,
      gains.nestedScopes_eq]

/-- `(@(() => A) class A extends A {});` -/
private def classBehindFunction : Program :=
  ⟨[.group .expressionStatement [.parenthesized (.classNode .expression
    [.group .decorator [.parenthesized
      (.function .expression none [] none [] none [.reference ⟨"A", ⟨9, 10⟩⟩])]]
    (some ⟨"A", ⟨18, 19⟩⟩) [.group .heritage [.reference ⟨"A", ⟨28, 29⟩⟩]])]]⟩

/-- A function in the decorators has the name of the class in the place of the class, so that its
reference does not mean the module's, while that in the class does. -/
theorem decorators_take_class_names :
    Program.parse .standard "(@(() => A) class A extends A \x7b\x7d);" = .ok classBehindFunction ∧
      (ScopeAnalysis.ofProgram classBehindFunction).scopes.declares ⟨1⟩ "A" = true ∧
      (ScopeAnalysis.ofProgram classBehindFunction).scopes.declares ⟨2⟩ "A" = false ∧
      classBehindFunction.meanings = [.shadowed ⟨1⟩, .root] :=
  ⟨by decide +kernel, by decide +kernel, by decide +kernel, by decide +kernel⟩

end IconSize
