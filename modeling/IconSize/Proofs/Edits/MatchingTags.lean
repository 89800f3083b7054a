import IconSize.Proofs.Edits.PublicNames
import IconSize.Proofs.Scope.Replacement

/-!
The two tags of an element. Walking what stands between them leaves the scopes as it found them, so
that the name in the closing tag stands where that in the opening tag does and means the same under
every name. A binding is renamed in both or in neither; its size goes to the opening one.
-/

namespace IconSize
open Syntax ScopeItem

/-! ## References that stand together -/

/-- The references have one name, and stand in one scope and one namespace. -/
structure Reference.StandsWith (first last : Reference) : Prop where
  name : first.name = last.name
  scope : first.scope = last.scope
  space : first.space = last.space

namespace Reference.StandsWith

variable {first last : Reference}

theorem resolve_eq (together : first.StandsWith last) (table : ScopeTable) (name : String) :
    first.resolve table name = last.resolve table name := by
  rw [Reference.resolve, Reference.resolve, together.scope, together.space]

/-- A binding that is renamed in one of the references is renamed in the other. -/
theorem mem_renamedReferences_iff (together : first.StandsWith last) {analysis : ScopeAnalysis}
    (firstFound : first ∈ analysis.references) (lastFound : last ∈ analysis.references)
    (binding : ImportBinding) :
    first ∈ binding.renamedReferences analysis ↔ last ∈ binding.renamedReferences analysis := by
  rw [ImportBinding.mem_renamedReferences, ImportBinding.mem_renamedReferences, together.name,
    together.resolve_eq]
  exact ⟨fun holds => ⟨lastFound, holds.2⟩, fun holds => ⟨firstFound, holds.2⟩⟩

end Reference.StandsWith

/-! ## Mentions in a hole -/

namespace Syntax

theorem Node.mentionsOfAll_append (front back : List Node) :
    Node.mentionsOfAll (front ++ back) = Node.mentionsOfAll front ++ Node.mentionsOfAll back := by
  induction front with
  | nil => rfl
  | cons node front induction => simp [Node.mentionsOfAll, induction]

theorem Node.mem_mentionsOfAll {nodes : List Node} {mention : Mention} :
    mention ∈ Node.mentionsOfAll nodes ↔ ∃ node ∈ nodes, mention ∈ node.mentions .plain := by
  induction nodes with
  | nil => simp [Node.mentionsOfAll]
  | cons node nodes induction => simp [Node.mentionsOfAll, induction]

theorem Pattern.mem_mentionsOfAll {patterns : List Pattern} {mention : Mention} :
    mention ∈ Pattern.mentionsOfAll patterns ↔
      ∃ pattern ∈ patterns, mention ∈ pattern.mentions := by
  induction patterns with
  | nil => simp [Pattern.mentionsOfAll]
  | cons pattern patterns induction => simp [Pattern.mentionsOfAll, induction]

theorem Parameter.mem_mentionsOfAll {parameters : List Parameter} {mention : Mention} :
    mention ∈ Parameter.mentionsOfAll parameters ↔
      ∃ parameter ∈ parameters, mention ∈ parameter.mentions := by
  induction parameters with
  | nil => simp [Parameter.mentionsOfAll]
  | cons parameter parameters induction => simp [Parameter.mentionsOfAll, induction]

theorem Declarator.mem_mentionsOfAll {declarators : List Declarator} {mention : Mention} :
    mention ∈ Declarator.mentionsOfAll declarators ↔
      ∃ declarator ∈ declarators, mention ∈ declarator.mentions := by
  induction declarators with
  | nil => simp [Declarator.mentionsOfAll]
  | cons declarator declarators induction => simp [Declarator.mentionsOfAll, induction]

variable {mention : Mention} {node : Node}

theorem Pattern.Context.mem_mentions_fill (context : Context)
    (mentioned : mention ∈ node.mentions .plain) : mention ∈ (context.fill node).mentions := by
  induction context with
  | inProperty front inner back induction =>
      exact Pattern.mem_mentionsOfAll.mpr ⟨_, by simp, induction⟩
  | inElement front inner back induction =>
      exact Pattern.mem_mentionsOfAll.mpr ⟨_, by simp, induction⟩
  | inKey value => exact List.mem_append_left _ mentioned
  | inValue key inner induction => exact List.mem_append_right _ induction
  | inTarget inner value induction => exact List.mem_append_left _ induction
  | inDefault target => exact List.mem_append_right _ mentioned
  | inRest inner induction => exact induction

theorem Parameter.Context.mem_mentions_fill (context : Context)
    (mentioned : mention ∈ node.mentions .plain) : mention ∈ (context.fill node).mentions := by
  cases context with
  | inPattern decorators inner ascription default =>
      simp [fill, Parameter.mentions, inner.mem_mentions_fill mentioned]
  | _ =>
      simp [fill, Parameter.mentions, Node.mentionsOfAll_append, Node.mentionsOfAll,
        Node.mentionsOfOption, mentioned]

theorem Declarator.Context.mem_mentions_fill (context : Context)
    (mentioned : mention ∈ node.mentions .plain) : mention ∈ (context.fill node).mentions := by
  cases context with
  | inPattern inner ascription initializer =>
      simp [fill, Declarator.mentions, inner.mem_mentions_fill mentioned]
  | _ => simp [fill, Declarator.mentions, Node.mentionsOfOption, mentioned]

/-- What a node mentions in whichever role is mentioned by the node around it. -/
theorem Node.Layer.mem_mentions_fill (layer : Layer)
    (mentioned : ∀ role, mention ∈ node.mentions role) (role : Role) :
    mention ∈ (layer.fill node).mentions role := by
  cases layer with
  | inDeclarator kind front inner back =>
      exact Declarator.mem_mentionsOfAll.mpr
        ⟨_, by simp, inner.mem_mentions_fill (mentioned .plain)⟩
  | inFunctionParameter _ _ _ _ front inner back =>
      have parameter : mention ∈ Parameter.mentionsOfAll (front ++ inner.fill node :: back) :=
        Parameter.mem_mentionsOfAll.mpr ⟨_, by simp, inner.mem_mentions_fill (mentioned .plain)⟩
      simp [fill, Node.mentions, parameter]
  | inSignatureParameter head front inner back result =>
      have parameter : mention ∈ Parameter.mentionsOfAll (front ++ inner.fill node :: back) :=
        Parameter.mem_mentionsOfAll.mpr ⟨_, by simp, inner.mem_mentions_fill (mentioned .plain)⟩
      simp [fill, Node.mentions, parameter]
  | inCatchParameter inner body =>
      exact List.mem_append_left _ (inner.mem_mentions_fill (mentioned .plain))
  | _ =>
      simp [fill, Node.mentions, Node.mentionsOfAll_append, Node.mentionsOfAll,
        Node.mentionsOfOption, mentioned]

/-- What a node mentions in whichever role is mentioned by the module around it. -/
theorem Program.Context.mem_mentions_fill (context : Context)
    (mentioned : ∀ role, mention ∈ node.mentions role) :
    mention ∈ (context.fill node).mentions := by
  have statement (role : Role) : mention ∈ (context.statement node).mentions role := by
    unfold Context.statement
    induction context.layers generalizing role with
    | nil => exact mentioned role
    | cons layer layers induction => exact layer.mem_mentions_fill induction role
  exact Node.mem_mentionsOfAll.mpr ⟨_, by simp [fill], statement .plain⟩

end Syntax

/-! ## The names of tags -/

namespace Syntax.TagName

/-- The identifier that the name begins with, if that refers to something. -/
def head? : TagName → Option Identifier
  | reference name => some name
  | member object => some object
  | intrinsic => none

/-- How an opening tag uses the identifier that its name begins with. -/
def openingRole (attributesAt : Nat) : TagName → Role
  | reference _ => .openingTag attributesAt
  | _ => .plain

variable {name : TagName} {head : Identifier}

theorem scopeItems_of_head? (begins : name.head? = some head) :
    name.scopeItems = [.reference head .value] := by
  cases name <;> cases begins <;> rfl

theorem openingMentions_of_head? (begins : name.head? = some head) (attributesAt : Nat) :
    name.openingMentions attributesAt = [⟨head, name.openingRole attributesAt⟩] := by
  cases name <;> cases begins <;> rfl

theorem closingMentions_of_head? (begins : name.head? = some head) :
    closingMentions (some name) = [⟨head, .plain⟩] := by
  cases name <;> cases begins <;> rfl

end Syntax.TagName

/-- The references of a node that begins and ends with one stand in the same scope. -/
theorem ScopeItem.referencesAll_enclosed (here : ScopeHandle) (next : Nat)
    (opened closed : Identifier) (between : List ScopeItem) :
    ∃ inner : List Reference, inner.length = referenceCountAll between ∧
      referencesAll here next
          ([.reference opened .value] ++ between ++ [.reference closed .value]) =
        ⟨opened.name, opened.span, some here, .plain, .value⟩ :: inner ++
          [⟨closed.name, closed.span, some here, .plain, .value⟩] := by
  refine ⟨_, length_referencesAll between here next, ?_⟩
  simp [referencesAll_append, referencesAll, references, scopeCount]

namespace ScopeAnalysis

/-- The references of a module at the two ends of a node in a hole. -/
theorem exists_references_at_ends (context : Program.Context) {node : Node}
    {opened closed : Identifier} {between : List ScopeItem}
    (items : node.scopeItems =
      [.reference opened .value] ++ between ++ [.reference closed .value]) :
    ∃ (front : List Reference) (first : Reference) (inner : List Reference) (last : Reference)
        (back : List Reference),
      (ofProgram (context.fill node)).references = front ++ first :: inner ++ last :: back ∧
        front.length = context.referencesBefore ∧ inner.length = referenceCountAll between ∧
        first.erased = ⟨opened.name, opened.span, some context.scope, .plain, .value⟩ ∧
        last.erased = ⟨closed.name, closed.span, some context.scope, .plain, .value⟩ := by
  have erased := erased_references (context.fill node)
  have lies : referencesAll context.scope (1 + context.scopesBefore) node.scopeItems <+:
      (referencesAll .root 1 (fillAll node.scopeItems context.itemLayers)).drop
        context.referencesBefore := references_prefix_fillAll ..
  rw [← context.scopeItems_fill, ← Program.scopedReferences, ← erased, ← List.map_drop, items,
    List.prefix_map_iff] at lies
  rcases lies with ⟨found, ⟨back, all⟩, same⟩
  rcases referencesAll_enclosed context.scope (1 + context.scopesBefore) opened closed
      between with ⟨inner, length, ends⟩
  rw [ends] at same
  rcases List.map_eq_append_iff.mp same.symm with ⟨left, right, rfl, leftSame, rightSame⟩
  rcases List.map_eq_cons_iff.mp leftSame with ⟨first, middle, rfl, firstErased, middleErased⟩
  rcases List.map_eq_singleton_iff.mp rightSame with ⟨last, rfl, lastErased⟩
  have long : context.referencesBefore ≤ (ofProgram (context.fill node)).references.length := by
    have := congrArg List.length all
    simp at this
    omega
  refine ⟨_, first, middle, last, back, ?_, List.length_take_of_le long, ?_, firstErased,
    lastErased⟩
  · refine (List.take_append_drop context.referencesBefore _).symm.trans ?_
    rw [← all]
    simp
  · rw [← length, ← middleErased, List.length_map]

end ScopeAnalysis

/-! ## Edits of references -/

/-- A reference that is recorded for a mention is used as the role of that one says, if no other
mention has its span. -/
theorem Reference.usage_eq_of_mentioned {program : Program} {reference : Reference}
    {mention : Mention} (found : reference ∈ (ScopeAnalysis.ofProgram program).references)
    (mentioned : mention ∈ program.mentions) (span : reference.span = mention.name.span)
    (distinct : (program.mentions.map (·.name.span)).Nodup) :
    reference.usage = mention.role.usage := by
  rcases exists_mem_of_forall₂_left (ScopeAnalysis.records_references program distinct) found
    with ⟨other, otherMentioned, records⟩
  have same : other = mention := List.inj_on_of_nodup_map distinct
    (List.mem_filter.mp otherMentioned).1 mentioned (records.span.symm.trans span)
  rw [← same]
  exact records.usage

namespace ImportBinding

variable (binding : ImportBinding) (source : List Char) (options : Options)

theorem referenceEdits_of_plain {reference : Reference} (plain : reference.usage = .plain) :
    binding.referenceEdits source options reference =
      [⟨reference.span.start, reference.span.stop, binding.replacement⟩] := by
  rw [referenceEdits, binding.referenceText_of_plain source options plain, plain]
  rfl

/-- The name of an opening tag gets a size behind it if it is a plain one. -/
theorem referenceEdits_of_openingTag {reference : Reference} {name : TagName} {head : Identifier}
    {attributesAt : Nat} (begins : name.head? = some head)
    (used : reference.usage = (name.openingRole attributesAt).usage) :
    binding.referenceEdits source options reference =
      ⟨reference.span.start, reference.span.stop, binding.replacement⟩ ::
        (if name = .reference head ∧ binding.needsSize options.defaultSize = true then
          [⟨attributesAt, attributesAt, binding.sizeAttribute⟩] else []) := by
  cases name with
  | reference name =>
      cases begins
      have tag : reference.usage = .tag attributesAt := used
      rw [referenceEdits_eq, replacementEdit, referenceText, sizeEdits, tag]
      simp
  | member object =>
      rw [binding.referenceEdits_of_plain source options used]
      simp
  | intrinsic => cases begins

end ImportBinding

/-- The names in the two tags of an element are recorded with one scope and one namespace, whatever
stands between them, and mean the same under every name. A binding is renamed in both of them or in
neither. If no two identifiers of the module have the same span, both get the new name, and only the
opening tag gets a size, unless its name goes on after a dot. -/
theorem closing_tag_follows_opening_tag (context : Program.Context) (name closing : TagName)
    (typeArguments : List Node) (attributesAt : Nat) (attributes children : List Node)
    (opened closed : Identifier) (opens : name.head? = some opened)
    (closes : closing.head? = some closed) (same : opened.name = closed.name) :
    let program := context.fill
      (.element name typeArguments attributesAt attributes children (some closing))
    let analysis := ScopeAnalysis.ofProgram program
    ∃ front first inner last back,
      analysis.references = front ++ first :: inner ++ last :: back ∧
      front.length = context.referencesBefore ∧
      inner.length =
        referenceCountAll (Node.scopeItemsAll (typeArguments ++ attributes ++ children)) ∧
      first.erased = ⟨opened.name, opened.span, some context.scope, .plain, .value⟩ ∧
      last.erased = ⟨closed.name, closed.span, some context.scope, .plain, .value⟩ ∧
      first.StandsWith last ∧
      (∀ target, first.resolve analysis.scopes target = last.resolve analysis.scopes target) ∧
      ∀ binding : ImportBinding,
        (first ∈ binding.renamedReferences analysis ↔ last ∈ binding.renamedReferences analysis) ∧
        ((program.mentions.map (·.name.span)).Nodup → ∀ source options,
          binding.referenceEdits source options first =
            ⟨opened.span.start, opened.span.stop, binding.replacement⟩ ::
              (if name = .reference opened ∧ binding.needsSize options.defaultSize = true then
                [⟨attributesAt, attributesAt, binding.sizeAttribute⟩] else []) ∧
          binding.referenceEdits source options last =
            [⟨closed.span.start, closed.span.stop, binding.replacement⟩]) := by
  intro program analysis
  have items : (Node.element name typeArguments attributesAt attributes children
      (some closing)).scopeItems =
        [.reference opened .value] ++ Node.scopeItemsAll (typeArguments ++ attributes ++ children)
          ++ [.reference closed .value] := by
    simp [Node.scopeItems, TagName.scopeItemsOption, TagName.scopeItems_of_head? opens,
      TagName.scopeItems_of_head? closes]
  rcases ScopeAnalysis.exists_references_at_ends context items
    with ⟨front, first, inner, last, back, split, before, count, firstErased, lastErased⟩
  have firstFound : first ∈ analysis.references := by simp [analysis, program, split]
  have lastFound : last ∈ analysis.references := by simp [analysis, program, split]
  rw [Reference.erased, Reference.mk.injEq] at firstErased lastErased
  rcases firstErased with ⟨firstName, firstSpan, firstScope, -, firstSpace⟩
  rcases lastErased with ⟨lastName, lastSpan, lastScope, -, lastSpace⟩
  have together : first.StandsWith last :=
    ⟨by rw [firstName, lastName, same], by rw [firstScope, lastScope],
      by rw [firstSpace, lastSpace]⟩
  refine ⟨front, first, inner, last, back, split, before, count, ?_, ?_, together,
    together.resolve_eq analysis.scopes, fun binding => ⟨?_, fun distinct source options => ?_⟩⟩
  · simp [Reference.erased, firstName, firstSpan, firstScope, firstSpace]
  · simp [Reference.erased, lastName, lastSpan, lastScope, lastSpace]
  · exact together.mem_renamedReferences_iff firstFound lastFound binding
  have mentioned (mention : Mention)
      (either : mention = ⟨opened, name.openingRole attributesAt⟩ ∨ mention = ⟨closed, .plain⟩) :
      mention ∈ program.mentions := by
    refine context.mem_mentions_fill fun role => ?_
    rw [Node.mentions, TagName.openingMentions_of_head? opens,
      TagName.closingMentions_of_head? closes]
    rcases either with rfl | rfl <;> simp
  have firstUsage := Reference.usage_eq_of_mentioned firstFound (mentioned _ (.inl rfl)) firstSpan
    distinct
  have lastUsage := Reference.usage_eq_of_mentioned lastFound (mentioned _ (.inr rfl)) lastSpan
    distinct
  rw [binding.referenceEdits_of_openingTag source options opens firstUsage, firstSpan,
    binding.referenceEdits_of_plain source options lastUsage, lastSpan]
  exact ⟨rfl, rfl⟩

/-- The module around `<A16>{A16 => A16}</A16>`. -/
private def importBeforeElement : Program.Context :=
  ⟨[.importing ⟨[.named ⟨⟨"A16", ⟨8, 11⟩, false⟩, ⟨"A16", ⟨8, 11⟩⟩, false, ⟨8, 11⟩⟩], "icons",
      ⟨18, 25⟩⟩],
    [.inPart .expressionStatement [] []], []⟩

/-- A function whose parameter is named like the import. -/
private def shadowingChild : Node :=
  .function .expression none [] none [.mk [] (.name ⟨"A16", ⟨32, 35⟩⟩) none none] none
    [.reference ⟨"A16", ⟨37, 40⟩⟩]

private def elementAroundFunction : Node :=
  .element (.reference ⟨"A16", ⟨27, 30⟩⟩) [] 30 [] [shadowingChild]
    (some (.reference ⟨"A16", ⟨43, 46⟩⟩))

/-- Both tags are renamed, and the opening one gets the size. -/
theorem tags_around_shadowing_function :
    let program := importBeforeElement.fill elementAroundFunction
    let analysis := ScopeAnalysis.ofProgram program
    let binding : ImportBinding := ⟨"A16", "A16", "A", 16, "A", false, false, ⟨8, 11⟩⟩
    let first : Reference := ⟨"A16", ⟨27, 30⟩, some .root, .tag 30, .value⟩
    let last : Reference := ⟨"A16", ⟨43, 46⟩, some .root, .plain, .value⟩
    Program.parse .standard "import \x7bA16\x7d from 'icons';<A16>\x7bA16=>A16\x7d</A16>" =
        .ok program ∧
      first ∈ binding.renamedReferences analysis ∧ last ∈ binding.renamedReferences analysis ∧
      binding.referenceEdits [] (.keeping "icons") first =
        [⟨27, 30, "A"⟩, ⟨30, 30, " size=\x7b16\x7d"⟩] ∧
      binding.referenceEdits [] (.keeping "icons") last = [⟨43, 46, "A"⟩] := by
  intro program analysis binding first last
  rcases closing_tag_follows_opening_tag importBeforeElement (.reference ⟨"A16", ⟨27, 30⟩⟩)
      (.reference ⟨"A16", ⟨43, 46⟩⟩) [] 30 [] [shadowingChild] _ _ rfl rfl rfl
    with ⟨front, first', inner, last', back, split, before, count, -, -, -, -, renamed⟩
  have listed : analysis.references =
      [first, ⟨"A16", ⟨37, 40⟩, some ⟨1⟩, .plain, .value⟩, last] := by decide +kernel
  obtain rfl : front = [] := List.eq_nil_of_length_eq_zero (before.trans (by decide +kernel))
  obtain ⟨middle, rfl⟩ := List.length_eq_one_iff.mp (count.trans (by decide +kernel))
  obtain ⟨rfl, rfl, rfl, rfl⟩ : first = first' ∧ _ = middle ∧ last = last' ∧ [] = back := by
    simpa using listed.symm.trans split
  have firstRenamed : first ∈ binding.renamedReferences analysis :=
    ImportBinding.mem_renamedReferences.mpr ⟨by simp [listed], rfl, by decide +kernel⟩
  rcases renamed binding with ⟨alike, edits⟩
  have parsed : Program.parse .standard
      "import \x7bA16\x7d from 'icons';<A16>\x7bA16=>A16\x7d</A16>" = .ok program := by
    decide +kernel
  rcases edits (Program.nodup_mentions_of_parse parsed) [] (.keeping "icons")
    with ⟨firstEdits, lastEdits⟩
  exact ⟨parsed, firstRenamed, alike.mp firstRenamed, firstEdits.trans (by decide +kernel),
    lastEdits⟩

end IconSize
