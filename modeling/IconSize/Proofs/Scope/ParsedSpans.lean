import IconSize.Proofs.Scope.Mentions
import IconSize.Proofs.Scope.Usages
import IconSize.Proofs.Syntax.LaidModules

/-!
The identifiers of a program that was read stand one behind the other in its source, each of them
with a byte at least.
-/

namespace IconSize.Syntax

/-! ## Mentions among the marks -/

@[simp] theorem Mention.spans_nil : spans [] = [] := rfl

@[simp] theorem Mention.spans_cons (mention : Mention) (others : List Mention) :
    spans (mention :: others) = mention.name.span :: spans others := rfl

theorem TagName.spans_openingMentions (tag : TagName) (attributesAt : Nat)
    (arguments : List Node) :
    Mark.spans (tag.outline attributesAt (Node.outlineAll arguments)).marks =
      Mention.spans (tag.openingMentions attributesAt) ++ Mark.spans (marks arguments) := by
  cases tag with
  | reference name =>
      cases arguments <;>
        simp [TagName.openingMentions, TagName.outline, Outline.marks, Node.outlineAll,
          Marked.marks_node]
  | member object | intrinsic =>
      simp [TagName.openingMentions, TagName.outline, Outline.marks, Outline.marksOfAll]

theorem TagName.spans_closingMentions (closing : Option TagName) :
    Mark.spans (marks closing) = Mention.spans (TagName.closingMentions closing) := by
  rcases closing with _ | tag
  · rfl
  · cases tag <;> rfl

theorem ExportSpecifier.spans_mention (specifier : ExportSpecifier) :
    Mark.spans specifier.outline.marks = Mention.spans [specifier.mention] := by
  unfold ExportSpecifier.outline
  split <;> rfl

mutual

/-- The identifiers that are mentioned in a node are among its marks, in the same order. -/
theorem Node.sublist_mentions : ∀ (node : Node) (role : Role),
    (Mention.spans (node.mentions role)).Sublist (Mark.spans (marks node))
  | .reference _, _ => .refl _
  | .typeReference name arguments, _ => by
      simpa [Node.mentions] using Node.sublist_mentionsOfAll arguments
  | .typeParameter _ bounds, _ => by simpa [Node.mentions] using Node.sublist_mentionsOfAll bounds
  | .group _ parts, _ => by simpa [Node.mentions] using Node.sublist_mentionsOfAll parts
  | .parenthesized inner, role => by simpa [Node.mentions] using inner.sublist_mentions role
  | .property key value, _ => by
      simpa [Node.mentions] using
        (key.sublist_mentions .plain).append (value.sublist_mentions (.property false))
  | .shorthand _, _ => .refl _
  | .shorthandDefault _ value, _ => by
      simpa [Node.mentions] using value.sublist_mentions .plain
  | .targetShorthand _, _ => .refl _
  | .block _ parts, _ => by simpa [Node.mentions] using Node.sublist_mentionsOfAll parts
  | .staticBlock body, _ => by simpa [Node.mentions] using Node.sublist_mentionsOfAll body
  | .variables _ declarators, _ => by
      simpa [Node.mentions] using Declarator.sublist_mentionsOfAll declarators
  | .function _ _ typeParameters receiver parameters result body, _ => by
      simpa [Node.mentions] using (Node.sublist_mentionsOfAll typeParameters).append
        ((Node.sublist_mentionsOfOption receiver).append
          ((Parameter.sublist_mentionsOfAll parameters).append
            ((Node.sublist_mentionsOfOption result).append (Node.sublist_mentionsOfAll body))))
  | .signature head parameters result, _ => by
      simpa [Node.mentions] using (Node.sublist_mentionsOfAll head).append
        ((Parameter.sublist_mentionsOfAll parameters).append
          (Node.sublist_mentionsOfOption result))
  | .classNode _ decorators _ inside, _ => by
      simpa [Node.mentions] using
        (Node.sublist_mentionsOfAll decorators).append (Node.sublist_mentionsOfAll inside)
  | .catchClause parameter body, _ => by
      simpa [Node.mentions] using parameter.sublist_mentions.append (body.sublist_mentions .plain)
  | .enumeration _ members, _ => by
      simpa [Node.mentions] using Node.sublist_mentionsOfAll members
  | .enumMember _ value, _ => by simpa [Node.mentions] using Node.sublist_mentionsOfOption value
  | .namespaceBlock _ body, _ => by simpa [Node.mentions] using Node.sublist_mentionsOfAll body
  | .interface _ inside, _ => by simpa [Node.mentions] using Node.sublist_mentionsOfAll inside
  | .typeAlias _ inside, _ => by simpa [Node.mentions] using Node.sublist_mentionsOfAll inside
  | .importing _, _ => List.nil_sublist _
  | .importEquals _ target, _ => by simpa [Node.mentions] using Node.sublist_mentionsOfAll target
  | .exportSpecifier specifier, _ => by simp [Node.mentions, specifier.spans_mention]
  | .element name typeArguments attributesAt attributes children closing, _ => by
      simpa [Node.mentions, TagName.spans_openingMentions, TagName.spans_closingMentions] using
        (Node.sublist_mentionsOfAll typeArguments).append
          ((Node.sublist_mentionsOfAll attributes).append
            ((Node.sublist_mentionsOfAll children).append (.refl _)))

theorem Node.sublist_mentionsOfAll : ∀ nodes : List Node,
    (Mention.spans (Node.mentionsOfAll nodes)).Sublist (Mark.spans (marks nodes))
  | [] => .refl _
  | node :: others => by
      simpa [Node.mentionsOfAll] using
        (node.sublist_mentions .plain).append (Node.sublist_mentionsOfAll others)

theorem Node.sublist_mentionsOfOption : ∀ node : Option Node,
    (Mention.spans (Node.mentionsOfOption node)).Sublist (Mark.spans (marks node))
  | none => .refl _
  | some node => node.sublist_mentions .plain

theorem Pattern.sublist_mentions : ∀ pattern : Pattern,
    (Mention.spans pattern.mentions).Sublist (Mark.spans (marks pattern))
  | .name _ => .refl _
  | .object properties => by
      simpa [Pattern.mentions] using Pattern.sublist_mentionsOfAll properties
  | .array elements => by simpa [Pattern.mentions] using Pattern.sublist_mentionsOfAll elements
  | .hole => .refl _
  | .keyed key value => by
      simpa [Pattern.mentions] using (key.sublist_mentions .plain).append value.sublist_mentions
  | .withDefault target value => by
      simpa [Pattern.mentions] using target.sublist_mentions.append (value.sublist_mentions .plain)
  | .rest target => by simpa [Pattern.mentions] using target.sublist_mentions

theorem Pattern.sublist_mentionsOfAll : ∀ patterns : List Pattern,
    (Mention.spans (Pattern.mentionsOfAll patterns)).Sublist (Mark.spans (marks patterns))
  | [] => .refl _
  | pattern :: others => by
      simpa [Pattern.mentionsOfAll] using
        pattern.sublist_mentions.append (Pattern.sublist_mentionsOfAll others)

theorem Parameter.sublist_mentions : ∀ parameter : Parameter,
    (Mention.spans parameter.mentions).Sublist (Mark.spans (marks parameter))
  | .mk decorators pattern ascription default => by
      simpa [Parameter.mentions] using (Node.sublist_mentionsOfAll decorators).append
        (pattern.sublist_mentions.append ((Node.sublist_mentionsOfOption ascription).append
          (Node.sublist_mentionsOfOption default)))

theorem Parameter.sublist_mentionsOfAll : ∀ parameters : List Parameter,
    (Mention.spans (Parameter.mentionsOfAll parameters)).Sublist (Mark.spans (marks parameters))
  | [] => .refl _
  | parameter :: others => by
      simpa [Parameter.mentionsOfAll] using
        parameter.sublist_mentions.append (Parameter.sublist_mentionsOfAll others)

theorem Declarator.sublist_mentions : ∀ declarator : Declarator,
    (Mention.spans declarator.mentions).Sublist (Mark.spans (marks declarator))
  | .mk pattern ascription initializer => by
      simpa [Declarator.mentions] using pattern.sublist_mentions.append
        ((Node.sublist_mentionsOfOption ascription).append
          (Node.sublist_mentionsOfOption initializer))

theorem Declarator.sublist_mentionsOfAll : ∀ declarators : List Declarator,
    (Mention.spans (Declarator.mentionsOfAll declarators)).Sublist
      (Mark.spans (marks declarators))
  | [] => .refl _
  | declarator :: others => by
      simpa [Declarator.mentionsOfAll] using
        declarator.sublist_mentions.append (Declarator.sublist_mentionsOfAll others)

end

/-! ## Programs that were read -/

namespace Program

variable {dialect : Dialect} {source : String} {program : Program}

/-- The identifiers of a program stand one behind the other. -/
theorem pairwise_mentions_of_parse (parsed : parse dialect source = .ok program) :
    (Mention.spans program.mentions).Pairwise fun left right => left.stop ≤ right.start := by
  exact (laid_of_parse parsed).pairwise_spans.sublist (Node.sublist_mentionsOfAll program.body)

/-- No identifier of a program is empty. -/
theorem mention_filled_of_parse (parsed : parse dialect source = .ok program) {span : Span}
    (member : span ∈ Mention.spans program.mentions) : span.start < span.stop := by
  exact ((laid_of_parse parsed).filled_of_mem_spans span
    ((Node.sublist_mentionsOfAll program.body).subset member)).2

/-- No two identifiers of a program have the same span. -/
theorem nodup_mentions_of_parse (parsed : parse dialect source = .ok program) :
    (program.mentions.map (·.name.span)).Nodup := by
  refine (pairwise_mentions_of_parse parsed).imp_of_mem ?_
  rintro left _ member _ behind rfl
  have := mention_filled_of_parse parsed member
  omega

/-- The references of a program stand where its identifiers do. -/
theorem sublist_references_of_parse (parsed : parse dialect source = .ok program) :
    ((ScopeAnalysis.ofProgram program).references.map (·.span)).Sublist
      (Mention.spans program.mentions) := by
  have records := ScopeAnalysis.records_references program (nodup_mentions_of_parse parsed)
  have same : (ScopeAnalysis.ofProgram program).references.map (·.span) =
      Mention.spans (program.mentions.filter (·.role.refers)) := by
    rw [Mention.spans, ← List.forall₂_eq_eq_eq, List.forall₂_map_left_iff,
      List.forall₂_map_right_iff]
    exact records.imp fun _ _ recorded => recorded.span
  rw [same]
  exact List.filter_sublist.map _

/-- No reference of a program is empty. -/
theorem reference_filled_of_parse (parsed : parse dialect source = .ok program)
    {reference : Reference} (member : reference ∈ (ScopeAnalysis.ofProgram program).references) :
    reference.span.start < reference.span.stop :=
  mention_filled_of_parse parsed
    ((sublist_references_of_parse parsed).subset (List.mem_map_of_mem member))

/-- The references of a program stand one behind the other. -/
theorem pairwise_references_of_parse (parsed : parse dialect source = .ok program) :
    (ScopeAnalysis.ofProgram program).references.Pairwise fun left right =>
      left.span.stop ≤ right.span.start :=
  List.pairwise_map.mp
    ((pairwise_mentions_of_parse parsed).sublist (sublist_references_of_parse parsed))

/-- What an edit can cover in an import is not empty. -/
theorem import_filled_of_parse (parsed : parse dialect source = .ok program)
    {declaration : ImportDeclaration} (imported : .importing declaration ∈ program.body)
    {span : Span} (member : span ∈ declaration.pieces) : span.start < span.stop := by
  have marked : span ∈ Mark.spans program.marks := by
    refine List.mem_filterMap.mpr ⟨.aside span, List.mem_flatMap.mpr ⟨_, imported, ?_⟩, rfl⟩
    rw [Marked.marks_importing]
    exact List.mem_map_of_mem member
  exact ((laid_of_parse parsed).filled_of_mem_spans span marked).2

/-- What the references of a program cover, with the places for attributes, is all different. -/
theorem nodup_stretches_of_parse (parsed : parse dialect source = .ok program) :
    ((ScopeAnalysis.ofProgram program).references.flatMap Reference.stretches).Nodup := by
  have same := Outline.perm_stretchesOfAll (Node.outlineAll program.body)
  rw [Marked.marksOfAll_outlineAll] at same
  rw [ScopeAnalysis.stretches_references, ← Outline.stretchesOfAll_outlineAll]
  exact same.nodup_iff.mp (laid_of_parse parsed).nodup_stretches

end Program
end IconSize.Syntax
