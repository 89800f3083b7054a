import IconSize.Proofs.Syntax.Marks
import IconSize.Proofs.Syntax.Reading
import IconSize.Syntax.Program

/-!
Parsers lay out what they read. A parser never goes back, so what it yields stands between the place
where it begins and the one where it ends, and what a rule puts together from its parts, in the
order in which it reads them, is laid out as well.
-/

namespace IconSize.Syntax
open Text IconSize.Syntax.Parser

/-- Values that keep marks of the source. -/
class Marked (α : Type) where
  marks : α → List Mark

export Marked (marks)

namespace Marked

variable {α β : Type}

instance : Marked Identifier := ⟨fun identifier => [.name identifier.span]⟩

instance : Marked Node := ⟨fun node => node.outline.marks⟩

instance : Marked Pattern := ⟨fun pattern => pattern.outline.marks⟩

instance : Marked Parameter := ⟨fun parameter => parameter.outline.marks⟩

instance : Marked Declarator := ⟨fun declarator => declarator.outline.marks⟩

instance [Marked α] : Marked (List α) := ⟨fun values => values.flatMap marks⟩

instance [Marked α] : Marked (Option α) := ⟨fun value => value.elim [] marks⟩

instance [Marked α] [Marked β] : Marked (α × β) := ⟨fun pair => marks pair.1 ++ marks pair.2⟩

instance [Marked α] [Marked β] : Marked (α ⊕ β) := ⟨Sum.elim marks marks⟩

instance : Marked Bool := ⟨fun _ => []⟩

instance : Marked String := ⟨fun _ => []⟩

instance : Marked TagName := ⟨fun name => Outline.marksOfAll (TagName.closingOutline (some name))⟩

section
variable [Marked α] [Marked β] (value : α) (values others : List α)

@[simp] theorem marks_nil : marks ([] : List α) = [] := rfl

@[simp] theorem marks_cons : marks (value :: values) = marks value ++ marks values := rfl

@[simp] theorem marks_append : marks (values ++ others) = marks values ++ marks others :=
  List.flatMap_append

@[simp] theorem marks_none : marks (none : Option α) = [] := rfl

@[simp] theorem marks_some : marks (some value) = marks value := rfl

@[simp] theorem marks_toList (value : Option α) : marks value.toList = marks value := by
  cases value
  · rfl
  · exact List.append_nil _

@[simp] theorem marks_prod (pair : α × β) : marks pair = marks pair.1 ++ marks pair.2 := rfl

@[simp] theorem marks_inl : marks (.inl value : α ⊕ β) = marks value := rfl

@[simp] theorem marks_inr : marks (.inr value : β ⊕ α) = marks value := rfl

@[simp] theorem marks_bool (flag : Bool) : marks flag = [] := rfl

@[simp] theorem marks_string (text : String) : marks text = [] := rfl

end

@[simp] theorem marks_identifier (identifier : Identifier) :
    marks identifier = [.name identifier.span] := rfl

/-! ## Marks of trees -/

@[simp] theorem marksOfAll_outlineAll (nodes : List Node) :
    Outline.marksOfAll (Node.outlineAll nodes) = marks nodes := by
  induction nodes with
  | nil => rfl
  | cons node nodes induction => exact congrArg (marks node ++ ·) induction

@[simp] theorem marksOfAll_outlineOption (node : Option Node) :
    Outline.marksOfAll (Node.outlineOption node) = marks node := by
  cases node
  · rfl
  · exact List.append_nil _

@[simp] theorem marksOfAll_patterns (patterns : List Pattern) :
    Outline.marksOfAll (Pattern.outlineAll patterns) = marks patterns := by
  induction patterns with
  | nil => rfl
  | cons pattern patterns induction => exact congrArg (marks pattern ++ ·) induction

@[simp] theorem marksOfAll_parameters (parameters : List Parameter) :
    Outline.marksOfAll (Parameter.outlineAll parameters) = marks parameters := by
  induction parameters with
  | nil => rfl
  | cons parameter parameters induction => exact congrArg (marks parameter ++ ·) induction

@[simp] theorem marksOfAll_declarators (declarators : List Declarator) :
    Outline.marksOfAll (Declarator.outlineAll declarators) = marks declarators := by
  induction declarators with
  | nil => rfl
  | cons declarator declarators induction => exact congrArg (marks declarator ++ ·) induction

theorem marks_node (node : Node) : marks node = node.outline.marks := rfl

theorem marks_pattern (pattern : Pattern) : marks pattern = pattern.outline.marks := rfl

section
variable (name : Identifier) (nodes others : List Node) (node other : Node)

@[simp] theorem marks_reference : marks (Node.reference name) = [.name name.span] := rfl

@[simp] theorem marks_typeReference :
    marks (Node.typeReference name nodes) = .name name.span :: marks nodes :=
  congrArg (_ :: ·) (marksOfAll_outlineAll nodes)

@[simp] theorem marks_typeParameter : marks (Node.typeParameter name nodes) = marks nodes :=
  marksOfAll_outlineAll nodes

@[simp] theorem marks_group (form : Form) : marks (Node.group form nodes) = marks nodes :=
  marksOfAll_outlineAll nodes

@[simp] theorem marks_getD_group (ascription : Option Node) (form : Form) :
    marks (ascription.getD (.group form [])) = marks ascription := by
  cases ascription
  · rfl
  · rfl

@[simp] theorem marks_parenthesized : marks (Node.parenthesized node) = marks node :=
  List.append_nil _

@[simp] theorem marks_property :
    marks (Node.property node other) = marks node ++ marks other :=
  congrArg (marks node ++ ·) (List.append_nil _)

@[simp] theorem marks_shorthand : marks (Node.shorthand name) = [.name name.span] := rfl

@[simp] theorem marks_shorthandDefault :
    marks (Node.shorthandDefault name node) = .name name.span :: marks node :=
  congrArg (_ :: ·) (List.append_nil _)

@[simp] theorem marks_targetShorthand :
    marks (Node.targetShorthand name) = [.name name.span] := rfl

@[simp] theorem marks_block (form : BlockForm) : marks (Node.block form nodes) = marks nodes :=
  marksOfAll_outlineAll nodes

@[simp] theorem marks_staticBlock : marks (Node.staticBlock nodes) = marks nodes :=
  marksOfAll_outlineAll nodes

@[simp] theorem marks_variables (kind : VariableKind) (declarators : List Declarator) :
    marks (Node.variables kind declarators) = marks declarators :=
  marksOfAll_declarators declarators

@[simp] theorem marks_function (role : FunctionRole) (binder : Option Identifier)
    (receiver result : Option Node) (parameters : List Parameter) :
    marks (Node.function role binder nodes receiver parameters result others) =
      marks nodes ++ marks receiver ++ marks parameters ++ marks result ++ marks others := by
  simp [marks_node, Node.outline, Outline.marks]

@[simp] theorem marks_signature (parameters : List Parameter) (result : Option Node) :
    marks (Node.signature nodes parameters result) =
      marks nodes ++ marks parameters ++ marks result := by
  simp [marks_node, Node.outline, Outline.marks]

@[simp] theorem marks_classNode (role : ClassRole) (binder : Option Identifier) :
    marks (Node.classNode role nodes binder others) = marks nodes ++ marks others := by
  simp [marks_node, Node.outline, Outline.marks]

@[simp] theorem marks_catchClause (parameter : Parameter) :
    marks (Node.catchClause parameter node) = marks parameter ++ marks node :=
  congrArg (marks parameter ++ ·) (List.append_nil _)

@[simp] theorem marks_enumeration : marks (Node.enumeration name nodes) = marks nodes :=
  marksOfAll_outlineAll nodes

@[simp] theorem marks_enumMember (text : String) (value : Option Node) :
    marks (Node.enumMember text value) = marks value :=
  marksOfAll_outlineOption value

@[simp] theorem marks_namespaceBlock (binder : Option Identifier) :
    marks (Node.namespaceBlock binder nodes) = marks nodes :=
  marksOfAll_outlineAll nodes

@[simp] theorem marks_interface : marks (Node.interface name nodes) = marks nodes :=
  marksOfAll_outlineAll nodes

@[simp] theorem marks_typeAlias : marks (Node.typeAlias name nodes) = marks nodes :=
  marksOfAll_outlineAll nodes

@[simp] theorem marks_importing (declaration : ImportDeclaration) :
    marks (Node.importing declaration) = declaration.pieces.map .aside :=
  Outline.marksOfAll_asides _

@[simp] theorem marks_importEquals : marks (Node.importEquals name nodes) = marks nodes :=
  marksOfAll_outlineAll nodes

@[simp] theorem marks_exportSpecifier (specifier : ExportSpecifier) :
    marks (Node.exportSpecifier specifier) = specifier.outline.marks := rfl

@[simp] theorem marks_closing (closing : Option TagName) :
    Outline.marksOfAll (TagName.closingOutline closing) = marks closing := by
  cases closing
  · rfl
  · rfl

@[simp] theorem marks_element (tag : TagName) (attributesAt : Nat) (attributes : List Node)
    (closing : Option TagName) :
    marks (Node.element tag nodes attributesAt attributes others closing) =
      (tag.outline attributesAt (Node.outlineAll nodes)).marks ++ marks attributes ++ marks others
        ++ marks closing := by
  simp [marks_node, Node.outline, Outline.marks, Outline.marksOfAll]

@[simp] theorem marks_tagReference : marks (TagName.reference name) = [.name name.span] := rfl

@[simp] theorem marks_tagMember : marks (TagName.member name) = [.name name.span] := rfl

@[simp] theorem marks_intrinsic : marks TagName.intrinsic = [] := rfl

@[simp] theorem marks_name : marks (Pattern.name name) = [] := rfl

@[simp] theorem marks_object (patterns : List Pattern) :
    marks (Pattern.object patterns) = marks patterns :=
  marksOfAll_patterns patterns

@[simp] theorem marks_array (patterns : List Pattern) :
    marks (Pattern.array patterns) = marks patterns :=
  marksOfAll_patterns patterns

@[simp] theorem marks_hole : marks Pattern.hole = [] := rfl

@[simp] theorem marks_keyed (value : Pattern) :
    marks (Pattern.keyed node value) = marks node ++ marks value :=
  congrArg (marks node ++ ·) (List.append_nil _)

@[simp] theorem marks_withDefault (target : Pattern) :
    marks (Pattern.withDefault target node) = marks target ++ marks node :=
  congrArg (marks target ++ ·) (List.append_nil _)

@[simp] theorem marks_rest (target : Pattern) : marks (Pattern.rest target) = marks target :=
  List.append_nil _

@[simp] theorem marks_parameter (pattern : Pattern) (ascription default : Option Node) :
    marks (Parameter.mk nodes pattern ascription default) =
      marks nodes ++ marks pattern ++ marks ascription ++ marks default := by
  change Outline.marksOfAll _ = _
  simp [Outline.marksOfAll, marks_pattern]

@[simp] theorem marks_declarator (pattern : Pattern) (ascription initializer : Option Node) :
    marks (Declarator.mk pattern ascription initializer) =
      marks pattern ++ marks ascription ++ marks initializer := by
  change Outline.marksOfAll _ = _
  simp [Outline.marksOfAll, marks_pattern]

end
end Marked

/-! ## Places of the source -/

theorem Ahead.Reaches.isBoundary {source : List Char} {ahead : Ahead}
    (reached : Ahead.Reaches ⟨0, source⟩ ahead) : IsBoundary source ahead.offset := by
  rcases reached with ⟨before, chars, offset⟩
  exact ⟨before, ahead.chars, chars, by rw [offset, Nat.zero_add]⟩

theorem Cursor.IsIn.isBoundary_lastStop {cursor : Cursor} {source : List Char}
    (stands : cursor.IsIn source) : IsBoundary source cursor.lastStop := by
  rcases stands with ⟨taken, reached, lastStop, _⟩
  exact lastStop ▸ reached.isBoundary

namespace Parser

variable {α β σ : Type} {source : List Char} {before : List Mark}

/-! ## Parsers that lay out -/

/-- Where these marks are laid out in what was read before, those of what the parser yields are laid
out in what is read then. -/
structure LaysAfter (parser : Parser α) (before : List Mark) (after : α → List Mark) : Prop where
  laid : ∀ {source low surroundings cursor value next}, cursor.IsIn source →
    parser.read surroundings cursor = .ok (value, next) →
    Laid source low before cursor.lastStop → Laid source low (after value) next.lastStop

/-- What the parser yields is laid out where it was read. -/
class Lays [Marked α] (parser : Parser α) : Prop where
  lays : parser.LaysAfter [] marks

/-- Types whose values keep no marks that matter, so that what yields them is passed over. -/
class Bare (α : Type) : Prop

namespace LaysAfter

variable {parser first : Parser α} {next : α → Parser β} {after : α → List Mark}
  {answer : β → List Mark}

theorem pure {value : α} (part : (after value).Sublist before) :
    (Pure.pure value : Parser α).LaysAfter before after where
  laid _ succeeded laid := by
    cases succeeded
    exact laid.sublist part

theorem fail (fault : SyntaxFault) : (Parser.fail fault : Parser α).LaysAfter before after where
  laid _ succeeded := by cases succeeded

theorem mono {less : List Mark} (lays : parser.LaysAfter less after)
    (part : less.Sublist before) : parser.LaysAfter before after where
  laid stands succeeded laid := lays.laid stands succeeded (laid.sublist part)

/-- What the parser yields stands behind what was read before. -/
theorem behind (lays : parser.LaysAfter [] after) :
    parser.LaysAfter before fun value => before ++ after value where
  laid stands succeeded laid := laid.append (lays.laid stands succeeded (Nat.le_refl _))

/-- What the first parser hands on is laid out for what comes then. -/
theorem bindWith (middle : α → List Mark) (lays : first.LaysAfter before middle)
    (rest : ∀ value, (next value).LaysAfter (middle value) answer) :
    (first >>= next).LaysAfter before answer where
  laid stands succeeded laid := by
    rcases read_bind_eq_ok succeeded with ⟨value, between, taken, succeeded⟩
    exact (rest value).laid (first.keeps stands taken).stands succeeded
      (lays.laid stands taken laid)

theorem bindOf [Marked α] (lays : first.LaysAfter before marks)
    (rest : ∀ value, (next value).LaysAfter (marks value) answer) :
    (first >>= next).LaysAfter before answer :=
  bindWith marks lays rest

theorem bindBy [Marked α] (lays : first.LaysAfter [] marks)
    (rest : ∀ value, (next value).LaysAfter (before ++ marks value) answer) :
    (first >>= next).LaysAfter before answer :=
  bindWith _ (behind lays) rest

theorem bind [Marked α] [lays : Lays first]
    (rest : ∀ value, (next value).LaysAfter (before ++ marks value) answer) :
    (first >>= next).LaysAfter before answer :=
  bindBy lays.lays rest

/-- What the first parser yields does not matter. -/
theorem pass (rest : ∀ value, (next value).LaysAfter before answer) :
    (first >>= next).LaysAfter before answer := by
  refine bindWith (fun _ => before) ⟨?_⟩ rest
  exact fun stands succeeded laid => laid.mono_high (first.keeps stands succeeded).later

theorem skip [Bare α] (rest : ∀ value, (next value).LaysAfter before answer) :
    (first >>= next).LaysAfter before answer :=
  pass rest

theorem pureBind {value : α} (rest : (next value).LaysAfter before answer) :
    (Pure.pure value >>= next : Parser β).LaysAfter before answer :=
  ⟨rest.laid⟩

theorem last [Marked α] [lays : Lays parser] : parser.LaysAfter before marks where
  laid stands succeeded laid := lays.lays.laid stands succeeded laid.le

theorem within {change : Surroundings → Surroundings} (lays : parser.LaysAfter before after) :
    (Parser.within change parser).LaysAfter before after :=
  ⟨lays.laid⟩

theorem attempt [Marked α] (lays : parser.LaysAfter [] marks) :
    (Parser.attempt parser).LaysAfter [] marks where
  laid stands succeeded laid := by
    unfold Parser.attempt at succeeded
    dsimp only at succeeded
    split at succeeded
    · rename_i taken
      cases succeeded
      exact lays.laid stands taken laid
    · cases succeeded
      exact laid

theorem unlessNone [Marked α] {parser : Parser (Option α)} (lays : parser.LaysAfter [] marks) :
    (Parser.unlessNone parser).LaysAfter [] marks where
  laid stands succeeded laid := by
    unfold Parser.unlessNone at succeeded
    dsimp only at succeeded
    split at succeeded
    · rename_i taken
      cases succeeded
      exact lays.laid stands taken laid
    · cases succeeded
      exact laid
    · cases succeeded

/-- Every step lays out what it adds behind the state. -/
theorem iterate {step : σ → Parser (σ ⊕ α)} {state : σ → List Mark}
    (lays : ∀ start, (step start).LaysAfter (state start) (Sum.elim state after)) :
    ∀ steps start, (Parser.iterate step steps start).LaysAfter (state start) after
  | 0, _ => fail _
  | steps + 1, start => by
      refine bindWith _ (lays start) fun next => ?_
      cases next with
      | inl start => exact iterate lays steps start
      | inr value => exact pure (List.Sublist.refl _)

theorem loop {step : σ → Parser (σ ⊕ α)} (state : σ → List Mark) {start : σ}
    (lays : ∀ start, (step start).LaysAfter (state start) (Sum.elim state after)) :
    (Parser.loop start step).LaysAfter (state start) after where
  laid {_ _ surroundings _ _ _} stands succeeded :=
    (iterate lays (surroundings.size + 2) start).laid stands succeeded

end LaysAfter

/-! ## Parsers made of others -/

section
variable [Marked α] (parser : Parser α) [lays : Lays parser]

instance (change : Surroundings → Surroundings) : Lays (within change parser) :=
  ⟨.within lays.lays⟩

instance : Lays (some <$> parser) where
  lays := by
    change (parser >>= fun value => Pure.pure (some value)).LaysAfter [] marks
    exact .bind fun value => .pure (List.Sublist.refl _)

instance : Lays (List.singleton <$> parser) where
  lays := by
    change (parser >>= fun value => Pure.pure [value]).LaysAfter [] marks
    exact .bind fun value => .pure (by simp)

instance (test : Parser Bool) : Lays (many test parser) where
  lays := by
    refine .loop (fun items : List α => marks items.reverse) fun items => .pass fun more => ?_
    split
    · exact .bind fun value => .pure (by simp)
    · exact .pure (List.Sublist.refl _)

instance (close : String) : Lays (commaListFlagged close parser) where
  lays := by
    refine .loop (fun state : List α × Bool => marks state.1.reverse) fun (items, comma) => ?_
    refine .pass fun closed => ?_
    split
    · exact .pure (by simp)
    · refine .bind fun first => .pass fun comma => ?_
      split
      · exact .pure (by simp)
      · refine .pass fun closed => ?_
        split
        · exact .pure (by simp)
        · exact .fail _

instance (close : String) : Lays (commaList close parser) where
  lays := by
    unfold commaList
    exact .bind fun value => .pure (by simp)

omit lays in
theorem LaysAfter.many {parser : Parser α} (test : Parser Bool)
    (lays : parser.LaysAfter [] marks) : (Parser.many test parser).LaysAfter [] marks :=
  have : Lays parser := ⟨lays⟩
  Lays.lays

omit lays in
theorem LaysAfter.commaList {parser : Parser α} (close : String)
    (lays : parser.LaysAfter [] marks) : (Parser.commaList close parser).LaysAfter [] marks :=
  have : Lays parser := ⟨lays⟩
  Lays.lays

omit lays in
theorem LaysAfter.commaListFlagged {parser : Parser α} (close : String)
    (lays : parser.LaysAfter [] marks) :
    (Parser.commaListFlagged close parser).LaysAfter [] marks :=
  have : Lays parser := ⟨lays⟩
  Lays.lays

instance : Lays (commaSeparated parser) where
  lays := by
    refine .bind fun first => .mono (.loop (fun items : List α => marks items.reverse) ?_) (by simp)
    refine fun items => .pass fun comma => ?_
    split
    · exact .bind fun value => .pure (by simp)
    · exact .pure (List.Sublist.refl _)

end

/-! ## The token ahead -/

/-- The token ahead stands behind what was taken last. -/
theorem laid_of_isFilled {cursor : Cursor} (stands : cursor.IsIn source)
    (filled : cursor.token.kind.isFilled = true) :
    Laid source cursor.lastStop [.name cursor.token.span] cursor.token.span.stop := by
  have follows := stands.follows
  have takes := follows.takes filled
  rw [show cursor.token.span = ⟨cursor.here.offset, cursor.after.offset⟩ from follows.span]
  exact ⟨_, ⟨⟨Nat.le_of_lt takes, stands.here.isBoundary,
    (stands.here.trans follows.covers).isBoundary⟩, takes, stands.lastStop_le, rfl⟩, Nat.le_refl _⟩

/-- The same where this token is ahead. -/
structure LaysAt (parser : Parser α) (token : Token) (before : List Mark)
    (after : α → List Mark) : Prop where
  laid : ∀ {source low surroundings cursor value next}, cursor.IsIn source →
    cursor.token = token → parser.read surroundings cursor = .ok (value, next) →
    Laid source low before cursor.lastStop → Laid source low (after value) next.lastStop

section
variable {parser : Parser α} {next : α → Parser β} {ahead : Token} {after : α → List Mark}
  {answer : β → List Mark}

theorem LaysAfter.token {next : Token → Parser β}
    (rest : ∀ token, (next token).LaysAt token before answer) :
    (Parser.token >>= next).LaysAfter before answer where
  laid {_ _ _ cursor _ _} stands succeeded laid :=
    (rest cursor.token).laid stands rfl succeeded laid

namespace LaysAt

theorem fail (fault : SyntaxFault) : (Parser.fail fault : Parser α).LaysAt ahead before after where
  laid _ _ succeeded := by cases succeeded

theorem of_laysAfter (lays : parser.LaysAfter before after) : parser.LaysAt ahead before after where
  laid stands _ := lays.laid stands

/-- Something is seen, and the token stays ahead. -/
theorem look {see : Surroundings → Cursor → Except SyntaxError α}
    (rest : ∀ value, (next value).LaysAt ahead before answer) :
    (Parser.look see >>= next).LaysAt ahead before answer where
  laid stands same succeeded laid := by
    rcases read_bind_eq_ok succeeded with ⟨value, between, seen, succeeded⟩
    unfold Parser.look at seen
    dsimp only at seen
    split at seen
    · cases seen
      exact (rest value).laid stands same succeeded laid
    · cases seen

theorem failIf {condition : Bool} {fault : SyntaxFault} {next : Unit → Parser β}
    (rest : (next ()).LaysAt ahead before answer) :
    (Parser.failIf condition fault >>= next).LaysAt ahead before answer where
  laid stands same succeeded laid := by
    rcases read_bind_eq_ok succeeded with ⟨value, between, seen, succeeded⟩
    cases condition <;> cases seen
    exact rest.laid stands same succeeded laid

/-- The token is taken. -/
theorem advance {next : Unit → Parser β} (filled : ahead.kind.isFilled = true)
    (rest : (next ()).LaysAfter (before ++ [.name ahead.span]) answer) :
    (Parser.advance >>= next).LaysAt ahead before answer where
  laid {_ _ _ cursor _ _} stands same succeeded laid := by
    subst same
    rcases read_bind_eq_ok succeeded with ⟨_, between, taken, succeeded⟩
    have place := (Parser.advance.keeps stands taken).stands
    cases taken
    exact rest.laid place succeeded (laid.append (laid_of_isFilled stands filled))

end LaysAt
end

/-! ## Names -/

theorem isFilled_of_isWord {token : Token} (word : token.isWord = true) :
    token.kind.isFilled = true := by
  rw [show token.kind = .word by simpa [Token.isWord] using word]
  rfl

theorem isWord_of_isIdentifier {token : Token} (word : token.isIdentifier = true) :
    token.isWord = true := by
  simp only [Token.isIdentifier, Bool.and_eq_true] at word
  exact word.1

/-- The identifier that a token is has its span, and nothing is read to tell. -/
theorem identifierOf_read {token : Token} {surroundings : Surroundings} {cursor after : Cursor}
    {identifier : Identifier}
    (succeeded : (identifierOf token).read surroundings cursor = .ok (identifier, after)) :
    token.isWord = true ∧ identifier = token.identifier ∧ after = cursor := by
  unfold identifierOf at succeeded
  rcases read_bind_eq_ok succeeded with ⟨_, _, seen, succeeded⟩
  cases seen
  split at succeeded
  · cases succeeded
  · rename_i word
    split at succeeded <;> cases succeeded
    exact ⟨isWord_of_isIdentifier (by simpa using word), rfl, rfl⟩

theorem LaysAfter.identifierOf {token : Token} {next : Identifier → Parser β}
    {answer : β → List Mark} (rest : (next token.identifier).LaysAfter before answer) :
    (Parser.identifierOf token >>= next).LaysAfter before answer where
  laid stands succeeded laid := by
    rcases read_bind_eq_ok succeeded with ⟨_, _, chosen, reading⟩
    rcases identifierOf_read chosen with ⟨_, rfl, rfl⟩
    exact rest.laid stands reading laid

instance : Lays identifier where
  lays := by
    refine .token fun token => ⟨fun stands ahead succeeded laid => ?_⟩
    rcases read_bind_eq_ok succeeded with ⟨_, _, chosen, reading⟩
    rcases identifierOf_read chosen with ⟨word, rfl, rfl⟩
    have taken : (Parser.advance >>= fun _ => Pure.pure token.identifier).LaysAt token []
        (marks : Identifier → List Mark) :=
      .advance (isFilled_of_isWord word) (.pure (List.Sublist.refl _))
    exact taken.laid stands ahead reading laid

instance : Lays name where
  lays := by
    refine .token fun token => ?_
    split
    · rename_i word
      exact .advance (isFilled_of_isWord word) (.pure (List.Sublist.refl _))
    · exact .fail _

theorem extendWord_read {surroundings : Surroundings} {cursor after : Cursor} {value : Unit}
    (succeeded : extendWord.read surroundings cursor = .ok (value, after)) :
    after.token.kind = cursor.token.kind := by
  unfold extendWord move at succeeded
  dsimp only at succeeded
  split at succeeded <;> cases succeeded <;> rfl

instance : Lays markupName where
  lays := by
    refine ⟨fun stands succeeded laid => ?_⟩
    rcases read_bind_eq_ok succeeded with ⟨isWord, _, seen, reading⟩
    cases seen
    split at reading
    · rename_i word
      rcases read_bind_eq_ok reading with ⟨_, extended, grown, reading⟩
      rcases read_bind_eq_ok reading with ⟨token, _, seen, reading⟩
      cases seen
      have kept := extendWord.keeps stands grown
      have filled : extended.token.kind.isFilled = true := by
        rw [extendWord_read grown]
        exact isFilled_of_isWord word
      have taken : (Parser.advance >>= fun _ => Pure.pure extended.token.identifier).LaysAt
          extended.token [] (marks : Identifier → List Mark) :=
        .advance filled (.pure (List.Sublist.refl _))
      exact taken.laid kept.stands rfl reading (Laid.mono_high laid kept.later)
    · cases reading

end Parser
end IconSize.Syntax
