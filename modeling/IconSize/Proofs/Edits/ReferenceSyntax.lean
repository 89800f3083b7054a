import IconSize.Proofs.Edits.Outcome
import IconSize.Proofs.Icon.CallWrapper
import IconSize.Proofs.Icon.TagWrapper

/-!
What is read where the transform wrote a reference. A value is read as one expression, and an entry
and an attribute as such, if the new name is no reserved word. The only exception is the wrapper
that holds markup, in a dialect without.
-/

namespace IconSize
open Syntax Syntax.Grammar Syntax.Parser Text

theorem Text.isIndentation_of_mem_lineIndent (text : List Char) (offset : Nat) :
    ∀ letter ∈ (lineIndent? text offset).getD [], isIndentation letter = true := by
  cases indented : lineIndent? text offset with
  | none => simp
  | some indent =>
      simp only [lineIndent?, Option.map_eq_some_iff] at indented
      rcases indented with ⟨parts, -, rfl⟩
      exact fun letter member => List.mem_takeWhile_imp member

namespace ImportBinding

/-- Is the value of the binding a wrapper that holds markup? -/
def needsMarkup (binding : ImportBinding) (options : Options) : Bool :=
  binding.needsSize options.defaultSize && WrapperKind.ofName binding.replacement == .tag

variable {binding : ImportBinding} (source : List Char) {options : Options} (place : Nat)

theorem valueText_of_needsMarkup (needs : binding.needsMarkup options = true) :
    binding.valueText source options place =
      Wrapper.tagText binding.replacement binding.size := by
  simp only [needsMarkup, Bool.and_eq_true, beq_iff_eq] at needs
  simp only [valueText, needs, if_true, Wrapper.text]

/-- Without markup the value is the new name or a wrapper that calls. -/
theorem valueText_of_not_needsMarkup (needs : binding.needsMarkup options = false) :
    binding.valueText source options place = binding.replacement ∨
    ∃ indent, (∀ letter ∈ indent, isIndentation letter = true) ∧
      binding.valueText source options place =
        Wrapper.callText binding.replacement binding.size (String.ofList indent)
          options.printOptions.trailingComma := by
  cases sized : binding.needsSize options.defaultSize with
  | false =>
      left
      simp [valueText, sized]
  | true =>
      right
      have callable : WrapperKind.ofName binding.replacement = .callable := by
        cases kind : WrapperKind.ofName binding.replacement with
        | tag => simp [needsMarkup, sized, kind] at needs
        | callable => rfl
      refine ⟨_, isIndentation_of_mem_lineIndent source place, ?_⟩
      simp only [valueText, sized, if_true, Wrapper.text, callable]

section

variable (plain : Lexer.isName binding.replacement.toList = true)
  (notReserved : Token.reservedWords.contains binding.replacement = false)
  {surroundings : Surroundings}
  (noAwait : binding.replacement = "await" → surroundings.inAsync = false)
  (noYield : binding.replacement = "yield" → surroundings.inGenerator = false)
  (long : 2 ≤ surroundings.size) (depth offset lastStop : Nat) (openDefaults : List Nat)
  {closing : Char} (closes : closing ∈ [')', ']', '}', ',', ';']) (rest : List Char)
include plain

theorem read_valueText_without_markup (needs : binding.needsMarkup options = true)
    (markup : surroundings.dialect.jsx = false) : ∃ error,
    (grammar (depth + 6) (.assignment true)).read surroundings
      (.at ⟨offset, (binding.valueText source options place).toList ++ rest⟩ lastStop
        openDefaults) = .error error := by
  rw [valueText_of_needsMarkup source place needs]
  simp only [needsMarkup, Bool.and_eq_true, beq_iff_eq] at needs
  exact Wrapper.read_tagText_without_markup needs.2 plain (depth + 2) binding.size offset lastStop
    openDefaults rest markup

include notReserved noAwait noYield long closes

theorem read_valueText_with_markup
    (markup : binding.needsMarkup options = true → surroundings.dialect.jsx = true) : ∃ node stop,
    (grammar (depth + 6) (.assignment true)).read surroundings
      (.at ⟨offset, (binding.valueText source options place).toList ++ closing :: rest⟩ lastStop
        openDefaults) = .ok (node, .at ⟨stop, closing :: rest⟩ stop openDefaults) := by
  cases needs : binding.needsMarkup options with
  | true =>
      have allowed := markup needs
      rw [valueText_of_needsMarkup source place needs]
      simp only [needsMarkup, Bool.and_eq_true, beq_iff_eq] at needs
      exact Wrapper.read_tagText_with_markup needs.2 plain depth binding.size offset lastStop
        openDefaults rest allowed long closes
  | false =>
      rcases valueText_of_not_needsMarkup source place needs with text | ⟨indent, blank, text⟩
      · rw [text]
        have ends : Lexer.EndsName (closing :: rest) := endsName_closing closes rest
        exact ⟨_, _, @read_assignment_name ⟨grammar (depth + 5)⟩ surroundings _ plain notReserved
          noAwait noYield offset lastStop openDefaults _ ends (closes_at closes ..)⟩
      · rw [text]
        exact Wrapper.read_callText plain notReserved binding.size
          (by simpa using blank) options.printOptions.trailingComma long depth offset lastStop
          openDefaults closes rest

end

section

variable {source : List Char} {place : Nat} {rest : List Char} {closing : Char}

/-- A blank before the value is skipped. -/
theorem at_blank_valueText (plain : Lexer.isName binding.replacement.toList = true)
    (closes : closing ∈ [')', ']', '}', ',', ';']) (offset lastStop : Nat)
    (openDefaults : List Nat) :
    Cursor.at ⟨offset, ' ' :: ((binding.valueText source options place).toList ++ closing :: rest)⟩
        lastStop openDefaults =
      .at ⟨offset + 1, (binding.valueText source options place).toList ++ closing :: rest⟩ lastStop
        openDefaults := by
  cases needs : binding.needsMarkup options with
  | true =>
      rw [valueText_of_needsMarkup source place needs, Wrapper.toList_tagText]
      exact Wrapper.at_blank_react ..
  | false =>
      rcases valueText_of_not_needsMarkup source place needs with text | ⟨indent, -, text⟩
      · have ends := endsName_closing closes rest
        rw [text, Cursor.at_blank_name plain ends, Cursor.at_name plain ends]
      · rw [text, Wrapper.toList_callText]
        rfl

/-- Only the new name itself can be the name of a binding. -/
theorem valueText_of_isName
    (plain : Lexer.isName (binding.valueText source options place).toList = true) :
    binding.needsMarkup options = false ∧
      binding.valueText source options place = binding.replacement := by
  have noParenthesis (before after : List Char) :
      (binding.valueText source options place).toList ≠ before ++ '(' :: after := by
    intro same
    have part := Lexer.isIdentifierPart_of_isName plain '(' (by simp [same])
    exact absurd part (by decide)
  cases needs : binding.needsMarkup options with
  | true =>
      have text := Wrapper.toList_tagText binding.replacement binding.size []
      rw [← valueText_of_needsMarkup source place needs, List.append_nil] at text
      refine absurd text (noParenthesis "React.forwardRef".toList _)
  | false =>
      rcases valueText_of_not_needsMarkup source place needs with text | ⟨indent, -, text⟩
      · exact ⟨rfl, text⟩
      · have spelled := Wrapper.toList_callText binding.replacement binding.size
          (String.ofList indent) options.printOptions.trailingComma []
        rw [← text, List.append_nil] at spelled
        exact absurd spelled (noParenthesis [] _)

end
end ImportBinding

/-! ## Values -/

/-- Something is read exactly if it is allowed, and then up to this text. -/
structure IsReadWhen {α : Type} (allowed : Bool) (rest : List Char) (openDefaults : List Nat)
    (result : Except SyntaxError (α × Cursor)) : Prop where
  isOk_eq : result.isOk = allowed
  stops : ∀ value after, result = .ok (value, after) →
    ∃ stop, after = .at ⟨stop, rest⟩ stop openDefaults

namespace IsReadWhen

variable {α β : Type} {allowed : Bool} {rest : List Char} {openDefaults : List Nat}

theorem of_ok {value : α} {stop : Nat} :
    IsReadWhen true rest openDefaults (.ok (value, .at ⟨stop, rest⟩ stop openDefaults)) := by
  refine ⟨rfl, ?_⟩
  rintro _ _ ⟨⟩
  exact ⟨stop, rfl⟩

theorem of_error {error : SyntaxError} :
    IsReadWhen (α := α) false rest openDefaults (.error error) :=
  ⟨rfl, fun _ _ same => nomatch same⟩

theorem map {parser : Parser α} {surroundings : Surroundings} {cursor : Cursor} (build : α → β)
    (read : IsReadWhen allowed rest openDefaults (parser.read surroundings cursor)) :
    IsReadWhen allowed rest openDefaults
      ((do return build (← parser) : Parser β).read surroundings cursor) := by
  simp only [read_bind]
  cases parsed : parser.read surroundings cursor with
  | error error =>
      rw [parsed] at read
      exact read.isOk_eq ▸ of_error
  | ok result =>
      rcases result with ⟨value, after⟩
      rw [parsed] at read
      rcases read.stops value after rfl with ⟨stop, rfl⟩
      exact read.isOk_eq ▸ of_ok

end IsReadWhen

/-- What is read where a value stands: an expression, or the member of an object whose key the name
was as well. -/
def valueParser [Grammar] (shorthand : Bool) : Parser Node :=
  if shorthand then objectMember else assignmentExpression true

section

variable {binding : ImportBinding} (plain : Lexer.isName binding.replacement.toList = true)
  (notReserved : Token.reservedWords.contains binding.replacement = false) {source : List Char}
  {options : Options} {place : Nat} {surroundings : Surroundings}
  (noAwait : binding.replacement = "await" → surroundings.inAsync = false)
  (noYield : binding.replacement = "yield" → surroundings.inGenerator = false)
  (long : 2 ≤ surroundings.size) {closing : Char}
  (closes : closing ∈ [')', ']', '}', ',', ';']) (depth offset lastStop : Nat)
  (openDefaults : List Nat) (rest : List Char)
include plain notReserved noAwait noYield long closes

theorem ImportBinding.isReadWhen_valueText :
    IsReadWhen (!binding.needsMarkup options || surroundings.dialect.jsx) (closing :: rest)
      openDefaults ((grammar (depth + 6) (.assignment true)).read surroundings
        (.at ⟨offset, (binding.valueText source options place).toList ++ closing :: rest⟩ lastStop
          openDefaults)) := by
  cases allowed : !binding.needsMarkup options || surroundings.dialect.jsx with
  | false =>
      simp only [Bool.or_eq_false_iff, Bool.not_eq_false'] at allowed
      rcases binding.read_valueText_without_markup source place plain depth offset lastStop
        openDefaults (closing :: rest) allowed.1 allowed.2 with ⟨error, failed⟩
      rw [failed]
      exact .of_error
  | true =>
      have markup : binding.needsMarkup options = true → surroundings.dialect.jsx = true := by
        simpa [← Bool.not_eq_true, Classical.or_iff_not_imp_left] using allowed
      rcases binding.read_valueText_with_markup source place plain notReserved noAwait noYield long
        depth offset lastStop openDefaults closes rest markup with ⟨node, stop, parsed⟩
      rw [parsed]
      exact .of_ok

theorem ImportBinding.isReadWhen_member (named : Lexer.isName binding.localName.toList = true) :
    IsReadWhen (!binding.needsMarkup options || surroundings.dialect.jsx) (closing :: rest)
      openDefaults ((@objectMember ⟨grammar (depth + 6)⟩).read surroundings
        (.at ⟨offset, (if binding.valueText source options place != binding.localName then
          binding.localName ++ ": " ++ binding.valueText source options place
          else binding.valueText source options place).toList ++ closing :: rest⟩ lastStop
            openDefaults)) := by
  split
  · have colon : ": ".toList = [':', ' '] := by rfl
    simp only [String.toList_append, colon, List.append_assoc, List.cons_append, List.nil_append]
    rw [Cursor.at_name named ⟨':', _, rfl, by decide, by decide⟩,
      @read_valueMember ⟨grammar (depth + 6)⟩]
    apply IsReadWhen.map
    rw [Wrapper.read_assignmentWithIn, binding.at_blank_valueText plain closes]
    exact @ImportBinding.isReadWhen_valueText binding plain notReserved source options place
      (Wrapper.argumentSurroundings surroundings) noAwait noYield long closing closes depth _ _
      openDefaults rest
  · rename_i same
    simp only [bne_iff_ne, ne_eq, not_not] at same
    rcases binding.valueText_of_isName (same ▸ named) with ⟨noMarkup, text⟩
    rw [text, noMarkup, Cursor.at_name plain (endsName_closing closes rest),
      @read_shorthandMember ⟨grammar (depth + 6)⟩ _ _ _ _ _ _ _ notReserved noAwait noYield
        (closes_at closes ..)]
    exact .of_ok

end

/-- Where a name is used as a value, the text for it is read as a whole, as one expression or one
member of an object, exactly if it holds no markup or the dialect has markup. -/
theorem planned_value_read_iff {binding : ImportBinding} {reference : Reference} {shorthand : Bool}
    (usage : reference.usage = .value shorthand)
    (named : Lexer.isName binding.localName.toList = true)
    (plain : Lexer.isName binding.replacement.toList = true)
    (notReserved : Token.reservedWords.contains binding.replacement = false) (source : List Char)
    (options : Options) {surroundings : Surroundings}
    (noAwait : binding.replacement = "await" → surroundings.inAsync = false)
    (noYield : binding.replacement = "yield" → surroundings.inGenerator = false)
    (long : 2 ≤ surroundings.size) {closing : Char}
    (closes : closing ∈ [')', ']', '}', ',', ';']) (depth offset lastStop : Nat)
    (openDefaults : List Nat) (rest : List Char) :
    IsReadWhen (!binding.needsMarkup options || surroundings.dialect.jsx) (closing :: rest)
      openDefaults ((@valueParser ⟨grammar (depth + 6)⟩ shorthand).read surroundings
        (.at ⟨offset, (binding.referenceText source options reference).toList ++ closing :: rest⟩
          lastStop openDefaults)) := by
  cases shorthand with
  | false =>
      simp only [valueParser, ImportBinding.referenceText, usage, Bool.false_and,
        Bool.false_eq_true, if_false]
      exact binding.isReadWhen_valueText plain notReserved noAwait noYield long closes (depth + 1)
        offset lastStop openDefaults rest
  | true =>
      simp only [valueParser, ImportBinding.referenceText, usage, Bool.true_and, if_true]
      exact binding.isReadWhen_member plain notReserved noAwait noYield long closes depth offset
        lastStop openDefaults rest named

private def iconValueBinding : ImportBinding :=
  ⟨"Add16", "Add16", "Add", 16, "Add", false, false, ⟨9, 14⟩⟩

/-- After `[` in a file with types and without markup. -/
theorem add_wrapper_rejected_without_markup :
    let surroundings : Surroundings := ⟨.ofPath ⟨"a.ts"⟩, 100, true, false, true, false, false,
      false, true⟩
    let reference : Reference := ⟨"Add16", ⟨1, 6⟩, none, .value false, .value⟩
    reference.usage = .value false ∧ Lexer.isName iconValueBinding.localName.toList = true ∧
      Lexer.isName iconValueBinding.replacement.toList = true ∧
      Token.reservedWords.contains iconValueBinding.replacement = false ∧
      iconValueBinding.replacement ≠ "await" ∧ iconValueBinding.replacement ≠ "yield" ∧
      2 ≤ surroundings.size ∧ ']' ∈ [')', ']', '}', ',', ';'] ∧
    ((@valueParser ⟨grammar 6⟩ false).read surroundings
      (.at ⟨1, (iconValueBinding.referenceText [] .standard reference).toList ++ [']']⟩ 1
        [])).isOk = false := by
  intro surroundings reference
  have named : Lexer.isName iconValueBinding.localName.toList = true := by decide +kernel
  have plain : Lexer.isName iconValueBinding.replacement.toList = true := by decide +kernel
  have notReserved : Token.reservedWords.contains iconValueBinding.replacement = false := by
    decide
  have noAwait : iconValueBinding.replacement ≠ "await" := by decide
  have noYield : iconValueBinding.replacement ≠ "yield" := by decide
  have long : 2 ≤ surroundings.size := by decide
  have closes : ']' ∈ [')', ']', '}', ',', ';'] := by decide
  refine ⟨rfl, named, plain, notReserved, noAwait, noYield, long, closes, ?_⟩
  have read := @planned_value_read_iff iconValueBinding reference false rfl named plain notReserved
    [] .standard surroundings (fun same => absurd same noAwait) (fun same => absurd same noYield)
    long _ closes 0 1 1 [] []
  rw [Nat.zero_add] at read
  exact read.isOk_eq.trans (by decide +kernel)

private def iconValueSource : String :=
  "import \x7b Add16 \x7d from '@carbon/icons-react';\nconst m = \x7b key: Add16 \x7d;\n"

/-- A module that uses an icon as a plain value. -/
private def iconValue : Program :=
  ⟨[.importing ⟨[.named ⟨⟨"Add16", ⟨9, 14⟩, false⟩, ⟨"Add16", ⟨9, 14⟩⟩, false, ⟨9, 14⟩⟩],
      "@carbon/icons-react", ⟨22, 43⟩⟩,
    .variables .const [.mk (.name ⟨"m", ⟨51, 52⟩⟩) none (some (.group (.object false)
      [.property (.group .plainKey []) (.reference ⟨"Add16", ⟨62, 67⟩⟩)]))]]⟩

private def iconValueCode : String :=
  "import \x7b Add \x7d from '@carbon/icons-react/next';\nconst m = \x7b key: " ++
    Wrapper.tagText "Add" 16 ++ " \x7d;\n"

private theorem apply_iconValue :
    (iconValue.plan iconValueSource.toList .standard [iconValueBinding]).apply iconValueSource =
      .ok iconValueCode := by
  have planned : (iconValue.plan iconValueSource.toList .standard [iconValueBinding]).edits =
      [⟨22, 43, "'@carbon/icons-react/next'"⟩, ⟨9, 14, "Add"⟩,
        ⟨62, 67, Wrapper.tagText "Add" 16⟩] := by decide +kernel
  have permuted : [⟨9, 14, "Add"⟩, ⟨22, 43, "'@carbon/icons-react/next'"⟩,
      ⟨62, 67, Wrapper.tagText "Add" 16⟩].Perm
        (iconValue.plan iconValueSource.toList .standard [iconValueBinding]).edits := by
    rw [planned]
    exact List.Perm.swap ..
  rw [Plan.apply_of_perm permuted (by decide +kernel)]
  decide +kernel

/-- The wrapper of an icon is markup. In a file with types and without markup it makes a module
that uses an icon as a plain value into no module. -/
theorem icon_value_rejected_without_markup :
    let specifiers := (iconValue.importsOf Options.standard.targetModule).flatMap (·.specifiers)
    Program.parse (.ofPath ⟨"a.ts"⟩) iconValueSource = .ok iconValue ∧
    (specifiers.all fun specifier => !specifier.imported.quoted &&
      (IconName.decompose specifier.imported.name).toOption.any fun icon =>
        !Token.reservedWords.contains icon.name) = true ∧
    (specifiers.map (·.binder.name)).Nodup ∧
    ∃ error, transformFile ⟨"a.ts"⟩ iconValueSource .standard = .error (.invalidOutput error) := by
  have parsed : Program.parse (.ofPath ⟨"a.ts"⟩) iconValueSource = .ok iconValue := by
    decide +kernel
  have chosen : iconValue.chosenBindings .standard = .ok [iconValueBinding] := by decide +kernel
  have imports : iconValue.importsOf Options.standard.targetModule ≠ [] := by decide +kernel
  have rejected : (Program.parse (.ofPath ⟨"a.ts"⟩) iconValueCode).isOk = false := by
    decide +kernel
  refine ⟨parsed, by decide +kernel, by decide +kernel, ?_⟩
  cases reparsed : Program.parse (.ofPath ⟨"a.ts"⟩) iconValueCode with
  | ok result => simp [reparsed, Except.isOk, Except.toBool] at rejected
  | error error =>
      refine ⟨error, ?_⟩
      rw [transformFile, transformAs_of_parse parsed,
        transformProgram_eq_invalidOutput_iff imports chosen]
      exact ⟨iconValueCode, apply_iconValue, reparsed⟩

/-! ## Entries and attributes -/

/-- Where a name is exported, the entry for it is read as the new name under the old one. -/
theorem planned_export_read {binding : ImportBinding} {reference : Reference}
    (usage : reference.usage = .other true)
    (named : Lexer.isName binding.localName.toList = true)
    (plain : Lexer.isName binding.replacement.toList = true) (source : List Char)
    (options : Options) {surroundings : Surroundings} (offset lastStop : Nat)
    (openDefaults : List Nat) {rest : List Char} (ends : Lexer.EndsEntry rest) :
    ∃ second stop, second.name = binding.localName ∧
      entry.read surroundings
        (.at ⟨offset, (binding.referenceText source options reference).toList ++ rest⟩ lastStop
          openDefaults) =
        .ok (⟨.plain binding.replacement offset, second, false, ⟨offset, stop⟩⟩,
          .at ⟨stop, rest⟩ stop openDefaults) := by
  simp only [ImportBinding.referenceText, usage, Bool.true_and]
  split
  · have between : " as ".toList = ' ' :: ("as".toList ++ [' ']) := by rfl
    simp only [String.toList_append, between, List.append_assoc, List.cons_append,
      List.nil_append]
    exact ⟨_, _, rfl, read_entry_renamed plain named ends (.at_ahead ..)⟩
  · rename_i same
    simp only [bne_iff_ne, ne_eq, not_not] at same
    exact ⟨_, _, same, read_entry_name plain ends (.at_ahead ..)⟩

/-- The attribute for the size is read as one, whatever stands behind it. -/
theorem planned_size_read (binding : ImportBinding) (surroundings : Surroundings)
    (depth offset lastStop : Nat) (openDefaults : List Nat) (rest : List Char) : ∃ stop,
    (@markupAttribute ⟨grammar (depth + 2)⟩).read surroundings
      (.at ⟨offset, binding.sizeAttribute.toList ++ rest⟩ lastStop openDefaults) =
        .ok (.group .tagAttribute [literal], .at ⟨stop, rest⟩ stop openDefaults) := by
  have closing : "\x7d".toList = ['}'] := by rfl
  have read := Wrapper.read_sizeAttribute surroundings depth offset lastStop openDefaults rest
    Wrapper.toString_ne_nil (@Wrapper.isDigit_of_mem_toString binding.size)
  simpa only [ImportBinding.sizeAttribute, String.toList_append, closing, List.append_assoc,
    List.cons_append, List.nil_append] using read

end IconSize
