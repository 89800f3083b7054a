import IconSize.Edits.Renaming
import IconSize.Proofs.Icon.Component

/-!
The wrapper of an icon that is called. It holds no markup, so it is an expression in all dialects:
a function whose component calls `React.createElement` with the icon and an object. The object is
written over several lines and has the size between the reference and the other properties.
-/

namespace IconSize.Wrapper
open Syntax Syntax.Grammar Syntax.Parser Text

/-- The cursor at a closing brace with which a line begins. -/
def atBrace (offset lastStop : Nat) (openDefaults : List Nat) (rest : List Char) : Cursor :=
  ⟨⟨.punctuator, Lexer.closeBrace, ⟨offset, offset + 1⟩, true, false, false⟩,
    ⟨offset, '}' :: rest⟩, ⟨offset + 1, rest⟩, lastStop, openDefaults⟩

section

variable {indent : List Char} (all : ∀ letter ∈ indent, isIndentation letter = true)
  {offset lastStop : Nat} {openDefaults : List Nat} {rest : List Char}
include all

theorem at_line_name {name : String} (plain : Lexer.isName name.toList = true)
    (ends : Lexer.EndsName rest) :
    Cursor.at ⟨offset, '\n' :: (indent ++ (name.toList ++ rest))⟩ lastStop openDefaults =
      .word name true (offset + 1 + byteLength indent) rest lastStop openDefaults := by
  rcases ends with ⟨character, others, rfl, stops, noEscape⟩
  have word (offset : Nat) := Lexer.word_of_isName plain stops noEscape true offset others
  rcases Lexer.exists_start_of_isName plain with ⟨first, letters, spelled, start⟩
  rw [Cursor.at, Lexer.next_line all offset, spelled, List.cons_append,
    Lexer.tokenAt_of_start start, ← List.cons_append, ← spelled, word]
  · simp [Cursor.word, Lexer.Step.of, Ahead.skip]
  · intro offset
    rw [spelled, List.cons_append,
      Lexer.skipGap_of_part (Lexer.isIdentifierPart_of_start start)]

theorem at_line_dots :
    Cursor.at ⟨offset, '\n' :: (indent ++ ("...".toList ++ rest))⟩ lastStop openDefaults =
      ⟨⟨.punctuator, "...", ⟨offset + 1 + byteLength indent, offset + 1 + byteLength indent + 3⟩,
          true, false, false⟩,
        ⟨offset + 1 + byteLength indent, "...".toList ++ rest⟩,
        ⟨offset + 1 + byteLength indent + 3, rest⟩, lastStop, openDefaults⟩ := by
  rw [Cursor.at, Lexer.next_line all offset]
  · rfl
  · intro offset
    rfl

theorem at_line_brace :
    Cursor.at ⟨offset, '\n' :: (indent ++ '}' :: rest)⟩ lastStop openDefaults =
      atBrace (offset + 1 + byteLength indent) lastStop openDefaults rest := by
  rw [Cursor.at, Lexer.next_line all offset]
  · rfl
  · intro offset
    rfl

end

/-- A blank before a number is skipped. -/
theorem at_blank_digits {digits : List Char} (some : digits ≠ [])
    (all : ∀ digit ∈ digits, digit.isDigit = true) (offset lastStop : Nat)
    (openDefaults : List Nat) (rest : List Char) :
    Cursor.at ⟨offset, ' ' :: (digits ++ rest)⟩ lastStop openDefaults =
      .at ⟨offset + 1, digits ++ rest⟩ lastStop openDefaults := by
  cases digits with
  | nil => exact absurd rfl some
  | cons first digits =>
      have part := Lexer.isIdentifierPart_of_isDigit (all first List.mem_cons_self)
      rw [List.cons_append, Cursor.at, Lexer.next_blank part]
      rfl

section

variable [Grammar] {surroundings : Surroundings} {offset lastStop : Nat}
  {openDefaults : List Nat} {rest : List Char}

theorem read_spreadMember {cursor : Cursor} {span : Span} {newLine : Bool}
    (token : cursor.token = ⟨.punctuator, "...", span, newLine, false, false⟩) :
    objectMember.read surroundings cursor =
      (do return .group .spread [← assignmentWithIn] : Parser Node).read surroundings
        (.at cursor.after span.stop cursor.openDefaults) := by
  simp [objectMember, token, Token.isPunctuator]

/-- An object is an expression before a closing parenthesis, once its members are read. -/
theorem read_object {next : List Char} {members : List Node} {comma : Bool} {place stop : Nat}
    (listed : (commaListFlagged Lexer.closeBrace objectMember).read surroundings
      (.at ⟨offset + 2, next⟩ (offset + 2) openDefaults) =
        .ok ((members, comma), atBrace place stop openDefaults (')' :: rest))) :
    (assignmentExpression true).read surroundings
      (.at ⟨offset, ' ' :: '{' :: next⟩ lastStop openDefaults) =
        .ok (.group (.object comma) members,
          .at ⟨place + 1, ')' :: rest⟩ (place + 1) openDefaults) := by
  let brace : Cursor := .at ⟨offset, ' ' :: '{' :: next⟩ lastStop openDefaults
  have token : brace.token =
      ⟨.punctuator, Lexer.openBrace, ⟨offset + 1, offset + 2⟩, false, false, false⟩ := by
    rfl
  have literal : objectLiteral.read surroundings brace =
      .ok (.group (.object comma) members,
        .at ⟨place + 1, ')' :: rest⟩ (place + 1) openDefaults) := by
    have opens : brace.token.isPunctuator Lexer.openBrace = true := by rfl
    have closes : (atBrace place stop openDefaults (')' :: rest)).token.isPunctuator
        Lexer.closeBrace = true := by rfl
    have after : brace.after = ⟨offset + 2, next⟩ := by rfl
    have stops : brace.token.span.stop = offset + 2 := by rfl
    have defaults : brace.openDefaults = openDefaults := by rfl
    simp only [objectLiteral, read_bind, read_expect, opens, if_true, after, stops, defaults,
      listed, closes]
    rfl
  have object : primary.read surroundings brace =
      .ok (.group (.object comma) members,
        .at ⟨place + 1, ')' :: rest⟩ (place + 1) openDefaults) := by
    rw [← literal]
    simp [primary, token, Lexer.openBrace]
  exact read_assignment_of_primary ⟨_, _, _, _, token, .inr ⟨rfl, rfl⟩⟩ object
    (closes_at (by decide) ..)

end

/-! ## The object with the size -/

/-- The last member of the object, with or without a comma after it, and the closing brace. -/
def spreadText (indent : List Char) (trailing : Bool) (rest : List Char) : List Char :=
  '\n' :: (indent ++ [' ', ' '] ++ ("...".toList ++ ("props".toList ++
    ((if trailing then [','] else []) ++ '\n' :: (indent ++ '}' :: rest)))))

/-- The members of the object from the size on. -/
def sizeText (indent digits : List Char) (trailing : Bool) (rest : List Char) : List Char :=
  '\n' :: (indent ++ [' ', ' '] ++ ("size".toList ++ ':' :: ' ' :: (digits ++ ',' ::
    spreadText indent trailing rest)))

/-- The members of the object. -/
def membersText (indent digits : List Char) (trailing : Bool) (rest : List Char) : List Char :=
  '\n' :: (indent ++ [' ', ' '] ++ ("ref".toList ++ ',' :: sizeText indent digits trailing rest))

section

variable {indent digits : List Char} (blank : ∀ letter ∈ indent, isIndentation letter = true)
  (some : digits ≠ []) (digit : ∀ letter ∈ digits, letter.isDigit = true) (trailing : Bool)
  (surroundings : Surroundings) (depth offset lastStop : Nat) (openDefaults : List Nat)
  (rest : List Char)

include blank in
theorem isIndentation_inner : ∀ letter ∈ indent ++ [' ', ' '], isIndentation letter = true := by
  intro letter member
  rcases List.mem_append.mp member with outer | inner
  · exact blank letter outer
  · simp only [List.mem_cons, List.not_mem_nil, or_false, or_self] at inner
    rw [inner]
    rfl

include blank

theorem closes_before_brace :
    (Cursor.at ⟨offset, (if trailing then [','] else []) ++ '\n' :: (indent ++ '}' :: rest)⟩
      lastStop openDefaults).Closes := by
  cases trailing with
  | true => exact closes_at (by decide) ..
  | false =>
      simp only [Bool.false_eq_true, if_false, List.nil_append, at_line_brace blank]
      exact ⟨"\x7d", by decide, _, _, rfl⟩

/-- The spread is the last member; after it only the closing brace is ahead. -/
theorem lists_spread : ∃ value place stop,
    ListsUpTo Lexer.closeBrace (@objectMember ⟨grammar (depth + 1)⟩) surroundings
      (.at ⟨offset, spreadText indent trailing rest⟩ lastStop openDefaults)
      [value] (atBrace place stop openDefaults rest) := by
  have inner := isIndentation_inner blank
  let start := offset + 1 + byteLength (indent ++ [' ', ' '])
  let tail := (if trailing then [','] else []) ++ '\n' :: (indent ++ '}' :: rest)
  let spread : Node := .group .spread [.reference ⟨"props", ⟨start + 3, start + 8⟩⟩]
  let dots : Cursor := ⟨⟨.punctuator, "...", ⟨start, start + 3⟩, true, false, false⟩,
    ⟨start, "...".toList ++ ("props".toList ++ tail)⟩, ⟨start + 3, "props".toList ++ tail⟩,
    lastStop, openDefaults⟩
  have closes := closes_before_brace blank trailing (start + 8) (start + 8) openDefaults rest
  have ends : Lexer.EndsName tail := by
    cases trailing with
    | true => exact ⟨',', _, rfl, by decide, by decide⟩
    | false => exact ⟨'\n', _, rfl, by decide, by decide⟩
  have parsed : (@objectMember ⟨grammar (depth + 1)⟩).read surroundings dots =
      .ok (spread, .at ⟨start + 8, tail⟩ (start + 8) openDefaults) := by
    have named := @read_assignment_name ⟨grammar depth⟩
      (argumentSurroundings surroundings) "props" (by decide) (by decide)
      (fun same => absurd same (by decide)) (fun same => absurd same (by decide)) (start + 3)
      (start + 3) openDefaults tail ends closes
    rw [@read_spreadMember ⟨grammar (depth + 1)⟩ surroundings dots _ _ rfl, read_bind,
      read_assignmentWithIn, named]
    rfl
  have at_dots : Cursor.at ⟨offset, spreadText indent trailing rest⟩
      lastStop openDefaults = dots := at_line_dots inner
  have closed (place : Nat) : (Cursor.at ⟨place, '\n' :: (indent ++ '}' :: rest)⟩ place
      openDefaults).token.isPunctuator Lexer.closeBrace = true := by
    rw [at_line_brace blank]
    rfl
  rw [at_dots]
  cases trailing with
  | true =>
      refine ⟨spread, start + 9 + 1 + byteLength indent, start + 9, .comma rfl parsed ?_⟩
      rw [← at_line_brace blank]
      exact .done (closed (start + 9))
  | false =>
      refine ⟨spread, start + 8 + 1 + byteLength indent, start + 8, ?_⟩
      rw [← at_line_brace blank]
      exact .last rfl parsed (closed (start + 8))

include some digit

/-- The number of the size is the value of the member before the spread. -/
theorem lists_size : ∃ values place stop, values.length = 2 ∧
    ListsUpTo Lexer.closeBrace (@objectMember ⟨grammar (depth + 1)⟩) surroundings
      (.at ⟨offset, sizeText indent digits trailing rest⟩ lastStop
        openDefaults)
      values (atBrace place stop openDefaults rest) := by
  have inner := isIndentation_inner blank
  let start := offset + 1 + byteLength (indent ++ [' ', ' '])
  let tail := spreadText indent trailing rest
  have at_size : Cursor.at ⟨offset, sizeText indent digits trailing rest⟩
      lastStop openDefaults =
        .word "size" true start (':' :: ' ' :: (digits ++ ',' :: tail)) lastStop openDefaults :=
    at_line_name inner (by decide) ⟨':', _, rfl, by decide, by decide⟩
  let numberStop := start + 5 + 1 + byteLength digits
  have number := @read_digits digits some digit ',' (by decide) (start + 5 + 1) (start + 5)
    openDefaults tail ⟨grammar depth⟩ (argumentSurroundings surroundings)
  have parsed : (@objectMember ⟨grammar (depth + 1)⟩).read surroundings
      (.word "size" true start (':' :: ' ' :: (digits ++ ',' :: tail)) lastStop openDefaults) =
        .ok (.property plainKey literal,
          .at ⟨numberStop, ',' :: tail⟩ numberStop openDefaults) := by
    have length : start + byteLength "size".toList + 1 = start + 5 := by rfl
    rw [@read_valueMember ⟨grammar (depth + 1)⟩, read_bind, read_assignmentWithIn, length,
      at_blank_digits some digit, number]
    rfl
  rcases lists_spread blank trailing surroundings depth (numberStop + 1) (numberStop + 1)
    openDefaults rest with ⟨spread, place, stop, others⟩
  rw [at_size]
  exact ⟨[_, spread], place, stop, rfl, .comma rfl parsed others⟩

/-- The members of the object are three. -/
theorem lists_members : ∃ values place stop, values.length = 3 ∧
    ListsUpTo Lexer.closeBrace (@objectMember ⟨grammar (depth + 1)⟩) surroundings
      (.at ⟨offset, membersText indent digits trailing rest⟩ lastStop
        openDefaults)
      values (atBrace place stop openDefaults rest) := by
  have inner := isIndentation_inner blank
  let start := offset + 1 + byteLength (indent ++ [' ', ' '])
  let tail := sizeText indent digits trailing rest
  have at_ref : Cursor.at ⟨offset, membersText indent digits trailing rest⟩
      lastStop openDefaults = .word "ref" true start (',' :: tail) lastStop openDefaults :=
    at_line_name inner (by decide) ⟨',', _, rfl, by decide, by decide⟩
  have parsed : (@objectMember ⟨grammar (depth + 1)⟩).read surroundings
      (.word "ref" true start (',' :: tail) lastStop openDefaults) =
        .ok (.shorthand ⟨"ref", ⟨start, start + 3⟩⟩, .at ⟨start + 3, ',' :: tail⟩ (start + 3)
          openDefaults) :=
    @read_shorthandMember ⟨grammar (depth + 1)⟩ surroundings "ref" true start lastStop openDefaults
      (',' :: tail) (by decide) (fun same => absurd same (by decide))
      (fun same => absurd same (by decide)) (closes_at (by decide) ..)
  rcases lists_size blank some digit trailing surroundings depth (start + 3 + 1) (start + 3 + 1)
    openDefaults rest with ⟨values, place, stop, two, others⟩
  rw [at_ref]
  exact ⟨_ :: values, place, stop, by rw [List.length_cons, two], .comma rfl parsed others⟩

/-- The object is an expression before a closing parenthesis. -/
theorem read_sizeObject (long : 2 ≤ surroundings.size) : ∃ node stop,
    (@assignmentExpression ⟨grammar (depth + 1)⟩ true).read surroundings
      (.at ⟨offset, ' ' :: '{' ::
        membersText indent digits trailing (')' :: rest)⟩ lastStop
          openDefaults) =
        .ok (node, .at ⟨stop, ')' :: rest⟩ stop openDefaults) := by
  rcases lists_members blank some digit trailing surroundings depth (offset + 2) (offset + 2)
    openDefaults (')' :: rest) with ⟨values, place, stop, three, lists⟩
  rcases lists.read_commaListFlagged (by decide) (by omega) with ⟨comma, listed⟩
  exact ⟨_, _, @read_object ⟨grammar (depth + 1)⟩ _ _ _ _ _ _ _ _ _ _ listed⟩

/-- The arguments of the call that makes the icon. -/
def argumentsText (name : String) (indent digits : List Char) (trailing : Bool)
    (rest : List Char) : List Char :=
  name.toList ++ ',' :: ' ' :: '{' :: membersText indent digits trailing (')' :: rest)

/-- The icon and the object are the arguments of the call. -/
theorem lists_arguments {name : String} (plain : Lexer.isName name.toList = true)
    (notReserved : Token.reservedWords.contains name = false)
    (noAwait : surroundings.inAsync = false) (noYield : surroundings.inGenerator = false)
    (long : 2 ≤ surroundings.size) : ∃ arguments place, arguments.length = 2 ∧
      ListsUpTo ")" (@spreadOrValue ⟨grammar (depth + 2)⟩) surroundings
        (.at ⟨offset, argumentsText name indent digits trailing rest⟩
          lastStop openDefaults)
        arguments (.at ⟨place, ')' :: rest⟩ place openDefaults) := by
  let object := ' ' :: '{' ::
    membersText indent digits trailing (')' :: rest)
  let comma := offset + byteLength name.toList
  rcases read_sizeObject blank some digit trailing (argumentSurroundings surroundings) depth
    (comma + 1) (comma + 1) openDefaults rest long with ⟨node, place, parsed⟩
  have named := @read_assignment_name ⟨grammar (depth + 1)⟩ (argumentSurroundings surroundings) name
    plain notReserved (fun _ => noAwait) (fun _ => noYield) offset lastStop openDefaults
    (',' :: object) ⟨',', object, rfl, by decide, by decide⟩ (closes_at (by decide) ..)
  have noPunctuator (text : String) : (Cursor.at ⟨offset, name.toList ++ ',' :: object⟩ lastStop
      openDefaults).token.isPunctuator text = false := by
    rw [Cursor.at_name plain ⟨',', object, rfl, by decide, by decide⟩]
    rfl
  rw [argumentsText]
  have first := read_argument (noPunctuator "...") named
  have noDots : (Cursor.at ⟨comma + 1, object⟩ (comma + 1) openDefaults).token.isPunctuator
      "..." = false := by
    rfl
  have second := read_argument noDots parsed
  have last : ListsUpTo ")" (@spreadOrValue ⟨grammar (depth + 2)⟩) surroundings
      (.at ⟨comma + 1, object⟩ (comma + 1) openDefaults) [node]
      (.at ⟨place, ')' :: rest⟩ place openDefaults) := .last rfl second rfl
  have both := ListsUpTo.comma (noPunctuator ")") first last
  exact ⟨_, place, rfl, both⟩

/-- The call that makes the icon. -/
def elementText (name : String) (indent digits : List Char) (trailing : Bool)
    (rest : List Char) : List Char :=
  reactText "createElement" (argumentsText name indent digits trailing rest)

/-- The call that makes the icon is an expression before a closing parenthesis. -/
theorem read_createElement {name : String} (plain : Lexer.isName name.toList = true)
    (notReserved : Token.reservedWords.contains name = false)
    (noAwait : surroundings.inAsync = false) (noYield : surroundings.inGenerator = false)
    (long : 2 ≤ surroundings.size) : ∃ node stop,
      (@assignmentExpression ⟨grammar (depth + 2)⟩ true).read surroundings
        (.at ⟨offset, ' ' :: elementText name indent digits trailing
          (')' :: rest)⟩ lastStop openDefaults) =
        .ok (node, .at ⟨stop, ')' :: rest⟩ stop openDefaults) := by
  rcases lists_arguments blank some digit trailing surroundings depth (offset + 21) (offset + 21)
    openDefaults (')' :: rest) plain notReserved noAwait noYield long with
    ⟨arguments, place, two, lists⟩
  rw [elementText, at_blank_react]
  exact ⟨_, _, @read_reactCall ⟨grammar (depth + 2)⟩ surroundings "createElement" (by decide)
    (offset + 1) (offset + 21) lastStop openDefaults _ rfl _ _ _ _ (by decide) lists
    (two.symm ▸ long) (fun empty => by simp [empty] at two)⟩

end

section

variable (surroundings : Surroundings) (offset lastStop : Nat) (openDefaults : List Nat)
  (rest : List Char)

theorem read_callLikelihood : arrowLikelihood.read surroundings
    (.at ⟨offset, "(props) =>".toList ++ rest⟩ lastStop openDefaults) =
      .ok (.possible, .at ⟨offset, "(props) =>".toList ++ rest⟩ lastStop openDefaults) := by
  cbv

theorem read_callHead (depth : Nat) : (@arrowHead ⟨grammar (depth + 1)⟩).read surroundings
    (.at ⟨offset, "(props) =>".toList ++ rest⟩ lastStop openDefaults) =
      .ok (⟨false, [], [.mk [] (.name ⟨"props", ⟨offset + 1, offset + 6⟩⟩) none none], none⟩,
        .at ⟨offset + 10, rest⟩ (offset + 10) openDefaults) := by
  rcases surroundings with ⟨⟨typescript, _, _⟩, _⟩
  cases typescript
  · cbv
  · cbv

end

/-- The text of a call wrapper, divided where its parts are read. -/
theorem toList_callText (name : String) (size : Nat) (indent : String) (trailing : Bool)
    (rest : List Char) :
    (callText name size indent trailing).toList ++ rest =
      "(props) =>".toList ++ ' ' :: componentText (' ' :: elementText name indent.toList
        (toString size).toList trailing (')' :: rest)) := by
  have opening : "(props) => React.forwardRef((props, ref) => React.createElement(".toList =
      "(props) =>".toList ++ ' ' :: ("React".toList ++ '.' :: ("forwardRef".toList ++ '(' ::
        ("(props, ref) =>".toList ++ ' ' :: ("React".toList ++ '.' :: ("createElement".toList ++
          ['(']))))) := by
    rfl
  have object : ", \x7b\n".toList = [',', ' ', '{', '\n'] := by rfl
  have two : "  ".toList = [' ', ' '] := by rfl
  have ref : "ref,\n".toList = "ref".toList ++ [',', '\n'] := by rfl
  have label : "size: ".toList = "size".toList ++ [':', ' '] := by rfl
  have line : ",\n".toList = [',', '\n'] := by rfl
  have props : "...props".toList = "...".toList ++ "props".toList := by rfl
  have newLine : "\n".toList = ['\n'] := by rfl
  have closing : "\x7d))".toList = ['}', ')', ')'] := by rfl
  have comma : (if trailing then "," else "").toList = if trailing then [','] else [] := by
    cases trailing <;> rfl
  delta callText
  simp only [String.toList_append, opening, object, two, ref, label, line, props, newLine, closing,
    comma, componentText, elementText, reactText, argumentsText, membersText, sizeText, spreadText,
    List.append_assoc, List.cons_append, List.nil_append]

/-- A function of the properties is an expression, once its component is read. -/
theorem read_callFunction {surroundings : Surroundings} (depth offset lastStop : Nat)
    {openDefaults : List Nat} {body : List Char} {component : Node} {after : Cursor}
    (parsed : (@assignmentExpression ⟨grammar depth⟩ true).read
      (FunctionKind.inside ⟨false, false⟩ surroundings)
      (.at ⟨offset + 10 + 1, componentText body⟩ (offset + 10) openDefaults) =
        .ok (component, after)) : ∃ node,
    (@assignmentExpression ⟨grammar (depth + 1)⟩ true).read surroundings
      (.at ⟨offset, "(props) =>".toList ++ ' ' :: componentText body⟩ lastStop openDefaults) =
        .ok (node, after) := by
  have likely := read_callLikelihood surroundings offset lastStop openDefaults
    (' ' :: componentText body)
  have headed := read_callHead surroundings offset lastStop openDefaults (' ' :: componentText body)
    depth
  have blank : Cursor.at ⟨offset + 10, ' ' :: componentText body⟩ (offset + 10) openDefaults =
      .at ⟨offset + 10 + 1, componentText body⟩ (offset + 10) openDefaults :=
    at_blank_react ..
  have opens : (Cursor.at ⟨offset, "(props) =>".toList ++ ' ' :: componentText body⟩ lastStop
      openDefaults).token = ⟨.punctuator, "(", ⟨offset, offset + 1⟩, false, false, false⟩ := by
    rfl
  have noBody : (Cursor.at ⟨offset + 10 + 1, componentText body⟩ (offset + 10)
      openDefaults).token.isPunctuator Lexer.openBrace = false := by
    rfl
  exact ⟨_, read_arrowFunction depth opens likely headed rfl blank noBody parsed⟩

/-- The call wrapper is an expression in all dialects where one may end. -/
theorem read_callText {name : String} (plain : Lexer.isName name.toList = true)
    (notReserved : Token.reservedWords.contains name = false) (size : Nat) {indent : String}
    (blank : ∀ letter ∈ indent.toList, isIndentation letter = true) (trailing : Bool)
    {surroundings : Surroundings} (long : 2 ≤ surroundings.size) (depth offset lastStop : Nat)
    (openDefaults : List Nat) {closing : Char} (closes : closing ∈ [')', ']', '}', ',', ';'])
    (rest : List Char) : ∃ node stop,
      (grammar (depth + 6) (.assignment true)).read surroundings
        (.at ⟨offset, (callText name size indent trailing).toList ++ closing :: rest⟩ lastStop
          openDefaults) = .ok (node, .at ⟨stop, closing :: rest⟩ stop openDefaults) := by
  rcases read_createElement blank toString_ne_nil isDigit_of_mem_toString trailing
    (componentSurroundings (FunctionKind.inside ⟨false, false⟩ surroundings)) depth
    (offset + 10 + 1 + 32) (offset + 10 + 1 + 32) openDefaults (closing :: rest) plain notReserved
    rfl rfl long with ⟨element, stop, made⟩
  have noBody : (Cursor.at ⟨offset + 10 + 1 + 32, ' ' :: elementText name indent.toList
      (toString size).toList trailing (')' :: closing :: rest)⟩
        (offset + 10 + 1 + 32) openDefaults).token.isPunctuator Lexer.openBrace = false := by
    rfl
  have level : grammar (depth + 6) (.assignment true) =
      @assignmentExpression ⟨grammar (depth + 2 + 2 + 1)⟩ true := by
    rfl
  rw [level, toList_callText]
  generalize ' ' :: elementText name indent.toList (toString size).toList
    trailing (')' :: closing :: rest) = body at made noBody ⊢
  have filled : 1 ≤ (FunctionKind.inside ⟨false, false⟩ surroundings).size :=
    Nat.le_of_succ_le long
  rcases read_component filled (depth + 2) (offset + 10 + 1) (offset + 10) noBody closes made with
    ⟨component, read⟩
  rcases read_callFunction (depth + 2 + 2) offset lastStop read with ⟨node, whole⟩
  exact ⟨node, _, whole⟩

end IconSize.Wrapper
