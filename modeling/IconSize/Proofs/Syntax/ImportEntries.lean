import IconSize.Proofs.Syntax.ImportPlaces
import IconSize.Proofs.Syntax.TokenPlaces

/-!
The entries in the braces of an import. Every one is read from its first token to its last one,
with a comma or the closing brace behind it, and its names without quotes are names.
-/

namespace IconSize.Syntax
open Text

/-- The second cursor follows the first one by tokens that were taken. -/
def Cursor.Takes (cursor after : Cursor) : Prop :=
  ∃ ahead, cursor.here.Reaches ahead ∧ after = .at ahead ahead.offset cursor.openDefaults

namespace Cursor

variable {cursor between after : Cursor}

theorem IsExact.takes (exact : cursor.IsExact) :
    cursor.Takes (.at cursor.after cursor.token.span.stop cursor.openDefaults) := by
  refine ⟨cursor.after, exact.covers, ?_⟩
  rw [exact.span]

theorem Takes.isExact (taken : cursor.Takes after) : after.IsExact := by
  rcases taken with ⟨ahead, _, rfl⟩
  exact at_isExact ..

theorem Takes.trans (first : cursor.Takes between) (second : between.Takes after) :
    cursor.Takes after := by
  rcases first with ⟨ahead, reached, rfl⟩
  rcases second with ⟨later, further, rfl⟩
  exact ⟨later, reached.trans ((Lexer.next_follows ahead).here.trans further), rfl⟩

end Cursor

/-- A name without quotes is spelled as one. -/
def ModuleName.IsSpelled (name : ModuleName) : Prop :=
  name.quoted = false → Lexer.isName name.name.toList = true

namespace Parser

variable {α σ : Type} {surroundings : Surroundings} {step : σ → Parser (σ ⊕ α)}

/-- What every step keeps of the state and the cursor, and what the last one makes of it. -/
theorem iterate_keeps (holds : σ → Cursor → Prop) (ends : α → Prop)
    (keeps : ∀ state cursor next after, holds state cursor →
      (step state).read surroundings cursor = .ok (next, after) → next.elim (holds · after) ends) :
    ∀ {steps state cursor value after}, holds state cursor →
      (iterate step steps state).read surroundings cursor = .ok (value, after) → ends value
  | 0, _, _, _, _, _, read => by cases read
  | steps + 1, state, cursor, value, after, start, read => by
      rcases read_bind_eq_ok read with ⟨next, between, stepRead, read⟩
      have kept := keeps state cursor next between start stepRead
      cases next with
      | inl state => exact iterate_keeps holds ends keeps kept read
      | inr value =>
          cases read
          exact kept

theorem loop_keeps (holds : σ → Cursor → Prop) (ends : α → Prop)
    (keeps : ∀ state cursor next after, holds state cursor →
      (step state).read surroundings cursor = .ok (next, after) → next.elim (holds · after) ends)
    {start : σ} {cursor after : Cursor} {value : α} (begins : holds start cursor)
    (read : (loop start step).read surroundings cursor = .ok (value, after)) : ends value := by
  rw [read_loop] at read
  exact iterate_keeps holds ends keeps begins read

end Parser

namespace Grammar
open IconSize.Syntax.Parser

variable {surroundings : Surroundings} {cursor after : Cursor}

theorem moduleName_read {name : ModuleName} (exact : cursor.IsExact)
    (read : moduleName.read surroundings cursor = .ok (name, after)) :
    cursor.Takes after ∧ name.IsSpelled := by
  rcases read_bind_eq_ok read with ⟨token, _, same, read⟩
  cases same
  split at read
  · rename_i word
    cases read
    exact ⟨exact.takes, fun _ => exact.word (by simpa [Token.isWord] using word)⟩
  · split at read
    · rcases read_bind_eq_ok read with ⟨_, between, checked, read⟩
      obtain rfl : cursor = between := by
        unfold failIf at checked
        split at checked
        · cases checked
        · cases checked
          rfl
      cases read
      exact ⟨exact.takes, nofun⟩
    · cases read

theorem moduleName_bind_read {α : Type} {next : ModuleName → Parser α} {answer : α}
    (exact : cursor.IsExact)
    (read : (moduleName >>= next).read surroundings cursor = .ok (answer, after)) :
    ∃ name between, cursor.Takes between ∧ name.IsSpelled ∧
      (next name).read surroundings between = .ok (answer, after) := by
  rcases read_bind_eq_ok read with ⟨name, between, nameRead, read⟩
  rcases moduleName_read exact nameRead with ⟨taken, spelled⟩
  exact ⟨name, between, taken, spelled, read⟩

/-- An entry goes from its first token to its last one. -/
structure Entry.IsReadBetween (entry : Entry) (typescript : Bool) (cursor after : Cursor) :
    Prop where
  taken : cursor.Takes after
  start : entry.span.start = cursor.here.offset
  stop : entry.span.stop = after.lastStop
  first : entry.first.IsSpelled
  second : entry.second.IsSpelled
  typeOnly : entry.typeOnly = true → typescript = true

/-- The end of an entry: the second name after `as`, or none. -/
theorem renaming_isReadBetween {first : ModuleName} {here : Cursor} {typeOnly typescript : Bool}
    {start : Nat} {found : Entry} (begins : start = cursor.here.offset)
    (taken : cursor.Takes here) (spelled : first.IsSpelled)
    (typed : typeOnly = true → typescript = true)
    (read : (do
        if ← eatWord "as" then
          let second ← moduleName
          let span ← spanFrom start
          return ⟨first, second, typeOnly, span⟩
        else
          let span ← spanFrom start
          return ⟨first, first, typeOnly, span⟩ : Parser Entry).read surroundings here =
        .ok (found, after)) :
    found.IsReadBetween typescript cursor after := by
  subst begins
  rcases read_bind_eq_ok read with ⟨_, _, eaten, read⟩
  rw [read_eatWord] at eaten
  split at eaten
  · cases eaten
    replace taken := taken.trans taken.isExact.takes
    rcases moduleName_bind_read taken.isExact read with ⟨second, _, more, last, read⟩
    cases read
    exact ⟨taken.trans more, rfl, rfl, spelled, last, typed⟩
  · cases eaten
    cases read
    exact ⟨taken, rfl, rfl, spelled, spelled, typed⟩

theorem entry_isReadBetween {found : Entry} (exact : cursor.IsExact)
    (read : entry.read surroundings cursor = .ok (found, after)) :
    found.IsReadBetween surroundings.dialect.typescript cursor after := by
  have start : cursor.token.span.start = cursor.here.offset := by rw [exact.span]
  iterate 3
    rcases read_bind_eq_ok read with ⟨_, _, same, read⟩
    cases same
  rcases moduleName_bind_read exact read with ⟨first, named, taken, spelled, read⟩
  rcases read_bind_eq_ok read with ⟨_, _, same, read⟩
  cases same
  split at read
  · -- Behind `type as`: a mark, a first name, or both, as the names that follow tell.
    rename_i mark
    have typed : surroundings.dialect.typescript = true := by
      simp only [Bool.and_eq_true] at mark
      exact mark.1.2
    rcases moduleName_bind_read taken.isExact read with ⟨second, named, more, known, read⟩
    replace taken := taken.trans more
    rcases read_bind_eq_ok read with ⟨_, _, same, read⟩
    cases same
    split at read
    · rcases moduleName_bind_read taken.isExact read with ⟨third, named, more, last, read⟩
      replace taken := taken.trans more
      rcases read_bind_eq_ok read with ⟨_, _, same, read⟩
      cases same
      split at read
      · rcases moduleName_bind_read taken.isExact read with ⟨fourth, named, more, last, read⟩
        cases read
        exact ⟨taken.trans more, start, rfl, known, last, fun _ => typed⟩
      · cases read
        exact ⟨taken, start, rfl, spelled, last, nofun⟩
    · rcases read_bind_eq_ok read with ⟨_, _, same, read⟩
      cases same
      split at read
      · rcases moduleName_bind_read taken.isExact read with ⟨third, named, more, last, read⟩
        cases read
        exact ⟨taken.trans more, start, rfl, spelled, last, nofun⟩
      · cases read
        exact ⟨taken, start, rfl, known, known, fun _ => typed⟩
  · -- Any other name, which a mark may come before.
    rcases read_bind_eq_ok read with ⟨atName, _, same, read⟩
    have typed (marked : (cursor.token.isKeyword "type" && surroundings.dialect.typescript &&
        atName) = true) : surroundings.dialect.typescript = true := by
      simp only [Bool.and_eq_true] at marked
      exact marked.1.2
    cases same
    dsimp only at read
    split at read
    · rcases moduleName_bind_read taken.isExact read with ⟨_, _, more, known, read⟩
      exact renaming_isReadBetween start (taken.trans more) known typed read
    · rcases read_bind_eq_ok read with ⟨_, _, same, read⟩
      cases same
      exact renaming_isReadBetween start taken spelled typed read

/-- An import may bind this name. -/
def IsBindable (name : String) : Prop :=
  Lexer.isName name.toList = true ∧ name ∉ Token.reservedWords ++ ["await", "yield"]

instance (name : String) : Decidable (IsBindable name) := inferInstanceAs (Decidable (_ ∧ _))

theorem isImportBinder_iff {name : ModuleName} (spelled : name.IsSpelled) :
    isImportBinder name = true ↔ name.quoted = false ∧ IsBindable name.name := by
  simp only [isImportBinder, Bool.and_eq_true, Bool.not_eq_true', List.contains_eq_mem,
    decide_eq_false_iff_not, IsBindable]
  exact and_congr_right fun plain => (and_iff_right (spelled plain)).symm

/-- An entry of an import goes from its first token to its last one. Its names are those of an
entry in braces, of which the second one may be bound. -/
theorem importSpecifier_isReadBetween {specifier : ImportSpecifier} (exact : cursor.IsExact)
    (read : importSpecifier.read surroundings cursor = .ok (.named specifier, after)) :
    ∃ found : Entry, found.IsReadBetween surroundings.dialect.typescript cursor after ∧
      IsBindable found.second.name ∧
      specifier = ⟨found.first, ⟨found.second.name, found.second.span⟩, found.typeOnly,
        found.span⟩ := by
  rcases read_bind_eq_ok read with ⟨found, _, entryRead, read⟩
  have between := entry_isReadBetween exact entryRead
  rcases read_bind_eq_ok read with ⟨_, _, checked, read⟩
  unfold failIf at checked
  split at checked
  · cases checked
  · rename_i binds
    cases checked
    cases read
    rw [Bool.not_eq_true, Bool.not_eq_false', isImportBinder_iff between.second] at binds
    exact ⟨found, between, binds.2, rfl⟩

/-- The items of a list are read in the source, each up to a comma or the closing punctuator. -/
theorem commaList_read {α : Type} {close : String} {item : Parser α} {items : List α}
    {source : List Char} (stands : cursor.IsIn source) (exact : cursor.IsExact)
    (read : (commaList close item).read surroundings cursor = .ok (items, after)) :
    ∀ value ∈ items, ∃ before behind, before.IsIn source ∧ before.IsExact ∧
      item.read surroundings before = .ok (value, behind) ∧
      (behind.token.isPunctuator "," = true ∨ behind.token.isPunctuator close = true) := by
  let reads (value : α) : Prop := ∃ before behind, before.IsIn source ∧ before.IsExact ∧
    item.read surroundings before = .ok (value, behind) ∧
    (behind.token.isPunctuator "," = true ∨ behind.token.isPunctuator close = true)
  rcases read_bind_eq_ok read with ⟨flagged, _, read, same⟩
  cases same
  refine loop_keeps (fun state here => here.IsIn source ∧ here.IsExact ∧
    ∀ value ∈ state.1, reads value) (fun flagged => ∀ value ∈ flagged.1, reads value)
    (fun state here next behind holds step => ?_) ⟨stands, exact, List.forall_mem_nil _⟩ read
  rcases holds with ⟨stands, exact, known⟩
  have stays := (Parser.keeps _ stands step).stands
  rcases read_bind_eq_ok step with ⟨_, _, same, step⟩
  cases same
  split at step
  · cases step
    exact fun value member => known value (List.mem_reverse.mp member)
  · rcases read_bind_eq_ok step with ⟨first, behind, firstRead, step⟩
    have all (separated : behind.token.isPunctuator "," = true ∨
        behind.token.isPunctuator close = true) : ∀ value ∈ first :: state.1, reads value :=
      List.forall_mem_cons.mpr ⟨⟨here, behind, stands, exact, firstRead, separated⟩, known⟩
    rcases read_bind_eq_ok step with ⟨_, _, eaten, step⟩
    rw [read_eat] at eaten
    split at eaten
    · rename_i separated
      cases eaten
      cases step
      exact ⟨stays, Cursor.at_isExact .., all (.inl separated)⟩
    · cases eaten
      rcases read_bind_eq_ok step with ⟨_, _, same, step⟩
      cases same
      split at step
      · rename_i closed
        cases step
        exact fun value member => all (.inr closed) value (List.mem_reverse.mp member)
      · cases step

/-- The entry is read in the source, with a comma or the closing brace behind it. -/
def IsReadIn (dialect : Dialect) (source : List Char) (specifier : ImportSpecifier) : Prop :=
  ∃ surroundings cursor after, surroundings.dialect = dialect ∧ cursor.IsIn source ∧
    cursor.IsExact ∧ importSpecifier.read surroundings cursor = .ok (.named specifier, after) ∧
    Lexer.isSeparator after.token = true

/-- An entry that is read in a source stands where its span says. -/
theorem IsReadIn.split {dialect : Dialect} {source : List Char} {specifier : ImportSpecifier}
    (read : IsReadIn dialect source specifier) :
    ∃ front entry rest, source = front ++ entry ++ rest ∧
      byteLength front = specifier.span.start ∧
      byteLength (front ++ entry) = specifier.span.stop ∧
      Lexer.EndsEntry rest := by
  rcases read with ⟨surroundings, cursor, after, -, stands, exact, read, ends⟩
  rcases importSpecifier_isReadBetween exact read with ⟨found, between, -, rfl⟩
  rcases stands.here with ⟨front, chars, offset⟩
  rcases between.taken with ⟨⟨stop, rest⟩, ⟨entry, here, stopped⟩, rfl⟩
  have start := between.start
  have last : found.span.stop = stop := between.stop
  rw [Nat.zero_add] at offset
  refine ⟨front, entry, rest, ?_, ?_, ?_, ?_⟩
  · rw [List.append_assoc, ← here]
    exact chars
  · rw [start, offset]
  · rw [byteLength_append, last, ← offset]
    exact stopped.symm
  · exact Lexer.endsEntry_of_isSeparator ends

/-- All entries among the clauses are read in the source. -/
def EntriesAreRead (dialect : Dialect) (source : List Char) (clauses : List ImportClause) : Prop :=
  ∀ specifier, .named specifier ∈ clauses → IsReadIn dialect source specifier

theorem entriesAreRead_nil (dialect : Dialect) (source : List Char) :
    EntriesAreRead dialect source [] :=
  fun _ member => absurd member List.not_mem_nil

theorem importClauses_yields : importClauses.Yields EntriesAreRead := by
  intro source surroundings cursor clauses after stands read
  rcases read_bind_eq_ok read with ⟨_, opening, eaten, read⟩
  rw [read_eat] at eaten
  split at eaten
  · cases eaten
    rcases read_bind_eq_ok read with ⟨_, _, _, read⟩
    rcases read_bind_eq_ok read with ⟨binder, _, _, read⟩
    cases read
    intro specifier member
    simp at member
  · cases eaten
    rcases read_bind_eq_ok read with ⟨_, opened, brace, read⟩
    rcases read_bind_eq_ok read with ⟨_, closed, listed, read⟩
    rcases read_bind_eq_ok read with ⟨_, _, _, read⟩
    cases read
    have stands := ((expect Lexer.openBrace).keeps stands brace).stands
    have exact : opened.IsExact := by
      rw [read_expect] at brace
      split at brace
      · cases brace
        exact Cursor.at_isExact ..
      · cases brace
    intro specifier member
    rcases commaList_read stands exact listed _ member with
      ⟨before, behind, inSource, exact, entryRead, ends⟩
    refine ⟨surroundings, before, behind, rfl, inSource, exact, entryRead, ?_⟩
    rw [Lexer.isSeparator, Bool.or_eq_true]
    exact ends

/-- If the node is an import, all its entries are read in the source. -/
def NodeEntriesAreRead : Dialect → List Char → Node → Prop :=
  Node.ImportHas fun dialect source declaration =>
    EntriesAreRead dialect source declaration.clauses

theorem importRest_entries (assumed : Dialect → List Char → Prop) {clauses : List ImportClause}
    (entries : ∀ dialect source, assumed dialect source →
      EntriesAreRead dialect source clauses) :
    (importRest clauses).Yields fun dialect source node =>
      assumed dialect source → NodeEntriesAreRead dialect source node := by
  unfold importRest
  exact Yields.last fun _ => Yields.last fun _ => Yields.last fun _ =>
    Yields.pure fun dialect source holds => entries dialect source holds

theorem importRest_nil_entries : (importRest []).Yields NodeEntriesAreRead :=
  fun source surroundings cursor node after stands read =>
    importRest_entries (fun _ _ => True) (fun dialect source _ => entriesAreRead_nil dialect source)
      source surroundings cursor node after stands read trivial

theorem importDeclaration_entries : importDeclaration.Yields NodeEntriesAreRead := by
  unfold importDeclaration importAfterKeyword
  repeat' first
    | with_reducible refine Yields.bind importClauses_yields fun _ => ?_
    | with_reducible refine Yields.bind (Yields.pure entriesAreRead_nil) fun _ => ?_
    | with_reducible refine Yields.last fun _ => ?_
    | split
    | dsimp only
  all_goals first
    | exact importRest_nil_entries
    | exact importRest_entries _ fun _ _ entries => entries
    | exact importRest_entries _ fun _ _ entries specifier member =>
        entries specifier (by simpa using member)
    | exact importEqualsRest_yields _

end Grammar

/-- The entries of the imports of a program are read in its source. -/
theorem Program.entry_isReadIn {dialect : Dialect} {source : String} {program : Program}
    (parsed : Program.parse dialect source = .ok program) {declaration : ImportDeclaration}
    (member : .importing declaration ∈ program.body) {specifier : ImportSpecifier}
    (entry : .named specifier ∈ declaration.clauses) :
    Grammar.IsReadIn dialect source.toList specifier :=
  Program.import_has Grammar.importDeclaration_entries parsed member specifier entry

end IconSize.Syntax
