import IconSize.Proofs.Scope.Recording
import IconSize.Proofs.Syntax.Comparison
import IconSize.Proofs.Syntax.OpeningTags
import IconSize.Syntax.Program
import Mathlib

/-!
The usages of references. The walk passes the role of an identifier on by a mark at its span, which
is left before the identifier is reached, with other nodes in between. If no two identifiers have
the same span, every reference gets the usage and the space of its own role: the marks that wait at
any time are for identifiers still to come, or for names that refer to nothing.
-/

namespace IconSize
open Syntax
open Walk (Step)

/-! ## What mentions leave in the walk -/

/-- The reference is recorded for the mention. -/
structure Reference.Records (reference : Reference) (mention : Mention) : Prop where
  refers : mention.role.refers = true
  name : reference.name = mention.name.name
  span : reference.span = mention.name.span
  usage : reference.usage = mention.role.usage
  space : reference.space = mention.role.space

namespace Syntax.Mention

def spans (mentions : List Mention) : List Span := mentions.map (·.name.span)

@[simp] theorem spans_append (front back : List Mention) :
    spans (front ++ back) = spans front ++ spans back :=
  List.map_append

/-- The mark that nothing takes up. -/
def strayMark (mention : Mention) : Option (Span × Usage) :=
  if mention.role = .foreign true then some (mention.name.span, .other true) else none

/-- The marks of mentions that nothing takes up, the last one first. -/
def strayMarks (mentions : List Mention) : List (Span × Usage) :=
  (mentions.filterMap strayMark).reverse

@[simp] theorem strayMarks_append (front back : List Mention) :
    strayMarks (front ++ back) = strayMarks back ++ strayMarks front := by
  simp [strayMarks]

theorem mem_strayMarks {mentions : List Mention} {entry : Span × Usage} :
    entry ∈ strayMarks mentions ↔
      ∃ mention ∈ mentions, mention.role = .foreign true ∧
        entry = (mention.name.span, .other true) := by
  simp [strayMarks, strayMark, eq_comm]

/-- A stray mark stands at the span of a mention. -/
theorem span_of_mem_strayMarks {mentions : List Mention} {entry : Span × Usage}
    (member : entry ∈ strayMarks mentions) : entry.1 ∈ spans mentions := by
  rcases mem_strayMarks.mp member with ⟨mention, mentioned, _, rfl⟩
  exact List.mem_map_of_mem mentioned

end Syntax.Mention

open Syntax.Mention (spans strayMarks)

namespace Walk

/-- No mark waits at the span of a mention. -/
structure IsClear (walk : Walk) (mentions : List Mention) : Prop where
  usages : ∀ entry ∈ walk.usages, entry.1 ∉ spans mentions
  typeSpans : ∀ span ∈ walk.typeSpans, span ∉ spans mentions

/-- The later walk has the references of the mentions in addition, and their stray marks. -/
structure Extends (walk : Walk) (mentions : List Mention) (later : Walk) : Prop where
  references : ∃ recorded, later.references.toList = walk.references.toList ++ recorded ∧
    List.Forall₂ Reference.Records recorded (mentions.filter (·.role.refers))
  usages : later.usages = strayMarks mentions ++ walk.usages
  typeSpans : later.typeSpans = walk.typeSpans

variable {walk middle later : Walk} {first second : List Mention}

theorem Extends.append (front : walk.Extends first middle) (back : middle.Extends second later) :
    walk.Extends (first ++ second) later := by
  rcases front.references with ⟨early, earlyListed, earlyRecorded⟩
  rcases back.references with ⟨late, lateListed, lateRecorded⟩
  refine ⟨⟨early ++ late, ?_, ?_⟩, ?_, back.typeSpans.trans front.typeSpans⟩
  · rw [lateListed, earlyListed, List.append_assoc]
  · rw [List.filter_append]
    exact List.rel_append earlyRecorded lateRecorded
  · rw [back.usages, front.usages, Mention.strayMarks_append, List.append_assoc]

theorem IsClear.left (clear : walk.IsClear (first ++ second)) : walk.IsClear first where
  usages entry member mentioned := clear.usages entry member (by simp [mentioned])
  typeSpans span member mentioned := clear.typeSpans span member (by simp [mentioned])

theorem IsClear.right (clear : walk.IsClear (first ++ second)) : walk.IsClear second where
  usages entry member mentioned := clear.usages entry member (by simp [mentioned])
  typeSpans span member mentioned := clear.typeSpans span member (by simp [mentioned])

/-- Once the first mentions are recorded, no mark waits at the other ones. -/
theorem IsClear.after (clear : walk.IsClear (first ++ second))
    (distinct : (spans first ++ spans second).Nodup) (recorded : walk.Extends first middle) :
    middle.IsClear second := by
  refine ⟨fun entry member mentioned => ?_, fun span member mentioned => ?_⟩
  · rw [recorded.usages] at member
    rcases List.mem_append.mp member with stray | member
    · have earlier := Mention.span_of_mem_strayMarks stray
      exact (List.nodup_append.mp distinct).2.2 _ earlier _ mentioned rfl
    · exact clear.right.usages entry member mentioned
  · rw [recorded.typeSpans] at member
    exact clear.right.typeSpans span member mentioned

/-! ## Taking up a mark -/

/-- What waits for the identifier is the usage and the space of its role; apart from that, the
marked walk is like the other one. -/
structure Awaits (marked : Walk) (mention : Mention) (walk : Walk) : Prop where
  references : marked.references = walk.references
  usage : (marked.usages.lookup mention.name.span).getD .plain = mention.role.usage
  otherUsages : marked.usages.filter (·.1 != mention.name.span) = walk.usages
  space : marked.typeSpans.contains mention.name.span = (mention.role.space == .type)
  otherTypeSpans : marked.typeSpans.erase mention.name.span = walk.typeSpans

theorem lookup_of_others {marks : List (Span × Usage)} {span : Span}
    (others : ∀ entry ∈ marks, entry.1 ≠ span) : marks.lookup span = none :=
  List.lookup_eq_none_iff.mpr fun entry member =>
    bne_iff_ne.mpr (others entry member).symm

theorem filter_of_others {marks : List (Span × Usage)} {span : Span}
    (others : ∀ entry ∈ marks, entry.1 ≠ span) : marks.filter (·.1 != span) = marks :=
  List.filter_eq_self.mpr fun entry member => bne_iff_ne.mpr (others entry member)

section
variable {mention : Mention}

theorem IsClear.others (clear : walk.IsClear [mention]) :
    ∀ entry ∈ walk.usages, entry.1 ≠ mention.name.span := by
  intro entry member
  simpa [spans] using clear.usages entry member

theorem IsClear.not_mem_typeSpans (clear : walk.IsClear [mention]) :
    mention.name.span ∉ walk.typeSpans :=
  fun member => clear.typeSpans _ member (by simp [spans])

theorem IsClear.contains_typeSpans (clear : walk.IsClear [mention])
    (space : mention.role.space = .value) :
    walk.typeSpans.contains mention.name.span = (mention.role.space == .type) := by
  rw [space, List.contains_eq_mem, decide_eq_false clear.not_mem_typeSpans]
  rfl

theorem Awaits.unmarked (clear : walk.IsClear [mention]) (usage : mention.role.usage = .plain)
    (space : mention.role.space = .value) : walk.Awaits mention walk where
  references := rfl
  usage := by
    rw [lookup_of_others clear.others, usage]
    rfl
  otherUsages := filter_of_others clear.others
  space := clear.contains_typeSpans space
  otherTypeSpans := List.erase_of_not_mem clear.not_mem_typeSpans

theorem Awaits.mark (clear : walk.IsClear [mention]) (space : mention.role.space = .value) :
    (walk.mark mention.name.span mention.role.usage).Awaits mention walk where
  references := rfl
  usage := by simp [Walk.mark]
  otherUsages := by simp [Walk.mark, filter_of_others clear.others]
  space := clear.contains_typeSpans space
  otherTypeSpans := List.erase_of_not_mem clear.not_mem_typeSpans

theorem Awaits.markType (clear : walk.IsClear [mention]) (usage : mention.role.usage = .plain)
    (space : mention.role.space = .type) :
    (walk.markType mention.name.span).Awaits mention walk where
  references := rfl
  usage := by
    rw [Walk.markType, lookup_of_others clear.others, usage]
    rfl
  otherUsages := filter_of_others clear.others
  space := by simp [Walk.markType, space]
  otherTypeSpans := by
    rw [Walk.markType, List.insert_of_not_mem clear.not_mem_typeSpans, List.erase_cons_head]

/-- An identifier takes up what waits for it, whatever has been recorded since the mark was left. -/
theorem Awaits.refer {marked : Walk} (awaits : marked.Awaits mention walk)
    (refers : mention.role.refers = true) (recorded : marked.Extends first middle)
    (other : mention.name.span ∉ spans first) :
    walk.Extends (first ++ [mention]) (middle.refer mention.name) := by
  have strays : ∀ entry ∈ strayMarks first, entry.1 ≠ mention.name.span := fun entry member equal =>
    other (equal ▸ Mention.span_of_mem_strayMarks member)
  obtain ⟨reference, pushed, record⟩ : ∃ reference,
      (middle.refer mention.name).references.toList = middle.references.toList ++ [reference] ∧
        reference.Records mention := by
    refine ⟨_, Array.toList_push, refers, rfl, rfl, ?_, ?_⟩
    · rw [recorded.usages, List.lookup_append, lookup_of_others strays, Option.none_or]
      exact awaits.usage
    · rw [recorded.typeSpans, awaits.space]
      cases mention.role.space <;> rfl
  rcases recorded.references with ⟨references, listed, records⟩
  refine ⟨⟨references ++ [reference], ?listed, ?records⟩, ?usages, ?typeSpans⟩
  case listed => rw [pushed, listed, awaits.references, List.append_assoc]
  case records =>
    rw [List.filter_append, List.filter_cons_of_pos (by simpa using refers),
      List.filter_nil]
    exact List.rel_append records (.cons record .nil)
  case usages =>
    have taken : mention.strayMark = none := by
      refine if_neg fun foreign => ?_
      rw [foreign] at refers
      cases refers
    show middle.usages.filter _ = _
    rw [recorded.usages, List.filter_append, filter_of_others strays, awaits.otherUsages]
    simp [strayMarks, taken]
  case typeSpans =>
    show middle.typeSpans.erase _ = _
    rw [recorded.typeSpans]
    exact awaits.otherTypeSpans

end

/-! ## Following the steps -/

theorem Extends.refl (walk : Walk) : walk.Extends [] walk :=
  ⟨⟨[], (List.append_nil _).symm, .nil⟩, rfl, rfl⟩

theorem Extends.of_silent {step : Step} (silent : step.IsSilent) (walk : Walk) :
    walk.Extends [] (step.take walk) := by
  have unchanged : (step.take walk).references = walk.references ∧
      (step.take walk).usages = walk.usages ∧ (step.take walk).typeSpans = walk.typeSpans := by
    cases step with
    | declare name =>
        simp only [Step.take, Walk.declare]
        split <;> exact ⟨rfl, rfl, rfl⟩
    | declareVar name =>
        simp only [Step.take, Walk.declareVar]
        split <;> exact ⟨rfl, rfl, rfl⟩
    | declareType name =>
        simp only [Step.take, Walk.declareType]
        split <;> exact ⟨rfl, rfl, rfl⟩
    | markValue | markExport | refer | referType | openTag => cases silent
    | _ => exact ⟨rfl, rfl, rfl⟩
  rcases unchanged with ⟨references, usages, typeSpans⟩
  exact ⟨⟨[], by rw [references, List.append_nil], .nil⟩, usages, typeSpans⟩

/-- From a walk in which no mark waits for the mentions, the steps lead to one that has recorded
each of them in its own role. -/
theorem Recording.extends {steps : List Step} {mentions : List Mention}
    (recording : Recording steps mentions) (clear : walk.IsClear mentions)
    (distinct : (spans mentions).Nodup) : walk.Extends mentions (follow steps walk) := by
  induction recording generalizing walk with
  | nil => exact .refl walk
  | append _ _ first later =>
      rw [Mention.spans_append] at distinct
      rw [follow_append]
      have parts := List.nodup_append.mp distinct
      have recorded := first clear.left parts.1
      exact recorded.append (later (clear.after distinct recorded) parts.2.1)
  | silent step silent => exact .of_silent silent walk
  | plain name refers usage space =>
      exact (Awaits.unmarked clear usage space).refer refers (.refl walk) nofun
  | typeName name => exact (Awaits.markType clear rfl rfl).refer rfl (.refl _) nofun
  | openTag attributesAt name => exact (Awaits.mark clear rfl).refer rfl (.refl _) nofun
  | @value steps mentions name _ key =>
      rw [Mention.spans_append] at distinct
      have parts := List.nodup_append.mp distinct
      have other : name.span ∉ spans mentions := fun member =>
        parts.2.2 _ member _ List.mem_cons_self rfl
      -- The mark for the value waits while the key is visited, where nobody takes it up.
      have marked : (walk.mark name.span (.value false)).IsClear mentions := by
        refine ⟨fun entry member => ?_, clear.left.typeSpans⟩
        rcases List.mem_cons.mp member with rfl | member
        · exact other
        · exact clear.left.usages entry (List.mem_filter.mp member).1
      have own : walk.IsClear [⟨name, .property false⟩] := clear.right
      rw [List.cons_append, follow_cons, follow_append]
      exact (Awaits.mark own rfl).refer rfl (key marked parts.1) other
  | shorthand name => exact (Awaits.mark clear rfl).refer rfl (.refl _) nofun
  | exported name => exact (Awaits.mark clear rfl).refer rfl (.refl _) nofun
  | stray name =>
      refine ⟨⟨[], (List.append_nil _).symm, .nil⟩, ?_, rfl⟩
      show (name.span, Usage.other true) :: walk.usages.filter _ = _
      rw [filter_of_others clear.others]
      rfl
  | unmarked name => exact ⟨⟨[], (List.append_nil _).symm, .nil⟩, rfl, rfl⟩

theorem isClear_start (mentions : List Mention) : start.IsClear mentions := ⟨nofun, nofun⟩

end Walk

/-! ## Usages and roles -/

/-- The reference stands where the mention does and is used as the role of the mention says. -/
structure Reference.IsUsedAs (reference : Reference) (mention : Mention) : Prop where
  name : reference.name = mention.name.name
  span : reference.span = mention.name.span
  tag : ∀ insertAt, reference.usage = .tag insertAt ↔ mention.role = .openingTag insertAt
  value : ∀ shorthand, reference.usage = .value shorthand ↔ mention.role = .property shorthand
  exported : reference.usage = .other true ↔ mention.role = .exported true
  plain : reference.usage = .plain ↔ (∀ insertAt, mention.role ≠ .openingTag insertAt) ∧
    (∀ shorthand, mention.role ≠ .property shorthand) ∧ mention.role ≠ .exported true
  type : reference.space = .type ↔ mention.role = .typeName

theorem Reference.Records.isUsedAs {reference : Reference} {mention : Mention}
    (records : reference.Records mention) : reference.IsUsedAs mention where
  name := records.name
  span := records.span
  tag insertAt := by rw [records.usage, Role.usage_eq_tag_iff]
  value shorthand := by rw [records.usage, Role.usage_eq_value_iff]
  exported := by rw [records.usage, Role.usage_eq_other_true_iff records.refers]
  plain := by rw [records.usage, Role.usage_eq_plain_iff records.refers]
  type := by rw [records.space, Role.space_eq_type_iff]

/-- The references of a module are recorded for its mentions that refer to something. -/
theorem ScopeAnalysis.records_references (program : Program)
    (distinct : (program.mentions.map (·.name.span)).Nodup) :
    List.Forall₂ Reference.Records (ofProgram program).references
      (program.mentions.filter (·.role.refers)) := by
  have recorded := program.recording.extends (Walk.isClear_start _) distinct
  rw [← Walk.visitProgram_eq_follow] at recorded
  rcases recorded.references with ⟨references, listed, records⟩
  have all : (ofProgram program).references = references := listed
  exact all ▸ records

/-- If no two identifiers of a module have the same span, its references are the identifiers that
refer to something, in the order of the walk, each used as its own role says. An attribute can be
put in at the end of the type arguments of a tag, or of its name. The marks that are left behind
belong to names in lists of exports from other modules, and no mark of a type is left. -/
theorem references_used_as_roles_say (program : Program)
    (distinct : (program.mentions.map (·.name.span)).Nodup) :
    List.Forall₂ Reference.IsUsedAs (ScopeAnalysis.ofProgram program).references
        (program.mentions.filter (·.role.refers)) ∧
      (∀ [Grammar] nested surroundings cursor after name arguments attributesAt attributes
        children closing,
        (Grammar.element nested).read surroundings cursor = .ok
          (.element (.reference name) arguments attributesAt attributes children closing, after) →
        Grammar.EndsHead surroundings name arguments attributesAt) ∧
      (∀ entry, entry ∈ (Walk.start.visitProgram program).usages ↔
        ∃ mention ∈ program.mentions, mention.role = .foreign true ∧
          entry = (mention.name.span, .other true)) ∧
      (Walk.start.visitProgram program).typeSpans = [] := by
  have recorded := program.recording.extends (Walk.isClear_start _) distinct
  rw [← Walk.visitProgram_eq_follow] at recorded
  refine ⟨?references, fun _ _ _ _ _ _ _ _ _ _ => Grammar.element_endsHead, ?marks,
    recorded.typeSpans⟩
  case references =>
    exact (ScopeAnalysis.records_references program distinct).imp fun _ _ =>
      Reference.Records.isUsedAs
  case marks =>
    intro entry
    rw [recorded.usages]
    simpa [Walk.start] using Mention.mem_strayMarks

/-- A property, a short property, a tag with type arguments, and two export lists:
`({k:(A),A});<A<T> b={A}/>;export{A};export{A}from'x'` -/
private def iconInAllRoles : Program :=
  ⟨[.group .expressionStatement [.parenthesized (.group (.object false)
      [.property (.group .plainKey []) (.parenthesized (.reference ⟨"A", ⟨5, 6⟩⟩)),
        .shorthand ⟨"A", ⟨8, 9⟩⟩])],
    .group .expressionStatement [.element (.reference ⟨"A", ⟨13, 14⟩⟩)
      [.typeReference ⟨"T", ⟨15, 16⟩⟩ []] 17
      [.group .tagAttribute [.reference ⟨"A", ⟨21, 22⟩⟩]] [] none],
    .group .exporting [.exportSpecifier ⟨⟨"A", ⟨33, 34⟩, false⟩, ⟨"A", ⟨33, 34⟩, false⟩, false⟩],
    .group .exporting [.exportSpecifier ⟨⟨"A", ⟨43, 44⟩, false⟩, ⟨"A", ⟨43, 44⟩, false⟩, true⟩]]⟩

/-- Each reference is used in its own way, and the name that belongs to the other module keeps its
mark. -/
theorem icon_used_in_all_roles :
    Program.parse .standard
        "(\x7bk:(A),A\x7d);<A<T> b=\x7bA\x7d/>;export\x7bA\x7d;export\x7bA\x7dfrom'x'" =
          .ok iconInAllRoles ∧
      List.Forall₂ Reference.IsUsedAs (ScopeAnalysis.ofProgram iconInAllRoles).references
        [⟨⟨"A", ⟨5, 6⟩⟩, .property false⟩, ⟨⟨"A", ⟨8, 9⟩⟩, .property true⟩,
          ⟨⟨"A", ⟨13, 14⟩⟩, .openingTag 17⟩, ⟨⟨"T", ⟨15, 16⟩⟩, .typeName⟩,
          ⟨⟨"A", ⟨21, 22⟩⟩, .plain⟩, ⟨⟨"A", ⟨33, 34⟩⟩, .exported true⟩] ∧
      (⟨43, 44⟩, .other true) ∈ (Walk.start.visitProgram iconInAllRoles).usages := by
  rcases references_used_as_roles_say iconInAllRoles (by decide +kernel) with ⟨used, -, marks, -⟩
  refine ⟨by decide +kernel, used, (marks _).mpr ?_⟩
  exact ⟨⟨⟨"A", ⟨43, 44⟩⟩, .foreign true⟩, by decide +kernel, rfl, rfl⟩

end IconSize
