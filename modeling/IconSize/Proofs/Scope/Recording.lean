import IconSize.Proofs.Scope.Steps
import IconSize.Proofs.Syntax.Roles
import Mathlib.Data.List.Forall2

/-!
The mentions that the walk records. A list of steps records a list of mentions if it is put together
from the few ways in which a form leaves marks and refers to its identifiers; the steps of every
tree record what the tree mentions. What is true of the single ways then is so of every tree.
-/

namespace IconSize
open Syntax

namespace Walk

/-- Steps that neither leave marks nor refer to anything. -/
def Step.IsSilent : Step → Prop
  | .markValue .. | .markExport .. | .refer .. | .referType .. | .openTag .. => False
  | _ => True

/-- The steps record the mentions. -/
inductive Recording : List Step → List Mention → Prop
  | nil : Recording [] []
  | append {front back : List Step} {first second : List Mention}
      (recording : Recording front first) (later : Recording back second) :
      Recording (front ++ back) (first ++ second)
  | silent (step : Step) (silent : step.IsSilent) : Recording [step] []
  /-- An identifier for which no mark is left. -/
  | plain (name : Identifier) {role : Role} (refers : role.refers = true)
      (usage : role.usage = .plain) (space : role.space = .value) :
      Recording [.refer name] [⟨name, role⟩]
  | typeName (name : Identifier) : Recording [.referType name] [⟨name, .typeName⟩]
  | openTag (attributesAt : Nat) (name : Identifier) :
      Recording [.openTag attributesAt name] [⟨name, .openingTag attributesAt⟩]
  /-- A property: the mark for its value is left before the key is visited. -/
  | value {steps : List Step} {mentions : List Mention} (name : Identifier)
      (key : Recording steps mentions) :
      Recording (.markValue name.span false :: steps ++ [.refer name])
        (mentions ++ [⟨name, .property false⟩])
  | shorthand (name : Identifier) :
      Recording [.markValue name.span true, .refer name] [⟨name, .property true⟩]
  | exported (name : Identifier) :
      Recording [.markExport name.span, .refer name] [⟨name, .exported true⟩]
  /-- The mark at a name that refers to nothing is taken up by nobody. -/
  | stray (name : Identifier) : Recording [.markExport name.span] [⟨name, .foreign true⟩]
  | unmarked (name : Identifier) : Recording [] [⟨name, .foreign false⟩]

namespace Recording

variable {steps : List Step} {mentions : List Mention}

theorem ofSilent (silent : ∀ step ∈ steps, step.IsSilent) : Recording steps [] := by
  induction steps with
  | nil => exact .nil
  | cons step steps induction =>
      exact (Recording.silent step (silent step List.mem_cons_self)).append
        (induction fun later member => silent later (List.mem_cons_of_mem step member))

theorem scope (kind : ScopeKind) (recording : Recording steps mentions) :
    Recording (scopeSteps kind steps) mentions := by
  have around := (silent (.enter kind) trivial).append
    (recording.append (silent .leave trivial))
  rwa [List.nil_append, List.append_nil] at around

end Recording
end Walk

/-! ## The steps of a tree -/

namespace Syntax
open Walk (Step Recording)

theorem functionNameSteps_recording (role : FunctionRole) (name : Option Identifier) :
    Recording (functionNameSteps role name) [] := by
  cases role <;> cases name <;> exact .ofSilent (by simp [functionNameSteps, Step.IsSilent])

theorem classNameSteps_recording (role : ClassRole) (name : Option Identifier) :
    Recording (classNameSteps role name) [] := by
  cases role <;> cases name <;> exact .ofSilent (by simp [classNameSteps, Step.IsSilent])

theorem variableSteps_recording (kind : VariableKind) (names : List String) :
    Recording (variableSteps kind names) [] := by
  cases kind <;> exact .ofSilent (by simp [variableSteps, Step.IsSilent])

theorem holds_recording (names : List String) : Recording (names.map .hold) [] :=
  .ofSilent (by simp [Step.IsSilent])

theorem openingSteps_recording (attributesAt : Nat) (name : TagName) :
    Recording (openingSteps attributesAt name) (name.openingMentions attributesAt) :=
  match name with
  | .reference name => .openTag attributesAt name
  | .member object => .plain object rfl rfl rfl
  | .intrinsic => .nil

theorem closingSteps_recording (name : Option TagName) :
    Recording (closingSteps name) (TagName.closingMentions name) :=
  match name with
  | some (.reference name) => .plain name rfl rfl rfl
  | some (.member object) => .plain object rfl rfl rfl
  | some .intrinsic => .nil
  | none => .nil

theorem ExportSpecifier.recording (specifier : ExportSpecifier) :
    Recording specifier.steps [specifier.mention] := by
  by_cases once : specifier.name.span = specifier.exported.span
  · rw [ExportSpecifier.steps, if_pos once, ExportSpecifier.mention, ExportSpecifier.writtenOnce,
      decide_eq_true once]
    cases specifier.fromModule with
    | false => exact .exported ⟨specifier.name.name, specifier.name.span⟩
    | true => exact .stray ⟨specifier.name.name, specifier.name.span⟩
  · rw [ExportSpecifier.steps, if_neg once, ExportSpecifier.mention, ExportSpecifier.writtenOnce,
      decide_eq_false once]
    cases specifier.fromModule with
    | false => exact .plain ⟨specifier.name.name, specifier.name.span⟩ rfl rfl rfl
    | true => exact .unmarked ⟨specifier.name.name, specifier.name.span⟩

theorem Node.steps_withoutParentheses (node : Node) :
    node.withoutParentheses.steps = node.steps := by
  cases node
  case parenthesized inner => exact inner.steps_withoutParentheses
  all_goals rfl

theorem property_recording {key value : Node}
    (keyRecording : Recording key.steps (key.mentions .plain))
    (valueRecording : Recording value.steps (value.mentions .plain)) :
    Recording (valueSteps value ++ key.steps ++ value.steps)
      (key.mentions .plain ++ value.mentions (.property false)) := by
  rcases value.mentions_withoutParentheses with ⟨name, inner, mentions⟩ | ⟨other, mentions⟩
  · rw [← value.steps_withoutParentheses, valueSteps, mentions, inner]
    exact .value name keyRecording
  · have unmarked : valueSteps value = [] := by
      unfold valueSteps
      split
      · exact absurd ‹_› (other _)
      · rfl
    rw [unmarked, mentions]
    exact keyRecording.append valueRecording

mutual

/-- The steps of a node record what it mentions. -/
theorem Node.recording : ∀ node : Node, Recording node.steps (node.mentions .plain)
  | .reference name => .plain name rfl rfl rfl
  | .typeReference name arguments => (Recording.typeName name).append (Node.recordingAll arguments)
  | .typeParameter _ bounds => Node.recordingAll bounds
  | .group _ parts => Node.recordingAll parts
  | .parenthesized inner => inner.recording
  | .property key value => property_recording key.recording value.recording
  | .shorthand name => .shorthand name
  | .shorthandDefault name value => (Recording.shorthand name).append value.recording
  | .targetShorthand name => .plain name rfl rfl rfl
  | .block _ parts => .scope .block (Node.recordingAll parts)
  | .staticBlock body => .scope .function (Node.recordingAll body)
  | .variables kind declarators =>
    (variableSteps_recording kind _).append (Declarator.recordingAll declarators)
  | .function role name typeParameters receiver parameters result body => by
    have head := (Node.recordingAll typeParameters).append (Node.recordingOption receiver)
    have inside := ((head.append (Parameter.recordingAll parameters)).append
      (Node.recordingOption result)).append (Node.recordingAll body)
    exact ((functionNameSteps_recording role name).append (holds_recording _)).append
      (.scope .function inside)
  | .signature head parameters result =>
    .scope .block (((Node.recordingAll head).append (Parameter.recordingAll parameters)).append
      (Node.recordingOption result))
  | .classNode role decorators name inside =>
    ((classNameSteps_recording role name).append (Node.recordingAll decorators)).append
      (.scope .block (Node.recordingAll inside))
  | .catchClause parameter body =>
    (holds_recording _).append (.scope .block (parameter.recording.append body.recording))
  | .enumeration name members =>
    (Recording.silent (.declare name.name) trivial).append
      (.scope .block (Node.recordingAll members))
  | .enumMember _ value => Node.recordingOption value
  | .namespaceBlock name body => by
    have named : Recording (name.map fun name => Step.declare name.name).toList [] :=
      .ofSilent (by simp [Step.IsSilent])
    exact named.append (.scope .function (Node.recordingAll body))
  | .interface name inside =>
    (Recording.silent (.declareType name.name) trivial).append
      (.scope .block (Node.recordingAll inside))
  | .typeAlias name inside =>
    (Recording.silent (.declareType name.name) trivial).append
      (.scope .block (Node.recordingAll inside))
  | .importing _ => .ofSilent (by simp [Node.steps, Step.IsSilent])
  | .importEquals _ target => Node.recordingAll target
  | .exportSpecifier specifier => specifier.recording
  | .element name typeArguments attributesAt attributes children closing =>
    ((((openingSteps_recording attributesAt name).append (Node.recordingAll typeArguments)).append
      (Node.recordingAll attributes)).append (Node.recordingAll children)).append
        (closingSteps_recording closing)

theorem Node.recordingAll :
    ∀ nodes : List Node, Recording (Node.stepsOfAll nodes) (Node.mentionsOfAll nodes)
  | [] => .nil
  | node :: rest => node.recording.append (Node.recordingAll rest)

theorem Node.recordingOption :
    ∀ node : Option Node, Recording (Node.stepsOfOption node) (Node.mentionsOfOption node)
  | none => .nil
  | some node => node.recording

theorem Pattern.recording : ∀ pattern : Pattern, Recording pattern.steps pattern.mentions
  | .name _ => .nil
  | .object properties => Pattern.recordingAll properties
  | .array elements => Pattern.recordingAll elements
  | .hole => .nil
  | .keyed key value => key.recording.append value.recording
  | .withDefault target value => target.recording.append value.recording
  | .rest target => target.recording

theorem Pattern.recordingAll : ∀ patterns : List Pattern,
    Recording (Pattern.stepsOfAll patterns) (Pattern.mentionsOfAll patterns)
  | [] => .nil
  | pattern :: rest => pattern.recording.append (Pattern.recordingAll rest)

theorem Parameter.recording : ∀ parameter : Parameter, Recording parameter.steps parameter.mentions
  | .mk decorators pattern ascription default =>
    (((Node.recordingAll decorators).append pattern.recording).append
      (Node.recordingOption ascription)).append (Node.recordingOption default)

theorem Parameter.recordingAll : ∀ parameters : List Parameter,
    Recording (Parameter.stepsOfAll parameters) (Parameter.mentionsOfAll parameters)
  | [] => .nil
  | parameter :: rest => parameter.recording.append (Parameter.recordingAll rest)

theorem Declarator.recording : ∀ declarator : Declarator,
    Recording declarator.steps declarator.mentions
  | .mk pattern ascription initializer =>
    (pattern.recording.append (Node.recordingOption ascription)).append
      (Node.recordingOption initializer)

theorem Declarator.recordingAll : ∀ declarators : List Declarator,
    Recording (Declarator.stepsOfAll declarators) (Declarator.mentionsOfAll declarators)
  | [] => .nil
  | declarator :: rest => declarator.recording.append (Declarator.recordingAll rest)

end

theorem Program.recording (program : Program) : Recording program.steps program.mentions :=
  .scope .module (Node.recordingAll program.body)

end Syntax
end IconSize
