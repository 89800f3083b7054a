import Mathlib
import IconSize.Json.Options
import IconSize.Proofs.Json.RoundTrip

/-!
Options written as JSON and read again. Reading looks at the known members of an object one by one,
so that neither their order nor other members matter, and one that has its standard value may as
well be left out: `ReadsMembers`. What is written for options is read as these options:
`options_json_round_trip`.
-/

namespace IconSize

/-! ## Looking for members -/

namespace Json

variable {members others before after : List (Option String × Json)} {name other : String}
  {value : Json}

theorem findMember_perm (same : members.Perm others) (name : String) :
    findMember members name = findMember others name := by
  have named := same.filter (·.1 = some name)
  have nameless : members.any (·.1.isNone) = others.any (·.1.isNone) := same.any_eq
  unfold findMember
  rw [nameless]
  generalize members.filter (·.1 = some name) = left at named
  generalize others.filter (·.1 = some name) = right at named
  have lengths := named.length_eq
  match left, right with
  | [], [] => rfl
  | [_], [_] => rw [List.singleton_perm_singleton.mp named]
  | _ :: _ :: _, _ :: _ :: _ => rfl
  | [], _ :: _ => simp at lengths
  | [_], [] => simp at lengths
  | [_], _ :: _ :: _ => simp at lengths
  | _ :: _ :: _, [] => simp at lengths
  | _ :: _ :: _, [_] => simp at lengths

theorem any_isNone_insert (value : Json) :
    (before ++ (some name, value) :: after).any (·.1.isNone) =
      (before ++ after).any (·.1.isNone) := by
  rw [List.any_append, List.any_append, List.any_cons]
  rfl

/-- A member of another name makes no difference. -/
theorem findMember_insert_of_ne (different : other ≠ name) (value : Json) :
    findMember (before ++ (some other, value) :: after) name =
      findMember (before ++ after) name := by
  have same : (before ++ (some other, value) :: after).filter (·.1 = some name) =
      (before ++ after).filter (·.1 = some name) := by
    simp [different]
  unfold findMember
  rw [any_isNone_insert, same]

/-- A member is found if all names are texts and no other member has its name. -/
theorem findMember_insert (new : ∀ member ∈ before ++ after, member.1 ≠ some name) :
    (∀ value, findMember (before ++ (some name, value) :: after) name = .spoiled) ∧
        findMember (before ++ after) name = .spoiled ∨
      (∀ value, findMember (before ++ (some name, value) :: after) name = .present value) ∧
        findMember (before ++ after) name = .absent := by
  have others : (before ++ after).filter (·.1 = some name) = [] :=
    List.filter_eq_nil_iff.mpr fun member inside => by simpa using new member inside
  have found (value : Json) : (before ++ (some name, value) :: after).filter (·.1 = some name) =
      [(some name, value)] := by
    rw [List.filter_append] at others ⊢
    rcases List.append_eq_nil_iff.mp others with ⟨left, right⟩
    rw [left, List.filter_cons_of_pos (by simp), right]
    rfl
  unfold findMember
  simp only [any_isNone_insert, others, found]
  cases (before ++ after).any (·.1.isNone) with
  | true => exact .inl ⟨fun _ => rfl, rfl⟩
  | false => exact .inr ⟨fun _ => rfl, rfl⟩

theorem filter_of_findMember_absent (absent : findMember members name = .absent) :
    members.filter (·.1 = some name) = [] := by
  unfold findMember at absent
  split at absent
  case isTrue => cases absent
  case isFalse =>
    split at absent
    case h_1 found => exact found
    all_goals cases absent

theorem filter_of_findMember_present (present : findMember members name = .present value) :
    members.filter (·.1 = some name) = [(some name, value)] := by
  unfold findMember at present
  split at present
  case isTrue => cases present
  case isFalse =>
    split at present
    case h_2 stored _ found =>
      cases present
      have member : (stored, value) ∈ members.filter (·.1 = some name) := by simp [found]
      have same : stored = some name := by simpa using (List.mem_filter.mp member).2
      rw [found, same]
    all_goals cases present

theorem findMember_singleton (name other : String) (value : Json) :
    findMember [(some name, value)] other = if other = name then .present value else .absent := by
  by_cases same : other = name
  · simp [findMember, same]
  · simp [findMember, same, Ne.symm same]

/-- Whether a member is found does not depend on its value. -/
theorem findMember_of_value (before after : List (Option String × Json)) (name : String) :
    (∀ value, findMember (before ++ (some name, value) :: after) name = .present value) ∨
      ∀ value, findMember (before ++ (some name, value) :: after) name = .spoiled := by
  unfold findMember
  simp only [any_isNone_insert, List.filter_append]
  cases (before ++ after).any (·.1.isNone) with
  | true => exact .inr fun _ => rfl
  | false =>
      generalize before.filter (·.1 = some name) = left
      have found (value : Json) : ((some name, value) :: after).filter (·.1 = some name) =
          (some name, value) :: after.filter (·.1 = some name) :=
        List.filter_cons_of_pos (by simp)
      simp only [found]
      generalize after.filter (·.1 = some name) = right
      match left, right with
      | [], [] => exact .inl fun _ => rfl
      | [], _ :: _ => exact .inr fun _ => rfl
      | [_], _ => exact .inr fun _ => rfl
      | _ :: _ :: _, _ => exact .inr fun _ => rfl

end Json

/-! ## Records read by their members -/

/-- How a record is read from an object by its known members: they may stand in any order, members
of other names make no difference, and neither does a member that has its standard value, which is
to say that all of the record is standard where that is the only member. -/
structure ReadsMembers {Record : Type} (decode : Json → Option Record) (standard : Record)
    (names : List String) : Prop where
  order : ∀ members others, members.Perm others →
    decode (.object members) = decode (.object others)
  unknown : ∀ before after name value, name ∉ names →
    decode (.object (before ++ (some name, value) :: after)) = decode (.object (before ++ after))
  leaveOut : ∀ before after name value, (∀ member ∈ before ++ after, member.1 ≠ some name) →
    decode (.object [(some name, value)]) = some standard →
    decode (.object (before ++ (some name, value) :: after)) = decode (.object (before ++ after))

/-- A record that is made of what is found for each name. -/
structure BuiltFrom {Record : Type} (decode : Json → Option Record)
    (build : (String → FoundMember) → Option Record) (standard : Record) (names : List String) :
    Prop where
  object : ∀ members, decode (.object members) = build (Json.findMember members)
  known : ∀ found others, (∀ name ∈ names, found name = others name) → build found = build others
  /-- A member that alone gives the standard record does not matter. -/
  standard : ∀ found others name value, (∀ other, other ≠ name → found other = others other) →
    found name = .present value → others name = .absent →
    build (fun other => if other = name then .present value else .absent) = some standard →
    build found = build others

theorem BuiltFrom.readsMembers {Record : Type} {decode : Json → Option Record}
    {build : (String → FoundMember) → Option Record} {standard : Record} {names : List String}
    (built : BuiltFrom decode build standard names) : ReadsMembers decode standard names where
  order members others same := by
    rw [built.object, built.object]
    exact built.known _ _ fun name _ => Json.findMember_perm same name
  unknown before after name value unknown := by
    rw [built.object, built.object]
    refine built.known _ _ fun other known => Json.findMember_insert_of_ne ?_ value
    rintro rfl
    exact unknown known
  leaveOut before after name value new alone := by
    rw [built.object] at alone
    simp only [funext fun other => Json.findMember_singleton name other value] at alone
    rw [built.object, built.object]
    have different (other : String) (ne : other ≠ name) :
        Json.findMember (before ++ (some name, value) :: after) other =
          Json.findMember (before ++ after) other :=
      Json.findMember_insert_of_ne ne.symm value
    rcases Json.findMember_insert new with ⟨inserted, without⟩ | ⟨inserted, without⟩
    · refine built.known _ _ fun other _ => ?_
      by_cases same : other = name
      · rw [same, inserted, without]
      · exact different other same
    · exact built.standard _ _ name value different (inserted value) without alone

/-- What is decoded for each name stays where a member of standard value is left out. -/
theorem FoundMember.decode_of_standard {Field : Type} {standard : Field}
    {decode : Json → Option Field} {found others : String → FoundMember} {name : String}
    {value : Json} (different : ∀ other, other ≠ name → found other = others other)
    (present : found name = .present value) (absent : others name = .absent) {field : String}
    (alone : FoundMember.decode (if field = name then .present value else .absent) standard decode =
      some standard) :
    (found field).decode standard decode = (others field).decode standard decode := by
  by_cases same : field = name
  · rw [same, present, absent]
    rwa [if_pos same] at alone
  · rw [different field same]

namespace PrintOptions

def memberNames : List String := ["quote", "trailingComma"]

/-- The print options that are decoded from what is found for their names. -/
def ofFound (found : String → FoundMember) : Option PrintOptions := do
  return {
    quote := ← (found "quote").decode .auto QuoteStyle.ofJson?
    trailingComma := ← (found "trailingComma").decode true Json.bool? }

theorem ofFound_congr {found others : String → FoundMember}
    (quote : (found "quote").decode .auto QuoteStyle.ofJson? =
      (others "quote").decode .auto QuoteStyle.ofJson?)
    (trailingComma : (found "trailingComma").decode true Json.bool? =
      (others "trailingComma").decode true Json.bool?) :
    ofFound found = ofFound others := by
  simp only [ofFound, quote, trailingComma]

theorem ofFound_eq_standard {found : String → FoundMember}
    (alone : ofFound found = some .standard) :
    (found "quote").decode .auto QuoteStyle.ofJson? = some .auto ∧
      (found "trailingComma").decode true Json.bool? = some true := by
  simpa [ofFound, standard, Option.bind_eq_some_iff] using alone

theorem builtFrom : BuiltFrom ofJson? ofFound .standard memberNames where
  object _ := rfl
  known found others same := by
    apply ofFound_congr <;> rw [same _ (by simp [memberNames])]
  standard found others name value different present absent alone := by
    rcases ofFound_eq_standard alone with ⟨quote, trailingComma⟩
    exact ofFound_congr (FoundMember.decode_of_standard different present absent quote)
      (FoundMember.decode_of_standard different present absent trailingComma)

end PrintOptions

namespace Options

def memberNames : List String :=
  ["targetModule", "rewriteModuleTo", "defaultSize", "collisionSuffix", "printOptions"]

/-- The options that are decoded from what is found for their names. -/
def ofFound (found : String → FoundMember) : Option Options := do
  return {
    targetModule := ← (found "targetModule").decode standard.targetModule Json.text?
    newModule := ← (found "rewriteModuleTo").decode standard.newModule moduleOfJson?
    defaultSize := ← (found "defaultSize").decode standard.defaultSize sizeOfJson?
    collisionSuffix := ← (found "collisionSuffix").decode standard.collisionSuffix Json.text?
    printOptions := ← (found "printOptions").decode standard.printOptions PrintOptions.ofJson? }

/-- Each member is decoded to this value. -/
structure DecodesTo (found : String → FoundMember) (options : Options) : Prop where
  targetModule : (found "targetModule").decode standard.targetModule Json.text? =
    some options.targetModule
  newModule : (found "rewriteModuleTo").decode standard.newModule moduleOfJson? =
    some options.newModule
  defaultSize : (found "defaultSize").decode standard.defaultSize sizeOfJson? =
    some options.defaultSize
  collisionSuffix : (found "collisionSuffix").decode standard.collisionSuffix Json.text? =
    some options.collisionSuffix
  printOptions : (found "printOptions").decode standard.printOptions PrintOptions.ofJson? =
    some options.printOptions

theorem ofFound_eq_some_iff {found : String → FoundMember} {options : Options} :
    ofFound found = some options ↔ DecodesTo found options := by
  constructor
  · intro decoded
    simp only [ofFound, Option.bind_eq_bind, Option.bind_eq_some_iff] at decoded
    rcases decoded with ⟨_, targetModule, _, newModule, _, size, _, suffix, _, print, made⟩
    cases made
    exact ⟨targetModule, newModule, size, suffix, print⟩
  · rintro ⟨targetModule, newModule, size, suffix, print⟩
    simp only [ofFound, targetModule, newModule, size, suffix, print]
    rfl

theorem ofFound_congr {found others : String → FoundMember}
    (targetModule : (found "targetModule").decode standard.targetModule Json.text? =
      (others "targetModule").decode standard.targetModule Json.text?)
    (newModule : (found "rewriteModuleTo").decode standard.newModule moduleOfJson? =
      (others "rewriteModuleTo").decode standard.newModule moduleOfJson?)
    (defaultSize : (found "defaultSize").decode standard.defaultSize sizeOfJson? =
      (others "defaultSize").decode standard.defaultSize sizeOfJson?)
    (collisionSuffix : (found "collisionSuffix").decode standard.collisionSuffix Json.text? =
      (others "collisionSuffix").decode standard.collisionSuffix Json.text?)
    (printOptions : (found "printOptions").decode standard.printOptions PrintOptions.ofJson? =
      (others "printOptions").decode standard.printOptions PrintOptions.ofJson?) :
    ofFound found = ofFound others := by
  simp only [ofFound, targetModule, newModule, defaultSize, collisionSuffix, printOptions]

theorem builtFrom : BuiltFrom ofJson? ofFound standard memberNames where
  object _ := rfl
  known found others same := by
    apply ofFound_congr <;> rw [same _ (by simp [memberNames])]
  standard found others name value different present absent alone := by
    have decodes := ofFound_eq_some_iff.mp alone
    exact ofFound_congr
      (FoundMember.decode_of_standard different present absent decodes.targetModule)
      (FoundMember.decode_of_standard different present absent decodes.newModule)
      (FoundMember.decode_of_standard different present absent decodes.defaultSize)
      (FoundMember.decode_of_standard different present absent decodes.collisionSuffix)
      (FoundMember.decode_of_standard different present absent decodes.printOptions)

/-- Of the print options only matters what they are decoded to. -/
theorem ofJson?_printOptions (before after : List (Option String × Json)) {value other : Json}
    (same : PrintOptions.ofJson? value = PrintOptions.ofJson? other) :
    ofJson? (.object (before ++ (some "printOptions", value) :: after)) =
      ofJson? (.object (before ++ (some "printOptions", other) :: after)) := by
  rw [builtFrom.object, builtFrom.object]
  apply ofFound_congr
  case printOptions =>
    rcases Json.findMember_of_value before after "printOptions" with present | spoiled
    · rw [present, present]
      exact same
    · rw [spoiled, spoiled]
  all_goals
    rw [Json.findMember_insert_of_ne (by decide), Json.findMember_insert_of_ne (by decide)]

/-! ## No new module -/

theorem moduleOfJson?_eq_none_iff {value : Json} :
    moduleOfJson? value = some none ↔ value = .null := by
  cases value with
  | null => simp [moduleOfJson?]
  | string text => cases text <;> simp [moduleOfJson?, Json.text?]
  | _ => simp [moduleOfJson?, Json.text?]

/-- The specifier is kept only where the member for the new module is there, and null. -/
theorem newModule_eq_none_iff {members : List (Option String × Json)} {options : Options}
    (decoded : ofJson? (.object members) = some options) :
    options.newModule = none ↔ (some "rewriteModuleTo", Json.null) ∈ members := by
  have decodes := (ofFound_eq_some_iff.mp ((builtFrom.object members).symm.trans decoded)).newModule
  have mem_filter : (some "rewriteModuleTo", Json.null) ∈
      members.filter (·.1 = some "rewriteModuleTo") ↔
        (some "rewriteModuleTo", Json.null) ∈ members := by
    simp
  rw [← mem_filter]
  cases found : Json.findMember members "rewriteModuleTo" with
  | absent =>
      rw [found] at decodes
      rw [Json.filter_of_findMember_absent found, ← Option.some.inj decodes]
      simp [standard]
  | present value =>
      rw [found] at decodes
      rw [Json.filter_of_findMember_present found, List.mem_singleton, Prod.mk.injEq,
        eq_self, true_and, eq_comm (a := Json.null), ← moduleOfJson?_eq_none_iff]
      rw [show moduleOfJson? value = some options.newModule from decodes, Option.some.injEq]
  | spoiled =>
      rw [found] at decodes
      cases decodes

/-- The second of the fields that are found is decoded for the new module. -/
theorem decode_second_field {json : Json} {options : Options}
    (decoded : ofJson? json = some options) :
    ∃ fields second, json.fields? memberNames = some fields ∧ fields[1]? = some second ∧
      second.decode standard.newModule moduleOfJson? = some options.newModule := by
  simp only [ofJson?, Option.bind_eq_bind, Option.bind_eq_some_iff] at decoded
  rcases decoded with ⟨fields, found, decoded⟩
  split at decoded
  case h_1 =>
    simp only [Option.bind_eq_some_iff] at decoded
    rcases decoded with ⟨_, -, newModule, second, _, -, _, -, _, -, made⟩
    cases made
    exact ⟨_, _, found, rfl, second⟩
  case h_2 => cases decoded

/-- Of an array the second item is the one for the new module. -/
theorem newModule_eq_none_iff_of_array {items : List Json} {options : Options}
    (decoded : ofJson? (.array items) = some options) :
    options.newModule = none ↔ items[1]? = some .null := by
  rcases decode_second_field decoded with ⟨fields, second, found, isSecond, decodes⟩
  have listed : fields = items.map .present ++
      List.replicate (memberNames.length - items.length) .absent := by
    rw [Json.fields?] at found
    split at found
    case isTrue => exact (Option.some.inj found).symm
    case isFalse => cases found
  rw [listed, List.getElem?_append, List.getElem?_map, List.getElem?_replicate,
    List.length_map] at isSecond
  cases item : items[1]? with
  | none =>
      have short : ¬ 1 < items.length := by simpa using item
      rw [if_neg short] at isSecond
      split at isSecond
      case isTrue =>
        cases isSecond
        rw [← Option.some.inj decodes]
        simp [standard]
      case isFalse => cases isSecond
  | some value =>
      have long : 1 < items.length := (List.getElem?_eq_some_iff.mp item).1
      rw [if_pos long, item] at isSecond
      cases isSecond
      rw [Option.some.injEq, ← moduleOfJson?_eq_none_iff,
        show moduleOfJson? value = some options.newModule from decodes, Option.some.injEq]

end Options

/-! ## Writing options and reading them again -/

theorem PrintOptions.ofJson?_toJson (options : PrintOptions) :
    ofJson? options.toJson = some options := by
  have quote : QuoteStyle.ofJson? (.text options.quote.name) = some options.quote :=
    QuoteStyle.ofName?_name options.quote
  simp [ofJson?, toJson, Json.fields?, Json.findMember, Json.member, FoundMember.decode, quote,
    Json.bool?]

namespace Options

theorem sizeOfJson?_natural (size : UInt32) : sizeOfJson? (.natural size.toNat) = some size := by
  have digits : (toString size.toNat).toList.all Char.isDigit = true :=
    List.all_eq_true.mpr fun _ member =>
      Nat.isDigit_of_mem_toDigits (by decide) (by decide) (Nat.toList_repr ▸ member)
  have number : (toString size.toNat).toNat? = some size.toNat := Nat.toNat?_repr size.toNat
  have bound : size.toNat < UInt32.size := size.toNat_lt
  have natural : (Json.natural size.toNat).natural? = some size.toNat := by
    rw [Json.natural, Json.natural?, if_pos digits, number]
  simp only [sizeOfJson?, natural, Option.bind_eq_bind, Option.bind_some, if_pos bound,
    UInt32.ofNat_toNat]

/-- What is written for options is read as these options. -/
theorem ofJson?_toJson (options : Options) : ofJson? options.toJson = some options := by
  rcases options with ⟨targetModule, newModule, defaultSize, collisionSuffix, printOptions⟩
  refine (builtFrom.object _).trans (ofFound_eq_some_iff.mpr ?_)
  cases newModule
  all_goals
    constructor <;>
    simp [Json.findMember, Json.member, FoundMember.decode, moduleOfJson?, Json.text, Json.text?,
      sizeOfJson?_natural, PrintOptions.ofJson?_toJson]

theorem isPlain_toJson (options : Options) : options.toJson.IsPlain := by
  rcases options with ⟨targetModule, newModule, defaultSize, collisionSuffix, printOptions⟩
  have size : (Json.natural defaultSize.toNat).IsPlain :=
    Json.isNumeral_toString defaultSize.toNat
  cases newModule
  all_goals
    simp [toJson, PrintOptions.toJson, Json.IsPlain, Json.MembersArePlain, Json.member, Json.text,
      size]

theorem parse?_compact_toJson (options : Options) :
    parse? options.toJson.compact = some options := by
  rw [parse?, Json.parse?_compact options.isPlain_toJson, Option.bind_some, ofJson?_toJson]

/-- A member of the standard options alone is read as them. -/
theorem ofJson?_member_of_standard :
    ∀ member ∈ standard.toJson.members, ofJson? (.object [member]) = some standard := by
  intro member inside
  simp only [toJson, Json.members, List.mem_cons, List.not_mem_nil, or_false] at inside
  rcases inside with rfl | rfl | rfl | rfl | rfl
  case inr.inr.inl =>
    refine (builtFrom.object _).trans (ofFound_eq_some_iff.mpr ?_)
    constructor <;>
    simp [Json.findMember_singleton, Json.member, FoundMember.decode, sizeOfJson?_natural]
  all_goals decide +kernel

end Options

/-- A member of the standard print options alone is read as them. -/
theorem PrintOptions.ofJson?_member_of_standard :
    ∀ member ∈ standard.toJson.members, ofJson? (.object [member]) = some standard := by
  have read (field : Fin 2) :
      ofJson? (.object [standard.toJson.members.get field]) = some standard := by
    revert field
    decide +kernel
  intro member inside
  rcases List.mem_iff_get.mp inside with ⟨field, rfl⟩
  exact read field

/-- Options survive being written as JSON and read again. Reading is a matter of the known members,
in whatever order and among whatever others, and standard values may be left out: this holds of the
options and of the print options inside them, of which only matters what they are decoded to. The
new module is missing only where it is written as null. So what is read once and written is read
again as the same options. -/
theorem options_json_round_trip :
    (∀ options : Options, Options.parse? options.toJson.compact = some options) ∧
    (∀ json : Json, json.IsPlain → Options.parse? json.compact = Options.ofJson? json) ∧
    ReadsMembers Options.ofJson? .standard Options.memberNames ∧
    (∀ member ∈ Options.standard.toJson.members,
      Options.ofJson? (.object [member]) = some .standard) ∧
    ReadsMembers PrintOptions.ofJson? .standard PrintOptions.memberNames ∧
    (∀ member ∈ PrintOptions.standard.toJson.members,
      PrintOptions.ofJson? (.object [member]) = some .standard) ∧
    (∀ before after value other, PrintOptions.ofJson? value = PrintOptions.ofJson? other →
      Options.ofJson? (.object (before ++ (some "printOptions", value) :: after)) =
        Options.ofJson? (.object (before ++ (some "printOptions", other) :: after))) ∧
    (∀ members options, Options.ofJson? (.object members) = some options →
      (options.newModule = none ↔ (some "rewriteModuleTo", Json.null) ∈ members)) ∧
    (∀ items options, Options.ofJson? (.array items) = some options →
      (options.newModule = none ↔ items[1]? = some .null)) ∧
    (∀ source options, Options.parse? source = some options →
      Options.parse? options.toJson.compact = Options.parse? source) := by
  refine ⟨Options.parse?_compact_toJson, ?_, Options.builtFrom.readsMembers,
    Options.ofJson?_member_of_standard, PrintOptions.builtFrom.readsMembers,
    PrintOptions.ofJson?_member_of_standard, fun before after _ _ same =>
      Options.ofJson?_printOptions before after same, fun _ _ => Options.newModule_eq_none_iff,
    fun _ _ => Options.newModule_eq_none_iff_of_array, ?_⟩
  · intro json plain
    rw [Options.parse?, Json.parse?_compact plain, Option.bind_some]
  · intro source options read
    rw [Options.parse?_compact_toJson, read]

/-- Options with a null module, an unknown member and a nested default are read and written. -/
theorem options_of_three_members :
    let source := "\x7b\"extra\":[1e2],\"printOptions\":\x7b\"quote\":\"double\"\x7d," ++
      "\"rewriteModuleTo\":null\x7d"
    let options : Options :=
      { Options.standard with newModule := none, printOptions := ⟨.double, true⟩ }
    Options.parse? source = some options ∧
      Options.parse? options.toJson.compact = Options.parse? source := by
  rcases options_json_round_trip with ⟨-, -, -, -, -, -, -, -, -, again⟩
  exact (and_iff_left_of_imp (again _ _)).mpr (by decide +kernel)

end IconSize
