import IconSize.Files.Reach
import Mathlib.Data.List.Basic

/-!
Where the components of a path lead. A way is followed component by component, and a link on it by
the way that the link stands for. There is one end at most, and the location of a path is the end of
the way that its components tell. Two ways that go down from one place through entries which are no
links end at different places if they are different.
-/

namespace IconSize.Files

/-! ## The order of paths -/

namespace Component

instance : Std.TransCmp Component.compare :=
  inferInstanceAs (Std.TransCmp (compareLex (compareOn rank) (compareOn label)))

instance : Std.LawfulEqCmp Component.compare where
  eq_of_compare {left right} same := by
    rcases compareLex_eq_eq.mp same with ⟨ranks, labels⟩
    have ranked : left.rank = right.rank := Std.LawfulEqOrd.eq_of_compare ranks
    have labelled : left.label = right.label := Std.LawfulEqOrd.eq_of_compare labels
    cases left <;> cases right <;> simp_all [rank, label]

private theorem sequences_ordered : Std.TransCmp (List.compareLex Component.compare) :=
  inferInstance

private theorem sequences_told_apart : Std.LawfulEqCmp (List.compareLex Component.compare) :=
  inferInstance

end Component

namespace Path

instance : Std.TransCmp Path.compare where
  eq_swap := Component.sequences_ordered.eq_swap
  isLE_trans := Component.sequences_ordered.isLE_trans

theorem compare_eq_eq_iff {left right : Path} :
    left.compare right = .eq ↔ left.components = right.components :=
  Component.sequences_told_apart.compare_eq_iff_eq

theorem isUpTo_trans (first second third : Path) :
    first.isUpTo second = true → second.isUpTo third = true → first.isUpTo third = true :=
  Std.TransCmp.isLE_trans

theorem isUpTo_total (left right : Path) : (left.isUpTo right || right.isUpTo left) = true := by
  have swapped : left.compare right = (right.compare left).swap := Std.OrientedCmp.eq_swap
  rw [isUpTo, isUpTo, swapped]
  cases right.compare left <;> rfl

/-! ## Pieces and components -/

/-- The components that stand between slashes, without what the beginning of the path adds. -/
def inner (path : Path) : List Component := path.pieces.filterMap component?

@[simp]
theorem component?_nil : component? [] = none := rfl

theorem component?_cases (piece : List Char) :
    component? piece = none ∨ component? piece = some .parent ∨
      ∃ name, component? piece = some (.entry name) := by
  unfold component?
  split <;> simp

/-- The piece before the first slash is empty if nothing stands before it. -/
private theorem pieces_of_isAbsolute (path : Path) :
    if path.isAbsolute then ∃ second rest, path.pieces = [] :: second :: rest
    else ∀ second rest, path.pieces ≠ [] :: second :: rest := by
  rw [isAbsolute, pieces]
  cases path.spelling.toList with
  | nil => simp
  | cons character rest =>
      rw [List.foldr_cons]
      generalize later : List.foldr _ [[]] rest = pieces
      have nonempty : pieces ≠ [] := by
        rw [← later]
        cases rest with
        | nil => simp
        | cons => rw [List.foldr_cons]; split <;> simp
      rcases List.exists_cons_of_ne_nil nonempty with ⟨piece, pieces, rfl⟩
      by_cases slash : character = '/' <;> simp [slash]

/-- The components are the inner ones, behind the root or the dot that the path begins with. -/
theorem components_eq (path : Path) :
    path.isAbsolute = true ∧ path.components = .root :: path.inner ∨
      path.isAbsolute = false ∧
        (path.components = .current :: path.inner ∨ path.components = path.inner) := by
  have beginning := path.pieces_of_isAbsolute
  rw [components, inner]
  split
  · rename_i rest dotted
    cases absolute : path.isAbsolute <;> simp_all [component?]
  · rename_i second rest slashed
    cases absolute : path.isAbsolute <;> simp_all [List.filterMap_cons]
  · rename_i undotted unslashed
    cases absolute : path.isAbsolute <;> simp_all

end Path

namespace FileSystem

/-! ## Ways -/

/-- From a location the components lead to another one. -/
inductive Leads (system : FileSystem) : Location → List Component → Location → Prop where
  | here (location : Location) : system.Leads location [] location
  | root {location rest last} (further : system.Leads [] rest last) :
      system.Leads location (.root :: rest) last
  | current {location rest last} (further : system.Leads location rest last) :
      system.Leads location (.current :: rest) last
  | parent {location rest last} (further : system.Leads location.tail rest last) :
      system.Leads location (.parent :: rest) last
  | entry {location name node rest last} (found : system.node? (name :: location) = some node)
      (plain : node.isLink = false) (further : system.Leads (name :: location) rest last) :
      system.Leads location (.entry name :: rest) last
  /-- A link stands for the way that it holds. -/
  | link {location name target rest last}
      (found : system.node? (name :: location) = some (.link target))
      (further : system.Leads location (target.components ++ rest) last) :
      system.Leads location (.entry name :: rest) last

variable {system : FileSystem} {location middle last : Location} {components rest : List Component}

namespace Leads

theorem unique {other : Location} (one : system.Leads location components last)
    (another : system.Leads location components other) : last = other := by
  induction one with
  | here => cases another; rfl
  | root _ induction => cases another with | root further => exact induction further
  | current _ induction => cases another with | current further => exact induction further
  | parent _ induction => cases another with | parent further => exact induction further
  | entry found plain _ induction =>
      cases another with
      | entry _ _ further => exact induction further
      | link linked _ =>
          rcases Option.some.inj (found.symm.trans linked) with rfl
          cases plain
  | link found _ induction =>
      cases another with
      | entry linked plain _ =>
          rcases Option.some.inj (found.symm.trans linked) with rfl
          cases plain
      | link linked further =>
          rcases FileNode.link.inj (Option.some.inj (found.symm.trans linked)) with rfl
          exact induction further

theorem append (first : system.Leads location components middle)
    (second : system.Leads middle rest last) : system.Leads location (components ++ rest) last := by
  induction first with
  | here => exact second
  | root _ induction => exact .root (induction second)
  | current _ induction => exact .current (induction second)
  | parent _ induction => exact .parent (induction second)
  | entry found plain _ induction => exact .entry found plain (induction second)
  | link found _ induction => exact .link found (List.append_assoc .. ▸ induction second)

theorem split (way : system.Leads location (components ++ rest) last) :
    ∃ middle, system.Leads location components middle ∧ system.Leads middle rest last := by
  generalize whole : components ++ rest = all at way
  induction way generalizing components with
  | here location =>
      rcases List.append_eq_nil_iff.mp whole with ⟨rfl, rfl⟩
      exact ⟨location, .here location, .here location⟩
  | root further induction =>
      rcases List.append_eq_cons_iff.mp whole with ⟨rfl, rfl⟩ | ⟨components, rfl, rfl⟩
      · exact ⟨_, .here _, .root further⟩
      · rcases induction rfl with ⟨middle, first, second⟩
        exact ⟨middle, .root first, second⟩
  | current further induction =>
      rcases List.append_eq_cons_iff.mp whole with ⟨rfl, rfl⟩ | ⟨components, rfl, rfl⟩
      · exact ⟨_, .here _, .current further⟩
      · rcases induction rfl with ⟨middle, first, second⟩
        exact ⟨middle, .current first, second⟩
  | parent further induction =>
      rcases List.append_eq_cons_iff.mp whole with ⟨rfl, rfl⟩ | ⟨components, rfl, rfl⟩
      · exact ⟨_, .here _, .parent further⟩
      · rcases induction rfl with ⟨middle, first, second⟩
        exact ⟨middle, .parent first, second⟩
  | entry found plain further induction =>
      rcases List.append_eq_cons_iff.mp whole with ⟨rfl, rfl⟩ | ⟨components, rfl, rfl⟩
      · exact ⟨_, .here _, .entry found plain further⟩
      · rcases induction rfl with ⟨middle, first, second⟩
        exact ⟨middle, .entry found plain first, second⟩
  | link found further induction =>
      rcases List.append_eq_cons_iff.mp whole with ⟨rfl, rfl⟩ | ⟨components, rfl, rfl⟩
      · exact ⟨_, .here _, .link found further⟩
      · rcases induction (List.append_assoc ..) with ⟨middle, first, second⟩
        exact ⟨middle, .link found first, second⟩

theorem of_start {path : Path}
    (further : system.Leads (start path location) (path.inner ++ rest) last) :
    system.Leads location (path.components ++ rest) last := by
  rcases path.components_eq with ⟨absolute, spelled⟩ | ⟨relative, spelled | spelled⟩
  · rw [start, if_pos absolute] at further
    exact spelled ▸ .root further
  · rw [start, relative] at further
    exact spelled ▸ .current further
  · rw [start, relative] at further
    exact spelled ▸ further

end Leads

theorem leads_of_follow {jump : Location → List (List Char) → Except FileFault Location}
    (jumps : ∀ {location pieces last}, jump location pieces = .ok last →
      system.Leads location (pieces.filterMap Path.component?) last)
    {pieces : List (List Char)} (followed : system.follow jump location pieces = .ok last) :
    system.Leads location (pieces.filterMap Path.component?) last := by
  induction pieces generalizing location with
  | nil =>
      rcases Except.ok.inj followed with rfl
      exact .here location
  | cons piece rest induction =>
      rw [follow] at followed
      split at followed
      · rcases Path.component?_cases piece with unnamed | up | ⟨name, named⟩
        · simp only [unnamed] at followed
          rw [List.filterMap_cons_none unnamed]
          exact induction followed
        · simp only [up] at followed
          rw [List.filterMap_cons_some up]
          exact .parent (induction followed)
        · simp only [named] at followed
          rw [List.filterMap_cons_some named]
          split at followed
          · cases followed
          · rename_i target linked
            have further := jumps followed
            rw [List.filterMap_append] at further
            exact .link linked (.of_start further)
          · rename_i node unlinked found
            refine .entry found ?_ (induction followed)
            cases node with
            | link target => exact absurd rfl (unlinked target)
            | file => rfl
            | directory => rfl
      · cases followed

theorem leads_of_resolve {links : Nat} {pieces : List (List Char)}
    (resolved : system.resolve links location pieces = .ok last) :
    system.Leads location (pieces.filterMap Path.component?) last := by
  induction links generalizing location pieces last with
  | zero =>
      refine leads_of_follow (fun failed => ?_) resolved
      cases failed
  | succ links induction => exact leads_of_follow induction resolved

theorem leads_of_locate {path : Path} (located : system.locate path = .ok location) :
    system.Leads system.workingDirectory path.components location := by
  rw [locate] at located
  split at located
  · cases located
  · have way := leads_of_resolve located
    rw [← List.append_nil (path.pieces.filterMap _)] at way
    exact List.append_nil path.components ▸ .of_start way

/-! ## Plain ways down -/

/-- From a location the names lead down through entries that are no links. -/
def Descends (system : FileSystem) : Location → List String → Prop
  | _, [] => True
  | location, name :: rest =>
    (∃ node, system.node? (name :: location) = some node ∧ node.isLink = false) ∧
      system.Descends (name :: location) rest

theorem leads_of_descends {names : List String} (down : system.Descends location names) :
    system.Leads location (names.map .entry) (names.reverse ++ location) := by
  induction names generalizing location with
  | nil => exact .here location
  | cons name rest induction =>
      rcases down with ⟨⟨node, found, plain⟩, further⟩
      rw [List.reverse_cons, List.append_assoc]
      exact .entry found plain (induction further)

/-- Where there are no links, each way through entries goes down plainly. -/
theorem descends_of_leads (linkless : ∀ place target, system.node? place ≠ some (.link target))
    {names : List String} (way : system.Leads location (names.map .entry) last) :
    system.Descends location names := by
  induction names generalizing location with
  | nil => trivial
  | cons name rest induction =>
      cases way with
      | entry found plain further => exact ⟨⟨_, found, plain⟩, induction further⟩
      | link found _ => exact absurd found (linkless _ _)

/-- Two paths have a beginning in common, and from where it leads they go down through entries that
are no links. -/
def PartPlainly (system : FileSystem) (left right : Path) : Prop :=
  ∃ common base leftNames rightNames,
    system.Leads system.workingDirectory common base ∧
      left.components = common ++ leftNames.map .entry ∧ system.Descends base leftNames ∧
      right.components = common ++ rightNames.map .entry ∧ system.Descends base rightNames

/-- Where there are no links, paths part plainly that go on with entries after a common
beginning. -/
theorem partPlainly_of_linkless
    (linkless : ∀ place target, system.node? place ≠ some (.link target)) {left right : Path}
    {leftPlace rightPlace : Location} (leftLocated : system.locate left = .ok leftPlace)
    (rightLocated : system.locate right = .ok rightPlace) {common : List Component}
    {leftNames rightNames : List String}
    (leftSpelled : left.components = common ++ leftNames.map .entry)
    (rightSpelled : right.components = common ++ rightNames.map .entry) :
    system.PartPlainly left right := by
  rcases (leftSpelled ▸ leads_of_locate leftLocated).split with ⟨base, start, leftWay⟩
  rcases (rightSpelled ▸ leads_of_locate rightLocated).split with ⟨other, again, rightWay⟩
  rcases start.unique again with rfl
  exact ⟨common, base, leftNames, rightNames, start, leftSpelled,
    descends_of_leads linkless leftWay, rightSpelled, descends_of_leads linkless rightWay⟩

theorem PartPlainly.components_eq_of_locate_eq {left right : Path}
    (part : system.PartPlainly left right) (leftLocated : system.locate left = .ok location)
    (rightLocated : system.locate right = .ok location) : left.components = right.components := by
  obtain ⟨common, base, leftNames, rightNames, start, leftSpelled, leftDown, rightSpelled,
    rightDown⟩ := part
  have leftEnd : location = leftNames.reverse ++ base :=
    (leads_of_locate leftLocated).unique (leftSpelled ▸ start.append (leads_of_descends leftDown))
  have rightEnd : location = rightNames.reverse ++ base :=
    (leads_of_locate rightLocated).unique
      (rightSpelled ▸ start.append (leads_of_descends rightDown))
  have names : leftNames = rightNames :=
    List.reverse_injective (List.append_cancel_right (leftEnd.symm.trans rightEnd))
  rw [leftSpelled, rightSpelled, names]

theorem locate_eq_locate_iff {left right : Path} {leftPlace rightPlace : Location}
    (leftLocated : system.locate left = .ok leftPlace)
    (rightLocated : system.locate right = .ok rightPlace) :
    system.locate left = system.locate right ↔
      ∃ place, system.Leads system.workingDirectory left.components place ∧
        system.Leads system.workingDirectory right.components place := by
  rw [leftLocated, rightLocated]
  constructor
  · intro same
    rcases Except.ok.inj same with rfl
    exact ⟨leftPlace, leads_of_locate leftLocated, leads_of_locate rightLocated⟩
  · rintro ⟨place, leftLeads, rightLeads⟩
    rw [(leads_of_locate leftLocated).unique leftLeads,
      (leads_of_locate rightLocated).unique rightLeads]

end FileSystem
end IconSize.Files
