import IconSize.Proofs.Files.Reached

/-!
Broken links. A link that leads nowhere lies on no way that leads somewhere, so that taking it away
changes neither where paths lead nor which files are reached.
-/

namespace IconSize.Files.FileSystem

variable {system : FileSystem} {passed : List Location} {path reached : Path}
  {directory location place last : Location} {name : String}

/-- At the location there is a link that leads nowhere. -/
def HasBrokenLink (system : FileSystem) (place : Location) : Prop :=
  ∃ target, system.node? place = some (.link target) ∧
    ∀ last, ¬ system.Leads place.tail target.components last

theorem node?_remove_self (linked : system.HasBrokenLink place) :
    (system.remove place).node? place = none := by
  rcases linked with ⟨target, found, -⟩
  cases place with
  | nil => cases found
  | cons name parent =>
      refine List.lookup_eq_none_iff.mpr fun entry member => ?_
      have other := bne_iff_ne.mp (List.mem_filter.mp member).2
      exact bne_iff_ne.mpr other.symm

/-- Nothing is found behind a broken link. -/
theorem HasBrokenLink.not_leads (broken : system.HasBrokenLink (name :: location))
    {rest : List Component} : ¬ system.Leads location (.entry name :: rest) last := by
  rcases broken with ⟨target, found, nowhere⟩
  intro way
  cases way with
  | entry other plain _ =>
      rcases Option.some.inj (found.symm.trans other) with rfl
      cases plain
  | link other further =>
      rcases FileNode.link.inj (Option.some.inj (found.symm.trans other)) with rfl
      rcases further.split with ⟨middle, first, -⟩
      exact nowhere middle first

/-- No path that leads somewhere passes a broken link. -/
theorem follow_remove (broken : system.HasBrokenLink place)
    {jump jump' : Location → List (List Char) → Except FileFault Location}
    (leads : ∀ {location pieces last}, jump location pieces = .ok last →
      system.Leads location (pieces.filterMap Path.component?) last)
    (jumps : ∀ location pieces, jump' location pieces = .ok last ↔ jump location pieces = .ok last)
    (pieces : List (List Char)) :
    (system.remove place).follow jump' location pieces = .ok last ↔
      system.follow jump location pieces = .ok last := by
  induction pieces generalizing location with
  | nil => rfl
  | cons piece rest induction =>
      by_cases here : location = place
      · subst here
        have gone := node?_remove_self broken
        rcases broken with ⟨target, found, -⟩
        simp [follow, gone, found]
      have start := system.node?_remove_of_ne place location here
      rcases Path.component?_cases piece with unnamed | up | ⟨name, named⟩
      · simp only [follow, start, unnamed]
        split <;> simp [induction]
      · simp only [follow, start, up]
        split <;> simp [induction]
      · by_cases entered : name :: location = place
        · subst entered
          have nowhere : system.follow jump location (piece :: rest) ≠ .ok last := by
            intro followed
            have way := leads_of_follow leads followed
            rw [List.filterMap_cons_some named] at way
            exact broken.not_leads way
          simp only [nowhere, iff_false]
          simp only [follow, start, named, node?_remove_self broken]
          split <;> simp
        · have next := system.node?_remove_of_ne place (name :: location) entered
          simp only [follow, start, next, named]
          split
          · split
            · simp
            · exact jumps _ _
            · exact induction
          · simp

theorem resolve_remove (broken : system.HasBrokenLink place) (links : Nat)
    (pieces : List (List Char)) :
    (system.remove place).resolve links location pieces = .ok last ↔
      system.resolve links location pieces = .ok last := by
  induction links generalizing location pieces with
  | zero => exact follow_remove broken (fun failed => by cases failed) (fun _ _ => Iff.rfl) pieces
  | succ links induction => exact follow_remove broken leads_of_resolve (fun _ => induction) pieces

theorem locate_remove (broken : system.HasBrokenLink place) (path : Path) :
    (system.remove place).locate path = .ok location ↔ system.locate path = .ok location := by
  rw [locate, locate]
  split
  · rfl
  · exact resolve_remove broken linkLimit path.pieces

/-- An entry of a directory that leads somewhere is another than a broken link. -/
theorem ne_of_locate_child (proper : system.IsProper) (broken : system.HasBrokenLink place)
    (arrived : system.locate path = .ok directory) (listed : system.Lists directory name)
    (located : system.locate (path.child name) = .ok location) : name :: directory ≠ place := by
  rintro rfl
  exact broken.not_leads (leads_of_locate_child proper arrived listed located)

theorem lists_remove_iff : (system.remove place).Lists directory name ↔
    system.Lists directory name ∧ name :: directory ≠ place := by
  rw [lists_iff, lists_iff, and_assoc, ← exists_and_right]
  simp [remove]

theorem node?_remove_eq_some_iff (broken : system.HasBrokenLink place) {node : FileNode}
    (plain : node.isLink = false) :
    (system.remove place).node? location = some node ↔ system.node? location = some node := by
  by_cases here : location = place
  · subst here
    rw [node?_remove_self broken]
    rcases broken with ⟨target, found, -⟩
    rw [found]
    cases node <;> simp [FileNode.isLink] at plain ⊢
  · rw [system.node?_remove_of_ne place location here]

theorem isProper_remove (proper : system.IsProper) (place : Location) :
    (system.remove place).IsProper :=
  fun entry member => proper entry (List.mem_filter.mp member).1

theorem reaches_remove_iff (proper : system.IsProper) (broken : system.HasBrokenLink place)
    (arrived : system.locate path = .ok directory) :
    (system.remove place).Reaches passed path directory reached ↔
      system.Reaches passed path directory reached := by
  constructor
  · intro way
    induction way with
    | file listed located found =>
        exact .file (lists_remove_iff.mp listed).1 ((locate_remove broken _).mp located)
          ((node?_remove_eq_some_iff broken rfl).mp found)
    | further listed located found onward _ induction =>
        rcases lists_remove_iff.mp listed with ⟨listed, other⟩
        rw [locate_remove broken] at located
        rw [node?_remove_eq_some_iff broken rfl] at found
        rw [HasLink, system.node?_remove_of_ne _ _ other] at onward
        exact .further listed located found onward (induction located)
  · intro way
    induction way with
    | file listed located found =>
        have other := ne_of_locate_child proper broken arrived listed located
        exact .file (lists_remove_iff.mpr ⟨listed, other⟩) ((locate_remove broken _).mpr located)
          ((node?_remove_eq_some_iff broken rfl).mpr found)
    | further listed located found onward _ induction =>
        have other := ne_of_locate_child proper broken arrived listed located
        refine .further (lists_remove_iff.mpr ⟨listed, other⟩)
          ((locate_remove broken _).mpr located) ((node?_remove_eq_some_iff broken rfl).mpr found)
          ?_ (induction located)
        rwa [HasLink, system.node?_remove_of_ne _ _ other]

/-- Taking away a broken link takes away no file. -/
theorem reachesFrom_remove_iff (proper : system.IsProper) (broken : system.HasBrokenLink place)
    {root : Path} :
    (system.remove place).ReachesFrom root reached ↔ system.ReachesFrom root reached := by
  constructor
  · rintro (⟨located, found⟩ | ⟨located, noFile, way⟩)
    · exact .here ((locate_remove broken _).mp located)
        ((node?_remove_eq_some_iff broken rfl).mp found)
    · have arrived := (locate_remove broken _).mp located
      exact .below arrived
        (fun content found => noFile content ((node?_remove_eq_some_iff broken rfl).mpr found))
        ((reaches_remove_iff proper broken arrived).mp way)
  · rintro (⟨located, found⟩ | ⟨located, noFile, way⟩)
    · exact .here ((locate_remove broken _).mpr located)
        ((node?_remove_eq_some_iff broken rfl).mpr found)
    · exact .below ((locate_remove broken _).mpr located)
        (fun content found => noFile content ((node?_remove_eq_some_iff broken rfl).mp found))
        ((reaches_remove_iff proper broken located).mpr way)

end IconSize.Files.FileSystem
