import ChartPortrayal.Conditional.Standard
import ChartPortrayal.Library.Basic
import ChartPortrayal.SortedMap.Lookup

/-! What conditional procedures look at. A standard procedure reads its own feature, the features that it is
linked to, the variant and the settings; it reads neither highlights nor the settings for texts. -/

namespace ChartPortrayal

variable {α : Type}

/-- A feature without its highlight. -/
def Feature.unmarked (feature : Feature α) : Feature α := { feature with highlighted := false }

@[simp] theorem Feature.className_unmarked (feature : Feature α) :
    feature.unmarked.className = feature.className := rfl

@[simp] theorem Feature.geometry_unmarked (feature : Feature α) :
    feature.unmarked.geometry = feature.geometry := rfl

@[simp] theorem Feature.links_unmarked (feature : Feature α) :
    feature.unmarked.links = feature.links := rfl

/-- Settings without those that only labels depend on. -/
def Settings.unlabelled (settings : Settings α) : Settings α :=
  { settings with showText := false, importantTextOnly := false, nationalNames := false }

namespace Situation

/-- Two situations that no procedure has to tell apart. -/
structure Alike (first second : Situation α) : Prop where
  feature : first.feature.unmarked = second.feature.unmarked
  settings : first.settings.unlabelled = second.settings.unlabelled
  variant : first.variant = second.variant
  linked : ∀ role,
    (first.linked? role).map Feature.unmarked = (second.linked? role).map Feature.unmarked

/-- A situation without what procedures do not look at. -/
def core (situation : Situation α) : Situation α :=
  { situation with feature := situation.feature.unmarked, settings := situation.settings.unlabelled }

/-- The same situation on another chart. -/
def onChart (situation : Situation α) (chart : Chart α) : Situation α :=
  { situation with chart := chart }

theorem Alike.core_eq {first second : Situation α} (alike : first.Alike second) :
    first.core = second.core.onChart first.chart := by
  rw [core, core, onChart, alike.feature, alike.settings, alike.variant]

/-- The charts of two situations lead to the same linked features. -/
def SameLinks (situation : Situation α) (chart : Chart α) : Prop :=
  ∀ role, ((situation.onChart chart).linked? role).map Feature.unmarked =
    (situation.linked? role).map Feature.unmarked

theorem Alike.sameLinks {first second : Situation α} (alike : first.Alike second) :
    second.core.SameLinks first.chart := by
  intro role
  rw [← alike.core_eq]
  exact alike.linked role

theorem SameLinks.isSome {situation : Situation α} {chart : Chart α}
    (same : situation.SameLinks chart) (role : LinkRole) :
    ((situation.onChart chart).linked? role).isSome = (situation.linked? role).isSome := by
  have linked := congrArg Option.isSome (same role)
  rwa [Option.isSome_map, Option.isSome_map] at linked

theorem SameLinks.bind {β : Type} {situation : Situation α} {chart : Chart α}
    (same : situation.SameLinks chart) (role : LinkRole) {read : Feature α → Option β}
    (blind : ∀ feature, read feature.unmarked = read feature) :
    ((situation.onChart chart).linked? role).bind read = (situation.linked? role).bind read := by
  have linked := congrArg (fun feature? => Option.bind feature? read) (same role)
  simpa only [Option.bind_map, Function.comp_def, blind] using linked

end Situation

open Situation

/-- A procedure that answers alike situations alike. -/
def Procedure.IsLocal (procedure : Procedure α) : Prop :=
  ∀ first second : Situation α, first.Alike second → procedure.compute first = procedure.compute second

/-- It is enough that a procedure looks at the core of a situation, and at a chart for links only. -/
theorem Procedure.isLocal_of_core {procedure : Procedure α}
    (blind : ∀ situation, procedure.compute situation = procedure.compute situation.core)
    (follows : ∀ situation chart, situation.SameLinks chart →
      procedure.compute (situation.onChart chart) = procedure.compute situation) :
    procedure.IsLocal := by
  intro first second alike
  rw [blind first, alike.core_eq, follows second.core first.chart alike.sameLinks, ← blind second]

/-- A procedure that follows no link is local. -/
theorem Procedure.isLocal_of_unlinked {procedure : Procedure α}
    (blind : ∀ situation, procedure.compute situation = procedure.compute situation.core)
    (unlinked : ∀ situation chart,
      procedure.compute (situation.onChart chart) = procedure.compute situation) :
    procedure.IsLocal :=
  isLocal_of_core blind (fun situation chart _ => unlinked situation chart)

/-- A procedure that returns the same whatever the situation. -/
def Procedure.IsFixed (procedure : Procedure α) : Prop :=
  ∃ output, ∀ situation, procedure.compute situation = output

theorem Procedure.IsFixed.isLocal {procedure : Procedure α} (fixed : procedure.IsFixed) :
    procedure.IsLocal := by
  obtain ⟨output, same⟩ := fixed
  intro first second _
  rw [same first, same second]

variable [Quantity α]

namespace Depth

theorem least?_onChart {situation : Situation α} {chart : Chart α} (same : situation.SameLinks chart) :
    least? (situation.onChart chart) = least? situation := by
  have read : ∀ feature : Feature α, feature.unmarked.number? "DRVAL1" = feature.number? "DRVAL1" :=
    fun _ => rfl
  exact same.bind .leastDepthArea read

theorem isSafetyContour_onChart {situation : Situation α} {chart : Chart α}
    (same : situation.SameLinks chart) (depth : α) :
    isSafetyContour (situation.onChart chart) depth = isSafetyContour situation depth := by
  have read : ∀ feature : Feature α, feature.unmarked.number? "DRVAL1" = feature.number? "DRVAL1" :=
    fun _ => rfl
  unfold isSafetyContour
  rw [same.bind .underlyingDepthArea read]
  rfl

theorem contour_onChart {situation : Situation α} {chart : Chart α}
    (same : situation.SameLinks chart) (depth : α) :
    contour (situation.onChart chart) depth = contour situation depth := by
  unfold contour
  rw [isSafetyContour_onChart same]
  rfl

theorem depthContour_isLocal : (depthContour : Procedure α).IsLocal := by
  refine Procedure.isLocal_of_core (fun _ => rfl) (fun situation chart same => ?_)
  exact congrArg (fun list => some (Fragment.directives list)) (contour_onChart same _)

theorem depthArea_isLocal : (depthArea : Procedure α).IsLocal := by
  refine Procedure.isLocal_of_core (fun _ => rfl) (fun situation chart same => ?_)
  simp only [depthArea, Procedure.ofDirectives, contour_onChart same]
  rfl

end Depth

namespace Hazard

theorem depth_onChart {situation : Situation α} {chart : Chart α} (same : situation.SameLinks chart) :
    depth (situation.onChart chart) = depth situation := by
  unfold depth
  rw [Depth.least?_onChart same]
  rfl

theorem isIsolatedDanger_onChart {situation : Situation α} {chart : Chart α}
    (same : situation.SameLinks chart) (depth : α) :
    isIsolatedDanger (situation.onChart chart) depth = isIsolatedDanger situation depth := by
  unfold isIsolatedDanger
  rw [Depth.least?_onChart same]
  rfl

theorem obstruction_isLocal : (obstruction : Procedure α).IsLocal := by
  refine Procedure.isLocal_of_core (fun _ => rfl) (fun situation chart same => ?_)
  simp only [obstruction, Procedure.ofDirectives, depth_onChart same, isIsolatedDanger_onChart same]
  rfl

theorem wreck_isLocal : (wreck : Procedure α).IsLocal := by
  refine Procedure.isLocal_of_core (fun _ => rfl) (fun situation chart same => ?_)
  simp only [wreck, Procedure.ofDirectives, depth_onChart same, isIsolatedDanger_onChart same]
  rfl

end Hazard

namespace Light

theorem arcRadius_onChart {situation : Situation α} {chart : Chart α}
    (same : situation.SameLinks chart) (sector : Sector α) :
    arcRadius (situation.onChart chart) sector = arcRadius situation sector := by
  have read : ∀ feature : Feature α, Sector.ofFeature? feature.unmarked = Sector.ofFeature? feature :=
    fun _ => rfl
  unfold arcRadius isOuter
  rw [same.bind .coLocatedLight read]

omit [Quantity α] in
theorem flare_onChart {situation : Situation α} {chart : Chart α} (same : situation.SameLinks chart)
    (style : ColourStyle) : flare (situation.onChart chart) style = flare situation style := by
  unfold flare
  rw [same.isSome]

theorem beam_onChart {situation : Situation α} {chart : Chart α} (same : situation.SameLinks chart) :
    beam (situation.onChart chart) = beam situation := by
  unfold beam arc
  simp only [arcRadius_onChart same, flare_onChart same]
  rfl

theorem light_isLocal : (light : Procedure α).IsLocal := by
  refine Procedure.isLocal_of_core (fun _ => rfl) (fun situation chart same => ?_)
  simp only [light, Procedure.ofDirectives, beam_onChart same]
  rfl

end Light

theorem Topmark.topmark_isLocal : (topmark : Procedure α).IsLocal := by
  refine Procedure.isLocal_of_core (fun _ => rfl) (fun situation chart same => ?_)
  simp only [topmark, Procedure.ofDirectives, same.isSome]
  rfl

/-- Every standard procedure is local. -/
theorem isLocal_of_standard {procedure : Procedure α}
    (member : procedure ∈ (standardProcedures : List (Procedure α × List String)).map (·.1)) :
    procedure.IsLocal := by
  simp only [standardProcedures, List.map_cons, List.map_nil, List.mem_cons, List.not_mem_nil,
    or_false] at member
  rcases member with rfl | rfl | rfl | rfl | rfl | rfl | rfl | rfl | rfl | rfl | rfl | rfl | rfl | rfl |
    rfl | rfl
  · exact Depth.depthArea_isLocal
  · exact Depth.depthContour_isLocal
  · exact Light.light_isLocal
  · exact Hazard.obstruction_isLocal
  · exact Hazard.wreck_isLocal
  · exact Procedure.isLocal_of_unlinked (fun _ => rfl) (fun _ _ => rfl)
  · exact Procedure.isLocal_of_unlinked (fun _ => rfl) (fun _ _ => rfl)
  · exact Procedure.isLocal_of_unlinked (fun _ => rfl) (fun _ _ => rfl)
  · exact Topmark.topmark_isLocal
  all_goals exact Procedure.isLocal_of_unlinked (fun _ => rfl) (fun _ _ => rfl)

/-- A procedure that is a standard one, or returns the same whatever the situation. -/
def Procedure.IsPlain (procedure : Procedure α) : Prop :=
  procedure ∈ (standardProcedures : List (Procedure α × List String)).map (·.1) ∨ procedure.IsFixed

theorem Procedure.IsPlain.isLocal {procedure : Procedure α} (plain : procedure.IsPlain) :
    procedure.IsLocal := by
  rcases plain with standard | fixed
  · exact isLocal_of_standard standard
  · exact fixed.isLocal

namespace Registry

/-- Every procedure that a registry finds has a property. -/
def Holds (registry : Registry α) (property : Procedure α → Prop) : Prop :=
  ∀ name procedure, registry.procedures.find? name = some procedure → property procedure

omit [Quantity α] in
theorem Holds.install {registry : Registry α} {property : Procedure α → Prop}
    (holds : registry.Holds property) {entry : Procedure α × List String} (new : property entry.1) :
    (registry.install entry).Holds property := by
  intro name procedure found
  rw [Registry.install, SortedMap.find?_insert] at found
  split at found
  · cases found
    exact new
  · exact holds name procedure found

omit [Quantity α] in
theorem Holds.find? {registry : Registry α} {property : Procedure α → Prop}
    (holds : registry.Holds property) {name : String} {procedure : Procedure α}
    (found : registry.find? name = some procedure) : property procedure := by
  obtain ⟨canonical, -, registered⟩ := Option.bind_eq_some_iff.mp found
  exact holds canonical procedure registered

/-- What holds of the empty registry, and is kept when a standard procedure is installed, holds of the
standard registry. -/
theorem standard_induction {property : Registry α → Prop} (start : property empty)
    (step : ∀ registry, property registry → ∀ entry ∈ standardProcedures,
      property (registry.install entry)) :
    property standard :=
  List.foldlRecOn standardProcedures install start step

theorem holds_standard {property : Procedure α → Prop}
    (each : ∀ entry ∈ (standardProcedures : List (Procedure α × List String)), property entry.1) :
    (standard : Registry α).Holds property := by
  have start : (empty : Registry α).Holds property := by
    intro name procedure found
    cases found
  have step : ∀ registry : Registry α, registry.Holds property →
      ∀ entry ∈ standardProcedures, (registry.install entry).Holds property :=
    fun _ holds entry member => holds.install (each entry member)
  exact standard_induction start step

/-- Every procedure is registered under its own name. -/
def Named (registry : Registry α) : Prop :=
  ∀ name procedure, registry.procedures.find? name = some procedure → procedure.name = name

theorem named_standard : (standard : Registry α).Named := by
  have start : (empty : Registry α).Named := by
    intro name procedure found
    cases found
  have step : ∀ registry : Registry α, registry.Named →
      ∀ entry ∈ standardProcedures, (registry.install entry).Named := by
    intro registry named entry _ name procedure found
    rw [install, SortedMap.find?_insert] at found
    split at found
    · next same =>
      cases found
      exact (SortKey.eq_of_order same).symm
    · exact named name procedure found
  exact standard_induction start step

end Registry

/-- A library all of whose procedures are plain. -/
def Library.IsPlain (library : Library α) : Prop :=
  ∀ name procedure, library.procedures.find? name = some procedure → procedure.IsPlain

/-- A library with the standard procedures is plain, whatever its rules and definitions are. -/
theorem Library.isPlain_of_standard {library : Library α} (standard : library.procedures = .standard) :
    library.IsPlain := by
  intro name procedure found
  rw [standard] at found
  have plain : ∀ entry ∈ (standardProcedures : List (Procedure α × List String)), entry.1.IsPlain :=
    fun entry member => .inl (List.mem_map.mpr ⟨entry, member, rfl⟩)
  exact (Registry.holds_standard plain).find? found

end ChartPortrayal
