import ChartPortrayal.Conditional.Light
import ChartPortrayal.Proofs.Instruction.Printing

/-! Numbers in commands. What is compiled from the text of commands prints the same text again, unless there is a
number in it that vanishes. The fragments that lights draw their sectors with are such texts. -/

namespace ChartPortrayal

open Text (IsName)

namespace Rotation

def angles : Rotation Float → List Float
  | degrees angle => [angle]
  | _ => []

/-- Rotations that are the same but for their angles. -/
def Alike (rotation turned : Rotation Float) : Prop :=
  rotation.mapAngle (fun _ => 0) = turned.mapAngle fun _ => 0

theorem alike_mapAngle (change : Float → Float) (rotation : Rotation Float) :
    rotation.Alike (rotation.mapAngle change) := by
  cases rotation <;> rfl

theorem Alike.parameters_iff {rotation turned : Rotation Float} (alike : rotation.Alike turned) :
    Command.rotationParameters rotation = Command.rotationParameters turned ↔
      rotation.angles.map Quantity.plain = turned.angles.map Quantity.plain := by
  cases rotation with
  | none =>
    cases turned with
    | none => exact iff_of_true rfl rfl
    | _ => cases alike
  | degrees angle =>
    cases turned with
    | degrees other => exact Iff.rfl
    | _ => cases alike
  | byAttribute name =>
    cases turned with
    | byAttribute other =>
      cases alike
      exact iff_of_true rfl rfl
    | _ => cases alike

end Rotation

namespace Command

/-- The numbers of a command, in the order in which they are printed. -/
def numbers : Command Float → List Float
  | showSymbol _ rotation => rotation.angles
  | showAreaPattern _ rotation => rotation.angles
  | showSectorArc arc => [arc.start, arc.finish, arc.radius]
  | showSectorLeg leg => [leg.bearing, leg.length]
  | _ => []

/-- Commands that are the same but for their numbers. -/
def Alike (command further : Command Float) : Prop :=
  command.mapNumbers (fun _ => 0) = further.mapNumbers fun _ => 0

theorem alike_mapNumbers (change : Float → Float) (command : Command Float) :
    command.Alike (command.mapNumbers change) := by
  cases command with
  | showSymbol definition rotation =>
    exact congrArg (showSymbol definition) (rotation.alike_mapAngle change)
  | showAreaPattern definition rotation =>
    exact congrArg (showAreaPattern definition) (rotation.alike_mapAngle change)
  | _ => rfl

theorem numbers_mapNumbers (change : Float → Float) (command : Command Float) :
    (command.mapNumbers change).numbers = command.numbers.map change := by
  have angles (rotation : Rotation Float) : (rotation.mapAngle change).angles = rotation.angles.map change := by
    cases rotation <;> rfl
  cases command with
  | showSymbol definition rotation => exact angles rotation
  | showAreaPattern definition rotation => exact angles rotation
  | _ => rfl

section Alike

variable {library : Library Float} {command further : Command Float}

theorem Alike.tag_eq (alike : command.Alike further) : command.tag = further.tag := by
  have same (command : Command Float) : (command.mapNumbers fun _ => 0).tag = command.tag := by
    cases command <;> rfl
  rw [← same, alike, same]

/-- Which numbers a command has does not matter to how it is spelled. -/
theorem Spelled.of_alike (spelled : command.Spelled library) (alike : command.Alike further) :
    further.Spelled library := by
  rw [Spelled, ← alike]
  exact spelled

theorem Alike.fields_iff (alike : command.Alike further) :
    command.fields = further.fields ↔
      command.numbers.map Quantity.plain = further.numbers.map Quantity.plain := by
  cases command with
  | showSymbol definition rotation =>
    cases further with
    | showSymbol other turned =>
      obtain ⟨rfl, turns⟩ := showSymbol.inj alike
      exact (List.cons_inj_right _).trans (Rotation.Alike.parameters_iff turns)
    | _ => cases alike
  | showAreaPattern definition rotation =>
    cases further with
    | showAreaPattern other turned =>
      obtain ⟨rfl, turns⟩ := showAreaPattern.inj alike
      exact (List.cons_inj_right _).trans (Rotation.Alike.parameters_iff turns)
    | _ => cases alike
  | showSectorArc arc =>
    cases further with
    | showSectorArc other =>
      obtain ⟨outline, width, colour, thickness, -⟩ := SectorArc.mk.inj (showSectorArc.inj alike)
      simp [fields, parameters, numbers, outline, width, colour, thickness]
    | _ => cases alike
  | showSectorLeg leg =>
    cases further with
    | showSectorLeg other =>
      obtain ⟨-, -, unit, style⟩ := SectorLeg.mk.inj (showSectorLeg.inj alike)
      simp [fields, parameters, numbers, unit, style]
    | _ => cases alike
  | _ =>
    cases further <;> cases alike
    exact iff_of_true rfl rfl

/-- The text of a command tells its numbers as far as they are printed. -/
theorem Spelled.text_iff (spelled : command.Spelled library) (alike : command.Alike further) :
    command.text = further.text ↔
      command.numbers.map Quantity.plain = further.numbers.map Quantity.plain := by
  have written := spelled.of_alike alike
  rw [← alike.fields_iff]
  constructor
  · intro same
    rw [← spelled.parameters_directive, ← written.parameters_directive,
      spelled.legible.eq_of_text written.legible same]
  · intro same
    rw [text, text, directive_eq, directive_eq, alike.tag_eq, same]

/-- A command that is compiled from its own text prints this text unless a number of it vanishes. -/
theorem Spelled.text_reread_iff (spelled : command.Spelled library) :
    (command.mapNumbers reread).text = command.text ↔ ∀ number ∈ command.numbers, ¬ Vanishes number := by
  rw [eq_comm, spelled.text_iff (alike_mapNumbers reread command), numbers_mapNumbers, List.map_map, eq_comm,
    List.map_inj_left]
  exact forall₂_congr (fun number _ => plain_reread_iff number)

/-- Reading a second time changes nothing that is printed. -/
theorem Spelled.text_reread_reread (spelled : command.Spelled library) :
    ((command.mapNumbers reread).mapNumbers reread).text = (command.mapNumbers reread).text := by
  rw [(spelled.of_alike (alike_mapNumbers reread command)).text_reread_iff, numbers_mapNumbers]
  exact List.forall_mem_map.mpr (fun number _ => not_vanishes_reread number)

theorem Alike.mapNumbers (alike : command.Alike further) (change : Float → Float) :
    (command.mapNumbers change).Alike (further.mapNumbers change) := by
  rw [Alike, ← alike_mapNumbers change command, alike, alike_mapNumbers change further]

/-- Commands whose numbers are printed as the same fractions have the same text unless a number of one vanishes
where that of the other does not, and they are compiled to commands with the same text in any case. -/
theorem Spelled.text_eq_iff (spelled : command.Spelled library) (alike : command.Alike further)
    (numbers : List.Forall₂ PrintAlike command.numbers further.numbers) :
    (command.text = further.text ↔
      List.Forall₂ (fun first second => Vanishes first ↔ Vanishes second) command.numbers further.numbers) ∧
    (command.mapNumbers reread).text = (further.mapNumbers reread).text := by
  have read := spelled.of_alike (alike_mapNumbers reread command)
  rw [spelled.text_iff alike, read.text_iff (alike.mapNumbers reread), numbers_mapNumbers, numbers_mapNumbers]
  exact PrintAlike.map_plain_iff numbers

end Alike

end Command

/-- Commands that are compiled from their own texts. -/
structure Library.Rereads (library : Library Float) (commands : List (Command Float)) : Prop where
  compiled : library.compile (Directive.textOf (commands.map Command.directive)) =
    .ok (commands.map (Command.mapNumbers reread))
  text : ∀ command ∈ commands,
    ((command.mapNumbers reread).text = command.text ↔ ∀ number ∈ command.numbers, ¬ Vanishes number)
  settled : ∀ command ∈ commands,
    ((command.mapNumbers reread).mapNumbers reread).text = (command.mapNumbers reread).text

/-- Commands are compiled from the text that they print, with the numbers that were printed. -/
theorem Library.rereads (library : Library Float) {commands : List (Command Float)}
    (spelled : ∀ command ∈ commands, command.Spelled library) : library.Rereads commands where
  compiled := by
    have legible : ∀ directive ∈ commands.map Command.directive, directive.Legible :=
      List.forall_mem_map.mpr (fun command member => (spelled command member).legible)
    have each : library.Matches (commands.map Command.directive) (commands.map (Command.mapNumbers reread)) :=
      List.forall₂_map_left_iff.mpr (List.forall₂_map_right_iff.mpr (List.forall₂_same.mpr
        (fun command member => (spelled command member).bind)))
    rw [compile, Directive.tokenize_textOf legible]
    exact each.bindAll
  text command member := (spelled command member).text_reread_iff
  settled command member := (spelled command member).text_reread_reread

namespace Light

variable (situation : Situation Float) (sector : Sector Float)

/-- A leg before it is written. -/
def legLine (bearing : Float) : SectorLeg Float where
  bearing := bearing
  length :=
    if situation.settings.fullSectorLines then (situation.feature.number? "VALNMR").getD 9.0 else 25.0
  unit := if situation.settings.fullSectorLines then .nauticalMiles else .millimetres
  style := ⟨.dashed, 1, "CHBLK"⟩

/-- The arc before it is written. -/
def arcLine (colour : String) : SectorArc Float where
  outlineColour := "OUTLW"
  outlineWidth := 4
  arcColour := colour
  arcWidth := 2
  start := sector.start
  finish := sector.finish
  radius := arcRadius situation sector

/-- What a sector is drawn with. -/
def sectorCommands : List (Command Float) :=
  [.showSectorLeg (legLine situation sector.start), .showSectorLeg (legLine situation sector.finish),
   .showSectorArc (arcLine situation sector (colourStyle (situation.feature.codes "COLOUR")).arc)]

theorem directive_legLine (bearing : Float) :
    (Command.showSectorLeg (legLine situation bearing)).directive = leg situation bearing := by
  have width : toString (1 : UInt8).toNat = "1" := rfl
  rw [Command.directive, Command.parameters, legLine, width, leg]
  cases situation.settings.fullSectorLines <;> rfl

theorem directive_arcLine (colour : String) :
    (Command.showSectorArc (arcLine situation sector colour)).directive = arc situation sector colour := by
  have widths : toString (4 : UInt8).toNat = "4" ∧ toString (2 : UInt8).toNat = "2" := ⟨rfl, rfl⟩
  rw [Command.directive, Command.parameters, arcLine, widths.1, widths.2, arc]
  rfl

/-- The directives of a light with a sector are those of its commands, before its description. -/
theorem beam_of_drawn (drawn : Sector.drawn? situation.feature = some sector) :
    beam situation =
      (sectorCommands situation sector).map Command.directive ++ descriptionText situation := by
  rw [beam, drawn, sectorCommands, List.map_cons, List.map_cons, List.map_singleton, directive_legLine,
    directive_legLine, directive_arcLine]

variable (library : Library Float)

theorem spelled_legLine (bearing : Float) :
    (Command.showSectorLeg (legLine situation bearing)).Spelled library := by
  have black : IsName "CHBLK" := by decide
  exact ⟨isWholeNumber_zero, isWholeNumber_zero, black⟩

theorem alike_legLine (first second : Float) :
    (Command.showSectorLeg (legLine situation first)).Alike
      (Command.showSectorLeg (legLine situation second)) := rfl

theorem isName_arc (colours : CodeList) : IsName (colourStyle colours).arc := by
  unfold colourStyle
  split
  · decide
  · split
    · decide
    · split <;> decide

theorem spelled_sectorCommands :
    ∀ command ∈ sectorCommands situation sector, command.Spelled library := by
  have outline : IsName "OUTLW" := by decide
  simp only [sectorCommands, List.forall_mem_cons, List.not_mem_nil, false_implies, implies_true, and_true]
  exact ⟨spelled_legLine situation library _, spelled_legLine situation library _,
    ⟨outline, isName_arc _, isWholeNumber_zero, isWholeNumber_zero, isWholeNumber_zero⟩⟩

end Light

/-- Finite numbers are printed as their nearest hundredths, in the fewest characters and so that the text is the one
of the number that is read from it, except for a minus sign in front of a zero. The same goes for commands, whichever
numbers are in them, and for the legs and arcs of lights. -/
theorem plain_canonical (library : Library Float) :
    (∀ number value, (FloatValue.ofFloat number).rational? = some value → IsCanonical number value) ∧
    (∀ first second, PrintAlike first second →
      (Quantity.plain first = Quantity.plain second ↔ (Vanishes first ↔ Vanishes second)) ∧
        Quantity.plain (reread first) = Quantity.plain (reread second)) ∧
    (∀ command further : Command Float, command.Spelled library → command.Alike further →
      List.Forall₂ PrintAlike command.numbers further.numbers →
      (command.text = further.text ↔
        List.Forall₂ (fun first second => Vanishes first ↔ Vanishes second)
          command.numbers further.numbers) ∧
        (command.mapNumbers reread).text = (further.mapNumbers reread).text) ∧
    (∀ commands, (∀ command ∈ commands, command.Spelled library) → library.Rereads commands) ∧
    (∀ situation bearing,
      (Command.showSectorLeg (Light.legLine situation bearing)).directive = Light.leg situation bearing ∧
        (Command.showSectorLeg (Light.legLine situation bearing)).Spelled library) ∧
    ∀ situation sector, Light.Sector.drawn? situation.feature = some sector →
      Light.beam situation = (Light.sectorCommands situation sector).map Command.directive ++
        Light.descriptionText situation ∧
      ∀ command ∈ Light.sectorCommands situation sector, command.Spelled library := by
  refine ⟨?_, ?_, ?_, ?_, ?_, ?_⟩
  · intro number value exact
    exact isCanonical exact
  · intro first second alike
    exact alike.plain_eq_iff
  · intro command further spelled alike numbers
    exact spelled.text_eq_iff alike numbers
  · intro commands spelled
    exact library.rereads spelled
  · intro situation bearing
    exact ⟨Light.directive_legLine situation bearing, Light.spelled_legLine situation library bearing⟩
  · intro situation sector drawn
    exact ⟨Light.beam_of_drawn situation sector drawn, Light.spelled_sectorCommands situation sector library⟩

/-- An eighth is printed as fifteen times the sixteenth part of it are, in the leg of a light too. -/
theorem plain_canonical_eighth :
    let situation : Situation Float :=
      ⟨((Feature.plain "LIGHTS" .point).setAttribute "SECTR1" "0.125").setAttribute "SECTR2" "40", .empty,
        .standard, .primary⟩
    let leg (bearing : Float) : Command Float := .showSectorLeg (Light.legLine situation bearing)
    IsCanonical 0.125 (1 / 8) ∧ Quantity.plain (0.125 : Float) = Quantity.plain (0.1171875 : Float) ∧
      (leg 0.125).text = (leg 0.1171875).text ∧
      (Library.standard.compile (Directive.textOf [Light.leg situation 0.125]) =
        .ok [(leg 0.125).mapNumbers reread]) ∧
      ((leg 0.125).mapNumbers reread).text = (leg 0.125).text ∧
      ∃ sector, Light.beam situation =
        (Light.sectorCommands situation sector).map Command.directive ++ Light.descriptionText situation := by
  intro situation leg
  obtain ⟨values, texts, commands, compiled, legs, sectors⟩ := plain_canonical Library.standard
  have eighth : (FloatValue.ofFloat 0.125).rational? = some (1 / 8) := by
    have parts : FloatValue.ofFloat 0.125 = .finite false (2 ^ 52) (-55) := rfl
    rw [parts, FloatValue.rational?, FloatValue.magnitude]
    norm_num
  have less : (FloatValue.ofFloat 0.1171875).rational? = some (15 / 128) := by
    have parts : FloatValue.ofFloat 0.1171875 = .finite false (15 * 2 ^ 49) (-56) := rfl
    rw [parts, FloatValue.rational?, FloatValue.magnitude]
    norm_num
  have length : (FloatValue.ofFloat 25).rational? = some 25 := by
    have parts : FloatValue.ofFloat 25 = .finite false (25 * 2 ^ 48) (-48) := rfl
    rw [parts, FloatValue.rational?, FloatValue.magnitude]
    norm_num
  have first := not_vanishes_of_nonneg eighth (by norm_num)
  have second := not_vanishes_of_nonneg less (by norm_num)
  have third := not_vanishes_of_nonneg length (by norm_num)
  have alike : PrintAlike 0.125 0.1171875 := ⟨3 / 25, by decide +kernel, by decide +kernel⟩
  have kept : PrintAlike 25 25 := ⟨25, rfl, rfl⟩
  have numbers : ∀ bearing, (leg bearing).numbers = [bearing, 25] := fun bearing => rfl
  obtain ⟨written, spelled⟩ := legs situation 0.125
  have rereads := compiled [leg 0.125] (List.forall_mem_singleton.mpr spelled)
  obtain ⟨sector, drawn⟩ := Option.isSome_iff_exists.mp
    (show (Light.Sector.drawn? situation.feature).isSome = true from rfl)
  have same : (leg 0.125).text = (leg 0.1171875).text := by
    refine (commands _ _ spelled (Light.alike_legLine situation 0.125 0.1171875) ?_).1.mpr ?_
    · rw [numbers, numbers]
      exact .cons alike (.cons kept .nil)
    · rw [numbers, numbers]
      exact .cons (iff_of_false first second) (.cons Iff.rfl .nil)
  have printed : ((leg 0.125).mapNumbers reread).text = (leg 0.125).text := by
    refine (rereads.text _ List.mem_cons_self).mpr ?_
    rw [numbers, List.forall_mem_cons, List.forall_mem_singleton]
    exact ⟨first, third⟩
  have equal := (texts 0.125 0.1171875 alike).1.mpr (iff_of_false first second)
  have legText := rereads.compiled
  rw [List.map_singleton, written] at legText
  exact ⟨values _ _ eighth, equal, same, legText, printed, sector, (sectors situation sector drawn).1⟩

/-- A thousandth below zero is printed as zero with a sign, which is read as a zero and printed without it. -/
theorem not_plain_stable :
    ¬ ∀ number again : Float, (FloatValue.ofFloat number).rational?.isSome = true →
      Quantity.read? (Quantity.plain number) = some again → Quantity.plain again = Quantity.plain number := by
  intro stable
  have finite : (FloatValue.ofFloat (-0.001)).rational?.isSome = true := rfl
  have texts : Quantity.plain (-0.001 : Float) = "-0" := rfl
  have read : Numeral.read? "-0" = some (.finite true 0 0) := rfl
  have again : Quantity.plain (Numeral.finite true 0 0).toFloat = "0" := by decide +kernel
  have same := stable (-0.001) (Numeral.finite true 0 0).toFloat finite
    (by rw [texts, Quantity.read?, read]; rfl)
  rw [again, texts] at same
  exact absurd same (by decide)

end ChartPortrayal
