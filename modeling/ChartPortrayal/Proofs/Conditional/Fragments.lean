import ChartPortrayal.Conditional.Standard
import ChartPortrayal.Proofs.Conditional.Sound

/-! Fragments of the standard procedures. All procedures but the one that passes on an attribute put sound
directives together, whatever the attributes of a feature hold, so that a fragment compiles to the commands
that were written. -/

namespace ChartPortrayal

open Directive (AllSound Sound allSound_nil allSound_cons allSound_append allSound_symbols)
open Text (isWord)

variable {α : Type} [Quantity α]

/-- A procedure whose fragments are made of sound directives. -/
def Procedure.WritesSound (procedure : Procedure α) : Prop :=
  ∀ situation fragment, procedure.compute situation = some fragment →
    ∃ list, fragment = .directives list ∧ AllSound α list

theorem Procedure.writesSound_ofDirectives {name : String} {compute : Situation α → List Directive}
    (sound : ∀ situation, AllSound α (compute situation)) : (ofDirectives name compute).WritesSound := by
  intro situation fragment returned
  exact ⟨compute situation, (Option.some.inj returned).symm, sound situation⟩

theorem Directive.allSound_one {directive : Directive} (sound : directive.Sound α) :
    AllSound α [directive] := allSound_cons.mpr ⟨sound, allSound_nil⟩

open Directive (allSound_one)

namespace Accuracy

theorem allSound_point (feature : Feature α) : AllSound α (point feature) := by
  unfold point
  split
  · exact allSound_one (.symbol rfl)
  · exact allSound_nil

theorem allSound_line (feature : Feature α) : AllSound α (line feature) := by
  unfold line
  split
  · exact allSound_one (.complexLine rfl)
  · split
    · exact allSound_cons.mpr ⟨.simpleLine .solid 3 rfl, allSound_one (.simpleLine .solid 1 rfl)⟩
    · exact allSound_one (.simpleLine .solid 1 rfl)

theorem sound_constructionStyle (feature : Feature α) : (constructionStyle feature).Sound α := by
  unfold constructionStyle
  split
  · exact .complexLine rfl
  · split
    · exact .simpleLine .dashed 1 rfl
    · split
      · exact .simpleLine .solid 4 rfl
      · split
        · exact .simpleLine .dashed 2 rfl
        · exact .simpleLine .solid 2 rfl

theorem writesSound_positionQuality : (positionQuality : Procedure α).WritesSound := by
  refine Procedure.writesSound_ofDirectives (fun situation => ?_)
  split
  · exact allSound_point _
  · exact allSound_line _

theorem writesSound_shorelineConstruction : (shorelineConstruction : Procedure α).WritesSound := by
  refine Procedure.writesSound_ofDirectives (fun situation => ?_)
  split
  · exact allSound_point _
  · exact allSound_one (sound_constructionStyle _)

theorem writesSound_dataCoverage : (dataCoverage : Procedure α).WritesSound := by
  refine Procedure.writesSound_ofDirectives (fun situation => ?_)
  split
  · exact allSound_cons.mpr ⟨.areaColour rfl, allSound_cons.mpr
      ⟨.areaPattern rfl, allSound_one (.simpleLine .solid 2 rfl)⟩⟩
  · exact allSound_one (.complexLine rfl)

end Accuracy

namespace Restriction

theorem Symbol.isWord_name {symbol : Symbol} (family : isWord symbol.family = true) :
    isWord symbol.name = true := by
  rw [name, Text.isWord_append, family]
  cases symbol.emphasis <;> rfl

theorem isWord_of_symbol? {list : CodeList} {symbol : Symbol} (found : symbol? list = some symbol) :
    isWord symbol.name = true := by
  refine Symbol.isWord_name ?_
  unfold symbol? at found
  split at found
  · cases found
  · cases found
    split
    case h_4 =>
      dsimp only
      split <;> rfl
    all_goals
      dsimp only
      rfl

theorem isWord_categorySymbol (categories : CodeList) : isWord (categorySymbol categories).name = true := by
  refine Symbol.isWord_name ?_
  unfold categorySymbol
  split
  · dsimp only
    rfl
  · dsimp only
    split <;> rfl

theorem Symbol.allSound_directives {symbol : Symbol} (word : isWord symbol.name = true) :
    AllSound α symbol.directives := by
  unfold directives
  split
  · exact allSound_one (.symbol word)
  · exact allSound_cons.mpr ⟨.symbol word, allSound_one (.overridePriority rfl rfl (.of_blank rfl))⟩

theorem Rank.isWord_boundary (rank : Rank) : isWord rank.boundary = true := by
  cases rank <;> rfl

omit [Quantity α] in
theorem isWord_ofFeature? {feature : Feature α} {symbol : Symbol}
    (found : ofFeature? feature = some symbol) : isWord symbol.name = true := isWord_of_symbol? found

theorem allSound_area (feature : Feature α) :
    AllSound α (area feature).1 ∧ isWord (area feature).2 = true := by
  unfold area
  split
  · next symbol found =>
    exact ⟨Symbol.allSound_directives (isWord_ofFeature? found), Rank.isWord_boundary _⟩
  · exact ⟨Symbol.allSound_directives (isWord_categorySymbol _), Rank.isWord_boundary .other⟩

theorem writesSound_restrictedArea : (restrictedArea : Procedure α).WritesSound := by
  refine Procedure.writesSound_ofDirectives (fun situation => ?_)
  obtain ⟨centre, boundary⟩ := allSound_area situation.feature
  refine allSound_append.mpr ⟨centre, ?_⟩
  split
  · exact allSound_one (.complexLine boundary)
  · exact allSound_one (.simpleLine .dashed 2 rfl)

theorem writesSound_restriction : (restriction : Procedure α).WritesSound := by
  intro situation fragment returned
  obtain ⟨symbol, found, rfl⟩ := Option.map_eq_some_iff.mp returned
  exact ⟨_, rfl, allSound_one (.symbol (isWord_ofFeature? found))⟩

end Restriction

namespace Depth

theorem allSound_seabed (settings : Settings α) (upper lower : α) :
    AllSound α (seabed settings upper lower) := by
  have token : ∀ colour : SeabedColour, isWord colour.token = true := by
    intro colour
    cases colour <;> rfl
  refine allSound_cons.mpr ⟨.areaColour (token _), ?_⟩
  split
  · exact allSound_one (.areaPattern rfl)
  · exact allSound_nil

theorem allSound_label (depth : α) : AllSound α (label depth) := by
  unfold label
  dsimp only
  split
  · generalize (Quantity.tenths depth).tdiv 10 = whole
    generalize (Quantity.tenths depth).tmod 10 = fraction
    have digits : AllSound α
        (((List.range (toString whole).toList.length).reverse.zip (toString whole).toList).map (fun glyph =>
          Directive.symbol ("SAFCON" ++ toString glyph.1 ++ glyph.2.toString))) := by
      intro directive member
      obtain ⟨⟨place, digit⟩, present, rfl⟩ := List.mem_map.mp member
      have written := (List.of_mem_zip present).2
      have word : isWord digit.toString = true := by
        refine Text.isWord_of_subset (Text.isWord_integer whole) (fun char same => ?_)
        have only : char = digit := by simpa using same
        rwa [only]
      refine .symbol ?_
      rw [Text.isWord_append, Text.isWord_append, Text.isWord_natural, word]
      rfl
    split
    · refine allSound_append.mpr ⟨digits, allSound_one (.symbol ?_)⟩
      rw [Text.isWord_append, Text.isWord_integer]
      rfl
    · exact digits
  · exact allSound_nil

theorem allSound_contour (situation : Situation α) (depth : α) : AllSound α (contour situation depth) := by
  have line : ∀ (low : Bool) (width : Nat) {colour : String}, isWord colour = true →
      (Directive.simpleLine (if low then "DASH" else "SOLD") width colour).Sound α := by
    intro low width colour word
    cases low
    · exact .simpleLine .solid width word
    · exact .simpleLine .dashed width word
  unfold contour
  dsimp only
  split
  · exact allSound_cons.mpr ⟨line _ 2 rfl, allSound_cons.mpr
      ⟨.overridePriority rfl rfl (.of_fixed rfl (by decide)), allSound_label depth⟩⟩
  · exact allSound_one (line _ 1 rfl)

theorem allSound_dredged (feature : Feature α) : AllSound α (dredged feature) := by
  refine allSound_append.mpr
    ⟨allSound_cons.mpr ⟨.areaPattern rfl, allSound_one (.simpleLine .dashed 1 rfl)⟩, ?_⟩
  cases found : Restriction.ofFeature? feature with
  | none => exact allSound_nil
  | some symbol => exact allSound_one (.symbol (Restriction.isWord_ofFeature? found))

theorem writesSound_depthArea : (depthArea : Procedure α).WritesSound := by
  refine Procedure.writesSound_ofDirectives (fun situation => ?_)
  dsimp only
  split
  · refine allSound_append.mpr ⟨allSound_seabed _ _ _, ?_⟩
    split
    · exact allSound_dredged _
    · exact allSound_nil
  · exact allSound_contour _ _
  · exact allSound_one (.symbol rfl)

theorem writesSound_depthContour : (depthContour : Procedure α).WritesSound :=
  Procedure.writesSound_ofDirectives (fun _ => allSound_contour _ _)

end Depth

namespace Sounding

theorem isWord_names (settings : Settings α) (feature : Feature α) (depth : α) :
    ∀ name ∈ names settings feature depth, isWord name = true := by
  intro name member
  obtain ⟨code, present, rfl⟩ := List.mem_map.mp member
  have set : isWord (glyphSet settings depth) = true := by
    unfold glyphSet
    split <;> rfl
  rw [Text.isWord_append, set, Bool.true_and]
  rcases List.mem_append.mp present with mark | glyph
  · simp only [marks, List.mem_append, List.mem_ite_nil_right, List.mem_singleton] at mark
    rcases mark with (⟨-, rfl⟩ | ⟨-, rfl⟩) | ⟨-, rfl⟩ <;> rfl
  · obtain ⟨glyph, -, rfl⟩ := List.mem_map.mp glyph
    rw [Glyph.code, Text.isWord_append, Text.isWord_natural, Text.isWord_integer]
    rfl

theorem allSound_symbols (settings : Settings α) (feature : Feature α) (depth : α) :
    AllSound α (symbols settings feature depth) :=
  Directive.allSound_symbols (isWord_names settings feature depth)

theorem writesSound_sounding : (sounding : Procedure α).WritesSound := by
  refine Procedure.writesSound_ofDirectives (fun situation => ?_)
  dsimp only
  split
  · exact allSound_symbols _ _ _
  · exact allSound_nil

end Sounding

namespace Hazard

theorem allSound_isolatedDanger (geometry : Geometry) : AllSound α (isolatedDanger geometry) := by
  refine allSound_append.mpr ⟨?_, allSound_one (.overridePriority rfl rfl (.of_fixed rfl (by decide)))⟩
  cases geometry with
  | point => exact allSound_one (.symbol rfl)
  | line => exact allSound_one (.simpleLine .dotted 2 rfl)
  | area =>
    exact allSound_cons.mpr ⟨.areaColour rfl, allSound_cons.mpr ⟨.areaPattern rfl, allSound_cons.mpr
      ⟨.simpleLine .dotted 2 rfl, allSound_one (.symbol rfl)⟩⟩⟩

theorem allSound_chartedSounding (situation : Situation α) (hazard : HazardDepth α) :
    AllSound α (chartedSounding situation hazard) := by
  unfold chartedSounding
  split
  · exact Sounding.allSound_symbols _ _ _
  · exact allSound_nil

theorem isWord_obstructionSymbol (feature : Feature α) (hazard : HazardDepth α) :
    isWord (obstructionSymbol feature hazard) = true := by
  unfold obstructionSymbol
  dsimp only
  repeat' split
  all_goals rfl

theorem sound_obstructionLine (situation : Situation α) (hazard : HazardDepth α) :
    (obstructionLine situation hazard).Sound α := by
  unfold obstructionLine
  split
  · exact .complexLine rfl
  · split
    · exact .simpleLine .dashed 2 rfl
    · exact .simpleLine .dotted 2 rfl

/-- The fill of an area and the line around it. -/
theorem allSound_filled {colour edge : String} (fill : isWord colour = true) (pattern : LinePattern)
    (width : Nat) (line : isWord edge = true) :
    AllSound α [.areaColour colour, .simpleLine pattern.code width edge] :=
  allSound_cons.mpr ⟨.areaColour fill, allSound_one (.simpleLine pattern width line)⟩

theorem allSound_obstructionArea (feature : Feature α) : AllSound α (obstructionArea feature) := by
  unfold obstructionArea
  split
  · exact allSound_filled rfl .solid 2 rfl
  · split
    · exact allSound_filled rfl .dashed 2 rfl
    · split
      · exact allSound_cons.mpr ⟨.areaPattern rfl, allSound_one (.simpleLine .dotted 2 rfl)⟩
      · exact allSound_filled rfl .dotted 2 rfl

theorem allSound_ordinaryObstruction (situation : Situation α) (hazard : HazardDepth α) :
    AllSound α (ordinaryObstruction situation hazard) := by
  unfold ordinaryObstruction
  dsimp only
  split
  · exact allSound_cons.mpr ⟨.symbol (isWord_obstructionSymbol _ _), allSound_chartedSounding _ _⟩
  · exact allSound_one (sound_obstructionLine _ _)
  · exact allSound_append.mpr ⟨allSound_obstructionArea _, allSound_chartedSounding _ _⟩

theorem writesSound_obstruction : (obstruction : Procedure α).WritesSound := by
  refine Procedure.writesSound_ofDirectives (fun situation => allSound_append.mpr ⟨?_, ?_⟩)
  · split
    · exact allSound_isolatedDanger _
    · exact allSound_ordinaryObstruction _ _
  · split
    · exact Accuracy.allSound_point _
    · exact allSound_nil

theorem isWord_wreckSymbol (feature : Feature α) (hazard : HazardDepth α) :
    isWord (wreckSymbol feature hazard) = true := by
  unfold wreckSymbol
  repeat' split
  all_goals rfl

theorem allSound_wreckArea (feature : Feature α) : AllSound α (wreckArea feature) := by
  unfold wreckArea
  split
  · exact allSound_filled rfl .solid 2 rfl
  · split
    · exact allSound_filled rfl .dashed 2 rfl
    · exact allSound_filled rfl .dotted 2 rfl

theorem allSound_ordinaryWreck (situation : Situation α) (hazard : HazardDepth α) :
    AllSound α (ordinaryWreck situation hazard) := by
  refine allSound_append.mpr ⟨?_, allSound_chartedSounding _ _⟩
  split
  · exact allSound_wreckArea _
  · exact allSound_one (.symbol (isWord_wreckSymbol _ _))

theorem writesSound_wreck : (wreck : Procedure α).WritesSound := by
  refine Procedure.writesSound_ofDirectives (fun situation => allSound_append.mpr ⟨?_, ?_⟩)
  · split
    · exact allSound_isolatedDanger _
    · exact allSound_ordinaryWreck _ _
  · split
    · exact allSound_nil
    · exact Accuracy.allSound_point _

end Hazard

namespace Topmark

theorem isWord_floatingSymbol (shape : Int) : isWord (floatingSymbol shape) = true := by
  unfold floatingSymbol
  iterate 14 refine Text.isWord_ite rfl ?_
  rfl

theorem isWord_rigidSymbol (shape : Int) : isWord (rigidSymbol shape) = true := by
  unfold rigidSymbol
  iterate 17 refine Text.isWord_ite rfl ?_
  rfl

theorem writesSound_topmark : (topmark : Procedure α).WritesSound := by
  refine Procedure.writesSound_ofDirectives (fun situation => ?_)
  split
  · exact allSound_one (.symbol rfl)
  · split
    · exact allSound_one (.symbol (isWord_floatingSymbol _))
    · exact allSound_one (.symbol (isWord_rigidSymbol _))

end Topmark

namespace MarinerObject

/-- The quoted fields of a formatted text, and its words. -/
theorem sound_formattedText {format attributeName hjust vjust x y colour : String}
    (unquoted : Text.quote ∉ format.toList) (named : Text.quote ∉ attributeName.toList)
    (words : [hjust, vjust, x, y, colour].all isWord = true) :
    (formattedText format attributeName hjust vjust x y colour).Sound α := by
  refine .of_steady (by decide) ?_
  simp only [List.all_cons, List.all_nil, Bool.and_true, Bool.and_eq_true] at words
  obtain ⟨left, top, across, down, ink⟩ := words
  simp only [List.forall_mem_cons]
  exact ⟨Directive.isField_quoted unquoted, Directive.isField_quoted named,
    Directive.isField_of_isWord left, Directive.isField_of_isWord top, Directive.isField_of_isWord rfl,
    Directive.isField_quoted (by decide), Directive.isField_of_isWord across,
    Directive.isField_of_isWord down, Directive.isField_of_isWord ink, Directive.isField_of_isWord rfl,
    by simp⟩

theorem writesSound_routeLeg : (routeLeg : Procedure α).WritesSound := by
  refine Procedure.writesSound_ofDirectives (fun situation => allSound_cons.mpr ⟨?_, ?_⟩)
  · split
    · exact .complexLine rfl
    · exact .simpleLine .dashed 2 rfl
  · split
    · exact allSound_one (sound_formattedText (by decide) (by decide) rfl)
    · exact allSound_nil

theorem writesSound_clearingLine : (clearingLine : Procedure α).WritesSound := by
  refine Procedure.writesSound_ofDirectives (fun situation => allSound_append.mpr ⟨?_, ?_⟩)
  · refine allSound_cons.mpr ⟨.simpleLine .solid 1 rfl, ?_⟩
    split
    · exact allSound_one (.rotatedSymbol rfl rfl)
    · exact allSound_one (.symbol rfl)
  · split
    · exact allSound_one (sound_formattedText (by decide) (by decide) rfl)
    · exact allSound_nil

theorem writesSound_pastTrack : (pastTrack : Procedure α).WritesSound := by
  refine Procedure.writesSound_ofDirectives (fun situation => allSound_one ?_)
  split
  · exact .simpleLine .solid 1 rfl
  · exact .simpleLine .solid 2 rfl

theorem allSound_newObjectSymbols (geometry : Geometry) : AllSound α (newObjectSymbols geometry) := by
  cases geometry with
  | point => exact allSound_one (.symbol rfl)
  | line => exact allSound_one (.simpleLine .dashed 2 rfl)
  | area => exact allSound_cons.mpr ⟨.symbol rfl, allSound_one (.simpleLine .dashed 2 rfl)⟩

end MarinerObject

namespace Light

theorem isWord_colourStyle (colours : CodeList) :
    isWord (colourStyle colours).flare = true ∧ isWord (colourStyle colours).arc = true := by
  unfold colourStyle
  repeat' split
  all_goals exact ⟨rfl, rfl⟩

theorem sound_flare (situation : Situation α) {style : ColourStyle} (word : isWord style.flare = true) :
    (flare situation style).Sound α :=
  .rotatedSymbol word (Text.isWord_ite rfl rfl)

/-- Quotes were dropped from the description, and so it can be quoted. -/
theorem quote_not_mem_description (feature : Feature α) : Text.quote ∉ (description feature).toList := by
  unfold description
  split
  · simp
  · simp

/-- The fields of the text of a light, the text first. -/
def textFields (text : String) : List String :=
  [Directive.quoted text, "3", "2", "2", Directive.quoted "15110", "2", "1", "CHBLK", "23"]

theorem isField_textFields {text : String} (unquoted : Text.quote ∉ text.toList) :
    ∀ field ∈ textFields text, Directive.IsField field := by
  simp only [textFields, List.forall_mem_cons]
  refine ⟨Directive.isField_quoted unquoted, ?_, ?_, ?_, Directive.isField_quoted (by decide), ?_, ?_, ?_,
    ?_, by simp⟩
  all_goals exact Directive.isField_of_isWord rfl

theorem allSound_descriptionText (situation : Situation α) : AllSound α (descriptionText situation) := by
  unfold descriptionText
  dsimp only
  split
  · exact allSound_nil
  · exact allSound_one (.of_steady (by decide) (isField_textFields (quote_not_mem_description _)))

variable [PlainWords α]

theorem sound_leg (situation : Situation α) (bearing : α) : (leg situation bearing).Sound α := by
  have plain : ∀ (length : α) (unit : String), isWord unit = true →
      (Directive.ofParameters "SL"
        [Quantity.plain bearing, Quantity.plain length, unit, "DASH", "1", "CHBLK"]).Sound α := by
    intro length unit word
    refine .of_words (by decide) ?_
    simp only [List.all_cons, List.all_nil, PlainWords.isWord_plain, word]
    rfl
  unfold leg
  cases situation.settings.fullSectorLines with
  | true => exact plain _ "N" rfl
  | false => exact plain _ "M" rfl

theorem sound_arc (situation : Situation α) (sector : Sector α) {colour : String}
    (word : isWord colour = true) : (arc situation sector colour).Sound α := by
  refine .of_words (by decide) ?_
  simp only [List.all_cons, List.all_nil, PlainWords.isWord_plain, word]
  rfl

theorem allSound_orientation (situation : Situation α) : AllSound α (orientation situation) := by
  unfold orientation
  split
  · cases situation.feature.number? "ORIENT" with
    | none => exact allSound_nil
    | some bearing => exact allSound_one (sound_leg situation bearing)
  · exact allSound_nil

theorem allSound_beam (situation : Situation α) : AllSound α (beam situation) := by
  obtain ⟨flared, arced⟩ := isWord_colourStyle (situation.feature.codes "COLOUR")
  refine allSound_append.mpr ⟨?_, allSound_descriptionText situation⟩
  split
  · exact allSound_cons.mpr ⟨sound_leg _ _, allSound_cons.mpr ⟨sound_leg _ _,
      allSound_one (sound_arc _ _ arced)⟩⟩
  · exact allSound_cons.mpr ⟨sound_flare _ flared, allSound_orientation _⟩

theorem writesSound_light : (light : Procedure α).WritesSound := by
  refine Procedure.writesSound_ofDirectives (fun situation => ?_)
  dsimp only
  split
  · exact allSound_one (.symbol rfl)
  · split
    · exact allSound_one (.symbol rfl)
    · exact allSound_beam situation

end Light

variable [PlainWords α]

/-- Every standard procedure writes sound directives, except the one that passes on the instructions of a new
object. -/
theorem writesSound_of_standard {entry : Procedure α × List String} (member : entry ∈ standardProcedures)
    (other : entry.1.name ≠ "SYMINS01") : entry.1.WritesSound := by
  simp only [standardProcedures, List.mem_cons, List.not_mem_nil, or_false] at member
  rcases member with rfl | rfl | rfl | rfl | rfl | rfl | rfl | rfl | rfl | rfl | rfl | rfl | rfl | rfl |
    rfl | rfl
  · exact Depth.writesSound_depthArea
  · exact Depth.writesSound_depthContour
  · exact Light.writesSound_light
  · exact Hazard.writesSound_obstruction
  · exact Hazard.writesSound_wreck
  · exact Restriction.writesSound_restrictedArea
  · exact Restriction.writesSound_restriction
  · exact Sounding.writesSound_sounding
  · exact Topmark.writesSound_topmark
  · exact Accuracy.writesSound_positionQuality
  · exact Accuracy.writesSound_shorelineConstruction
  · exact Accuracy.writesSound_dataCoverage
  · exact MarinerObject.writesSound_routeLeg
  · exact absurd rfl other
  · exact MarinerObject.writesSound_clearingLine
  · exact MarinerObject.writesSound_pastTrack

end ChartPortrayal
