import ChartPortrayal.Proofs.Instruction.Override

/-! Commands are compiled from what they print. Well-formed commands hold names, numbers and texts that stand
in a directive as they are; of such commands any list is compiled from its text, command by command. Of commands
with other numbers in them the same list is compiled, with the numbers that were printed. -/

namespace ChartPortrayal

open Text (IsName Writes quote isWord)
open Directive (IsField isField_quoted isField_of_isWord)

/-- An attribute that turns a symbol must not be readable as a number. -/
def Rotation.WellFormed : Rotation Float → Prop
  | .none => True
  | .degrees angle => IsWholeNumber angle
  | .byAttribute name => IsName name ∧ (Quantity.read? name : Option Float) = Option.none

/-- A rotation with another angle, if it is by an angle. -/
def Rotation.mapAngle (change : Float → Float) : Rotation Float → Rotation Float
  | .none => .none
  | .degrees angle => .degrees (change angle)
  | .byAttribute name => .byAttribute name

/-- Literals and formats may hold anything but quotes. -/
def TextContent.WellFormed : TextContent → Prop
  | .byAttribute name => IsName name
  | .literal text => quote ∉ text.toList
  | .formatted format attributes => quote ∉ format.toList ∧ ∀ name ∈ attributes, IsName name

structure TextCommand.WellFormed (text : TextCommand) : Prop where
  content : text.content.WellFormed
  chars : quote ∉ text.chars.toList
  colour : IsName text.colour

structure SectorArc.WellFormed (arc : SectorArc Float) : Prop where
  outlineColour : IsName arc.outlineColour
  arcColour : IsName arc.arcColour
  start : IsWholeNumber arc.start
  finish : IsWholeNumber arc.finish
  radius : IsWholeNumber arc.radius

structure SectorLeg.WellFormed (leg : SectorLeg Float) : Prop where
  bearing : IsWholeNumber leg.bearing
  length : IsWholeNumber leg.length
  colour : IsName leg.style.colour

/-- A definition that a library has under its name, or the placeholder where it has none. -/
structure Library.Owns (library : Library Float) (kind : DefinitionKind) (definition : Definition) :
    Prop where
  name : IsName definition.name
  own : library.definition? kind definition.name = some definition ∨
    library.definition? kind definition.name = none ∧ definition = library.placeholder kind

theorem Library.Owns.eq {library : Library Float} {kind : DefinitionKind} {definition : Definition}
    (owns : library.Owns kind definition) :
    library.definitionOrPlaceholder kind definition.name = definition := by
  rw [definitionOrPlaceholder]
  rcases owns.own with found | ⟨missing, placeholder⟩
  · rw [found, Option.getD_some]
  · rw [missing, Option.getD_none, ← placeholder]

/-- A command whose parts can be written, and whose references are those of the library. -/
def Command.WellFormed (library : Library Float) : Command Float → Prop
  | .showText text => text.WellFormed
  | .showSymbol definition rotation => library.Owns .symbol definition ∧ rotation.WellFormed
  | .showSimpleLine style => IsName style.colour
  | .showComplexLine definition => library.Owns .line definition
  | .showAreaColour colour transparency => IsName colour ∧ transparency ≤ Library.fullTransparency
  | .showAreaPattern definition rotation => library.Owns .pattern definition ∧ rotation.WellFormed
  | .showSectorArc arc => arc.WellFormed
  | .showSectorLeg leg => leg.WellFormed
  | .callConditional name procedure => IsName name ∧ library.procedures.find? name = some procedure
  | .overridePriority override => ∃ payload, PriorityOverride.parse payload = .ok override

/-- A command with other numbers in the same places. -/
def Command.mapNumbers (change : Float → Float) : Command Float → Command Float
  | .showSymbol definition rotation => .showSymbol definition (rotation.mapAngle change)
  | .showAreaPattern definition rotation => .showAreaPattern definition (rotation.mapAngle change)
  | .showSectorArc arc =>
    .showSectorArc
      { arc with start := change arc.start, finish := change arc.finish, radius := change arc.radius }
  | .showSectorLeg leg =>
    .showSectorLeg { leg with bearing := change leg.bearing, length := change leg.length }
  | command => command

/-- A command that is well-formed but for its numbers. -/
def Command.Spelled (library : Library Float) (command : Command Float) : Prop :=
  (command.mapNumbers fun _ => 0).WellFormed library

theorem LengthUnit.ofCode?_code (unit : LengthUnit) : ofCode? unit.code = some unit := by
  cases unit <;> rfl

namespace Parameters

/-- A rotation is read from the parameters after a name. -/
theorem rotation_written {turn : Rotation Float} (spelled : (turn.mapAngle fun _ => 0).WellFormed)
    (name : String) : rotation (name :: Command.rotationParameters turn) 1 = turn.mapAngle reread := by
  cases turn with
  | none => rfl
  | degrees angle =>
    have written := Text.writes_number angle
    have present : nonempty? [name, Quantity.plain angle] 1 = some (Quantity.plain angle) :=
      nonempty?_eq_some rfl written.filled
    rw [rotation, Command.rotationParameters, present]
    simp only [written.read, Rotation.mapAngle]
  | byAttribute source =>
    obtain ⟨named, unreadable⟩ := spelled
    have present : nonempty? [name, source] 1 = some source := nonempty?_eq_some rfl named.filled
    rw [rotation, Command.rotationParameters, present]
    simp only [unreadable, Rotation.mapAngle]

variable {parameters : List String} {index : Nat}

/-- The parameters from some place on, one by one. -/
theorem getElem?_of_drop {fields : List String} (written : parameters.drop index = fields) (offset : Nat) :
    parameters[index + offset]? = fields[offset]? := by
  rw [← List.getElem?_drop, written]

/-- A line style is read from its three parameters, wherever they stand. -/
theorem lineStyle?_written {style : LineStyle} (colour : IsName style.colour)
    (written : parameters.drop index = [style.pattern.code, toString style.width.toNat, style.colour]) :
    lineStyle? parameters index = some style := by
  have place := getElem?_of_drop written
  have pattern : nonempty? parameters index = some style.pattern.code :=
    nonempty?_eq_some (place 0) (by cases style.pattern <;> decide)
  rw [lineStyle?, pattern, Option.bind_some, style.pattern.ofCode?_code, Option.map_some,
    readOr_eq (Text.writes_uint8 _) (place 1), textOr_eq (place 2) colour.filled]

/-- The layout of a text is read from the eight parameters after its content. -/
theorem textCommand_written {text : TextCommand} (colour : IsName text.colour)
    (written : parameters.drop index =
      [toString text.hjust.toNat, toString text.vjust.toNat, toString text.spacing.toNat,
       Directive.quoted text.chars, toString text.xOffset.toInt, toString text.yOffset.toInt,
       text.colour, toString text.group.toNat]) :
    textCommand text.content parameters index = text := by
  have place := getElem?_of_drop written
  have first : parameters[index]? = some (toString text.hjust.toNat) := place 0
  rw [textCommand, readOr_eq (Text.writes_uint8 _) first, readOr_eq (Text.writes_uint8 _) (place 1),
    readOr_eq (Text.writes_uint8 _) (place 2), unquote_textOr (place 3),
    readOr_eq (Text.writes_int32 _) (place 4), readOr_eq (Text.writes_int32 _) (place 5),
    textOr_eq (place 6) colour.filled, readOr_eq (Text.writes_uint32 _) (place 7)]

/-- A literal is told from a name by its quote. -/
theorem plainContent_attribute {name : String} (named : IsName name) (rest : List String) :
    plainContent (name :: rest) = .byAttribute name := by
  have source : textOr (name :: rest) 0 (Directive.quoted "") = name := textOr_eq rfl named.filled _
  rw [plainContent, source]
  exact if_neg named.head?_ne

theorem plainContent_literal (text : String) (rest : List String) :
    plainContent (Directive.quoted text :: rest) = .literal text := by
  have source : textOr (Directive.quoted text :: rest) 0 (Directive.quoted "") = Directive.quoted text :=
    textOr_eq rfl (Directive.quoted_ne_empty text) _
  have first : (Directive.quoted text).toList.head? = some quote := by
    rw [Directive.toList_quoted]
    rfl
  rw [plainContent, source]
  exact (if_pos first).trans (congrArg TextContent.literal (Directive.unquote_quoted text))

theorem formattedContent_written (format : String) {names : List String}
    (each : ∀ name ∈ names, IsName name) (rest : List String) :
    formattedContent (Directive.quoted format :: Directive.quoted (Text.join "," names) :: rest) =
      .formatted format names := by
  rw [formattedContent, unquote_textOr rfl, unquote_textOr rfl, Text.commaFields_names each]

theorem sectorArc_written {arc : SectorArc Float} (outline : IsName arc.outlineColour)
    (colour : IsName arc.arcColour) :
    Command.showSectorArc (sectorArc (Command.showSectorArc arc).parameters) =
      (Command.showSectorArc arc).mapNumbers reread := by
  rw [Command.parameters, sectorArc, textOr_eq rfl outline.filled, readOr_eq (Text.writes_uint8 _) rfl,
    textOr_eq rfl colour.filled, readOr_eq (Text.writes_uint8 _) rfl,
    readOr_eq (Text.writes_number arc.start) rfl, readOr_eq (Text.writes_number arc.finish) rfl,
    readOr_eq (Text.writes_number arc.radius) rfl]
  rfl

theorem sectorLeg_written {leg : SectorLeg Float} (colour : IsName leg.style.colour) :
    Command.showSectorLeg (sectorLeg (Command.showSectorLeg leg).parameters) =
      (Command.showSectorLeg leg).mapNumbers reread := by
  have unit : nonempty? (Command.showSectorLeg leg).parameters 2 = some leg.unit.code :=
    nonempty?_eq_some rfl (by cases leg.unit <;> decide)
  rw [sectorLeg, unit, Option.bind_some, leg.unit.ofCode?_code, Option.getD_some,
    lineStyle?_written colour rfl, Option.getD_some, Command.parameters,
    readOr_eq (Text.writes_number leg.bearing) rfl, readOr_eq (Text.writes_number leg.length) rfl]
  rfl

theorem name_areaColour (colour : String) (transparency : UInt8) :
    name (Command.showAreaColour colour transparency : Command Float).parameters = colour := by
  rw [Command.parameters]
  split <;> rfl

theorem transparency_written (colour : String) (transparency : UInt8) :
    readOr uint8? (Command.showAreaColour colour transparency : Command Float).parameters 1 0 =
      transparency := by
  rw [Command.parameters]
  split
  · next zero =>
    rw [zero]
    rfl
  · exact readOr_eq (Text.writes_uint8 _) rfl _

end Parameters

namespace Command

variable {library : Library Float} {command : Command Float}

/-- The fields of the directive of a command. The payload of an override is more than one field. -/
def fields : Command Float → List String
  | overridePriority override => override.fields
  | command => command.parameters

theorem directive_eq (command : Command Float) :
    command.directive = .ofParameters command.tag command.fields := by
  cases command with
  | overridePriority override => exact congrArg (Directive.mk "OP") override.payload_eq_join
  | _ => rfl

theorem capitals_tag (command : Command Float) :
    ∃ first second, command.tag = String.ofList [first, second] ∧
      Directive.isCapital first = true ∧ Directive.isCapital second = true := by
  cases command with
  | showText text =>
    rw [tag]
    split <;> exact ⟨'T', _, rfl, rfl, rfl⟩
  | _ => exact ⟨_, _, rfl, rfl, rfl⟩

theorem isField_content {content : TextContent} (wellFormed : content.WellFormed) :
    ∀ field ∈ contentParameters content, IsField field := by
  cases content with
  | byAttribute name => exact List.forall_mem_singleton.mpr wellFormed.isField
  | literal text => exact List.forall_mem_singleton.mpr (isField_quoted wellFormed)
  | formatted format attributes =>
    obtain ⟨unquoted, each⟩ := wellFormed
    have names : quote ∉ (Text.join "," attributes).toList :=
      Text.not_mem_join (by decide) (fun name member => (each name member).not_mem_quote)
    exact List.forall_mem_cons.mpr
      ⟨isField_quoted unquoted, List.forall_mem_singleton.mpr (isField_quoted names)⟩

theorem isField_plain (number : Float) : IsField (Quantity.plain number) :=
  isField_of_isWord (PlainWords.isWord_plain number)

theorem isField_rotation {rotation : Rotation Float} (spelled : (rotation.mapAngle fun _ => 0).WellFormed) :
    ∀ field ∈ rotationParameters rotation, IsField field := by
  cases rotation with
  | none => exact List.forall_mem_nil _
  | degrees angle => exact List.forall_mem_singleton.mpr (isField_plain angle)
  | byAttribute name => exact List.forall_mem_singleton.mpr spelled.1.isField

theorem isField_natural (number : Nat) : IsField (toString number) :=
  isField_of_isWord (Text.isWord_natural number)

theorem isField_style {style : LineStyle} (colour : IsName style.colour) :
    ∀ field ∈ [style.pattern.code, toString style.width.toNat, style.colour], IsField field := by
  simp only [List.forall_mem_cons, List.not_mem_nil, false_implies, implies_true, and_true]
  exact ⟨isField_of_isWord style.pattern.isWord_code, isField_natural _, colour.isField⟩

/-- Whatever a command prints is read field by field. -/
theorem Spelled.isField (spelled : command.Spelled library) : ∀ field ∈ command.fields, IsField field := by
  cases command with
  | showText text =>
    have wellFormed : text.WellFormed := spelled
    refine List.forall_mem_append.mpr ⟨isField_content wellFormed.content, ?_⟩
    simp only [List.forall_mem_cons, List.not_mem_nil, false_implies, implies_true, and_true]
    exact ⟨isField_natural _, isField_natural _, isField_natural _, isField_quoted wellFormed.chars,
      isField_of_isWord (Text.isWord_integer _), isField_of_isWord (Text.isWord_integer _),
      wellFormed.colour.isField, isField_natural _⟩
  | showSymbol definition rotation =>
    obtain ⟨owns, turned⟩ := spelled
    exact List.forall_mem_cons.mpr ⟨owns.name.isField, isField_rotation turned⟩
  | showSimpleLine style => exact isField_style spelled
  | showComplexLine definition =>
    have owns : library.Owns .line definition := spelled
    exact List.forall_mem_singleton.mpr owns.name.isField
  | showAreaColour colour transparency =>
    obtain ⟨named, -⟩ := spelled
    change ∀ field ∈ if transparency = 0 then [colour] else [colour, toString transparency.toNat], _
    split
    · exact List.forall_mem_singleton.mpr named.isField
    · exact List.forall_mem_cons.mpr ⟨named.isField, List.forall_mem_singleton.mpr (isField_natural _)⟩
  | showAreaPattern definition rotation =>
    obtain ⟨owns, turned⟩ := spelled
    exact List.forall_mem_cons.mpr ⟨owns.name.isField, isField_rotation turned⟩
  | showSectorArc arc =>
    obtain ⟨outline, colour, -⟩ := spelled
    simp only [fields, parameters, List.forall_mem_cons, List.not_mem_nil, false_implies, implies_true,
      and_true]
    exact ⟨outline.isField, isField_natural _, colour.isField, isField_natural _, isField_plain _,
      isField_plain _, isField_plain _⟩
  | showSectorLeg leg =>
    obtain ⟨-, -, colour⟩ := spelled
    refine List.forall_mem_cons.mpr ⟨isField_plain _,
      List.forall_mem_cons.mpr ⟨isField_plain _, List.forall_mem_cons.mpr ⟨?_, isField_style colour⟩⟩⟩
    cases leg.unit <;> exact isField_of_isWord rfl
  | callConditional name procedure =>
    obtain ⟨named, -⟩ := spelled
    exact List.forall_mem_singleton.mpr named.isField
  | overridePriority override =>
    obtain ⟨payload, parsed⟩ := spelled
    intro field member
    exact isField_of_isWord (PriorityOverride.isWord_fields parsed field member)

theorem exists_fields_eq_cons (command : Command Float) : ∃ field rest, command.fields = field :: rest := by
  cases command with
  | showText text =>
    obtain ⟨content, _⟩ := text
    cases content <;> exact ⟨_, _, rfl⟩
  | showAreaColour colour transparency =>
    change ∃ field rest,
      (if transparency = 0 then [colour] else [colour, toString transparency.toNat]) = field :: rest
    split <;> exact ⟨_, _, rfl⟩
  | _ => exact ⟨_, _, rfl⟩

theorem Spelled.legible (spelled : command.Spelled library) : command.directive.Legible := by
  rw [directive_eq]
  exact Directive.legible_ofParameters command.capitals_tag spelled.isField

theorem Spelled.parameters_directive (spelled : command.Spelled library) :
    command.directive.parameters = command.fields := by
  have each := spelled.isField
  obtain ⟨field, rest, filled⟩ := command.exists_fields_eq_cons
  rw [filled] at each
  rw [directive_eq, filled]
  exact Directive.parameters_ofParameters command.tag each

/-- A well-formed text is what its own directive stands for. -/
theorem bind_showText {text : TextCommand} (wellFormed : text.WellFormed)
    (read : (showText text : Command Float).directive.parameters = (showText text : Command Float).fields) :
    library.bind (showText text : Command Float).directive = .ok (some (showText text)) := by
  obtain ⟨content, _⟩ := text
  cases content with
  | byAttribute name =>
    change Except.ok (some (showText (Parameters.textCommand
      (Parameters.plainContent (Directive.parameters _)) (Directive.parameters _) 1))) = _
    rw [read]
    have source := Parameters.plainContent_attribute wellFormed.content
    exact congrArg (Except.ok <| some <| showText ·)
      ((congrArg (Parameters.textCommand · _ 1) (source _)).trans
        (Parameters.textCommand_written wellFormed.colour rfl))
  | literal characters =>
    change Except.ok (some (showText (Parameters.textCommand
      (Parameters.plainContent (Directive.parameters _)) (Directive.parameters _) 1))) = _
    rw [read]
    have source := Parameters.plainContent_literal characters
    exact congrArg (Except.ok <| some <| showText ·)
      ((congrArg (Parameters.textCommand · _ 1) (source _)).trans
        (Parameters.textCommand_written wellFormed.colour rfl))
  | formatted format attributes =>
    change Except.ok (some (showText (Parameters.textCommand
      (Parameters.formattedContent (Directive.parameters _)) (Directive.parameters _) 2))) = _
    rw [read]
    have source := Parameters.formattedContent_written format wellFormed.content.2
    exact congrArg (Except.ok <| some <| showText ·)
      ((congrArg (Parameters.textCommand · _ 2) (source _)).trans
        (Parameters.textCommand_written wellFormed.colour rfl))

/-- A command is what its own directive stands for, with the numbers that were printed. -/
theorem Spelled.bind (spelled : command.Spelled library) :
    library.bind command.directive = .ok (some (command.mapNumbers reread)) := by
  have read := spelled.parameters_directive
  cases command with
  | showText text => exact bind_showText spelled read
  | showSymbol definition rotation =>
    obtain ⟨owns, turned⟩ := spelled
    change Except.ok (some (showSymbol
      (library.definitionOrPlaceholder .symbol (Parameters.name (Directive.parameters _)))
      (Parameters.rotation (Directive.parameters _) 1))) = _
    rw [read]
    exact congrArg₂ (Except.ok <| some <| showSymbol · ·) owns.eq
      (Parameters.rotation_written turned _)
  | showSimpleLine style =>
    have colour : IsName style.colour := spelled
    change Except.ok ((Parameters.lineStyle? (Directive.parameters _) 0).map showSimpleLine) = _
    rw [read, Parameters.lineStyle?_written colour rfl, Option.map_some]
    rfl
  | showComplexLine definition =>
    have owns : library.Owns .line definition := spelled
    change Except.ok (some (showComplexLine
      (library.definitionOrPlaceholder .line (Parameters.name (Directive.parameters _))))) = _
    rw [read]
    exact congrArg (Except.ok <| some <| showComplexLine ·) owns.eq
  | showAreaColour colour transparency =>
    obtain ⟨-, bounded⟩ := spelled
    have first : Parameters.name (showAreaColour colour transparency : Command Float).fields = colour :=
      Parameters.name_areaColour colour transparency
    have second : Parameters.readOr uint8? (showAreaColour colour transparency : Command Float).fields 1 0 =
        transparency := Parameters.transparency_written colour transparency
    change Except.ok (some (showAreaColour (Parameters.name (Directive.parameters _))
      (if Parameters.readOr uint8? (Directive.parameters _) 1 0 ≤ Library.fullTransparency then
        Parameters.readOr uint8? (Directive.parameters _) 1 0 else Library.fullTransparency))) = _
    rw [read, first, second, if_pos bounded]
    rfl
  | showAreaPattern definition rotation =>
    obtain ⟨owns, turned⟩ := spelled
    change Except.ok (some (showAreaPattern
      (library.definitionOrPlaceholder .pattern (Parameters.name (Directive.parameters _)))
      (Parameters.rotation (Directive.parameters _) 1))) = _
    rw [read]
    exact congrArg₂ (Except.ok <| some <| showAreaPattern · ·) owns.eq
      (Parameters.rotation_written turned _)
  | showSectorArc arc =>
    obtain ⟨outline, colour, -⟩ := spelled
    change Except.ok (some (showSectorArc (Parameters.sectorArc (Directive.parameters _)))) = _
    rw [read]
    exact congrArg (Except.ok <| some ·) (Parameters.sectorArc_written outline colour)
  | showSectorLeg leg =>
    obtain ⟨-, -, colour⟩ := spelled
    change Except.ok (some (showSectorLeg (Parameters.sectorLeg (Directive.parameters _)))) = _
    rw [read]
    exact congrArg (Except.ok <| some ·) (Parameters.sectorLeg_written colour)
  | callConditional name procedure =>
    obtain ⟨-, known⟩ := spelled
    have call : (callConditional name procedure).directive.IsCall := rfl
    have first : Parameters.name (callConditional name procedure).directive.parameters = name :=
      congrArg Parameters.name read
    have found := (congrArg library.procedures.find? first).trans known
    have bound := Library.bind_call_of_find? call found
    rwa [first] at bound
  | overridePriority override =>
    obtain ⟨payload, parsed⟩ := spelled
    exact library.bind_of_parse rfl (PriorityOverride.parse_payload parsed)

theorem wellFormed_mapAngle {rotation : Rotation Float} (wellFormed : rotation.WellFormed) :
    (rotation.mapAngle fun _ => 0).WellFormed ∧ rotation.mapAngle reread = rotation := by
  cases rotation with
  | none => exact ⟨trivial, rfl⟩
  | degrees angle => exact ⟨isWholeNumber_zero, congrArg Rotation.degrees (reread_of_whole wellFormed)⟩
  | byAttribute name => exact ⟨wellFormed, rfl⟩

/-- The numbers of a well-formed command are read as they are. -/
theorem WellFormed.spelled (wellFormed : command.WellFormed library) :
    command.Spelled library ∧ command.mapNumbers reread = command := by
  cases command with
  | showSymbol definition rotation =>
    obtain ⟨owns, turned⟩ := wellFormed
    obtain ⟨turns, kept⟩ := wellFormed_mapAngle turned
    exact ⟨⟨owns, turns⟩, congrArg (showSymbol definition) kept⟩
  | showAreaPattern definition rotation =>
    obtain ⟨owns, turned⟩ := wellFormed
    obtain ⟨turns, kept⟩ := wellFormed_mapAngle turned
    exact ⟨⟨owns, turns⟩, congrArg (showAreaPattern definition) kept⟩
  | showSectorArc arc =>
    obtain ⟨outline, colour, start, finish, radius⟩ := wellFormed
    refine ⟨⟨outline, colour, isWholeNumber_zero, isWholeNumber_zero, isWholeNumber_zero⟩, ?_⟩
    rw [mapNumbers, reread_of_whole start, reread_of_whole finish, reread_of_whole radius]
  | showSectorLeg leg =>
    obtain ⟨bearing, length, colour⟩ := wellFormed
    refine ⟨⟨isWholeNumber_zero, isWholeNumber_zero, colour⟩, ?_⟩
    rw [mapNumbers, reread_of_whole bearing, reread_of_whole length]
  | _ => exact ⟨wellFormed, rfl⟩

theorem WellFormed.legible (wellFormed : command.WellFormed library) : command.directive.Legible :=
  wellFormed.spelled.1.legible

/-- A well-formed command is what its own directive stands for. -/
theorem WellFormed.bind (wellFormed : command.WellFormed library) :
    library.bind command.directive = .ok (some command) := by
  obtain ⟨spelled, kept⟩ := wellFormed.spelled
  rw [spelled.bind, kept]

end Command

namespace Library

/-- Well-formed commands are compiled from the text that they print, with semicolons between them: the same
commands in the same order, whatever their literals and formats hold between quotes. -/
theorem compile_written (library : Library Float) {commands : List (Command Float)}
    (wellFormed : ∀ command ∈ commands, command.WellFormed library) :
    library.compile (Text.join ";" (commands.map Command.text)) = .ok commands := by
  have text : Text.join ";" (commands.map Command.text) =
      Directive.textOf (commands.map Command.directive) := by
    rw [Directive.textOf, List.map_map]
    rfl
  have legible : ∀ directive ∈ commands.map Command.directive, directive.Legible :=
    List.forall_mem_map.mpr (fun command member => (wellFormed command member).legible)
  have each : library.Matches (commands.map Command.directive) commands :=
    List.forall₂_map_left_iff.mpr (List.forall₂_same.mpr (fun command member =>
      (wellFormed command member).bind))
  calc
    library.compile (Text.join ";" (commands.map Command.text)) =
        library.bindAll (commands.map Command.directive) := by
      rw [text, compile, Directive.tokenize_textOf legible]
    _ = .ok commands := each.bindAll

/-- Parentheses, commas and semicolons between quotes end nothing, an alias stays as it was written, and a
library without definitions gives its placeholders. -/
theorem compile_written_shielded :
    (standard : Library Float).compile ("SY(QUESMRK1,ORIENT);AP(QUESMRK1,-45);" ++
        "TX('by (hand); see, below',3,1,2,'15110',-1,0,CHBLK,21);" ++
        "TE('clr %4.1lf (m)','VERCLR,VERCOP',3,1,2,'15110',0,0,CHBLK,11);" ++
        "CS(DEPARE03);OP(8OD-4010,NOSCAMIN)") =
      .ok [.showSymbol (.blank .symbol "QUESMRK1") (.byAttribute "ORIENT"),
        .showAreaPattern (.blank .pattern "QUESMRK1") (.degrees (-45.0)),
        .showText ⟨.literal "by (hand); see, below", 3, 1, 2, "15110", -1, 0, "CHBLK", 21⟩,
        .showText ⟨.formatted "clr %4.1lf (m)" ["VERCLR", "VERCOP"], 3, 1, 2, "15110", 0, 0, "CHBLK", 11⟩,
        .callConditional "DEPARE03" Depth.depthArea,
        .overridePriority ⟨"8OD-4010", some 8, some .above, some .base,
          ⟨none, some 4, some 0, some 1, some 0⟩, true⟩] := by
  have named : IsName "QUESMRK1" ∧ IsName "ORIENT" ∧ IsName "CHBLK" ∧ IsName "DEPARE03" := by
    decide +kernel
  have attributes : ∀ name ∈ ["VERCLR", "VERCOP"], IsName name := by
    decide +kernel
  have unquoted : quote ∉ "by (hand); see, below".toList ∧ quote ∉ "clr %4.1lf (m)".toList ∧
      quote ∉ "15110".toList := by
    decide +kernel
  obtain ⟨placeholder, orient, black, call⟩ := named
  obtain ⟨literal, format, chars⟩ := unquoted
  have owned : ∀ kind, (standard : Library Float).Owns kind (.blank kind "QUESMRK1") := by
    intro kind
    cases kind <;> exact ⟨placeholder, .inr ⟨rfl, rfl⟩⟩
  have angle : IsWholeNumber (-45.0) := ⟨true, 45, ⟨⟨_, _, rfl, by decide⟩, by decide⟩, by decide⟩
  refine Eq.trans (congrArg _ (by decide +kernel)) (standard.compile_written ?_)
  simp only [List.forall_mem_cons, List.not_mem_nil, false_implies, implies_true, and_true]
  exact ⟨⟨owned .symbol, orient, rfl⟩, ⟨owned .pattern, angle⟩, ⟨literal, chars, black⟩,
    ⟨⟨format, attributes⟩, chars, black⟩, ⟨call, rfl⟩, "8OD-4010,NOSCAMIN", rfl⟩

end Library

end ChartPortrayal
