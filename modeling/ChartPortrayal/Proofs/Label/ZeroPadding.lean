import ChartPortrayal.Label.Basic
import ChartPortrayal.Proofs.Conditional.Written
import ChartPortrayal.Proofs.Label.Filling

/-! Widths that start with a zero. The zero is read as a digit of the width, so that a number is filled up with
blanks where zeros behind its sign were meant, and bearings of clearing lines show no more digits than they
have. -/

namespace ChartPortrayal

open FloatValue (IsInteger64)

namespace LabelFormat

/-- Whether a conversion asks for a number, filled up on its left, and its width starts with a zero. -/
def Spelling.IsZeroFlagged (spelling : Spelling) : Prop :=
  spelling.hyphen = false ∧ spelling.width.head? = some '0' ∧ spelling.IsNumeric

/-- A number filled up to a width with zeros behind its sign. -/
def zeroFilled (width : Nat) (text : String) : String :=
  String.ofList (text.toList.takeWhile (· = '-') ++
    (List.replicate (width - text.length) '0' ++ text.toList.dropWhile (· = '-')))

/-- Blanks stand for zeros only where there is nothing to fill up. -/
theorem padLeft_eq_zeroFilled_iff (width : Nat) (text : String) :
    Text.padLeft width ' ' text = zeroFilled width text ↔ width ≤ text.length := by
  rw [← String.toList_inj, Text.padLeft, zeroFilled, String.toList_append, String.toList_ofList,
    String.toList_ofList]
  constructor
  · intro same
    by_contra short
    obtain ⟨missing, more⟩ : ∃ missing, width - text.length = missing + 1 := ⟨width - text.length - 1, by omega⟩
    rw [more, List.replicate_succ, List.replicate_succ] at same
    have signs : ∀ char ∈ text.toList.takeWhile (· = '-'), char = '-' := by
      intro char listed
      have kept := List.mem_takeWhile_imp listed
      exact of_decide_eq_true kept
    generalize text.toList.takeWhile (· = '-') = sign at same signs
    cases sign with
    | nil => exact absurd (List.cons_eq_cons.mp same).1 (by decide)
    | cons char others =>
      obtain rfl := signs char List.mem_cons_self
      exact absurd (List.cons_eq_cons.mp same).1 (by decide)
  · intro filled
    rw [Nat.sub_eq_zero_of_le filled, List.replicate_zero, List.replicate_zero, List.nil_append,
      List.nil_append, List.takeWhile_append_dropWhile]

/-- What a conversion with a zero in front of its width writes, given the value whose turn it is. -/
theorem Spelling.Writes.of_isZeroFlagged {whole : FloatValue → Int → Prop} {spelling : Spelling}
    {turn : Option String} {piece : String} (writes : spelling.Writes whole turn piece)
    (flagged : spelling.IsZeroFlagged) :
    ∃ value kind rendering, turn = some value ∧ spelling.kind? = some kind ∧
      Renders whole spelling.places? kind (Text.trim value) rendering ∧
      piece = Text.padLeft spelling.minimum ' ' rendering := by
  obtain ⟨plain, -, numeric⟩ := flagged
  obtain ⟨kind, takes⟩ : ∃ kind, spelling.kind? = some kind := by
    rcases numeric with integer | fraction
    · exact ⟨_, integer⟩
    · exact ⟨_, fraction⟩
  obtain ⟨value, rendering, rfl, renders, rfl⟩ := (writes_value_iff takes).mp writes
  refine ⟨value, kind, rendering, rfl, takes, renders, ?_⟩
  simp only [padded, plain, Bool.false_eq_true, if_false]

end LabelFormat

namespace Label

variable {α : Type} [Quantity α] {settings : Settings α} {feature : Feature α}

theorem ofCommands_append_of_silent {commands : List (Command α)}
    (silent : ∀ command ∈ commands, command.textContent? = none) (last : List (Command α)) :
    ofCommands settings feature (commands ++ last) = ofCommands settings feature last := by
  induction commands with
  | nil => rfl
  | cons command commands induct =>
    obtain ⟨none, others⟩ := List.forall_mem_cons.mp silent
    have unlabelled : ofCommand settings feature command = .ok Option.none := by
      cases command <;> first | rfl | cases none
    rw [← induct others, List.cons_append, ofCommands, List.mapM_cons, unlabelled]
    unfold ofCommands
    cases (commands ++ last).mapM (ofCommand settings feature) <;> rfl

end Label

theorem Feature.exists_attribute_of_number? {feature : Feature Float} {name : String} {number : Float}
    (read : feature.number? name = some number) :
    ∃ text, feature.attribute? name = some text ∧ Quantity.read? (Text.trim text) = some number ∧
      feature.hasValue name = true := by
  obtain ⟨text, held, read⟩ := Option.bind_eq_some_iff.mp read
  refine ⟨text, held, read, ?_⟩
  simp only [hasValue, held]
  apply bne_iff_ne.mpr
  intro empty
  rw [empty] at read
  have unread : (Quantity.read? "" : Option Float) = none := LabelFormat.read?_eq_none_iff.mpr (by decide)
  rw [unread] at read
  cases read

namespace MarinerObject

open LabelFormat

/-- The conversion of a bearing, with a zero in front of its width of three. -/
def bearingSpelling : Spelling where
  hyphen := false
  width := ['0', '3']
  precision := some ['0']
  ending := ['l', 'f']
  kind? := some .fraction
  width_digits := List.forall_mem_cons.mpr ⟨rfl, List.forall_mem_singleton.mpr rfl⟩
  precision_digits digits given := by
    obtain rfl : ['0'] = digits := Option.some.inj given
    exact ⟨List.cons_ne_nil _ _, List.forall_mem_singleton.mpr rfl⟩
  listed := by decide

theorem cut_bearing :
    Cut "clr %03.0lf deg".toList [⟨['c', 'l', 'r', ' '], bearingSpelling⟩] [' ', 'd', 'e', 'g'] := by
  have spelled : "clr %03.0lf deg".toList =
      Segment.chars ⟨['c', 'l', 'r', ' '], bearingSpelling⟩ ++ [' ', 'd', 'e', 'g'] := by decide +kernel
  rw [spelled]
  exact .next (by decide +kernel) (.last (by decide +kernel))

theorem isBounded_bearing : bearingSpelling.IsBounded := by
  refine ⟨by decide, fun places given => ?_⟩
  obtain rfl : 0 = places := Option.some.inj given
  decide

/-- The label of a bearing, as it is written. -/
def bearingLabel (number : Float) : String :=
  "clr " ++ (Text.padLeft 3 ' ' (Quantity.fixed 0 number) ++ " deg")

theorem fill_bearing {text : String} {number : Float} (read : Quantity.read? (Text.trim text) = some number) :
    fill Float "clr %03.0lf deg" [text] = .ok (some (bearingLabel number)) := by
  have rendered : render Float (bearingSpelling.conversion .fraction) (Text.trim text) =
      .ok (some (Quantity.fixed 0 number)) := by
    simp only [render, Spelling.conversion, read]
    rfl
  let segment : Segment := ⟨['c', 'l', 'r', ' '], bearingSpelling⟩
  have value : fillParts Float (partsOf [segment] [' ', 'd', 'e', 'g']) [text] = _ :=
    fillParts_value isBounded_bearing rfl [] rendered
  rw [fill_of_cut cut_bearing, value, fillParts_last]
  rfl

/-- The text command of a bearing. -/
def bearingText : TextCommand where
  content := .formatted "clr %03.0lf deg" ["clrbrg"]
  hjust := 1
  vjust := 1
  spacing := 2
  chars := "15110"
  xOffset := 0
  yOffset := -1
  colour := "NINFO"
  group := 51

theorem bind_bearing (library : Library Float) :
    library.bind (formattedText "clr %03.0lf deg" "clrbrg" "1" "1" "0" "-1" "NINFO") =
      .ok (some (.showText bearingText)) := by
  have read : Parameters.textCommand
      (Parameters.formattedContent
        (formattedText "clr %03.0lf deg" "clrbrg" "1" "1" "0" "-1" "NINFO").parameters)
      (formattedText "clr %03.0lf deg" "clrbrg" "1" "1" "0" "-1" "NINFO").parameters 2 = bearingText := by
    decide +kernel
  exact congrArg (fun text => Except.ok (some (Command.showText text))) read

theorem resolve_bearing {settings : Settings Float} {feature : Feature Float} {number : Float}
    (read : feature.number? "clrbrg" = some number) (visible : Label.isVisible settings 51 = true) :
    Label.resolve settings feature bearingText = .ok (some (bearingLabel number)) := by
  obtain ⟨text, held, read, present⟩ := Feature.exists_attribute_of_number? read
  have values : ["clrbrg"].mapM (Label.attributeText? settings feature) = some [text] := by
    have foreign : ¬ "clrbrg" = "OBJNAM" := by decide
    simp [Label.attributeText?, foreign, present, held]
  have written : Label.contentText settings feature bearingText.content = .ok (some (bearingLabel number)) := by
    simp only [Label.contentText, bearingText, values, fill_bearing read]
  have filled : bearingLabel number ≠ "" := by
    intro empty
    have chars := congrArg String.toList empty
    simp [bearingLabel] at chars
  have shown : Label.isVisible settings bearingText.group = true := visible
  rw [Label.resolve, if_pos shown, written]
  exact congrArg Except.ok (Option.filter_some_pos (bne_iff_ne.mpr filled))

/-- A clearing line is labelled with its bearing, whatever the library. -/
theorem labels_clearingLine (library : Library Float) {situation : Situation Float} {number : Float}
    (read : situation.feature.number? "clrbrg" = some number)
    (visible : Label.isVisible situation.settings 51 = true) :
    ∃ fragment commands, (clearingLine : Procedure Float).compute situation = some fragment ∧
      library.compileFragment "CLRLIN01" fragment.text = .ok commands ∧
      Label.ofCommands situation.settings situation.feature commands = .ok [bearingLabel number] := by
  obtain ⟨text, held, -, present⟩ := Feature.exists_attribute_of_number? read
  obtain ⟨graphics, graphic, drawn⟩ : ∃ graphics : List Directive, (∀ directive ∈ graphics, ¬ directive.IsText) ∧
      (clearingLine : Procedure Float).compute situation = some (.directives (graphics ++
        [formattedText "clr %03.0lf deg" "clrbrg" "1" "1" "0" "-1" "NINFO"])) := by
    simp only [clearingLine, Procedure.ofDirectives, present, if_true]
    refine ⟨_, ?_, rfl⟩
    intro directive listed
    simp only [List.mem_cons, List.not_mem_nil, or_false] at listed
    rcases listed with rfl | rfl
    · decide
    · split
      · decide
      · decide
  obtain ⟨directives, same, sound⟩ := writesSound_clearingLine situation _ drawn
  cases same
  obtain ⟨commands, compiled, each⟩ := library.compileFragment_sound "CLRLIN01" sound
  obtain ⟨silent, last, rfl, quiet, kept⟩ := Library.graphics_of_append graphic each
  obtain ⟨command, none, bound, ended, rfl⟩ := List.forall₂_cons_left_iff.mp kept
  cases ended
  rw [bind_bearing] at bound
  cases bound
  refine ⟨_, _, drawn, compiled, ?_⟩
  rw [Label.ofCommands_append_of_silent quiet, Label.ofCommands, List.mapM_cons, Label.ofCommand,
    resolve_bearing read visible]
  rfl

/-- An integer has more than so many digits exactly when it does not fit in them. -/
theorem digits_toString_iff {count : Nat} (positive : 0 < count) (integer : Nat) :
    count < (toString integer).toList.countP Text.isAsciiDigit ↔ 10 ^ count ≤ integer := by
  have all : (toString integer).toList.countP Text.isAsciiDigit = (Nat.toDigits 10 integer).length := by
    rw [List.countP_eq_length.mpr (fun char listed => Text.isAsciiDigit_of_mem listed), Text.toList_toString]
  have fits : (Nat.toDigits 10 integer).length ≤ count ↔ integer < 10 ^ count :=
    Nat.length_toDigits_le_iff (by decide) positive
  rw [all]
  exact not_le.symm.trans ((not_congr fits).trans not_lt)

/-- The letters and the blanks of a label are no digits. -/
theorem countP_bearingLabel (number : Float) :
    (bearingLabel number).toList.countP Text.isAsciiDigit =
      (Quantity.fixed 0 number).toList.countP Text.isAsciiDigit := by
  have blank (width : Nat) : (List.replicate width ' ').countP Text.isAsciiDigit = 0 := by
    rw [List.countP_replicate, if_neg (by decide)]
  have around : "clr ".toList.countP Text.isAsciiDigit = 0 ∧ " deg".toList.countP Text.isAsciiDigit = 0 := by
    decide +kernel
  simp only [bearingLabel, Text.padLeft, String.toList_append, String.toList_ofList, List.countP_append, blank,
    around, Nat.zero_add, Nat.add_zero]

/-- A label shows three digits of a bearing from ninety-nine and a half degrees on. -/
theorem three_digits_iff {number : Float} {bearing : Rat}
    (exact : (FloatValue.ofFloat number).rational? = some bearing) (least : 0 ≤ bearing) :
    3 ≤ (bearingLabel number).toList.countP Text.isAsciiDigit ↔ 199 / 2 ≤ bearing := by
  have fixed : (FloatValue.ofFloat number).IsFixed 0 (Quantity.fixed 0 number) := FloatValue.isFixed_iff.mpr rfl
  rw [countP_bearingLabel]
  generalize Quantity.fixed 0 number = rendering at fixed ⊢
  generalize FloatValue.ofFloat number = value at fixed exact
  cases fixed with
  | infinite => cases exact
  | undefined => cases exact
  | @finite negative significand units exponent nearest =>
    have size : FloatValue.magnitude significand exponent = bearing := by
      have positive := FloatValue.magnitude_nonneg significand exponent
      have signed := Option.some.inj exact
      cases negative with
      | false => exact signed
      | true =>
        rw [if_pos rfl] at signed
        linarith
    have digits : (signText negative ++ FloatValue.withPoint 0 units).toList.countP Text.isAsciiDigit =
        (toString units).toList.countP Text.isAsciiDigit := by
      have signless : (signText negative).toList.countP Text.isAsciiDigit = 0 := by
        cases negative <;> rfl
      rw [FloatValue.withPoint, pow_zero, Nat.div_one, if_pos rfl, String.append_empty, String.toList_append,
        List.countP_append, signless, Nat.zero_add]
    have hundred : Even 100 := by decide
    rw [size, pow_zero, mul_one] at nearest
    rw [digits]
    refine (digits_toString_iff (by decide) units).trans ((nearest.le_iff hundred).trans ?_)
    norm_num

end MarinerObject

open LabelFormat MarinerObject

/-- A zero in front of a width fills up with blanks: a numeric conversion of such a width, without a hyphen,
writes what printing with zeros behind the sign would give exactly where there is nothing to fill up. So the
label of a clearing line shows three digits only of bearings that are rounded to three. -/
theorem zero_flag_pads_blanks (format : String) (library : Library Float) :
    (∀ (segments : List Segment) (last : List Char), Cut format.toList segments last →
      (∀ segment ∈ segments, segment.spelling.IsBounded) → ∀ (values : List String) (text : String),
      fill Float format values = .ok (some text) →
      ∃ written, Filled IsInteger64 segments last values written text ∧
        ∀ (index : Nat) (segment : Segment) (piece : String), segments[index]? = some segment →
          written[index]? = some piece → segment.spelling.IsZeroFlagged →
          ∃ value kind rendering, values[(takers (segments.take index)).length]? = some value ∧
            segment.spelling.kind? = some kind ∧
            Renders IsInteger64 segment.spelling.places? kind (Text.trim value) rendering ∧
            piece = Text.padLeft segment.spelling.minimum ' ' rendering ∧
            (piece = zeroFilled segment.spelling.minimum rendering ↔
              segment.spelling.minimum ≤ rendering.length)) ∧
      ∀ (situation : Situation Float) (number : Float) (bearing : Rat),
        situation.feature.number? "clrbrg" = some number →
        (FloatValue.ofFloat number).rational? = some bearing → 0 ≤ bearing →
        Label.isVisible situation.settings 51 = true →
        ∃ fragment commands label, (clearingLine : Procedure Float).compute situation = some fragment ∧
          library.compileFragment "CLRLIN01" fragment.text = .ok commands ∧
          Label.ofCommands situation.settings situation.feature commands = .ok [label] ∧
          label = "clr " ++ (Text.padLeft 3 ' ' (Quantity.fixed 0 number) ++ " deg") ∧
          (3 ≤ label.toList.countP Text.isAsciiDigit ↔ 199 / 2 ≤ bearing) := by
  constructor
  · intro segments last cut bounded values text given
    rw [fill_of_cut cut] at given
    obtain ⟨written, filled⟩ := (fillParts_eq_some_iff bounded values text).mp given
    refine ⟨written, filled, fun index segment piece listed wrote flagged => ?_⟩
    obtain ⟨value, kind, rendering, turn, takes, renders, rfl⟩ :=
      (filled.each index segment piece listed wrote).of_isZeroFlagged flagged
    exact ⟨value, kind, rendering, turn, takes, renders, rfl, padLeft_eq_zeroFilled_iff _ _⟩
  · intro situation number bearing read exact least visible
    obtain ⟨fragment, commands, drawn, compiled, labels⟩ := labels_clearingLine library read visible
    exact ⟨fragment, commands, bearingLabel number, drawn, compiled, labels, rfl,
      three_digits_iff exact least⟩

/-- A bearing of 45 degrees is written with a blank in front of it. -/
theorem zero_flag_pads_blanks_quarter :
    let feature : Feature Float := (Feature.plain "clrlin" .line).setAttribute "clrbrg" "45"
    let situation : Situation Float := ⟨feature, .empty, .standard, .primary⟩
    (∃ written, Filled IsInteger64 [⟨['c', 'l', 'r', ' '], bearingSpelling⟩] [' ', 'd', 'e', 'g'] ["45"] written
        "clr  45 deg") ∧
      ∃ fragment commands, (clearingLine : Procedure Float).compute situation = some fragment ∧
        (Library.standard : Library Float).compileFragment "CLRLIN01" fragment.text = .ok commands ∧
        Label.ofCommands situation.settings feature commands = .ok ["clr  45 deg"] ∧
        ¬ 3 ≤ "clr  45 deg".toList.countP Text.isAsciiDigit := by
  intro feature situation
  have bounded : ∀ segment ∈ [(⟨['c', 'l', 'r', ' '], bearingSpelling⟩ : Segment)],
      segment.spelling.IsBounded := List.forall_mem_singleton.mpr isBounded_bearing
  obtain ⟨everywhere, lines⟩ := zero_flag_pads_blanks "clr %03.0lf deg" .standard
  obtain ⟨written, filled, -⟩ := everywhere _ _ cut_bearing bounded ["45"] "clr  45 deg" (by decide +kernel)
  have given : (feature.number? "clrbrg").map FloatValue.ofFloat =
      some (.finite false 6333186975989760 (-47)) := by decide +kernel
  obtain ⟨number, read, value⟩ := Option.map_eq_some_iff.mp given
  have exact : (FloatValue.ofFloat number).rational? =
      some (FloatValue.magnitude 6333186975989760 (-47)) := by rw [value]; rfl
  have size : FloatValue.magnitude 6333186975989760 (-47) = 45 := by
    norm_num [FloatValue.magnitude]
  rw [size] at exact
  obtain ⟨fragment, commands, label, drawn, compiled, labels, label_eq, digits⟩ :=
    lines situation number 45 read exact (by norm_num) (by decide +kernel)
  have fixed : Quantity.fixed 0 number = "45" := by
    change (FloatValue.ofFloat number).fixed 0 = "45"
    rw [value]
    decide +kernel
  have spelled : label = "clr  45 deg" := by
    rw [label_eq, fixed]
    decide +kernel
  rw [spelled] at labels digits
  refine ⟨⟨written, filled⟩, fragment, commands, drawn, compiled, labels, ?_⟩
  rw [digits]
  norm_num

/-- The zero in front of a width does not put zeros behind the sign of a number. -/
theorem not_zero_flag_fills_zeros :
    ¬ ∀ (format : String) (segments : List Segment) (last : List Char), Cut format.toList segments last →
      (∀ segment ∈ segments, segment.spelling.IsBounded) → ∀ (values : List String) (text : String),
      fill Float format values = .ok (some text) →
      ∃ written, Filled IsInteger64 segments last values written text ∧
        ∀ (index : Nat) (segment : Segment) (piece value : String) (number : Float),
          segments[index]? = some segment → written[index]? = some piece → segment.spelling.IsZeroFlagged →
          values[(takers (segments.take index)).length]? = some value →
          Quantity.read? (Text.trim value) = some number → number.isFinite = true →
          ∃ kind rendering, segment.spelling.kind? = some kind ∧
            Renders IsInteger64 segment.spelling.places? kind (Text.trim value) rendering ∧
            piece = zeroFilled segment.spelling.minimum rendering := by
  intro claimed
  have bounded : ∀ segment ∈ [(⟨['c', 'l', 'r', ' '], bearingSpelling⟩ : Segment)],
      segment.spelling.IsBounded := List.forall_mem_singleton.mpr isBounded_bearing
  have given : (Quantity.read? (Text.trim "45") : Option Float).map (fun number =>
      (number.isFinite, FloatValue.ofFloat number)) =
      some (true, .finite false 6333186975989760 (-47)) := by decide +kernel
  obtain ⟨number, read, same⟩ := Option.map_eq_some_iff.mp given
  obtain ⟨finite, value⟩ := Prod.mk.inj same
  obtain ⟨written, filled, zeros⟩ := claimed "clr %03.0lf deg" _ _ cut_bearing bounded ["45"]
    "clr  45 deg" (by decide +kernel)
  obtain ⟨piece, others, rest, rfl, -, ended, joined⟩ := filled_cons.mp filled
  obtain ⟨-, rfl⟩ := filled_nil.mp ended
  obtain ⟨kind, rendering, takes, renders, rfl⟩ :=
    zeros 0 _ piece "45" number rfl rfl ⟨rfl, rfl, .inr rfl⟩ rfl read finite
  obtain rfl : .fraction = kind := Option.some.inj takes
  obtain ⟨other, again, fixed⟩ : ∃ other, Quantity.read? (Text.trim "45") = some other ∧
      (FloatValue.ofFloat other).IsFixed 0 rendering := by
    cases renders with
    | fraction again fixed => exact ⟨_, again, fixed⟩
  obtain rfl := Option.some.inj (read.symm.trans again)
  rw [value] at fixed
  rw [FloatValue.isFixed_iff.mp fixed] at joined
  exact absurd joined (by decide +kernel)

end ChartPortrayal
