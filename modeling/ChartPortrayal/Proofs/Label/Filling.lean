import ChartPortrayal.Proofs.Label.Cutting
import ChartPortrayal.Proofs.Label.Layout
import ChartPortrayal.Proofs.Number.Exact

/-! Values put into a format. Between the texts of a cut, each conversion that takes a value takes the next one
and writes it with blanks up to its width; nothing is written when a value is missing or is no number where one
is asked for. -/

namespace ChartPortrayal.LabelFormat

open FloatValue (IsIntegerPart IsInteger64)

namespace Spelling

variable (spelling : Spelling)

/-- The width, zero where it is not given in ASCII digits. -/
def minimum : Nat := (Numeral.natural? spelling.width).getD 0

/-- The precision, where it is given in ASCII digits. -/
def places? : Option Nat := spelling.precision.bind Numeral.natural?

/-- Whether width and precision are numbers of sixteen bits. -/
def IsBounded : Prop := spelling.minimum < 65536 ∧ ∀ places ∈ spelling.places?, places < 65536

/-- Whether a conversion asks for a number. -/
def IsNumeric : Prop := spelling.kind? = some .integer ∨ spelling.kind? = some .fraction

/-- A text with blanks up to the width, behind it where there is a hyphen. -/
def padded (text : String) : String :=
  if spelling.hyphen then Text.padRight spelling.minimum ' ' text
  else Text.padLeft spelling.minimum ' ' text

end Spelling

/-- What is written of a trimmed value, given which integers stand for a number. -/
inductive Renders (whole : FloatValue → Int → Prop) (places? : Option Nat) :
    ConversionKind → String → String → Prop where
  | integer {value : String} {number : Float} {integer : Int} (read : Quantity.read? value = some number)
      (part : whole (.ofFloat number) integer) : Renders whole places? .integer value (toString integer)
  | fraction {value text : String} {number : Float} (read : Quantity.read? value = some number)
      (fixed : (FloatValue.ofFloat number).IsFixed (places?.getD 6) text) :
      Renders whole places? .fraction value text
  | whole (value : String) (unlimited : places? = none) : Renders whole places? .text value value
  | start (value : String) {count : Nat} (limited : places? = some count) :
      Renders whole places? .text value (String.ofList (value.toList.take count))

/-- What a conversion writes, given the value whose turn it is. -/
inductive Spelling.Writes (whole : FloatValue → Int → Prop) (spelling : Spelling) :
    Option String → String → Prop where
  | percent {turn : Option String} (takesNone : spelling.kind? = none) : Writes whole spelling turn "%"
  | value {kind : ConversionKind} {value text : String} (takes : spelling.kind? = some kind)
      (renders : Renders whole spelling.places? kind (Text.trim value) text) :
      Writes whole spelling (some value) (spelling.padded text)

/-- The conversions that take a value. -/
def takers (segments : List Segment) : List Spelling :=
  (segments.map (·.spelling)).filter (·.kind?.isSome)

/-- A format with values put in: what each conversion writes, with the texts of the cut around it. -/
structure Filled (whole : FloatValue → Int → Prop) (segments : List Segment) (last : List Char)
    (values written : List String) (text : String) : Prop where
  complete : written.length = segments.length
  each : ∀ (index : Nat) (segment : Segment) (piece : String), segments[index]? = some segment →
    written[index]? = some piece →
    segment.spelling.Writes whole values[(takers (segments.take index)).length]? piece
  joined : text.toList =
    (List.zipWith (fun segment piece => segment.text ++ piece.toList) segments written).flatten ++ last

/-- Whether a value is missing, or one is no number where a number is asked for. -/
def Fails (segments : List Segment) (values : List String) : Prop :=
  values.length < (takers segments).length ∨
    ∃ turn ∈ (takers segments).zip values, turn.1.IsNumeric ∧ Numeral.read? (Text.trim turn.2) = none

theorem read?_eq_none_iff {value : String} :
    (Quantity.read? value : Option Float) = none ↔ Numeral.read? value = none := by
  unfold Quantity.read?
  cases Numeral.read? value <;> simp [Quantity.ofNumeral?]

section Render

variable {conversion : Conversion} {value text : String}

/-- Within the limits every value is written, or is no number where one is asked for. -/
theorem exists_render (fits : conversion.Fits) (value : String) :
    ∃ written?, render Float conversion value = .ok written? := by
  cases rendered : render Float conversion value with
  | ok written? => exact ⟨written?, rfl⟩
  | error error => exact absurd fits (render_eq_error rendered).2

theorem render_eq_some_iff (fits : conversion.Fits) : render Float conversion value = .ok (some text) ↔
    Renders IsInteger64 conversion.precision conversion.kind value text := by
  have short := fits.2
  unfold render
  constructor
  · intro rendered
    cases kind : conversion.kind with
    | integer =>
      simp only [kind, Except.ok.injEq] at rendered
      obtain ⟨number, read, rfl⟩ := Option.map_eq_some_iff.mp rendered
      exact .integer read (FloatValue.isInteger64_iff.mpr rfl)
    | fraction =>
      simp only [kind, if_pos (short kind)] at rendered
      split at rendered
      · next number read =>
        cases rendered
        exact .fraction read (FloatValue.isFixed_iff.mpr rfl)
      · cases rendered
    | text =>
      simp only [kind, Except.ok.injEq, Option.some.injEq] at rendered
      subst rendered
      cases precision : conversion.precision with
      | none => exact .whole value rfl
      | some count => exact .start value rfl
  · generalize kind : conversion.kind = written
    rintro (⟨read, part⟩ | ⟨read, fixed⟩ | ⟨_, unlimited⟩ | ⟨_, limited⟩)
    · rw [FloatValue.isInteger64_iff.mp part]
      exact congrArg Except.ok (Option.map_eq_some_iff.mpr ⟨_, read, rfl⟩)
    · rw [FloatValue.isFixed_iff.mp fixed]
      simp only [read, if_pos (short kind)]
      rfl
    · simp only [unlimited]
    · simp only [limited]

theorem render_eq_none_iff : render Float conversion value = .ok none ↔
    (conversion.kind = .integer ∨ conversion.kind = .fraction) ∧ Numeral.read? value = none := by
  unfold render
  rw [← read?_eq_none_iff]
  cases conversion.kind with
  | integer => simp
  | fraction =>
    dsimp only
    cases (Quantity.read? value : Option Float) with
    | none => simp
    | some number =>
      refine iff_of_false ?_ (fun unread => nomatch unread.2)
      dsimp only
      split <;> exact nofun
  | text => simp

end Render

theorem size?_of_small {digits : List Char} (small : ∀ size ∈ Numeral.natural? digits, size < 65536) :
    size? digits = Numeral.natural? digits := by
  unfold size?
  cases read : Numeral.natural? digits with
  | none => rfl
  | some size =>
    have below : size < 65536 := small size read
    exact Option.filter_some_pos (decide_eq_true (Nat.lt_trans below (by decide)))

namespace Spelling

variable {spelling : Spelling}

theorem part_of_percent (takesNone : spelling.kind? = none) : spelling.part = .percent := by
  simp only [part, takesNone]

/-- The conversion that is spelled, within the bounds. -/
def conversion (spelling : Spelling) (kind : ConversionKind) : Conversion :=
  ⟨spelling.hyphen, spelling.minimum, spelling.places?, kind⟩

theorem part_of_value {kind : ConversionKind} (bounded : spelling.IsBounded)
    (takes : spelling.kind? = some kind) : spelling.part = .value (spelling.conversion kind) := by
  have width : (size? spelling.width).getD 0 = spelling.minimum := by
    unfold minimum
    rw [size?_of_small]
    intro size read
    have same : spelling.minimum = size := by rw [minimum, Option.mem_def.mp read, Option.getD_some]
    exact same ▸ bounded.1
  have precision : spelling.precision.bind size? = spelling.places? := by
    have small := bounded.2
    unfold places? at small ⊢
    cases given : spelling.precision with
    | none => rfl
    | some digits =>
      rw [given] at small
      exact size?_of_small small
  simp only [part, takes, width, precision, conversion]

theorem fits_conversion (bounded : spelling.IsBounded) (kind : ConversionKind) :
    (spelling.conversion kind).Fits := by
  refine ⟨bounded.1, fun _ => ?_⟩
  have places := bounded.2
  change spelling.places?.getD 6 < 65536
  cases given : spelling.places? with
  | none => decide
  | some count => exact places count given

theorem pad_conversion (bounded : spelling.IsBounded) (kind : ConversionKind) (text : String) :
    pad (spelling.conversion kind) text = .ok (spelling.padded text) :=
  if_pos bounded.1

end Spelling

section Fill

variable {segment : Segment} {segments : List Segment} {last : List Char}

theorem fillParts_plain (text : List Char) (parts : List FormatPart) (values : List String) :
    fillParts Float (text.map .plain ++ parts) values =
      (fillParts Float parts values).map (Option.map (String.ofList text ++ ·)) := by
  induction text with
  | nil =>
    simp only [List.map_nil, List.nil_append, String.ofList_nil, String.empty_append]
    cases fillParts Float parts values with
    | error error => rfl
    | ok text? => exact congrArg Except.ok Option.map_id'.symm
  | cons char text induct =>
    rw [List.map_cons, List.cons_append, fillParts, induct, map_map_option]
    congr 2
    funext written
    apply String.toList_inj.mp
    simp [Char.toString]

theorem partsOf_cons : partsOf (segment :: segments) last =
    segment.text.map .plain ++ (segment.spelling.part :: partsOf segments last) := by
  simp only [partsOf, List.flatMap_cons, List.append_assoc, List.cons_append, List.nil_append]

theorem fillParts_percent (values : List String) (takesNone : segment.spelling.kind? = none) :
    fillParts Float (partsOf (segment :: segments) last) values =
      (fillParts Float (partsOf segments last) values).map (Option.map (fun rest =>
        String.ofList segment.text ++ ("%" ++ rest))) := by
  rw [partsOf_cons, fillParts_plain, Spelling.part_of_percent takesNone, fillParts, map_map_option]
  rfl

theorem fillParts_missing {kind : ConversionKind} (takes : segment.spelling.kind? = some kind) :
    fillParts Float (partsOf (segment :: segments) last) [] = .ok none := by
  rw [partsOf_cons, fillParts_plain, Spelling.part, takes]
  rfl

section Value

variable {kind : ConversionKind} (bounded : segment.spelling.IsBounded)
  (takes : segment.spelling.kind? = some kind) {value : String} (values : List String)

include bounded takes

theorem fillParts_unread
    (unread : render Float (segment.spelling.conversion kind) (Text.trim value) = .ok none) :
    fillParts Float (partsOf (segment :: segments) last) (value :: values) = .ok none := by
  rw [partsOf_cons, fillParts_plain, Spelling.part_of_value bounded takes, fillParts, unread]
  rfl

theorem fillParts_value {text : String}
    (rendered : render Float (segment.spelling.conversion kind) (Text.trim value) = .ok (some text)) :
    fillParts Float (partsOf (segment :: segments) last) (value :: values) =
      (fillParts Float (partsOf segments last) values).map (Option.map (fun rest =>
        String.ofList segment.text ++ (segment.spelling.padded text ++ rest))) := by
  rw [partsOf_cons, fillParts_plain, Spelling.part_of_value bounded takes, fillParts, rendered]
  simp only [Spelling.pad_conversion bounded]
  exact map_map_option _

end Value

theorem fillParts_last (last : List Char) (values : List String) :
    fillParts Float (partsOf [] last) values = .ok (some (String.ofList last)) := by
  have parts : partsOf [] last = last.map .plain ++ [] := (List.append_nil _).symm
  rw [parts, fillParts_plain, fillParts, Except.map, Option.map_some, String.append_empty]

theorem takers_cons : takers (segment :: segments) = takers [segment] ++ takers segments :=
  List.filter_append [segment.spelling] _

theorem takers_percent (takesNone : segment.spelling.kind? = none) :
    takers (segment :: segments) = takers segments := by
  rw [takers, List.map_cons, List.filter_cons_of_neg]
  · rfl
  · rw [takesNone]
    exact Bool.false_ne_true

theorem takers_value {kind : ConversionKind} (takes : segment.spelling.kind? = some kind) :
    takers (segment :: segments) = segment.spelling :: takers segments := by
  rw [takers, List.map_cons, List.filter_cons_of_pos]
  · rfl
  · rw [takes]
    rfl

theorem fails_value {kind : ConversionKind} (takes : segment.spelling.kind? = some kind) (value : String)
    (values : List String) : Fails (segment :: segments) (value :: values) ↔
      ((kind = .integer ∨ kind = .fraction) ∧ Numeral.read? (Text.trim value) = none) ∨
        Fails segments values := by
  have numeric : segment.spelling.IsNumeric ↔ kind = .integer ∨ kind = .fraction := by
    unfold Spelling.IsNumeric
    rw [takes, Option.some.injEq, Option.some.injEq]
  unfold Fails
  rw [takers_value takes, List.zip_cons_cons, List.exists_mem_cons_iff, List.length_cons, List.length_cons,
    Nat.add_lt_add_iff_right, numeric]
  exact or_left_comm

theorem fits_of_mem_partsOf (bounded : ∀ segment ∈ segments, segment.spelling.IsBounded) {part : FormatPart}
    (listed : part ∈ partsOf segments last) : part.Fits := by
  rcases List.mem_append.mp listed with early | late
  · obtain ⟨segment, member, here⟩ := List.mem_flatMap.mp early
    rcases List.mem_append.mp here with plain | own
    · obtain ⟨char, -, rfl⟩ := List.mem_map.mp plain
      trivial
    · rw [List.mem_singleton.mp own]
      cases takes : segment.spelling.kind? with
      | none =>
        rw [Spelling.part_of_percent takes]
        trivial
      | some kind =>
        rw [Spelling.part_of_value (bounded segment member) takes]
        exact Spelling.fits_conversion (bounded segment member) kind
  · obtain ⟨char, -, rfl⟩ := List.mem_map.mp late
    trivial

/-- Filling fails exactly where a value is missing or is no number. The induction is on the segments, each of
which takes one value or none. -/
theorem fillParts_eq_none_iff (bounded : ∀ segment ∈ segments, segment.spelling.IsBounded)
    (values : List String) :
    fillParts Float (partsOf segments last) values = .ok none ↔ Fails segments values := by
  induction segments generalizing values with
  | nil =>
    rw [fillParts_last]
    constructor
    · exact nofun
    · rintro (fewer | ⟨turn, listed, -⟩)
      · exact absurd fewer (Nat.not_lt_zero _)
      · cases listed
  | cons segment segments induct =>
    have further := induct (fun other listed => bounded other (List.mem_cons_of_mem _ listed))
    cases takes : segment.spelling.kind? with
    | none => rw [fillParts_percent values takes, map_eq_ok_none_iff, further, Fails, Fails, takers_percent takes]
    | some kind =>
      cases values with
      | nil =>
        have missing : Fails (segment :: segments) [] := by
          apply Or.inl
          rw [takers_value takes]
          exact Nat.succ_pos _
        exact iff_of_true (fillParts_missing takes) missing
      | cons value values =>
        have own := bounded segment List.mem_cons_self
        have unread : render Float (segment.spelling.conversion kind) (Text.trim value) = .ok none ↔
            (kind = .integer ∨ kind = .fraction) ∧ Numeral.read? (Text.trim value) = none :=
          render_eq_none_iff
        rw [fails_value takes, ← further values, ← unread]
        obtain ⟨written?, rendered⟩ := exists_render (Spelling.fits_conversion own kind) (Text.trim value)
        cases written? with
        | none => exact iff_of_true (fillParts_unread own takes values rendered) (.inl rendered)
        | some text =>
          rw [fillParts_value own takes values rendered, map_eq_ok_none_iff, rendered]
          simp

end Fill

section Filled

variable {whole : FloatValue → Int → Prop} {segment : Segment} {segments : List Segment} {last : List Char}
variable {values written : List String} {text : String}

theorem filled_nil : Filled whole [] last values written text ↔ written = [] ∧ text = String.ofList last := by
  constructor
  · rintro ⟨complete, -, joined⟩
    exact ⟨List.eq_nil_of_length_eq_zero complete, by simpa [← String.toList_inj] using joined⟩
  · rintro ⟨rfl, rfl⟩
    exact ⟨rfl, nofun, by simp⟩

/-- A cut is filled segment by segment, where the first conversion may take the first value. -/
theorem filled_cons : Filled whole (segment :: segments) last values written text ↔
    ∃ piece others rest, written = piece :: others ∧ segment.spelling.Writes whole values[0]? piece ∧
      Filled whole segments last (values.drop (takers [segment]).length) others rest ∧
      text = String.ofList segment.text ++ (piece ++ rest) := by
  have turn (index : Nat) : (takers ((segment :: segments).take (index + 1))).length =
      (takers [segment]).length + (takers (segments.take index)).length := by
    rw [List.take_succ_cons, takers_cons, List.length_append]
  constructor
  · rintro ⟨complete, each, joined⟩
    obtain ⟨piece, others, rfl⟩ := List.exists_cons_of_length_eq_add_one complete
    refine ⟨piece, others, String.ofList ((List.zipWith (fun segment piece => segment.text ++ piece.toList)
      segments others).flatten ++ last), rfl, each 0 segment piece rfl rfl, ⟨?_, ?_, ?_⟩, ?_⟩
    · exact Nat.succ_injective complete
    · intro index other further listed given
      rw [List.getElem?_drop, ← turn]
      exact each (index + 1) other further listed given
    · exact String.toList_ofList
    · apply String.toList_inj.mp
      simp [joined]
  · rintro ⟨piece, others, rest, rfl, writes, ⟨complete, each, joined⟩, rfl⟩
    refine ⟨congrArg Nat.succ complete, ?_, ?_⟩
    · intro index other further listed given
      cases index with
      | zero =>
        obtain rfl := Option.some.inj listed
        obtain rfl := Option.some.inj given
        exact writes
      | succ index =>
        rw [turn, ← List.getElem?_drop]
        exact each index other further listed given
    · simp [joined]

theorem writes_percent_iff {spelling : Spelling} {turn : Option String} {piece : String}
    (takesNone : spelling.kind? = none) : spelling.Writes whole turn piece ↔ piece = "%" := by
  constructor
  · rintro (_ | ⟨takes, -⟩)
    · rfl
    · rw [takesNone] at takes
      cases takes
  · rintro rfl
    exact .percent takesNone

theorem writes_value_iff {spelling : Spelling} {kind : ConversionKind} {turn : Option String} {piece : String}
    (takes : spelling.kind? = some kind) : spelling.Writes whole turn piece ↔
      ∃ value text, turn = some value ∧ Renders whole spelling.places? kind (Text.trim value) text ∧
        piece = spelling.padded text := by
  constructor
  · rintro (takesNone | ⟨takesToo, renders⟩)
    · rw [takes] at takesNone
      cases takesNone
    · obtain rfl := Option.some.inj (takes.symm.trans takesToo)
      exact ⟨_, _, rfl, renders, rfl⟩
  · rintro ⟨value, text, rfl, renders, rfl⟩
    exact .value takes renders

end Filled

section Fill

variable {segments : List Segment} {last : List Char}

/-- What filling gives is the filled cut. -/
theorem fillParts_eq_some_iff (bounded : ∀ segment ∈ segments, segment.spelling.IsBounded)
    (values : List String) (text : String) :
    fillParts Float (partsOf segments last) values = .ok (some text) ↔
      ∃ written, Filled IsInteger64 segments last values written text := by
  induction segments generalizing values text with
  | nil =>
    simp only [fillParts_last, Except.ok.injEq, Option.some.injEq, filled_nil, exists_eq_left]
    exact eq_comm
  | cons segment segments induct =>
    have further := induct (fun other listed => bounded other (List.mem_cons_of_mem _ listed))
    have first : (∃ written, Filled IsInteger64 (segment :: segments) last values written text) ↔
        ∃ piece rest, segment.spelling.Writes IsInteger64 values[0]? piece ∧
          fillParts Float (partsOf segments last) (values.drop (takers [segment]).length) = .ok (some rest) ∧
          text = String.ofList segment.text ++ (piece ++ rest) := by
      simp only [filled_cons, further]
      constructor
      · rintro ⟨_, piece, others, rest, -, writes, filled, joined⟩
        exact ⟨piece, rest, writes, ⟨others, filled⟩, joined⟩
      · rintro ⟨piece, rest, writes, ⟨others, filled⟩, joined⟩
        exact ⟨_, piece, others, rest, rfl, writes, filled, joined⟩
    rw [first]
    cases takes : segment.spelling.kind? with
    | none =>
      rw [fillParts_percent values takes, takers_percent takes]
      simp only [map_eq_ok_some_iff, writes_percent_iff takes]
      constructor
      · rintro ⟨rest, filled, rfl⟩
        exact ⟨_, rest, rfl, filled, rfl⟩
      · rintro ⟨_, rest, rfl, filled, rfl⟩
        exact ⟨rest, filled, rfl⟩
    | some kind =>
      rw [takers_value takes]
      cases values with
      | nil =>
        rw [fillParts_missing takes]
        simp [writes_value_iff takes]
      | cons value values =>
        have own := bounded segment List.mem_cons_self
        have fits := Spelling.fits_conversion own kind
        obtain ⟨written?, rendered⟩ := exists_render fits (Text.trim value)
        have renders {text : String} : render Float (segment.spelling.conversion kind) (Text.trim value) =
            .ok (some text) ↔ Renders IsInteger64 segment.spelling.places? kind (Text.trim value) text :=
          render_eq_some_iff fits
        simp only [writes_value_iff takes]
        cases written? with
        | none =>
          rw [fillParts_unread own takes values rendered]
          refine iff_of_false nofun ?_
          rintro ⟨_, _, ⟨_, written, ⟨rfl⟩, rendersToo, -⟩, -⟩
          exact nomatch rendered.symm.trans (renders.mpr rendersToo)
        | some written =>
          rw [fillParts_value own takes values rendered, map_eq_ok_some_iff]
          constructor
          · rintro ⟨rest, filled, rfl⟩
            exact ⟨_, rest, ⟨value, written, rfl, renders.mp rendered, rfl⟩, filled, rfl⟩
          · rintro ⟨_, rest, ⟨_, writtenToo, ⟨rfl⟩, rendersToo, rfl⟩, filled, rfl⟩
            cases rendered.symm.trans (renders.mpr rendersToo)
            exact ⟨rest, filled, rfl⟩

/-- Only as many values count as there are conversions that take one. -/
theorem fillParts_take (bounded : ∀ segment ∈ segments, segment.spelling.IsBounded) (values : List String) :
    fillParts Float (partsOf segments last) (values.take (takers segments).length) =
      fillParts Float (partsOf segments last) values := by
  induction segments generalizing values with
  | nil => rw [fillParts_last, fillParts_last]
  | cons segment segments induct =>
    have further := induct (fun other listed => bounded other (List.mem_cons_of_mem _ listed))
    cases takes : segment.spelling.kind? with
    | none => rw [takers_percent takes, fillParts_percent _ takes, further, fillParts_percent _ takes]
    | some kind =>
      cases values with
      | nil => rw [List.take_nil]
      | cons value values =>
        have own := bounded segment List.mem_cons_self
        rw [takers_value takes, List.length_cons, List.take_succ_cons]
        obtain ⟨written?, rendered⟩ := exists_render (Spelling.fits_conversion own kind) (Text.trim value)
        cases written? with
        | none => rw [fillParts_unread own takes _ rendered, fillParts_unread own takes _ rendered]
        | some text => rw [fillParts_value own takes _ rendered, further, fillParts_value own takes _ rendered]

/-- Within the bounds every format can be laid out. -/
theorem exists_fillParts (bounded : ∀ segment ∈ segments, segment.spelling.IsBounded) (values : List String) :
    ∃ text?, fillParts Float (partsOf segments last) values = .ok text? := by
  cases filled : fillParts Float (partsOf segments last) values with
  | ok text? => exact ⟨text?, rfl⟩
  | error error =>
    obtain ⟨-, part, listed, wide⟩ := fillParts_eq_error filled
    exact absurd (fits_of_mem_partsOf bounded listed) wide

/-- Beyond the bounds, only what would be written has to be laid out. -/
example :
    fill Float "%70000d" ["7"] = .error .overflow ∧ fill Float "%70000d" ["seven"] = .ok none := by
  decide +kernel

end Fill

/-- Two percent signs. -/
def Spelling.percentSign : Spelling := ⟨false, [], none, ['%'], none, nofun, nofun, .head _⟩

/-- An integer without a width. -/
def Spelling.bareInteger : Spelling :=
  ⟨false, [], none, ['d'], some .integer, nofun, nofun, .tail _ (.head _)⟩

theorem isBounded_percentSign : Spelling.percentSign.IsBounded := ⟨by decide, nofun⟩

theorem isBounded_bareInteger : Spelling.bareInteger.IsBounded := ⟨by decide, nofun⟩

theorem fill_of_cut {format : String} {segments : List Segment} {last : List Char}
    (cut : Cut format.toList segments last) (values : List String) :
    fill Float format values = fillParts Float (partsOf segments last) values := by
  rw [fill, parts, cut.partsFrom_eq]

/-- Every format can be cut at its leftmost conversions. For every cut whose widths and precisions are within
the bounds, nothing is written exactly where a value is missing or is no number though one is asked for; what is
written else is the filled cut, and further values than conversions take do not count. -/
theorem fill_exact (format : String) :
    (∃ segments last, Cut format.toList segments last) ∧
      ∀ segments last, Cut format.toList segments last →
        (∀ segment ∈ segments, segment.spelling.IsBounded) → ∀ values : List String,
          ∃ text?, fill Float format values = .ok text? ∧
            (text? = none ↔ Fails segments values) ∧
            (∀ text, text? = some text ↔ ∃ written, Filled IsInteger64 segments last values written text) ∧
            fill Float format (values.take (takers segments).length) = .ok text? := by
  refine ⟨exists_cut format.toList, fun segments last cut bounded values => ?_⟩
  obtain ⟨text?, filled⟩ := exists_fillParts bounded values
  refine ⟨text?, (fill_of_cut cut values).trans filled, ?_, fun text => ?_, ?_⟩
  · rw [← fillParts_eq_none_iff bounded values, filled, Except.ok.injEq]
  · rw [← fillParts_eq_some_iff bounded values text, filled, Except.ok.injEq]
  · rw [fill_of_cut cut, fillParts_take bounded values, filled]

/-- A speed with its number cut to an integer, and a percent sign behind it. -/
theorem fill_exact_speed : ∃ segments last, Cut "v %d%%".toList segments last ∧
    (∀ segment ∈ segments, segment.spelling.IsBounded) ∧
    ∃ written, Filled IsInteger64 segments last [" 7.9"] written "v 7%" := by
  have spelled : "v %d%%".toList = Segment.chars ⟨['v', ' '], .bareInteger⟩ ++
      (Segment.chars ⟨[], .percentSign⟩ ++ []) := by decide +kernel
  have cut : Cut "v %d%%".toList [⟨['v', ' '], .bareInteger⟩, ⟨[], .percentSign⟩] [] := by
    rw [spelled]
    exact .next (by decide +kernel) (.next (by decide +kernel) (.last (by decide +kernel)))
  have bounded : ∀ segment ∈ [(⟨['v', ' '], .bareInteger⟩ : Segment), ⟨[], .percentSign⟩],
      segment.spelling.IsBounded :=
    List.forall_mem_cons.mpr ⟨isBounded_bareInteger, List.forall_mem_singleton.mpr isBounded_percentSign⟩
  refine ⟨_, _, cut, bounded, ?_⟩
  obtain ⟨text?, filled, -, written, -⟩ := (fill_exact "v %d%%").2 _ _ cut bounded [" 7.9"]
  have text : fill Float "v %d%%" [" 7.9"] = .ok (some "v 7%") := by decide +kernel
  exact (written _).mp (Except.ok.inj (filled.symm.trans text))

/-- A number that 64 bits cannot hold is not written with its integer part, and a width of five that is not
given in ASCII digits pads nothing. -/
theorem not_filled_with_integerPart :
    (¬ ∀ (format : String) (segments : List Segment) (last : List Char) (values : List String) (text : String),
        Cut format.toList segments last → (∀ segment ∈ segments, segment.spelling.IsBounded) →
        fill Float format values = .ok (some text) →
        ∃ written, Filled IsIntegerPart segments last values written text) ∧
      fill Float "%५d" ["7"] = .ok (some "7") := by
  refine ⟨fun claimed => ?_, by decide +kernel⟩
  have cut : Cut "%d".toList [⟨[], .bareInteger⟩] [] := by
    have spelled : "%d".toList = Segment.chars ⟨[], .bareInteger⟩ ++ [] := by decide +kernel
    rw [spelled]
    exact .next (by decide +kernel) (.last (by decide +kernel))
  have bounded : ∀ segment ∈ [(⟨[], .bareInteger⟩ : Segment)], segment.spelling.IsBounded :=
    List.forall_mem_singleton.mpr isBounded_bareInteger
  obtain ⟨written, filled⟩ :=
    claimed "%d" _ _ ["1e30"] "9223372036854775807" cut bounded (by decide +kernel)
  obtain ⟨piece, others, rest, -, writes, last, joined⟩ := filled_cons.mp filled
  obtain ⟨-, rfl⟩ := filled_nil.mp last
  have takes : Spelling.bareInteger.kind? = some .integer := rfl
  obtain ⟨value, text, ⟨rfl⟩, renders, rfl⟩ := (writes_value_iff takes).mp writes
  have value : (Quantity.read? (Text.trim "1e30") : Option Float).map FloatValue.ofFloat =
      some (.finite false 7105427357601002 47) := by decide +kernel
  cases renders with
  | integer read part =>
    rw [read, Option.map_some, Option.some.injEq] at value
    rw [value] at part
    rw [FloatValue.isIntegerPart_iff.mp part] at joined
    exact absurd joined (by decide +kernel)

end ChartPortrayal.LabelFormat
