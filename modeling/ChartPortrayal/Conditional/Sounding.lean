import ChartPortrayal.Conditional.Accuracy

namespace ChartPortrayal.Sounding

/-- One glyph of a depth: the position of a digit, and the digit. -/
structure Glyph where
  position : Nat
  digit : Int
deriving DecidableEq

def Glyph.code (glyph : Glyph) : String := toString glyph.position ++ toString glyph.digit

/-- The digit of a number at a place of ten. -/
def digitAt (place number : Int) : Int := (number.tdiv place).tmod 10

/-- The glyphs for whole metres and tenths. Tenths are drawn under thirty-one metres. -/
def glyphsOf (whole fraction : Int) : List Glyph :=
  if whole < 10 then ⟨1, whole⟩ :: (if 0 < fraction then [⟨5, fraction⟩] else [])
  else if whole < 31 ∧ 0 < fraction then
    [⟨2, whole.tdiv 10⟩, ⟨1, whole.tmod 10⟩, ⟨5, fraction⟩]
  else if whole < 100 then [⟨1, whole.tdiv 10⟩, ⟨0, whole.tmod 10⟩]
  else if whole < 1000 then [⟨2, whole.tdiv 100⟩, ⟨1, digitAt 10 whole⟩, ⟨0, whole.tmod 10⟩]
  else if whole < 10000 then
    [⟨2, whole.tdiv 1000⟩, ⟨1, digitAt 100 whole⟩, ⟨0, digitAt 10 whole⟩, ⟨4, whole.tmod 10⟩]
  else
    [⟨3, digitAt 10000 whole⟩, ⟨2, digitAt 1000 whole⟩, ⟨1, digitAt 100 whole⟩,
     ⟨0, digitAt 10 whole⟩, ⟨4, whole.tmod 10⟩]

variable {α : Type} [Quantity α]

def glyphs (depth : α) : List Glyph :=
  let tenths := Quantity.tenths depth
  glyphsOf (tenths.tdiv 10) (tenths.tmod 10)

def isUnreliable (feature : Feature α) : Bool :=
  (feature.codes "QUASOU").containsAny [3, 4, 5, 8, 9] || (feature.codes "STATUS").contains 18 ||
    feature.isLowAccuracy

/-- The codes of the marks around a depth: swept, unreliable, and above the datum. -/
def marks (feature : Feature α) (depth : α) : List String :=
  (if (feature.codes "TECSOU").contains 6 then ["B1"] else []) ++
    (if isUnreliable feature then ["C2"] else []) ++ (if depth < 0.0 then ["A1"] else [])

def glyphSet (settings : Settings α) (depth : α) : String :=
  if depth ≤ settings.safetyDepth then "SOUNDS" else "SOUNDG"

def names (settings : Settings α) (feature : Feature α) (depth : α) : List String :=
  (marks feature depth ++ (glyphs (Quantity.magnitude depth)).map Glyph.code).map
    (fun code => glyphSet settings depth ++ code)

def symbols (settings : Settings α) (feature : Feature α) (depth : α) : List Directive :=
  (names settings feature depth).map .symbol

/-- A sounding, with the depth of its geometry or else of its attribute. -/
def sounding : Procedure α :=
  .ofDirectives "SOUNDG02" (fun situation =>
    let feature := situation.feature
    match feature.sounding.or (feature.number? "VALSOU") with
    | some depth => symbols situation.settings feature depth
    | none => [])

end ChartPortrayal.Sounding
