import ChartPortrayal.Conditional.Procedure

namespace ChartPortrayal.Topmark

def floatingSymbol (shape : Int) : String :=
  if [1, 24, 29].contains shape then "TOPMAR02"
  else if [2, 25].contains shape then "TOPMAR04"
  else if [3, 18, 26, 32].contains shape then "TOPMAR10"
  else if [4].contains shape then "TOPMAR12"
  else if [5, 19, 21].contains shape then "TOPMAR13"
  else if [6, 12, 20, 22, 23, 31].contains shape then "TOPMAR14"
  else if [7].contains shape then "TOPMAR65"
  else if [8, 27, 30].contains shape then "TOPMAR17"
  else if [9].contains shape then "TOPMAR16"
  else if [10].contains shape then "TOPMAR08"
  else if [11].contains shape then "TOPMAR07"
  else if [13].contains shape then "TOPMAR05"
  else if [14].contains shape then "TOPMAR06"
  else if [28].contains shape then "TOPMAR18"
  else "TMARDEF2"

def rigidSymbol (shape : Int) : String :=
  if [1, 24, 29].contains shape then "TOPMAR22"
  else if [2, 25].contains shape then "TOPMAR24"
  else if [3, 18, 26, 32].contains shape then "TOPMAR30"
  else if [4].contains shape then "TOPMAR32"
  else if [5, 19, 21].contains shape then "TOPMAR33"
  else if [6, 20, 22, 23].contains shape then "TOPMAR34"
  else if [7].contains shape then "TOPMAR85"
  else if [8, 27, 30].contains shape then "TOPMAR86"
  else if [9].contains shape then "TOPMAR36"
  else if [10].contains shape then "TOPMAR28"
  else if [11].contains shape then "TOPMAR27"
  else if [12, 31].contains shape then "TOPMAR14"
  else if [13].contains shape then "TOPMAR25"
  else if [14].contains shape then "TOPMAR26"
  else if [15].contains shape then "TOPMAR88"
  else if [16].contains shape then "TOPMAR87"
  else if [28].contains shape then "TOPMAR89"
  else "TMARDEF1"

variable {α : Type} [Quantity α]

/-- A topmark; one without a shape is drawn as unknown. -/
def topmark : Procedure α :=
  .ofDirectives "TOPMAR01" (fun situation =>
    match situation.feature.integer? "TOPSHP" with
    | none => [.symbol "QUESMRK1"]
    | some shape =>
      [.symbol (if (situation.linked? .platform).isSome then floatingSymbol shape
        else rigidSymbol shape)])

end ChartPortrayal.Topmark
