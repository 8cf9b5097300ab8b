import ChartPortrayal.Conditional.Procedure

/-!
The abbreviated description of a light: category, character, group, colours, period, height, range and
status, in that order. It holds no single quote, so that it can stand between quotes in an instruction.
-/

namespace ChartPortrayal.Light

/-- The category of an emergency light, which is not described. -/
def emergency : Nat := 17

def categoryAbbreviation? : Nat → Option String
  | 1 => some "Dir"
  | 4 => some "Ldg"
  | 5 => some "Aero"
  | 6 => some "Obstr"
  | 7 => some "Fog Det"
  | 10 => some "Subsid"
  | 12 => some "Front"
  | 13 => some "Rear"
  | 14 => some "Lower"
  | 15 => some "Upper"
  | 16 => some "Moire"
  | 19 => some "Hor"
  | 20 => some "Vert"
  | _ => none

def characterAbbreviation? : Int → Option String
  | 1 => some "F"
  | 2 => some "Fl"
  | 3 => some "LFl"
  | 4 => some "Q"
  | 5 => some "VQ"
  | 6 => some "UQ"
  | 7 => some "Iso"
  | 8 => some "Oc"
  | 9 => some "IQ"
  | 10 => some "IVQ"
  | 11 => some "IUQ"
  | 12 => some "Mo"
  | 13 => some "FFl"
  | 14 => some "Fl+LFl"
  | 15 => some "Oc+Fl"
  | 16 => some "FLFl"
  | 17 => some "Al.Oc"
  | 18 => some "Al.LFl"
  | 19 => some "Al.Fl"
  | 20 => some "Al.Gr"
  | 25 => some "Q+LFl"
  | 26 => some "VQ+LFl"
  | 27 => some "UQ+LFl"
  | 28 => some "Al"
  | 29 => some "Al.FFl"
  | _ => none

def colourAbbreviation? : Nat → Option String
  | 1 => some "W"
  | 3 => some "R"
  | 4 => some "G"
  | 5 => some "Bu"
  | 6 => some "Y"
  | 9 => some "Am"
  | 10 => some "Vi"
  | 11 => some "Or"
  | _ => none

def statusAbbreviation? : Nat → Option String
  | 2 => some "occas"
  | 7 => some "temp"
  | 8 => some "priv"
  | 11 => some "exting"
  | 17 => some "U"
  | _ => none

variable {α : Type} [Quantity α]

/-- The signal group, unless it says nothing. -/
def groupText (feature : Feature α) : String :=
  match (feature.attribute? "SIGGRP").map Text.trim with
  | some group => if ["()", "(1)"].contains group then "" else group
  | none => ""

def measures (feature : Feature α) : String :=
  let measure (name unit : String) : String :=
    match feature.number? name with
    | some value => Quantity.plain value ++ unit
    | none => ""
  let written := measure "SIGPER" "s" ++ measure "HEIGHT" "m" ++ measure "VALNMR" "M"
  if written = "" then "" else "." ++ written

/-- Everything there is to say of a light, before quotes are dropped. -/
def fullText (feature : Feature α) : String :=
  String.join ((feature.codes "CATLIT").codes.filterMap categoryAbbreviation? |>.map (· ++ " ")) ++
    (((feature.integer? "LITCHR").bind characterAbbreviation?).getD "") ++
    groupText feature ++
    String.join ((feature.codes "COLOUR").codes.filterMap colourAbbreviation?) ++
    measures feature ++
    String.join
      ((feature.codes "STATUS").codes.filterMap statusAbbreviation? |>.map (fun text =>
        " (" ++ text ++ ")"))

def description (feature : Feature α) : String :=
  if (feature.codes "CATLIT").contains emergency then ""
  else
    String.ofList
      ((Text.trimChars (fullText feature).toList).filter (fun char => char != Text.quote))

end ChartPortrayal.Light
