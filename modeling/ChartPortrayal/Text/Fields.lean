import ChartPortrayal.Text.Blank

namespace ChartPortrayal.Text

/-- The stretches between separators: one more than there are separators. -/
def splitChars (separator : Char) : List Char → List (List Char)
  | [] => [[]]
  | char :: rest =>
    if char = separator then [] :: splitChars separator rest
    else
      match splitChars separator rest with
      | [] => [[char]]
      | field :: fields => (char :: field) :: fields

def commaFields (text : String) : List String :=
  (splitChars ',' text.toList).map (fun field => String.ofList (trimChars field))

def join (separator : String) : List String → String
  | [] => ""
  | [text] => text
  | text :: next :: rest => text ++ separator ++ join separator (next :: rest)

/-- Fills a text up to a width, counted in code points, with a character on its left. -/
def padLeft (width : Nat) (fill : Char) (text : String) : String :=
  String.ofList (List.replicate (width - text.length) fill) ++ text

def padRight (width : Nat) (fill : Char) (text : String) : String :=
  text ++ String.ofList (List.replicate (width - text.length) fill)

/-- The single quote, which delimits literal text in instructions. -/
def quote : Char := Char.ofNat 39

def quoteText : String := quote.toString

end ChartPortrayal.Text
