import ChartPortrayal.Number.Shortest

namespace ChartPortrayal

inductive Json where
  | null
  | bool (value : Bool)
  | number (literal : String)
  | string (text : String)
  /-- A string, or an object with a name, whose escapes do not make up characters. -/
  | unpaired
  | array (items : List Json)
  | object (members : List (String × Json))

namespace Json

def ofNat (value : Nat) : Json := .number (toString value)

def ofInt (value : Int) : Json := .number (toString value)

/-- A number, or nothing for one that is not finite. -/
def ofFloat (value : Float) : Json :=
  match (FloatValue.ofFloat value).documentText? with
  | some literal => .number literal
  | none => .null

def hexDigit (value : Nat) : Char :=
  if value < 10 then Char.ofNat (48 + value) else Char.ofNat (87 + value)

def backslash : Char := Char.ofNat 92

def doubleQuote : Char := Char.ofNat 34

/-- A character as it stands in a string: quotes, backslashes and control characters are escaped. -/
def escape (char : Char) : List Char :=
  if char = doubleQuote then [backslash, doubleQuote]
  else if char = backslash then [backslash, backslash]
  else if char.toNat = 8 then [backslash, 'b']
  else if char.toNat = 9 then [backslash, 't']
  else if char.toNat = 10 then [backslash, 'n']
  else if char.toNat = 12 then [backslash, 'f']
  else if char.toNat = 13 then [backslash, 'r']
  else if char.toNat < 32 then
    [backslash, 'u', '0', '0', hexDigit (char.toNat / 16), hexDigit (char.toNat % 16)]
  else [char]

def quotedText (text : String) : String :=
  String.ofList (doubleQuote :: (text.toList.flatMap escape ++ [doubleQuote]))

mutual

def compact : Json → String
  | null => "null"
  | bool value => if value then "true" else "false"
  | number literal => literal
  | string text => quotedText text
  | unpaired => quotedText ""
  | array items => "[" ++ compactItems items ++ "]"
  | object members => "\x7b" ++ compactMembers members ++ "\x7d"

def compactItems : List Json → String
  | [] => ""
  | [item] => compact item
  | item :: next :: rest => compact item ++ "," ++ compactItems (next :: rest)

def compactMembers : List (String × Json) → String
  | [] => ""
  | [(name, value)] => quotedText name ++ ":" ++ compact value
  | (name, value) :: next :: rest =>
    quotedText name ++ ":" ++ compact value ++ "," ++ compactMembers (next :: rest)

end

def lineBreak (level : Nat) : String := "\n" ++ String.ofList (List.replicate (2 * level) ' ')

mutual

/-- A document over several lines, from a level on. Empty lists and objects stay together. -/
def prettyFrom (level : Nat) : Json → String
  | null => "null"
  | bool value => if value then "true" else "false"
  | number literal => literal
  | string text => quotedText text
  | unpaired => quotedText ""
  | array [] => "[]"
  | array (item :: items) =>
    "[" ++ prettyItems (level + 1) (item :: items) ++ lineBreak level ++ "]"
  | object [] => "\x7b\x7d"
  | object (member :: members) =>
    "\x7b" ++ prettyMembers (level + 1) (member :: members) ++ lineBreak level ++ "\x7d"

def prettyItems (level : Nat) : List Json → String
  | [] => ""
  | [item] => lineBreak level ++ prettyFrom level item
  | item :: next :: rest =>
    lineBreak level ++ prettyFrom level item ++ "," ++ prettyItems level (next :: rest)

def prettyMembers (level : Nat) : List (String × Json) → String
  | [] => ""
  | [(name, value)] => lineBreak level ++ quotedText name ++ ": " ++ prettyFrom level value
  | (name, value) :: next :: rest =>
    lineBreak level ++ quotedText name ++ ": " ++ prettyFrom level value ++ "," ++
      prettyMembers level (next :: rest)

end

def pretty (document : Json) : String := prettyFrom 0 document

end Json

end ChartPortrayal
