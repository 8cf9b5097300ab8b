import ChartPortrayal.Text.Fields

/-!
Directives of instruction text. A directive is a tag of two capitals with a payload, usually in
parentheses; directives stand one after another, as a rule with semicolons between them. Single quotes
protect parentheses, semicolons and commas.

Reading never fails. Text that starts with no tag is passed over up to the next semicolon, a payload
without its closing parenthesis runs to the end, and a tag without parentheses takes what follows, up to
the next semicolon, as its payload.
-/

namespace ChartPortrayal

open Text (quote)

structure Directive where
  tag : String
  payload : String
deriving DecidableEq

namespace Directive

def text (directive : Directive) : String := directive.tag ++ "(" ++ directive.payload ++ ")"

def ofParameters (tag : String) (parameters : List String) : Directive :=
  ⟨tag, Text.join "," parameters⟩

def textOf (directives : List Directive) : String := Text.join ";" (directives.map text)

/-- Blanks that may stand between directives, in ASCII. -/
def isAsciiBlank (char : Char) : Bool :=
  char = ' ' || char = '\t' || char = '\n' || char = '\r' || char.toNat = 12

def isCapital (char : Char) : Bool := 'A' ≤ char && char ≤ 'Z'

/-- What the characters read so far amount to. Characters that are collected stand last first. -/
inductive Scanner where
  | between
  | capital (first : Char)
  | malformed
  | tagged (tag : String)
  | bare (tag : String) (seen : List Char)
  | inside (tag : String) (quoted : Bool) (seen : List Char)
deriving DecidableEq

namespace Scanner

def next : Scanner → Char → Scanner
  | between, char =>
    if char = ';' || isAsciiBlank char then between
    else if isCapital char then capital char
    else malformed
  | capital first, char =>
    if isCapital char then tagged (String.ofList [first, char])
    else if char = ';' then between
    else malformed
  | malformed, char => if char = ';' then between else malformed
  | tagged tag, char =>
    if char = ' ' then tagged tag
    else if char = '(' then inside tag false []
    else if char = ';' then between
    else bare tag [char]
  | bare tag seen, char => if char = ';' then between else bare tag (char :: seen)
  | inside tag quoted seen, char =>
    if char = quote then inside tag (!quoted) (char :: seen)
    else if char = ')' && !quoted then between
    else inside tag quoted (char :: seen)

/-- The directive that is complete when the text ends. -/
def final? : Scanner → Option Directive
  | tagged tag => some ⟨tag, ""⟩
  | bare tag seen => some ⟨tag, String.ofList (Text.trimChars seen.reverse)⟩
  | inside tag _ seen => some ⟨tag, String.ofList seen.reverse⟩
  | _ => none

/-- The directive that one more character completes. -/
def completed? (scanner : Scanner) (char : Char) : Option Directive :=
  match scanner with
  | tagged _ => if char = ';' then scanner.final? else none
  | bare _ _ => if char = ';' then scanner.final? else none
  | inside _ quoted _ => if char = ')' && !quoted then scanner.final? else none
  | _ => none

def scan (scanner : Scanner) : List Char → List Directive
  | [] => scanner.final?.toList
  | char :: rest => (scanner.completed? char).toList ++ (scanner.next char).scan rest

end Scanner

def tokenize (text : String) : List Directive := Scanner.between.scan text.toList

/-- The stretches between commas that stand outside quotes. -/
def splitOutsideQuotes (quoted : Bool) (seen : List Char) : List Char → List (List Char)
  | [] => [seen.reverse]
  | char :: rest =>
    if char = quote then splitOutsideQuotes (!quoted) (char :: seen) rest
    else if char = ',' && !quoted then seen.reverse :: splitOutsideQuotes false [] rest
    else splitOutsideQuotes quoted (char :: seen) rest

def splitParameters (payload : String) : List String :=
  (splitOutsideQuotes false [] payload.toList).map (fun chars => String.ofList (Text.trimChars chars))

def parameters (directive : Directive) : List String := splitParameters directive.payload

/-- Takes the quotes off a text that both starts and ends with one. -/
def unquote (text : String) : String :=
  match text.toList with
  | [] => text
  | first :: rest =>
    if first = quote ∧ rest.getLast? = some quote then String.ofList rest.dropLast else text

def quoted (text : String) : String := Text.quoteText ++ text ++ Text.quoteText

end Directive

end ChartPortrayal
