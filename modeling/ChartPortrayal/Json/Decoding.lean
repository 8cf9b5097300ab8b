import ChartPortrayal.Json.Reader
import ChartPortrayal.Number.Quantity

/-!
Taking documents apart. A record is an object, whose unknown members do not matter and whose known ones
must not be repeated, or an array with the values of its fields in order. A name from a fixed list is a
string, or an object with that one name and nothing under it.
-/

namespace ChartPortrayal.Json

def string? : Json → Option String
  | string text => some text
  | _ => none

def bool? : Json → Option Bool
  | bool value => some value
  | _ => none

def array? : Json → Option (List Json)
  | array items => some items
  | _ => none

def listOf? {β : Type} (decode? : Json → Option β) (document : Json) : Option (List β) :=
  (array? document).bind (fun items => items.mapM decode?)

/-- An integer: a number without fraction and exponent. Minus zero is none. -/
def integer? : Json → Option Int
  | number literal => if literal = "-0" then none else signedInteger? literal
  | _ => none

def natBelow? (bound : Nat) (document : Json) : Option Nat :=
  ((integer? document).filter (fun value : Int => 0 ≤ value && value < (bound : Int))).map Int.toNat

def uint8? (document : Json) : Option UInt8 := (natBelow? (Nat.pow 2 8) document).map UInt8.ofNat

def uint32? (document : Json) : Option UInt32 := (natBelow? (Nat.pow 2 32) document).map UInt32.ofNat

def int32? (document : Json) : Option Int32 :=
  ((integer? document).filter (fitsSigned 32)).map Int32.ofInt

def choice? {β : Type} (values : List β) (name : β → String) (document : Json) : Option β :=
  let named (text : String) : Option β := values.find? (fun value => name value == text)
  match document with
  | string text => named text
  | object [(text, null)] => named text
  | _ => none

def fields? (names : List String) : Json → Option (List (Option Json))
  | object members =>
    if names.all (fun name => (members.filter (fun member => member.1 == name)).length ≤ 1) then
      some (names.map (fun name => (members.find? (fun member => member.1 == name)).map (·.2)))
    else none
  | array items =>
    if items.length ≤ names.length then
      some (items.map some ++ List.replicate (names.length - items.length) none)
    else none
  | _ => none

/-- The entries of an object, whose names and values are decoded. Of a repeated name the last counts when
the entries are inserted in turn. -/
def entries? {κ ν : Type} (key? : String → Option κ) (value? : Json → Option ν) :
    Json → Option (List (κ × ν))
  | object members =>
    members.mapM (fun member =>
      (key? member.1).bind (fun key => (value? member.2).map (fun value => (key, value))))
  | _ => none

def optional? {β : Type} (default : β) (decode? : Json → Option β) : Option Json → Option β
  | some document => decode? document
  | none => some default

def nullable? {β : Type} (decode? : Json → Option β) : Option Json → Option (Option β)
  | none => some none
  | some null => some none
  | some document => (decode? document).map some

end ChartPortrayal.Json
