/-! JSON values, as the stored files of this library need them. Numbers are kept
when they are plain natural numbers, since no file holds any other. A string is
kept when its escapes denote a text: a lone half of a surrogate pair does not.

A record is written as an object and read from an object, in which keys it does
not know are skipped and keys it knows may stand once, or from an array of its
fields in order. -/
namespace PrinterRoster

inductive Json
  | null
  | bool (value : Bool)
  /-- A number, with its value if its numeral is a run of digits. -/
  | number (value : Option Nat)
  /-- A string, with its text if its escapes denote one. -/
  | string (text : Option String)
  | array (items : List Json)
  | object (members : List (Option String × Json))
deriving Inhabited

namespace Json

def nat (value : Nat) : Json := .number (some value)

def text (value : String) : Json := .string (some value)

def optionalText : Option String → Json
  | some value => text value
  | none => .null

def record (members : List (String × Json)) : Json :=
  .object (members.map fun member => (some member.1, member.2))

def valuesAt (members : List (Option String × Json)) (name : String) : List Json :=
  (members.filter fun member => member.1 == some name).map Prod.snd

def membersNamed? (names : List String) (members : List (Option String × Json)) :
    Option (List (Option Json)) :=
  if members.any (fun member => member.1.isNone) then none
  else if names.any (fun name => (valuesAt members name).length > 1) then none
  else some (names.map fun name => (valuesAt members name).head?)

/-- The values of the named fields of a record, in the order of the names; `none`
stands for a field that is left out. An array may leave out fields at its end
only if `short` says so. -/
def fields? (short : Bool) (names : List String) : Json → Option (List (Option Json))
  | .object members => membersNamed? names members
  | .array items =>
    if items.length > names.length || !short && items.length < names.length then none
    else some (items.map some ++ List.replicate (names.length - items.length) none)
  | _ => none

def asText? : Json → Option String
  | .string text => text
  | _ => none

def asNat? (limit : Nat) : Json → Option Nat
  | .number (some value) => if value < limit then some value else none
  | _ => none

def asOptionalText? : Json → Option (Option String)
  | .null => some none
  | .string (some text) => some (some text)
  | _ => none

def asItems? : Json → Option (List Json)
  | .array items => some items
  | _ => none

def asList? {α : Type} (read : Json → Option α) (value : Json) : Option (List α) :=
  value.asItems?.bind fun items => items.mapM read

def required? {α : Type} (read : Json → Option α) : Option Json → Option α
  | some value => read value
  | none => none

def defaulted? {α : Type} (initial : α) (read : Json → Option α) : Option Json → Option α
  | some value => read value
  | none => some initial

end Json

end PrinterRoster
