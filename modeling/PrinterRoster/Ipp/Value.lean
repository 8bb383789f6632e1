import PrinterRoster.Table
import PrinterRoster.Text.Numeral
import PrinterRoster.Text.Fields

/-! Attributes of the Internet Printing Protocol: their values with their text,
and the groups in which an answer holds them. A lookup does not ask for the group,
so the groups are laid over each other in order. -/
namespace PrinterRoster.Ipp
open Text

inductive Value
  | integer (value : Int)
  | boolean (value : Bool)
  | text (value : String)
  | textIn (language value : String)
  | range (low high : Int)
  | resolution (crossFeed feed units : Int)
  | array (items : List Value)
  | collection (members : List (String × Value))
  | noValue
deriving Inhabited

namespace Value

def integerText (value : Int) : List Char :=
  if value < 0 then '-' :: Decimal.digits value.natAbs else Decimal.digits value.natAbs

def unitText (units : Int) : List Char := if units = 3 then ['i', 'n'] else ['c', 'm']

def insertMember (key : String) (value : List Char) :
    List (String × List Char) → List (String × List Char)
  | [] => [(key, value)]
  | (other, held) :: rest =>
    if key = other then (key, value) :: rest
    else if key < other then (key, value) :: (other, held) :: rest
    else (other, held) :: insertMember key value rest

def memberText (member : String × List Char) : List Char := member.1.toList ++ '=' :: member.2

mutual
/-- The text of a value. Items of an array stand in brackets, members of a
collection in angle brackets and in the order of their keys. -/
def chars : Value → List Char
  | integer value => integerText value
  | boolean true => "true".toList
  | boolean false => "false".toList
  | text value => value.toList
  | textIn language value => language.toList ++ ':' :: value.toList
  | range low high => integerText low ++ ['.', '.'] ++ integerText high
  | resolution crossFeed feed units =>
    integerText crossFeed ++ 'x' :: integerText feed ++ unitText units
  | array items => '[' :: joined [',', ' '] (itemsChars items) ++ [']']
  | collection members =>
    let sorted := (membersChars members).foldl (fun held (member : String × List Char) =>
      insertMember member.1 member.2 held) []
    '<' :: joined [',', ' '] (sorted.map memberText) ++ ['>']
  | noValue => []

def itemsChars : List Value → List (List Char)
  | [] => []
  | item :: others => chars item :: itemsChars others

def membersChars : List (String × Value) → List (String × List Char)
  | [] => []
  | (key, value) :: others => (key, chars value) :: membersChars others
end

def toText (value : Value) : String := String.ofList value.chars

theorem itemsChars_eq_map (items : List Value) : itemsChars items = items.map chars := by
  induction items with
  | nil => rfl
  | cons item others ih => simp [itemsChars, ih]

end Value

inductive GroupTag
  | operation
  | printer
  | job
  | unsupported
deriving DecidableEq

structure AttributeGroup where
  tag : GroupTag
  attributes : List (String × Value)

abbrev Attributes := Table String String

/-- The attributes of all groups. Of two values of a name the later counts. -/
def flatten (groups : List AttributeGroup) : Attributes :=
  Table.ofList ((groups.flatMap (·.attributes)).map fun named =>
    (named.1, named.2.toText))

end PrinterRoster.Ipp
