import PrinterRoster.Json.Value
import PrinterRoster.Text.Numeral
import PrinterRoster.Text.Fields

/-! The text of a JSON value, on one line without blanks or on indented lines.
Strings escape quotation marks, backslashes and control characters and leave all
other characters as they are. -/
namespace PrinterRoster.Json
open Text

def hexQuad (n : Nat) : List Char :=
  [n / 4096, n / 256, n / 16, n].map fun part => Hex.digit (Hex.last part)

def escaped (c : Char) : List Char :=
  if c = '"' then ['\\', '"']
  else if c = '\\' then ['\\', '\\']
  else if c = '\x08' then ['\\', 'b']
  else if c = '\x0c' then ['\\', 'f']
  else if c = '\n' then ['\\', 'n']
  else if c = '\r' then ['\\', 'r']
  else if c = '\t' then ['\\', 't']
  else if c.toNat < 32 then '\\' :: 'u' :: hexQuad c.toNat
  else [c]

def quoted (text : String) : List Char := '"' :: text.toList.flatMap escaped ++ ['"']

def atom : Json → List Char
  | .bool true => "true".toList
  | .bool false => "false".toList
  | .number (some value) => Decimal.digits value
  | .string (some text) => quoted text
  | _ => "null".toList

/-- Where the items of an array or object go: what separates them from their
brackets and from each other, and what follows the colon of a member. -/
structure Layout where
  lineBreak : Nat → List Char
  afterColon : List Char

def oneLine : Layout := ⟨fun _ => [], []⟩

def indented : Layout := ⟨fun depth => '\n' :: List.replicate (2 * depth) ' ', [' ']⟩

def bracketed (layout : Layout) (depth : Nat) (opening closing : Char) (items : List (List Char)) :
    List Char :=
  if items.isEmpty then [opening, closing]
  else
    opening :: layout.lineBreak (depth + 1) ++ joined (',' :: layout.lineBreak (depth + 1)) items ++
      layout.lineBreak depth ++ [closing]

mutual
def render (layout : Layout) (depth : Nat) : Json → List Char
  | .array items => bracketed layout depth '[' ']' (renderItems layout (depth + 1) items)
  | .object members => bracketed layout depth '\x7b' '\x7d' (renderMembers layout (depth + 1) members)
  | other => atom other

def renderItems (layout : Layout) (depth : Nat) : List Json → List (List Char)
  | [] => []
  | item :: others => render layout depth item :: renderItems layout depth others

def renderMembers (layout : Layout) (depth : Nat) : List (Option String × Json) → List (List Char)
  | [] => []
  | (key, value) :: others =>
    (quoted (key.getD "") ++ ':' :: layout.afterColon ++ render layout depth value) ::
      renderMembers layout depth others
end

def compact (value : Json) : String := String.ofList (render oneLine 0 value)

def pretty (value : Json) : String := String.ofList (render indented 0 value)

end PrinterRoster.Json
