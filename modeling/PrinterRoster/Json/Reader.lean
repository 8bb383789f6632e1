import PrinterRoster.Json.Value
import PrinterRoster.Text.Numeral

/-! Reading JSON. A text is read only as a whole: one value, with white space
around it and nothing else. Arrays and objects may be nested to any depth. -/
namespace PrinterRoster.Json
open Text

def isSpace (c : Char) : Bool := c == ' ' || c == '\n' || c == '\r' || c == '\t'

def skipSpace (text : List Char) : List Char := text.dropWhile isSpace

def readQuad? (text : List Char) : Option (Nat × List Char) :=
  match text with
  | a :: b :: c :: d :: rest =>
    ([a, b, c, d].mapM Hex.value?).map fun values => (Hex.number values, rest)
  | _ => none

def shortEscape? : Char → Option Char
  | '"' => some '"'
  | '\\' => some '\\'
  | '/' => some '/'
  | 'b' => some '\x08'
  | 'f' => some '\x0c'
  | 'n' => some '\n'
  | 'r' => some '\r'
  | 't' => some '\t'
  | _ => none

def isHighHalf (unit : Nat) : Bool := 0xD800 ≤ unit && unit < 0xDC00

def isLowHalf (unit : Nat) : Bool := 0xDC00 ≤ unit && unit < 0xE000

inductive Piece
  | char (c : Char)
  | unit (value : Nat)

def readPieces? : List Char → Option (List Piece × List Char)
  | [] => none
  | '"' :: rest => some ([], rest)
  | '\\' :: 'u' :: a :: b :: c :: d :: rest => do
    let values ← [a, b, c, d].mapM Hex.value?
    let (pieces, rest) ← readPieces? rest
    return (.unit (Hex.number values) :: pieces, rest)
  | '\\' :: letter :: rest => do
    let c ← shortEscape? letter
    let (pieces, rest) ← readPieces? rest
    return (.char c :: pieces, rest)
  | c :: rest =>
    if c = '\\' || c.toNat < 32 then none
    else do
      let (pieces, rest) ← readPieces? rest
      return (.char c :: pieces, rest)

/-- The text of a string. A high half has to be followed by a low one, and a low
half to follow a high one. -/
def textOf? : List Piece → Option (List Char)
  | [] => some []
  | .char c :: rest => (textOf? rest).map (c :: ·)
  | .unit high :: .unit low :: rest =>
    if isHighHalf high then
      if isLowHalf low then
        (textOf? rest).map (Char.ofNat (0x10000 + (high - 0xD800) * 0x400 + (low - 0xDC00)) :: ·)
      else none
    else if isLowHalf high then none
    else (textOf? (.unit low :: rest)).map (Char.ofNat high :: ·)
  | .unit value :: rest =>
    if isHighHalf value || isLowHalf value then none
    else (textOf? rest).map (Char.ofNat value :: ·)

def readString? (text : List Char) : Option (Option String × List Char) :=
  (readPieces? text).map fun (pieces, rest) => ((textOf? pieces).map String.ofList, rest)

def digitsOf (text : List Char) : List Char := text.takeWhile Char.isDigit

def afterFraction? : List Char → Option (List Char)
  | '.' :: rest => if (digitsOf rest).isEmpty then none else some (rest.drop (digitsOf rest).length)
  | text => some text

def afterExponent? : List Char → Option (List Char)
  | c :: rest =>
    if c = 'e' || c = 'E' then
      let rest := match rest with
        | '+' :: others => others
        | '-' :: others => others
        | _ => rest
      if (digitsOf rest).isEmpty then none else some (rest.drop (digitsOf rest).length)
    else some (c :: rest)
  | [] => some []

def readNumber? (text : List Char) : Option (Json × List Char) :=
  let negative := text.head? == some '-'
  let start := if negative then text.drop 1 else text
  let digits := digitsOf start
  if digits.isEmpty || digits.length > 1 && digits.head? == some '0' then none
  else
    let afterDigits := start.drop digits.length
    match (afterFraction? afterDigits).bind afterExponent? with
    | none => none
    | some rest =>
      let plain := !negative && rest.length == afterDigits.length
      some (.number (if plain then Decimal.value? digits else none), rest)

mutual
/-- Reads a value, which may have white space before it. The fuel bounds the
depth and length of what is read; twice the length of the text is always enough. -/
def readValue? : (fuel : Nat) → List Char → Option (Json × List Char)
  | 0, _ => none
  | fuel + 1, text =>
    match skipSpace text with
    | 'n' :: 'u' :: 'l' :: 'l' :: rest => some (.null, rest)
    | 't' :: 'r' :: 'u' :: 'e' :: rest => some (.bool true, rest)
    | 'f' :: 'a' :: 'l' :: 's' :: 'e' :: rest => some (.bool false, rest)
    | '"' :: rest => (readString? rest).map fun (value, rest) => (.string value, rest)
    | '[' :: rest =>
      match skipSpace rest with
      | ']' :: rest => some (.array [], rest)
      | _ => (readItems? fuel rest).map fun (items, rest) => (.array items, rest)
    | '\x7b' :: rest =>
      match skipSpace rest with
      | '\x7d' :: rest => some (.object [], rest)
      | _ => (readMembers? fuel rest).map fun (members, rest) => (.object members, rest)
    | start => readNumber? start

def readItems? : (fuel : Nat) → List Char → Option (List Json × List Char)
  | 0, _ => none
  | fuel + 1, text => do
    let (item, rest) ← readValue? fuel text
    match skipSpace rest with
    | ',' :: rest =>
      let (items, rest) ← readItems? fuel rest
      return (item :: items, rest)
    | ']' :: rest => return ([item], rest)
    | _ => none

def readMembers? : (fuel : Nat) → List Char → Option (List (Option String × Json) × List Char)
  | 0, _ => none
  | fuel + 1, text =>
    match skipSpace text with
    | '"' :: rest => do
      let (key, rest) ← readString? rest
      match skipSpace rest with
      | ':' :: rest =>
        let (value, rest) ← readValue? fuel rest
        match skipSpace rest with
        | ',' :: rest =>
          let (members, rest) ← readMembers? fuel rest
          return ((key, value) :: members, rest)
        | '\x7d' :: rest => return ([(key, value)], rest)
        | _ => none
      | _ => none
    | _ => none
end

def parse? (text : String) : Option Json :=
  match readValue? (2 * text.length + 2) text.toList with
  | some (value, rest) => if (skipSpace rest).isEmpty then some value else none
  | none => none

end PrinterRoster.Json
