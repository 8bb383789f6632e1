import PrinterRoster.Text.Numeral
import PrinterRoster.Text.Fields

/-! Network addresses and their text. An IPv4 address is four decimal octets. An
IPv6 address is eight hexadecimal groups; in its text the first of the longest
runs of two or more zero groups is left out as `::`, and an address that maps an
IPv4 address ends in that address. Reading takes every text of the standard
grammar, written in any way, and refuses octets with a superfluous zero. -/
namespace PrinterRoster
open Text

abbrev Octet := Fin 256

abbrev Group := Fin 65536

inductive Address
  | v4 (first second third fourth : Octet)
  | v6 (groups : List Group) (size : groups.length = 8)
deriving DecidableEq

namespace Address

def quadText (first second third fourth : Octet) : List Char :=
  joined ['.'] ([first, second, third, fourth].map fun (octet : Octet) => Decimal.digits octet.val)

def octetsOf (group : Group) : Octet × Octet :=
  (Fin.ofNat 256 (group.val / 256), Fin.ofNat 256 group.val)

def groupsText (groups : List Group) : List Char :=
  joined [':'] (groups.map fun (group : Group) => Hex.digits group.val)

def zeroRun (groups : List Group) : Nat := (groups.takeWhile (· == 0)).length

def longestZeroRun (groups : List Group) : Nat :=
  (List.range groups.length).foldl
    (fun best start => if zeroRun (groups.drop start) > zeroRun (groups.drop best) then start else best) 0

def compressedText (groups : List Group) : List Char :=
  let start := longestZeroRun groups
  let length := zeroRun (groups.drop start)
  if length > 1 then
    groupsText (groups.take start) ++ [':', ':'] ++ groupsText (groups.drop (start + length))
  else groupsText groups

def text : Address → List Char
  | v4 first second third fourth => quadText first second third fourth
  | v6 [0, 0, 0, 0, 0, 65535, high, low] _ =>
    "::ffff:".toList ++
      quadText (octetsOf high).1 (octetsOf high).2 (octetsOf low).1 (octetsOf low).2
  | v6 groups _ => compressedText groups

def isV4 : Address → Bool
  | v4 .. => true
  | v6 .. => false

def readOctet? (text : List Char) : Option (Octet × List Char) :=
  let digits := text.takeWhile Char.isDigit
  let rest := text.dropWhile Char.isDigit
  if digits.length > 3 || digits.length > 1 && digits.head? == some '0' then none
  else
    match Decimal.value? digits with
    | some value => if small : value < 256 then some (⟨value, small⟩, rest) else none
    | none => none

def readChar? (expected : Char) : List Char → Option (List Char)
  | c :: rest => if c = expected then some rest else none
  | [] => none

def readQuad? (text : List Char) : Option ((Octet × Octet × Octet × Octet) × List Char) := do
  let (first, rest) ← readOctet? text
  let (second, rest) ← readOctet? (← readChar? '.' rest)
  let (third, rest) ← readOctet? (← readChar? '.' rest)
  let (fourth, rest) ← readOctet? (← readChar? '.' rest)
  return ((first, second, third, fourth), rest)

def readGroup? (text : List Char) : Option (Group × List Char) :=
  let digits := (text.takeWhile fun c => (Hex.value? c).isSome).filterMap Hex.value?
  if digits.isEmpty || digits.length > 4 then none
  else some (Fin.ofNat 65536 (Hex.number digits), text.drop digits.length)

def groupOf (high low : Octet) : Group := Fin.ofNat 65536 (256 * high.val + low.val)

structure Reading where
  groups : List Group
  dotted : Bool
  rest : List Char

/-- Reads up to `limit` groups with colons between them. A dotted quad may stand
for the last two. Reading stops before what is not a group. -/
def readGroups : (limit : Nat) → (first : Bool) → List Char → Reading
  | 0, _, text => ⟨[], false, text⟩
  | limit + 1, first, text =>
    match if first then some text else readChar? ':' text with
    | none => ⟨[], false, text⟩
    | some start =>
      match if limit ≥ 1 then readQuad? start else none with
      | some ((a, b, c, d), rest) => ⟨[groupOf a b, groupOf c d], true, rest⟩
      | none =>
        match readGroup? start with
        | none => ⟨[], false, text⟩
        | some (group, rest) =>
          let others := readGroups limit false rest
          ⟨group :: others.groups, others.dotted, others.rest⟩

/-- The address of eight groups, in which `::` stands for as many zero groups as
are missing. -/
def ofGroups? (groups : List Group) : Option Address :=
  if size : groups.length = 8 then some (v6 groups size) else none

def readV6? (text : List Char) : Option (Address × List Char) :=
  let head := readGroups 8 true text
  if head.groups.length = 8 then (ofGroups? head.groups).map (·, head.rest)
  else if head.dotted then none
  else
    match (readChar? ':' head.rest).bind (readChar? ':') with
    | none => none
    | some start =>
      let tail := readGroups (7 - head.groups.length) true start
      let missing := 8 - head.groups.length - tail.groups.length
      (ofGroups? (head.groups ++ List.replicate missing 0 ++ tail.groups)).map (·, tail.rest)

def parse? (text : List Char) : Option Address :=
  let read := match readQuad? text with
    | some ((a, b, c, d), rest) => some (v4 a b c d, rest)
    | none => readV6? text
  match read with
  | some (address, []) => some address
  | _ => none

end Address

end PrinterRoster
