import PrinterRoster.Text.Fields
import PrinterRoster.Text.Numeral

/-! Universally unique identifiers. Devices report them bare, hyphenated, in
braces or as a URN, in either case; `normalize` brings all of these to one form,
`urn:uuid:` followed by the lower-case hyphenated digits. -/
namespace PrinterRoster

structure Uuid where
  digits : List (Fin 16)
  size : digits.length = 32
deriving DecidableEq

namespace Uuid
open Text

def groupSizes : List Nat := [8, 4, 4, 4, 12]

def scheme : List Char := "urn:uuid:".toList

def readSimple? (text : List Char) : Option Uuid :=
  match text.mapM Hex.value? with
  | some digits => if size : digits.length = 32 then some ⟨digits, size⟩ else none
  | none => none

def readHyphenated? (text : List Char) : Option Uuid :=
  let groups := fields (· == '-') text
  if groups.map List.length = groupSizes then readSimple? groups.flatten else none

def readBraced? (text : List Char) : Option Uuid :=
  match ['\x7b'].isPrefixOf? text with
  | some rest => (['\x7d'].isSuffixOf? rest).bind readHyphenated?
  | none => none

def readUrn? (text : List Char) : Option Uuid :=
  if (text.take scheme.length).map Char.toLower = scheme then
    readHyphenated? (text.drop scheme.length)
  else none

/-- Reads an identifier in any of its four shapes. The shapes have different
lengths, so at most one of them fits a text. -/
def parse? (text : List Char) : Option Uuid :=
  (readSimple? text).or <| (readHyphenated? text).or <| (readBraced? text).or (readUrn? text)

def grouped : List Nat → List (Fin 16) → List (List Char)
  | [], _ => []
  | size :: sizes, digits =>
    (digits.take size).map Hex.digit :: grouped sizes (digits.drop size)

def hyphenated (uuid : Uuid) : List Char := joined ['-'] (grouped groupSizes uuid.digits)

def urn (uuid : Uuid) : String := String.ofList (scheme ++ uuid.hyphenated)

/-- Drops one leading `urn:uuid:`, which has to be all lower or all upper case. -/
def withoutScheme (text : List Char) : List Char :=
  match scheme.isPrefixOf? text with
  | some rest => rest
  | none => ((scheme.map Char.toUpper).isPrefixOf? text).getD text

def ofReport? (raw : String) : Option Uuid := parse? (withoutScheme (trim raw.toList))

def normalize (raw : String) : Option String := (ofReport? raw).map urn

theorem urn_ne_empty (uuid : Uuid) : uuid.urn ≠ "" := by
  intro empty
  have none := congrArg String.toList empty
  rw [urn, String.toList_ofList] at none
  cases (List.append_eq_nil_iff.1 none).1

theorem normalize_ne_some_empty (raw : String) : normalize raw ≠ some "" := by
  intro accepts
  obtain ⟨uuid, _, empty⟩ := Option.map_eq_some_iff.1 accepts
  exact urn_ne_empty uuid empty

end Uuid

end PrinterRoster
