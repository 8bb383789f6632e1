import PrinterRoster.Ipp.Client
import PrinterRoster.Mdns.Service
import PrinterRoster.Proofs.Address.Text
import PrinterRoster.Proofs.Uri.Parts
import PrinterRoster.Uri

/-! The URIs that are made for printers, from a template and a host or from an announced address.
A client accepts each of them, and finds in it the host, the port and the path that it was made
from. -/
namespace PrinterRoster
open Text

/-- A host as it may be given to a template, and the same host without brackets. -/
inductive GivenHost : String → String → Prop
  | quad (first second third fourth : Octet) :
      GivenHost (String.ofList (Address.v4 first second third fourth).text)
        (String.ofList (Address.v4 first second third fourth).text)
  | groups (groups : List Group) (size : groups.length = 8) :
      GivenHost (String.ofList (Address.v6 groups size).text)
        (String.ofList (Address.v6 groups size).text)
  | bracketed (groups : List Group) (size : groups.length = 8) :
      GivenHost (String.ofList ('[' :: (Address.v6 groups size).text ++ [']']))
        (String.ofList (Address.v6 groups size).text)
  | name {host : String} (any : host ≠ "")
      (each : ∀ c ∈ host.toList, c.isAlphanum = true ∨ c ∈ ['-', '.', '_']) : GivenHost host host

/-- A path of letters, digits and marks. It may have slashes anywhere. -/
def IsResource (path : String) : Prop :=
  ∀ c ∈ path.toList, c.isAlphanum = true ∨ c ∈ ['-', '.', '_', '~', '/']

instance (path : String) : Decidable (IsResource path) := List.decidableBAll _ path.toList

structure ReadsAs (uri host : String) (port : UInt16) (path : List Char) : Prop where
  accepted : ∃ parsed, Ipp.target uri = .ok parsed ∧ parsed.port? = some port.toNat ∧
    parsed.path = path
  named : Uri.hostOf? uri = some host

namespace Uri

private theorem isPathChar_of_isAlphanum {c : Char} (alphanumeric : c.isAlphanum = true) :
    isPathChar c = true := by
  have inside : (decide (65 ≤ c.val ∧ c.val ≤ 90) ||
      decide (97 ≤ c.val) && decide (c.val ≤ 122) ||
        decide (48 ≤ c.val) && decide (c.val ≤ 57)) = true := alphanumeric
  have code : c.toNat = c.val.toNat := rfl
  simp only [Bool.or_eq_true, Bool.and_eq_true, decide_eq_true_eq, UInt32.le_iff_toNat_le,
    UInt32.reduceToNat, ← code] at inside
  simp only [isPathChar, Bool.or_eq_true, Bool.and_eq_true, decide_eq_true_eq, beq_iff_eq]
  omega

private theorem isPathChar_of_isResource {path : String} (plain : IsResource path) :
    ∀ c ∈ path.toList, isPathChar c = true := by
  have marks : ∀ c ∈ ['-', '.', '_', '~', '/'], isPathChar c = true :=
    List.all_eq_true.1 (by decide)
  intro c member
  exact (plain c member).elim isPathChar_of_isAlphanum (marks c)

private theorem isAuthorityChar_of_isAddressChar {c : Char} (stands : Address.IsAddressChar c) :
    c = ':' ∨ isAuthorityChar c = true := by
  rcases stands with colon | rfl | alphanumeric
  · exact Or.inl colon
  · exact Or.inr (by decide)
  · exact Or.inr (isAuthorityChar_of_isAlphanum alphanumeric)

private theorem shows_quad (first second third fourth : Octet) :
    Shows (Address.v4 first second third fourth).text (Address.v4 first second third fourth).text := by
  refine .plain ?_ fun c member => ?_
  · obtain ⟨c, member, _⟩ := Address.digit_mem_quadText first second third fourth
    exact List.ne_nil_of_mem member
  · rcases Address.mem_quadText first second third fourth c member with rfl | digit
    · decide
    · exact isAuthorityChar_of_isAlphanum (by simp [Char.isAlphanum, digit])

private theorem shows_groups {groups : List Group} (size : groups.length = 8) :
    Shows ('[' :: ((Address.v6 groups size).text ++ [']'])) (Address.v6 groups size).text :=
  .bracketed (fun c member => isAuthorityChar_of_isAddressChar (Address.mem_text _ c member))
    (Nat.le_succ_of_le (Address.count_text size).2)

/-- A text made of these parts is accepted, and the parts are found in it. -/
theorem readsAs_of_shows {scheme shown path : List Char} {host uri : String} {port : UInt16}
    (printing : IsPrintScheme scheme) (shows : Shows shown host.toList)
    (rooted : path.head? = some '/') (each : ∀ c ∈ path, isPathChar c = true)
    (made : uri.toList = scheme ++ "://".toList ++ (shown ++ ':' :: Decimal.digits port.toNat ++ path))
    (fits : uri.utf8ByteSize ≤ 65534) : ReadsAs uri host port path := by
  have read := parse?_of_shows printing shows port.toNat rooted each made fits
  constructor
  · refine ⟨_, ?_, port?_of_digits shown path port.toNat_lt, rfl⟩
    rw [Ipp.target, read]
  · rw [hostOf?, read, Option.bind_eq_bind, Option.bind_some, host?_of_shows shows,
      Option.bind_eq_bind, Option.bind_some, unbracketed_of_shows shows, String.ofList_toList]
    rfl

end Uri

private theorem shows_hostText_of_address (address : Address) :
    Uri.Shows (Mdns.hostText address) address.text := by
  cases address with
  | v4 first second third fourth => exact Uri.shows_quad first second third fourth
  | v6 groups size => exact Uri.shows_groups size

private theorem hostText_of_no_colon {given : List Char} (none : ':' ∉ given) :
    EndpointTemplate.hostText (String.ofList given) = String.ofList given := by
  simp [EndpointTemplate.hostText, none]

private theorem shows_hostText_of_given {given host : String} (named : GivenHost given host) :
    Uri.Shows (EndpointTemplate.hostText given).toList host.toList := by
  cases named with
  | quad first second third fourth =>
    have none : ':' ∉ (Address.v4 first second third fourth).text :=
      Address.colon_not_mem_quadText first second third fourth
    rw [hostText_of_no_colon none, String.toList_ofList]
    exact Uri.shows_quad first second third fourth
  | groups groups size =>
    have colon : ':' ∈ (Address.v6 groups size).text := List.count_pos_iff.1 (Address.count_text size).1
    have bare : (Address.v6 groups size).text.head? ≠ some '[' := by
      intro bracket
      exact absurd (Address.mem_text _ '[' (List.mem_of_mem_head? bracket)) (by decide)
    have added : (EndpointTemplate.hostText (String.ofList (Address.v6 groups size).text)).toList =
        '[' :: ((Address.v6 groups size).text ++ [']']) := by
      simp [EndpointTemplate.hostText, colon, bare]
    rw [added, String.toList_ofList]
    exact Uri.shows_groups size
  | bracketed groups size =>
    have kept : (EndpointTemplate.hostText
        (String.ofList ('[' :: (Address.v6 groups size).text ++ [']']))).toList =
          '[' :: ((Address.v6 groups size).text ++ [']']) := by
      simp [EndpointTemplate.hostText]
    rw [kept, String.toList_ofList]
    exact Uri.shows_groups size
  | name any each =>
    have plain : ∀ c ∈ given.toList, Uri.isAuthorityChar c = true := by
      have marks : ∀ c ∈ ['-', '.', '_'], Uri.isAuthorityChar c = true :=
        List.all_eq_true.1 (by decide)
      intro c member
      exact (each c member).elim Uri.isAuthorityChar_of_isAlphanum (marks c)
    have none : ':' ∉ given.toList := fun colon => absurd (plain ':' colon) (by decide)
    have kept := hostText_of_no_colon none
    rw [String.ofList_toList] at kept
    rw [kept]
    exact .plain (by simpa using any) plain

/-- The path of a template's URI is that of the template, with a slash before it if it has none. The
path of an announced printer's URI has one slash in place of those that the resource starts with. -/
theorem made_uris_are_read :
    (∀ (template : EndpointTemplate) (given host : String),
      template.scheme = "ipp" ∨ template.scheme = "ipps" → IsResource template.path →
      GivenHost given host → (template.uriFor given).utf8ByteSize ≤ 65534 →
        ReadsAs (template.uriFor given) host template.port
          (if template.path.toList.head? = some '/' then template.path.toList
            else '/' :: template.path.toList)) ∧
    ∀ (tls : Bool) (address : Address) (port : UInt16) (resource : String), IsResource resource →
      (Mdns.printerUri tls address port resource).utf8ByteSize ≤ 65534 →
        ReadsAs (Mdns.printerUri tls address port resource) (String.ofList address.text) port
          ('/' :: resource.toList.dropWhile (· == '/')) := by
  constructor
  · intro template given host printing plain named fits
    have scheme : Uri.IsPrintScheme template.scheme.toList :=
      printing.imp (congrArg String.toList) (congrArg String.toList)
    have chars := Uri.isPathChar_of_isResource plain
    refine Uri.readsAs_of_shows scheme (shows_hostText_of_given named) ?_ ?_ ?_ fits
    · split
      · assumption
      · rfl
    · split
      · exact chars
      · exact List.forall_mem_cons.2 ⟨by decide, chars⟩
    · split
      · rename_i rooted
        simp [EndpointTemplate.uriFor, EndpointTemplate.rooted, rooted, Decimal.text]
      · rename_i unrooted
        simp [EndpointTemplate.uriFor, EndpointTemplate.rooted, unrooted, Decimal.text]
  · intro tls address port resource plain fits
    have scheme : Uri.IsPrintScheme (if tls then "ipps" else "ipp").toList := by
      cases tls
      · exact Or.inl rfl
      · exact Or.inr rfl
    have host : Uri.Shows (Mdns.hostText address) (String.ofList address.text).toList := by
      rw [String.toList_ofList]
      exact shows_hostText_of_address address
    refine Uri.readsAs_of_shows scheme host rfl ?_ (by simp [Mdns.printerUri]) fits
    refine List.forall_mem_cons.2 ⟨by decide, fun c member => ?_⟩
    exact Uri.isPathChar_of_isResource plain c ((List.dropWhile_suffix _).mem member)

/-- An address with a run of zeros, given to a template without a slash and announced with two. -/
theorem made_uris_are_read_at_link_local :
    let address : Address := .v6 [0xfe80, 0, 0, 0, 0, 0, 0, 1] rfl
    let template : EndpointTemplate := ⟨"ipps", 631, "ipp/print"⟩
    (template.scheme = "ipp" ∨ template.scheme = "ipps") ∧ IsResource template.path ∧
      GivenHost "fe80::1" "fe80::1" ∧ (template.uriFor "fe80::1").utf8ByteSize ≤ 65534 ∧
      ReadsAs (template.uriFor "fe80::1") "fe80::1" 631 "/ipp/print".toList ∧
      IsResource "//ipp" ∧ (Mdns.printerUri true address 443 "//ipp").utf8ByteSize ≤ 65534 ∧
      ReadsAs (Mdns.printerUri true address 443 "//ipp") "fe80::1" 443 "/ipp".toList := by
  intro address template
  have written : String.ofList address.text = "fe80::1" := by decide +kernel
  have given : GivenHost "fe80::1" "fe80::1" := written ▸ .groups _ rfl
  have plain : IsResource template.path := by decide +kernel
  have announced : IsResource "//ipp" := by decide +kernel
  have short : (template.uriFor "fe80::1").utf8ByteSize ≤ 65534 := by decide +kernel
  have fits : (Mdns.printerUri true address 443 "//ipp").utf8ByteSize ≤ 65534 := by decide +kernel
  obtain ⟨fromTemplate, fromService⟩ := made_uris_are_read
  have probed := fromTemplate template "fe80::1" "fe80::1" (Or.inr rfl) plain given short
  have browsed := fromService true address 443 "//ipp" announced fits
  have rooted : (if template.path.toList.head? = some '/' then template.path.toList
      else '/' :: template.path.toList) = "/ipp/print".toList := by decide +kernel
  have single : '/' :: "//ipp".toList.dropWhile (· == '/') = "/ipp".toList := by decide +kernel
  rw [rooted] at probed
  rw [written, single] at browsed
  exact ⟨Or.inr rfl, plain, given, short, probed, announced, fits, browsed⟩

end PrinterRoster
