import PrinterRoster.Proofs.Probe.FirstAnswer
import PrinterRoster.Proofs.Session.Review
import PrinterRoster.Proofs.Uuid.Agreement

/-! Which printers count as network addresses. An id is tested by its first letters, while a printer
is known by its address exactly if it has no uuid. The two agree for every announced printer. For one
that was probed they agree unless it has no uuid and stands behind a scheme that begins otherwise, or
its uuid is malformed and happens to begin with those letters. -/
namespace PrinterRoster

theorem PrinterId.isNetworkAddress_iff (id : PrinterId) :
    id.isNetworkAddress = true ↔ "ipp".toList <+: id.text.toList :=
  List.isPrefixOf_iff_prefix

/-- The letters of an id tell whether its printer is known by its address only. -/
def Printer.IsTold (printer : Printer) : Prop :=
  printer.id.isNetworkAddress = true ↔ printer.uuid = none

namespace Printer
variable {printer : Printer}

private theorem isTold_of_uuid {text : String} (known : printer.uuid = some text) :
    printer.IsTold ↔ ¬ "ipp".toList <+: text.toList := by
  have named : printer.id.text = text := by rw [id, uri, known]; rfl
  rw [IsTold, PrinterId.isNetworkAddress_iff, named, known]
  simp

private theorem isTold_of_path (unknown : printer.uuid = none) :
    printer.IsTold ↔ "ipp".toList <+: printer.path.toList := by
  have named : printer.id.text = printer.path := by rw [id, uri, unknown]; rfl
  rw [IsTold, PrinterId.isNetworkAddress_iff, named, unknown]
  simp

end Printer

/-- Letters before a mark that is none of them are before all that follows the mark. -/
theorem Text.prefix_append_cons_iff {letters front rest : List Char} {mark : Char}
    (apart : mark ∉ letters) : letters <+: front ++ mark :: rest ↔ letters <+: front := by
  refine ⟨fun starts => ?_, fun starts => starts.trans (List.prefix_append front _)⟩
  rcases List.prefix_or_prefix_of_prefix starts (List.prefix_append front _) with within | beyond
  · exact within
  · obtain ⟨behind, rfl⟩ := beyond
    cases behind with
    | nil => rw [List.append_nil]
    | cons next others =>
      obtain ⟨same, _⟩ := List.cons_prefix_cons.1 ((List.prefix_append_right_inj front).1 starts)
      exact absurd (by simp [same]) apart

theorem EndpointTemplate.prefix_uriFor_iff (template : EndpointTemplate) (host : String) :
    "ipp".toList <+: (template.uriFor host).toList ↔ "ipp".toList <+: template.scheme.toList := by
  have text : (template.uriFor host).toList = template.scheme.toList ++
      ':' :: ("//".toList ++ (hostText host ++ ":" ++ Text.Decimal.text template.port.toNat ++
        rooted template.path).toList) := by
    simp [uriFor]
  rw [text]
  exact Text.prefix_append_cons_iff (by decide)

namespace Uuid

private theorem head?_of_normalize {raw text : String} (accepts : normalize raw = some text) :
    text.toList.head? = some 'u' := by
  rw [normalize_eq_some_iff] at accepts
  obtain ⟨uuid, -, canonical⟩ := accepts
  rw [← canonical, urn, String.toList_ofList]
  rfl

private theorem not_prefix_of_normalize {raw text : String} (accepts : normalize raw = some text) :
    ¬ "ipp".toList <+: text.toList := by
  rintro ⟨behind, starts⟩
  have first : some 'i' = text.toList.head? := congrArg List.head? starts
  rw [head?_of_normalize accepts] at first
  exact absurd first (by decide)

private theorem not_malformed_of_normalize {raw text : String}
    (accepts : normalize raw = some text) : ¬ Malformed raw := by
  rintro ⟨-, unreported⟩
  rw [normalize_eq_none_iff.2 unreported] at accepts
  cases accepts

end Uuid

namespace Mdns
variable {tls : Bool} {service : Service} {found : Printer}

private theorem prefix_printerUri (tls : Bool) (address : Address) (port : UInt16)
    (resource : String) : "ipp".toList <+: (printerUri tls address port resource).toList := by
  cases tls <;> simp [printerUri]

private theorem path_of_printer (resolved : printer tls service = .ok found) :
    ∃ address resource, found.path = printerUri tls address service.port resource := by
  unfold printer at resolved
  split at resolved
  · cases resolved
  · cases resolved
    exact ⟨_, _, rfl⟩

/-- The browser keeps a uuid in canonical form only, and writes the scheme of a path itself. -/
theorem isTold_of_printer (resolved : printer tls service = .ok found) : found.IsTold := by
  cases known : found.uuid with
  | none =>
    obtain ⟨address, resource, path⟩ := path_of_printer resolved
    rw [Printer.isTold_of_path known, path]
    exact prefix_printerUri ..
  | some text =>
    have kept := (Uuid.uuid_of_printer resolved).symm.trans known
    obtain ⟨reported, _, accepts⟩ := Option.bind_eq_some_iff.1 kept
    rw [Printer.isTold_of_uuid known]
    exact Uuid.not_prefix_of_normalize accepts

end Mdns

namespace Probe

/-- What an answer at an endpoint has to be for the letters of the id to tell. -/
structure Fits (template : EndpointTemplate) (answer : Capabilities) : Prop where
  scheme : Uuid.Blank answer.uuid → "ipp".toList <+: template.scheme.toList
  uuid : Uuid.Malformed answer.uuid → ¬ "ipp".toList <+: answer.uuid.toList

theorem isTold_resolved_iff (template : EndpointTemplate) (host : String) (answer : Capabilities) :
    (resolved host (template.uriFor host) answer).IsTold ↔ Fits template answer := by
  have given : (resolved host (template.uriFor host) answer).uuid = identity answer.uuid := by
    rw [resolved_eq]
  by_cases blank : Uuid.Blank answer.uuid
  · rw [Uuid.identity_of_blank blank] at given
    rw [Printer.isTold_of_path given]
    constructor
    · intro starts
      exact ⟨fun _ => (template.prefix_uriFor_iff host).1 starts,
        fun malformed => absurd blank malformed.1⟩
    · intro fits
      exact (template.prefix_uriFor_iff host).2 (fits.scheme blank)
  · rw [Uuid.identity_of_not_blank blank] at given
    cases accepts : Uuid.normalize answer.uuid with
    | some canonical =>
      rw [accepts, Option.getD_some] at given
      rw [Printer.isTold_of_uuid given]
      exact iff_of_true (Uuid.not_prefix_of_normalize accepts)
        ⟨fun empty => absurd empty blank, fun malformed =>
          absurd malformed (Uuid.not_malformed_of_normalize accepts)⟩
    | none =>
      have malformed : Uuid.Malformed answer.uuid := ⟨blank, Uuid.normalize_eq_none_iff.1 accepts⟩
      rw [accepts, Option.getD_none] at given
      rw [Printer.isTold_of_uuid given]
      exact ⟨fun other => ⟨fun empty => absurd empty blank, fun _ => other⟩,
        fun fits => fits.uuid malformed⟩

/-- A printer that a run finds has answered at the URI of one of its templates. -/
theorem found_of_run {templates : List EndpointTemplate} {behave : String → Behaviour}
    {patience : Nat} {hostname : String} {probe : Probe} {found : Printer} {supported : Bool}
    (ran : Probe.run templates behave patience hostname = .ok probe)
    (ended : probe.outcome = some (.found found supported)) :
    ∃ template ∈ templates, ∃ delay answer,
      behave (template.uriFor (Text.trimmed hostname)) = .answers delay (some answer) ∧
        found = resolved (Text.trimmed hostname) (template.uriFor (Text.trimmed hostname)) answer := by
  have named : Text.trimmed hostname ≠ "" := by
    intro empty
    have refused : hostname? hostname = .error (.invalidHostname hostname) :=
      if_pos (String.isEmpty_iff.2 empty)
    rw [Probe.run, refused] at ran
    cases ran
  cases patience with
  | zero =>
    -- Whoever does not wait sees nothing of a race.
    have unseen (instants : List Nat) : instants.filter (· < 0) = [] := by simp
    have accepted : hostname? hostname = .ok (Text.trimmed hostname) :=
      if_neg (mt String.isEmpty_iff.1 named)
    rw [Probe.run, accepted] at ran
    cases ran
    dsimp only at ended
    rw [unseen] at ended
    cases ended
  | succ moment =>
    rw [run_eq templates behave named moment] at ran
    cases ran
    obtain ⟨uri, candidate, delay, answer, answers, resolves, _⟩ := outcome_seen _ ended
    obtain ⟨template, listed, rfl⟩ := List.mem_map.1 candidate
    exact ⟨template, listed, delay, answer, answers, resolves⟩

end Probe

namespace Session

/-- Losing a printer that is known by its address only drops what is cached at its path, and losing
any other drops nothing. -/
def ForgetsByAddress (printer : Printer) : Prop :=
  ∀ (session : Session) (moment : Moment), session.destroyed = false →
    forgotten (session.handle moment (.lost printer)).2 =
      if printer.uuid = none then [printer.path] else []

theorem forgetsByAddress_iff {printer : Printer} : ForgetsByAddress printer ↔ printer.IsTold := by
  have lost {session : Session} (lives : session.destroyed = false) (moment : Moment) :
      forgotten (session.handle moment (.lost printer)).2 =
        if printer.id.isNetworkAddress then [printer.uri] else [] := by
    rw [handle, lives, if_neg Bool.false_ne_true]
    exact session.forgotten_of_lost moment.now printer
  constructor
  · intro forgets
    have drops := forgets (fresh 0 (.empty 0)) ⟨0, fun _ => none⟩ rfl
    rw [lost rfl] at drops
    constructor
    · intro network
      by_contra known
      rw [if_pos network, if_neg known] at drops
      cases drops
    · intro unknown
      by_contra apart
      rw [if_neg apart, if_pos unknown] at drops
      cases drops
  · intro told session moment lives
    rw [lost lives]
    cases known : printer.uuid with
    | none =>
      rw [if_pos (told.2 known), Printer.uri, known]
      rfl
    | some text =>
      have apart : ¬ printer.id.isNetworkAddress = true := by
        intro network
        rw [told.1 network] at known
        cases known
      rw [if_neg apart]
      rfl

/-- Every printer that is browsed is told by the letters of its id, and its loss drops what is cached
at its path exactly if it has no uuid. Whatever a run finds has answered at an endpoint of its
templates, and both hold of it exactly if that answer fits that endpoint. -/
theorem network_addresses_are_told (tls : Bool) (service : Mdns.Service)
    (templates : List EndpointTemplate) (behave : String → Behaviour) (patience : Nat)
    (hostname : String) :
    (∀ found, Mdns.printer tls service = .ok found → found.IsTold ∧ ForgetsByAddress found) ∧
    ∀ probe found supported, Probe.run templates behave patience hostname = .ok probe →
      probe.outcome = some (.found found supported) →
        let host := Text.trimmed hostname
        ∃ template ∈ templates, ∃ delay answer,
          behave (template.uriFor host) = .answers delay (some answer) ∧
            found = Probe.resolved host (template.uriFor host) answer ∧
              (found.IsTold ↔ Probe.Fits template answer) ∧
                (ForgetsByAddress found ↔ Probe.Fits template answer) := by
  constructor
  · intro found resolved
    have told := Mdns.isTold_of_printer resolved
    exact ⟨told, forgetsByAddress_iff.2 told⟩
  · intro probe found supported ran ended host
    obtain ⟨template, listed, delay, answer, answers, rfl⟩ := Probe.found_of_run ran ended
    have told := Probe.isTold_resolved_iff template host answer
    exact ⟨template, listed, delay, answer, answers, rfl, told, forgetsByAddress_iff.trans told⟩

theorem network_addresses_are_told_at_office :
    let service : Mdns.Service := ⟨"Office", "_ipp._tcp.local.", [.v4 10 0 0 5], 631, []⟩
    let template : EndpointTemplate := ⟨"http", 631, "/ipp/print"⟩
    (∃ found, Mdns.printer false service = .ok found ∧ ForgetsByAddress found) ∧
      ∃ probe found, Probe.run [template] (fun _ => .answers 200 (some default)) 201 "office" =
        .ok probe ∧ probe.outcome = some (.found found false) ∧ ¬ ForgetsByAddress found := by
  intro service template
  let behave : String → Behaviour := fun _ => .answers 200 (some default)
  obtain ⟨browsed, probed⟩ := network_addresses_are_told false service [template] behave 201 "office"
  have shown : ∃ found, Mdns.printer false service = .ok found := ⟨_, rfl⟩
  obtain ⟨printer, shown⟩ := shown
  refine ⟨⟨printer, shown, (browsed printer shown).2⟩, ?_⟩
  let uris := EndpointTemplate.candidates [template] (Text.trimmed "office")
  have first : Probe.FirstSuccess behave uris 0 (template.uriFor (Text.trimmed "office")) 200
      default := by
    refine ⟨rfl, rfl, ?_⟩
    intro other rival later told _ stated
    cases stated
    exact Or.inr ⟨rfl, Nat.zero_le other⟩
  have named : Text.trimmed "office" ≠ "" := by decide
  have ran := Probe.run_eq [template] behave named 200
  have ended := Probe.seen_of_first (Text.trimmed "office") first (Nat.le_refl 200)
  refine ⟨_, _, ran, congrArg Probe.outcome ended, ?_⟩
  obtain ⟨other, listed, delay, answer, answers, _, _, forgets⟩ :=
    probed _ _ _ ran (congrArg Probe.outcome ended)
  cases answers
  cases List.mem_singleton.1 listed
  rw [forgets]
  intro fits
  exact absurd (fits.scheme fun c member => absurd member List.not_mem_nil) (by decide)

/-- A printer behind another scheme is known by its address only and is no network address, and a
malformed uuid may be taken for one. -/
theorem letters_do_not_tell :
    let template : EndpointTemplate := ⟨"http", 631, "/ipp/print"⟩
    let plain := Probe.resolved "printer.local" (template.uriFor "printer.local") default
    let named := Probe.resolved "other.local" (template.uriFor "other.local")
      { (default : Capabilities) with uuid := "ipp-7" }
    (plain.uuid = none ∧ plain.id.isNetworkAddress = false) ∧
      named.uuid = some "ipp-7" ∧ named.id.isNetworkAddress = true := by
  decide +kernel

end Session

end PrinterRoster
