import PrinterRoster.Mdns.Service
import PrinterRoster.Probe
import PrinterRoster.Proofs.Uuid.Forms

/-! One text that a device reports as its identifier, once in the announcement of a service and once
in the answer to a query. Both ways give the same identifier, unless the text is malformed: then the
browser drops it, while the prober keeps it as it is. -/
namespace PrinterRoster.Uuid
open Text

def Blank (text : String) : Prop := ∀ c ∈ text.toList, isBlank c = true

/-- Neither blank nor the report of an identifier. -/
def Malformed (text : String) : Prop :=
  ¬ Blank text ∧ ¬ ∃ bits, Reports InEitherCase text bits

section Texts
variable {text : String}

private theorem normalize_of_blank (blank : Blank text) : normalize text = none := by
  have unread : parse? (withoutScheme []) = none := by decide
  rw [normalize, ofReport?, trim_of_all_blank blank, unread, Option.map_none]

theorem identity_of_blank (blank : Blank text) : Probe.identity text = none := by
  rw [Probe.identity, trim_of_all_blank blank]
  rfl

theorem identity_of_not_blank (shows : ¬ Blank text) :
    Probe.identity text = some ((normalize text).getD text) := by
  have kept : trim text.toList ≠ [] := fun empty => shows (trim_eq_nil_iff.1 empty)
  simp [Probe.identity, kept]

private theorem not_blank_of_reports {bits : BitVec 128}
    (reports : Reports InEitherCase text bits) : ¬ Blank text :=
  fun blank => normalize_eq_none_iff.1 (normalize_of_blank blank) ⟨bits, reports⟩

end Texts

section Ways
variable {tls : Bool} {service : Mdns.Service} {found : Printer} {host uri : String}
  {answer : Capabilities} {text : String}

theorem uuid_of_printer (shown : Mdns.printer tls service = .ok found) :
    found.uuid = (service.property? "UUID").bind normalize := by
  have shows : (service.property? "UUID").bind normalize ≠ some "" := by
    intro empty
    obtain ⟨reported, _, accepts⟩ := Option.bind_eq_some_iff.1 empty
    exact normalize_ne_some_empty reported accepts
  unfold Mdns.printer at shown
  split at shown
  · cases shown
  · cases shown
    rw [Printer.report_eq shows]

private theorem uuid_of_service (announced : service.property? "UUID" = some text)
    (shown : Mdns.printer tls service = .ok found) : found.uuid = normalize text := by
  rw [uuid_of_printer shown, announced, Option.bind_some]

private theorem uuid_of_answer (answered : answer.uuid = text) :
    (Probe.resolved host uri answer).uuid = Probe.identity text := by
  rw [Probe.resolved_eq, answered]

/-- The browser and the prober give a printer the same identifier exactly if the text is not
malformed. -/
theorem same_uuid_iff_not_malformed (announced : service.property? "UUID" = some text)
    (shown : Mdns.printer tls service = .ok found) (answered : answer.uuid = text) :
    (found.uuid = (Probe.resolved host uri answer).uuid ↔ ¬ Malformed text) ∧
    (Blank text → found.uuid = none ∧ (Probe.resolved host uri answer).uuid = none) ∧
    (∀ bits, Reports InEitherCase text bits → ∃ canonical, Canonical bits canonical ∧
      found.uuid = some canonical ∧ (Probe.resolved host uri answer).uuid = some canonical) ∧
    (Malformed text → found.uuid = none ∧ (Probe.resolved host uri answer).uuid = some text) := by
  rw [uuid_of_service announced shown, uuid_of_answer answered]
  have reported : ∀ bits, Reports InEitherCase text bits → ∃ canonical, Canonical bits canonical ∧
      normalize text = some canonical ∧ Probe.identity text = some canonical := by
    intro bits reports
    obtain ⟨canonical, form, accepts⟩ := normalize_of_reports reports
    refine ⟨canonical, form, accepts, ?_⟩
    rw [identity_of_not_blank (not_blank_of_reports reports), accepts, Option.getD_some]
  have vacant : Blank text → normalize text = none ∧ Probe.identity text = none :=
    fun blank => ⟨normalize_of_blank blank, identity_of_blank blank⟩
  have malformed : Malformed text → normalize text = none ∧ Probe.identity text = some text := by
    rintro ⟨shows, unreported⟩
    have rejects := normalize_eq_none_iff.2 unreported
    refine ⟨rejects, ?_⟩
    rw [identity_of_not_blank shows, rejects, Option.getD_none]
  refine ⟨⟨?_, ?_⟩, vacant, reported, malformed⟩
  · intro same wrong
    obtain ⟨dropped, kept⟩ := malformed wrong
    rw [dropped, kept] at same
    cases same
  · intro fine
    by_cases blank : Blank text
    · rw [(vacant blank).1, (vacant blank).2]
    · obtain ⟨bits, reports⟩ := not_not.1 fun none => fine ⟨blank, none⟩
      obtain ⟨canonical, -, browsed, probed⟩ := reported bits reports
      rw [browsed, probed]

end Ways

def announcing (address : Address) (text : String) : Mdns.Service :=
  ⟨"Office", "_ipp._tcp.local.", [address], 631, [("UUID", text)]⟩

def answering (text : String) : Capabilities :=
  { (default : Capabilities) with isSupported := true, name := "Office", uuid := text }

theorem same_uuid_in_upper_case :
    let service := announcing (.v4 10 0 0 5) " URN:UUID:4509A32000A0008F00B6002507510ECA"
    ∃ found, Mdns.printer false service = .ok found ∧
      found.uuid = (Probe.resolved "10.0.0.5" "ipp://10.0.0.5:631/ipp/print"
        (answering " URN:UUID:4509A32000A0008F00B6002507510ECA")).uuid := by
  intro service
  have shown : ∃ found, Mdns.printer false service = .ok found := ⟨_, rfl⟩
  obtain ⟨found, shown⟩ := shown
  refine ⟨found, shown, (same_uuid_iff_not_malformed (by decide) shown rfl).1.2 ?_⟩
  rintro ⟨-, unreported⟩
  exact absurd (normalize_eq_none_iff.2 unreported) (by decide +kernel)

theorem malformed_uuid_is_kept_by_prober :
    ∃ found, Mdns.printer false (announcing (.v4 10 0 0 5) "not-a-uuid") = .ok found ∧
      found.uuid = none ∧
        (Probe.resolved "10.0.0.5" "ipp://10.0.0.5:631/ipp/print" (answering "not-a-uuid")).uuid =
          some "not-a-uuid" := by
  refine ⟨_, rfl, ?_, ?_⟩ <;> decide +kernel

end PrinterRoster.Uuid
