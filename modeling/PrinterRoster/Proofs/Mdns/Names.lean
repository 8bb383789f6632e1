import Mathlib.Data.List.DropRight
import PrinterRoster.Mdns.Service
import PrinterRoster.Proofs.Address.Text

/-! The name under which an announced printer is shown. Its full name is its label, a dot and its
type, and taking these two away again takes away the dots at the end of the label as well. So the name
is the label exactly if that does not end in a dot. -/
namespace PrinterRoster.Mdns
open Text

/-- What is left of a label after it was put into a full name. -/
theorem instanceName_composed (label serviceType : String) :
    (instanceName (label ++ "." ++ serviceType) serviceType).toList =
      label.toList.rdropWhile (· == '.') := by
  have whole : (label ++ "." ++ serviceType).toList = label.toList ++ ['.'] ++ serviceType.toList := by
    simp
  have before : serviceType.toList.isSuffixOf? (label ++ "." ++ serviceType).toList =
      some (label.toList ++ ['.']) :=
    List.isSuffixOf?_eq_some_iff_append_eq.2 whole.symm
  rw [instanceName, before, String.toList_ofList]
  exact List.rdropWhile_concat_pos (· == '.') label.toList '.' rfl

theorem instanceName_composed_eq_iff (label serviceType : String) :
    instanceName (label ++ "." ++ serviceType) serviceType = label ↔
      label.toList.getLast? ≠ some '.' := by
  rw [← String.toList_inj, instanceName_composed, List.rdropWhile_eq_self_iff]
  constructor
  · intro whole ends
    have nonempty : label.toList ≠ [] := by
      intro empty
      rw [empty] at ends
      cases ends
    rw [List.getLast?_eq_some_getLast nonempty] at ends
    exact whole nonempty (beq_iff_eq.2 (Option.some.inj ends))
  · intro ends nonempty last
    exact ends (by rw [List.getLast?_eq_some_getLast nonempty, beq_iff_eq.1 last])

private theorem isEmpty_instanceName_composed (label serviceType : String) :
    (instanceName (label ++ "." ++ serviceType) serviceType).isEmpty = true ↔
      ∀ c ∈ label.toList, c = '.' := by
  rw [String.isEmpty_iff, ← String.toList_inj, instanceName_composed, String.toList_empty,
    List.rdropWhile_eq_nil_iff]
  simp only [beq_iff_eq]

private theorem exists_dots (label serviceType : String) :
    ∃ dots, label.toList =
      (instanceName (label ++ "." ++ serviceType) serviceType).toList ++ List.replicate dots '.' := by
  let behind := label.toList.rtakeWhile (· == '.')
  have each : ∀ c ∈ behind, c = '.' := by
    intro c member
    have dot : (c == '.') = true := List.mem_rtakeWhile_imp (p := (· == '.')) member
    exact beq_iff_eq.1 dot
  refine ⟨behind.length, ?_⟩
  rw [instanceName_composed, ← List.eq_replicate_of_mem each, List.rdropWhile_append_rtakeWhile]

section Shown
variable {tls : Bool} {service : Service} {found : Printer}
  (browsed : service.mainType = printType tls) (resolved : printer tls service = .ok found)
include browsed resolved

private theorem exists_name : ∃ address : Address, found.name =
    if (instanceName (service.label ++ "." ++ printType tls) (printType tls)).isEmpty then
      (service.property? "ty").getD (String.ofList address.text)
    else instanceName (service.label ++ "." ++ printType tls) (printType tls) := by
  have whole : service.label ++ "." ++ printType tls = service.fullName := by
    rw [Service.fullName, browsed]
  unfold printer at resolved
  split at resolved
  · cases resolved
  · rename_i address _
    cases resolved
    rw [whole]
    exact ⟨address, rfl⟩

/-- An address is never written as dots alone, so only a property names a printer so. -/
theorem name_of_dots (dots : ∀ c ∈ service.label.toList, c = '.') :
    found.name = service.label ↔ service.property? "ty" = some service.label := by
  obtain ⟨address, named⟩ := exists_name browsed resolved
  rw [if_pos ((isEmpty_instanceName_composed _ _).2 dots)] at named
  rw [named]
  cases service.property? "ty" with
  | some described => simp
  | none =>
    obtain ⟨c, member, letter⟩ := address.exists_mem_text_ne_dot
    constructor
    · intro same
      rw [Option.getD_none] at same
      exact absurd (dots c (by rw [← same, String.toList_ofList]; exact member)) letter
    · intro absent
      cases absent

private theorem name_of_letters (letters : ¬ ∀ c ∈ service.label.toList, c = '.') :
    found.name = service.label ↔ service.label.toList.getLast? ≠ some '.' := by
  obtain ⟨address, named⟩ := exists_name browsed resolved
  rw [named, if_neg (mt (isEmpty_instanceName_composed _ _).1 letters)]
  exact instanceName_composed_eq_iff service.label (printType tls)

end Shown

/-- Taking a full name apart loses the dots at the end of the label and nothing else. The name of the
printer is then the label, unless such dots were lost; a label of nothing but dots leaves the name to
the property that describes the printer. -/
theorem name_is_label_iff (label serviceType : String) :
    (instanceName (label ++ "." ++ serviceType) serviceType = label ↔
      label.toList.getLast? ≠ some '.') ∧
    (∃ dots, label.toList =
      (instanceName (label ++ "." ++ serviceType) serviceType).toList ++ List.replicate dots '.') ∧
    ∀ (tls : Bool) (service : Service) (found : Printer), label ≠ "" → service.label = label →
      service.mainType = printType tls → printer tls service = .ok found →
        (found.name = label ↔ label.toList.getLast? ≠ some '.' ∨
          (∀ c ∈ label.toList, c = '.') ∧ service.property? "ty" = some label) := by
  refine ⟨instanceName_composed_eq_iff label serviceType, exists_dots label serviceType, ?_⟩
  rintro tls service found labelled rfl browsed resolved
  by_cases dots : ∀ c ∈ service.label.toList, c = '.'
  · have ends : service.label.toList.getLast? = some '.' := by
      have nonempty : service.label.toList ≠ [] := by simpa using labelled
      rw [List.getLast?_eq_some_getLast nonempty, dots _ (List.getLast_mem nonempty)]
    rw [name_of_dots browsed resolved dots]
    exact ⟨fun described => Or.inr ⟨dots, described⟩,
      fun either => (either.resolve_left fun plain => plain ends).2⟩
  · rw [name_of_letters browsed resolved dots]
    exact ⟨Or.inl, fun either => either.resolve_right fun only => dots only.1⟩

theorem name_is_label_iff_over_dots :
    let service : Service := ⟨"2nd. floor", "_ipp._tcp.local.", [.v4 10 0 0 5], 631, []⟩
    service.label ≠ "" ∧ service.mainType = printType false ∧
      ∃ found, printer false service = .ok found ∧ found.name = "2nd. floor" := by
  intro service
  have labelled : service.label ≠ "" := by decide
  have browsed : service.mainType = printType false := by decide +kernel
  obtain ⟨_, _, named⟩ := name_is_label_iff service.label "_ipp._tcp.local."
  refine ⟨labelled, browsed, _, rfl, ?_⟩
  exact (named false service _ labelled rfl browsed rfl).2 (Or.inl (by decide))

/-- A label that ends in a dot loses it. -/
theorem dot_at_end_of_label_is_lost :
    "2nd fl." ≠ "" ∧ "_ipp._tcp.local.".toList.head? ≠ some '.' ∧
      "_ipp._tcp.local.".toList.getLast? = some '.' ∧
      instanceName ("2nd fl." ++ "." ++ "_ipp._tcp.local.") "_ipp._tcp.local." = "2nd fl" := by
  refine ⟨?_, ?_, ?_, ?_⟩ <;> decide +kernel

end PrinterRoster.Mdns
