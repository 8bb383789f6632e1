import PrinterRoster.Manual.Saved
import PrinterRoster.Proofs.Json.RoundTrip
import PrinterRoster.Proofs.Manual.Stamps

/-! The file of the saved printers holds what was saved: reading it gives back every printer and
every time, in order. -/
namespace PrinterRoster

theorem Json.writable_optionalText (text : Option String) :
    Json.Writable (Json.optionalText text) := by
  cases text with
  | none => exact .null
  | some text => exact .text text

theorem Json.asOptionalText?_optionalText (text : Option String) :
    (Json.optionalText text).asOptionalText? = some text := by
  cases text <;> rfl

theorem Printer.writable_toJson (printer : Printer) : Json.Writable printer.toJson := by
  refine .record fun member listed => ?_
  simp only [List.mem_cons, List.not_mem_nil, or_false] at listed
  rcases listed with rfl | rfl | rfl | rfl
  · exact Json.writable_optionalText printer.uuid
  · exact .text printer.name
  · exact .text printer.path
  · exact Json.writable_optionalText printer.location

theorem Printer.ofJson?_toJson (printer : Printer) : Printer.ofJson? printer.toJson = some printer := by
  have fields : printer.toJson.fields? false ["uuid", "name", "path", "location"] =
      some [some (.optionalText printer.uuid), some (.text printer.name), some (.text printer.path),
        some (.optionalText printer.location)] := by
    rfl
  rw [Printer.ofJson?, fields]
  simp [Json.defaulted?, Json.required?, Json.asOptionalText?_optionalText, Json.text, Json.asText?]

namespace SavedPrinter

theorem writable_toJson (saved : SavedPrinter) : Json.Writable saved.toJson := by
  refine .record fun member listed => ?_
  simp only [List.mem_cons, List.not_mem_nil, or_false] at listed
  rcases listed with rfl | rfl
  · exact saved.printer.writable_toJson
  · exact .text saved.addedAt.text

theorem ofJson?_toJson (saved : SavedPrinter) : ofJson? saved.toJson = some saved := by
  have fields : saved.toJson.fields? false ["printer", "added_at"] =
      some [some saved.printer.toJson, some (.text saved.addedAt.text)] := by
    rfl
  rw [ofJson?, fields]
  simp [Json.required?, Printer.ofJson?_toJson, Json.text, Json.asText?, Stamp.parse?_text]

theorem parse?_fileText (saved : List SavedPrinter) : parse? (fileText saved) = some saved := by
  have writable : Json.Writable (.array (saved.map toJson)) := by
    refine .array fun item listed => ?_
    obtain ⟨entry, _, rfl⟩ := List.mem_map.1 listed
    exact entry.writable_toJson
  have read : Json.parse? (fileText saved) = some (.array (saved.map toJson)) :=
    Json.parse?_render Json.blank_indented writable
  have each : (saved.map toJson).mapM ofJson? = some saved := by
    rw [Json.mapM_eq_some_iff, List.map_map]
    exact List.map_congr_left fun entry _ => ofJson?_toJson entry
  rw [parse?, read]
  exact each

/-- A file in which printers were saved gives them back. -/
theorem load_fileText (saved : List SavedPrinter) : load (.text (fileText saved)) = saved := by
  have content : (StoredFile.text (fileText saved)).content? = some (fileText saved) := rfl
  rw [load, content, Option.bind_some, parse?_fileText, Option.getD_some]

end SavedPrinter

end PrinterRoster
