import PrinterRoster.Proofs.Json.RoundTrip
import PrinterRoster.Proofs.KnownGood.Order

/-! The known-good list between sessions. It starts from a file: from the first ids of a JSON
array of texts, each taken once, and from nothing if the file holds anything else. What becomes of
it is saved as such an array, so it is loaded again as it was, up to the capacity. -/
namespace PrinterRoster.KnownGood

def listing (ids : List PrinterId) : Json := .array (ids.map fun id => .text id.text)

theorem asText?_eq_some_iff {item : Json} {id : PrinterId} :
    item.asText?.map PrinterId.mk = some id ↔ item = .text id.text := by
  constructor
  · intro read
    obtain ⟨text, told, rfl⟩ := Option.map_eq_some_iff.1 read
    cases item with
    | string value =>
      obtain rfl : value = some text := told
      rfl
    | _ => cases told
  · rintro rfl
    rfl

theorem asList?_eq_some_iff {value : Json} {ids : List PrinterId} :
    Json.asList? (fun item => item.asText?.map PrinterId.mk) value = some ids ↔
      value = listing ids := by
  have each {items : List Json} :
      items.mapM (fun item => item.asText?.map PrinterId.mk) = some ids ↔
        items = ids.map fun id => .text id.text := by
    rw [Json.mapM_eq_some_iff]
    induction items generalizing ids with
    | nil => cases ids <;> simp
    | cons item others ih =>
      cases ids with
      | nil => simp
      | cons id ids =>
        rw [List.map_cons, List.map_cons, List.map_cons, List.cons.injEq, List.cons.injEq, ih,
          asText?_eq_some_iff]
  constructor
  · intro read
    obtain ⟨items, isArray, read⟩ := Option.bind_eq_some_iff.1 read
    cases value with
    | array inside =>
      obtain rfl : inside = items := Option.some.inj isArray
      rw [each.1 read, listing]
    | _ => cases isArray
  · rintro rfl
    exact each.2 rfl

/-- A text is read as a list of ids exactly if it is JSON for that list. -/
theorem parse?_eq_some_iff {content : String} {ids : List PrinterId} :
    parse? content = some ids ↔ Json.Denotes content.toList (.element (listing ids)) := by
  rw [parse?, Option.bind_eq_some_iff]
  constructor
  · rintro ⟨value, read, isList⟩
    rw [asList?_eq_some_iff] at isList
    rw [← isList]
    exact Json.parse?_eq_some_iff.1 read
  · intro denotes
    exact ⟨listing ids, Json.parse?_eq_some_iff.2 denotes, asList?_eq_some_iff.2 rfl⟩

private theorem writable_listing (ids : List PrinterId) : Json.Writable (listing ids) := by
  refine .array fun item member => ?_
  obtain ⟨id, _, rfl⟩ := List.mem_map.1 member
  exact .text id.text

theorem parse?_text (known : KnownGood) :
    parse? known.text = some (known.ids.take known.capacity) := by
  have read : Json.parse? known.text = some (listing (known.ids.take known.capacity)) :=
    Json.parse?_render Json.blank_oneLine (writable_listing _)
  rw [parse?, read, Option.bind_some, asList?_eq_some_iff]

theorem ofList_of_nodup {ids : List PrinterId} (nodup : ids.Nodup) (capacity : Nat) :
    ofList ids capacity = ⟨ids.take capacity, capacity⟩ := by
  rw [ofList, eraseDups_of_nodup nodup]

theorem load_save {known : KnownGood} (sound : known.Sound) {file : StoredFile}
    (writable : file.canWrite = true) (capacity : Nat) :
    load (known.save file) capacity = ⟨known.ids.take capacity, capacity⟩ := by
  rw [load, save, StoredFile.content?_write writable, Option.bind_some, parse?_text,
    List.take_of_length_le sound.fits, Option.getD_some, ofList_of_nodup sound.nodup]

private theorem ids_load_of_listing {file : StoredFile} {content : String} {ids : List PrinterId}
    (holds : file.content? = some content)
    (lists : Json.Denotes content.toList (.element (listing ids))) (capacity : Nat) :
    (load file capacity).ids = ids.eraseDups.take capacity := by
  rw [load, holds, Option.bind_some, parse?_eq_some_iff.2 lists]
  rfl

private theorem ids_load_of_other {file : StoredFile}
    (other : ∀ content ids, file.content? = some content →
      ¬ Json.Denotes content.toList (.element (listing ids))) (capacity : Nat) :
    (load file capacity).ids = [] := by
  have unread : file.content?.bind parse? = none := by
    rw [Option.bind_eq_none_iff]
    intro content holds
    cases read : parse? content with
    | none => rfl
    | some ids => exact absurd (parse?_eq_some_iff.1 read) (other content ids holds)
  rw [load, unread]
  exact List.take_nil

/-- The list after any changes is the front of their history, and in it is everybody for whom
there always was room. It starts from what a file lists and is loaded as it was saved. -/
theorem ids_follow_changes_and_file (file : StoredFile) (capacity : Nat) (changes : List Change) :
    let loaded := load file capacity
    let known := loaded.changeAll changes
    (∀ content ids, file.content? = some content →
      Json.Denotes content.toList (.element (listing ids)) →
        loaded.ids = ids.eraseDups.take capacity) ∧
    ((∀ content ids, file.content? = some content →
      ¬ Json.Denotes content.toList (.element (listing ids))) → loaded.ids = []) ∧
    known.ids.Nodup ∧ known.ids.length ≤ capacity ∧
    known.ids <+: promoted changes ++ loaded.ids.filter (fun id => latest? changes id = none) ∧
    (∀ id, id ∈ known.ids ↔ ∀ earlier later, changes = earlier ++ later → latest? later id = none →
      id ∈ (history loaded.ids earlier).take capacity) ∧
    ∀ target : StoredFile, target.canWrite = true → ∀ limit,
      load (known.save target) limit = ⟨known.ids.take limit, limit⟩ := by
  intro loaded known
  have sound : loaded.Sound := sound_ofList ..
  have soundNow : known.Sound := sound.changeAll changes
  have size : known.capacity = capacity := capacity_changeAll loaded changes
  exact ⟨fun _ _ holds lists => ids_load_of_listing holds lists capacity,
    fun other => ids_load_of_other other capacity, soundNow.nodup, size ▸ soundNow.fits,
    ids_prefix_history loaded changes, mem_changeAll_iff sound changes,
    fun _ writable limit => load_save soundNow writable limit⟩

/-- A file with blanks, an escape and an id listed twice; then one id is promoted, and the list is
saved and loaded with less room. -/
theorem ids_follow_changes_and_file_over_escapes :
    let content := "[ \"\\u0061\", \"\u00e9\\n\" ,\"a\"]"
    let ids : List PrinterId := [⟨"a"⟩, ⟨"\u00e9\n"⟩, ⟨"a"⟩]
    let loaded := load (.text content) 2
    let known := loaded.changeAll [.promote ⟨"b"⟩]
    Json.Denotes content.toList (.element (listing ids)) ∧ loaded.ids = ids.take 2 ∧
      latest? [.promote ⟨"b"⟩] ⟨"a"⟩ = none ∧ known.ids = [⟨"b"⟩, ⟨"a"⟩] ∧
        StoredFile.vacant.canWrite = true ∧ load (known.save .vacant) 1 = ⟨[⟨"b"⟩], 1⟩ := by
  intro content ids loaded known
  have read : parse? content = some ids := by decide +kernel
  have lists := parse?_eq_some_iff.1 read
  have writable : StoredFile.vacant.canWrite = true := rfl
  obtain ⟨start, _, _, _, _, _, saved⟩ :=
    ids_follow_changes_and_file (.text content) 2 [.promote ⟨"b"⟩]
  have distinct : ids.eraseDups.take 2 = ids.take 2 := by decide +kernel
  have now : known.ids = [⟨"b"⟩, ⟨"a"⟩] := by decide +kernel
  have again : load (known.save .vacant) 1 = ⟨known.ids.take 1, 1⟩ := saved .vacant writable 1
  rw [now] at again
  exact ⟨lists, (start content ids rfl lists).trans distinct, by decide +kernel, now, writable, again⟩

end PrinterRoster.KnownGood
