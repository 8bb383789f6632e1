import Mathlib.Data.List.Perm.Subperm
import PrinterRoster.Config
import PrinterRoster.Proofs.Json.RoundTrip
import PrinterRoster.Proofs.Manual.File

/-! Settings files. Settings that were saved are loaded again as they were. A file may also give some
of the settings only, in any order and among other members: then these are loaded from it, and the
others have their defaults. -/
namespace PrinterRoster

namespace Json

private theorem valuesAt_record (members : List (String × Json)) (name : String) :
    valuesAt (members.map fun member => (some member.1, member.2)) name =
      (members.filter fun member => member.1 = name).map Prod.snd := by
  rw [valuesAt, List.filter_map, List.map_map]
  rfl

/-- If the known members are a selection of some members of which one has a certain name, then that
one has been selected or none has that name. -/
theorem values_of_subperm {names : List String} {members all : List (String × Json)}
    (known : (members.filter fun member => member.1 ∈ names).Subperm all) {name : String}
    (listed : name ∈ names) {value : Json}
    (single : all.filter (fun member => member.1 = name) = [(name, value)]) :
    (members.filter fun member => member.1 = name).map Prod.snd =
      if name ∈ members.map Prod.fst then [value] else [] := by
  have narrowed : (members.filter fun member => member.1 ∈ names).filter
      (fun member => member.1 = name) = members.filter fun member => member.1 = name := by
    rw [List.filter_filter]
    apply List.filter_congr
    intro member _
    by_cases same : member.1 = name <;> simp [same, listed]
  have selected := known.filter fun member => member.1 = name
  rw [narrowed, single] at selected
  have named : name ∈ members.map Prod.fst ↔
      (members.filter fun member => member.1 = name) ≠ [] := by
    simp [List.filter_eq_nil_iff]
  cases found : members.filter fun member => member.1 = name with
  | nil =>
    rw [if_neg fun listed => named.1 listed found]
    rfl
  | cons first others =>
    rw [found] at selected named
    have none : others = [] := by
      have short := selected.length_le
      rw [List.length_cons, List.length_singleton] at short
      exact List.length_eq_zero_iff.1 (by omega)
    have same : first = (name, value) := List.mem_singleton.1 (selected.subset List.mem_cons_self)
    rw [if_pos (named.2 (List.cons_ne_nil first others)), none, same]
    rfl

theorem fields?_record {short : Bool} {names : List String} {members : List (String × Json)}
    {value? : String → Option Json}
    (each : ∀ name ∈ names, (members.filter fun member => member.1 = name).map Prod.snd =
      (value? name).toList) :
    fields? short names (.record members) = some (names.map value?) := by
  have keyed : (members.map fun member => (some member.1, member.2)).any
      (fun member => member.1.isNone) = false := by
    simp
  have single : names.any (fun name => (valuesAt
      (members.map fun member => (some member.1, member.2)) name).length > 1) = false := by
    rw [List.any_eq_false]
    intro name listed
    rw [valuesAt_record, each name listed]
    cases value? name <;> simp
  rw [record, fields?, membersNamed?, keyed, single, if_neg Bool.false_ne_true,
    if_neg Bool.false_ne_true]
  refine congrArg some (List.map_congr_left fun name listed => ?_)
  rw [valuesAt_record, each name listed, Option.head?_toList]

private theorem defaulted?_ite {α : Type} {initial read value} {given : α}
    (reads : read value = some given)
    (kept : Prop) [Decidable kept] :
    defaulted? initial read (if kept then some value else none) =
      some (if kept then given else initial) := by
  split
  · exact reads
  · rfl

end Json

theorem EndpointTemplate.writable_toJson (template : EndpointTemplate) :
    Json.Writable template.toJson := by
  refine .record fun member listed => ?_
  simp only [List.mem_cons, List.not_mem_nil, or_false] at listed
  rcases listed with rfl | rfl | rfl
  · exact .text template.scheme
  · exact .nat template.port.toNat
  · exact .text template.path

theorem EndpointTemplate.ofJson?_toJson (template : EndpointTemplate) :
    ofJson? template.toJson = some template := by
  have fields : template.toJson.fields? false ["scheme", "port", "path"] =
      some [some (.text template.scheme), some (.nat template.port.toNat),
        some (.text template.path)] := by
    rfl
  have port : Json.asNat? UInt16.size (.nat template.port.toNat) = some template.port.toNat :=
    if_pos template.port.toNat_lt
  rw [ofJson?, fields]
  simp [Json.required?, Json.text, Json.asText?, port]

namespace Config

def members (config : Config) : List (String × Json) :=
  [("expiration_millis", .nat config.expirationMillis.toNat),
    ("known_good_capacity", .nat config.knownGoodCapacity.toNat),
    ("probe_timeout_secs", .nat config.probeTimeoutSecs.toNat),
    ("connectivity_poll_secs", .nat config.connectivityPollSecs.toNat),
    ("endpoint_templates", .array (config.endpointTemplates.map EndpointTemplate.toJson)),
    ("cache_dir", .optionalText config.cacheDir)]

/-- The settings of these keys as they are, and the defaults of the others. -/
def keeping (keys : List String) (config : Config) : Config :=
  let initial : Config := {}
  { expirationMillis :=
      if "expiration_millis" ∈ keys then config.expirationMillis else initial.expirationMillis
    knownGoodCapacity :=
      if "known_good_capacity" ∈ keys then config.knownGoodCapacity else initial.knownGoodCapacity
    probeTimeoutSecs :=
      if "probe_timeout_secs" ∈ keys then config.probeTimeoutSecs else initial.probeTimeoutSecs
    connectivityPollSecs :=
      if "connectivity_poll_secs" ∈ keys then config.connectivityPollSecs
      else initial.connectivityPollSecs
    endpointTemplates :=
      if "endpoint_templates" ∈ keys then config.endpointTemplates else initial.endpointTemplates
    cacheDir := if "cache_dir" ∈ keys then config.cacheDir else initial.cacheDir }

private theorem asWord?_nat (word : UInt64) : asWord? (.nat word.toNat) = some word := by
  have small : Json.asNat? UInt64.size (.nat word.toNat) = some word.toNat := if_pos word.toNat_lt
  rw [asWord?, small, Option.map_some, UInt64.ofNat_toNat]

private theorem asList?_templates (templates : List EndpointTemplate) :
    Json.asList? EndpointTemplate.ofJson? (.array (templates.map EndpointTemplate.toJson)) =
      some templates := by
  have each : (templates.map EndpointTemplate.toJson).mapM EndpointTemplate.ofJson? =
      some templates := by
    rw [Json.mapM_eq_some_iff, List.map_map]
    exact List.map_congr_left fun template _ => template.ofJson?_toJson
  exact each

private theorem value_of_listed (config : Config) {name : String} (listed : name ∈ fieldNames) :
    ∃ value, config.members.lookup name = some value ∧
      config.members.filter (fun member => member.1 = name) = [(name, value)] := by
  simp only [fieldNames, List.mem_cons, List.not_mem_nil, or_false] at listed
  rcases listed with rfl | rfl | rfl | rfl | rfl | rfl <;> exact ⟨_, rfl, rfl⟩

/-- What a record gives of settings is read, and the rest takes its defaults. -/
theorem ofJson?_record {config : Config} {members : List (String × Json)}
    (known : (members.filter fun member => member.1 ∈ fieldNames).Subperm config.members) :
    ofJson? (.record members) = some (config.keeping (members.map Prod.fst)) := by
  let keys := members.map Prod.fst
  have fields : Json.fields? true fieldNames (.record members) =
      some (fieldNames.map fun name => if name ∈ keys then config.members.lookup name else none) := by
    apply Json.fields?_record
    intro name listed
    obtain ⟨value, found, single⟩ := value_of_listed config listed
    rw [Json.values_of_subperm known listed single, found]
    split <;> rfl
  have listed : fieldNames.map (fun name =>
      if name ∈ keys then config.members.lookup name else none) =
        [if "expiration_millis" ∈ keys then some (.nat config.expirationMillis.toNat) else none,
          if "known_good_capacity" ∈ keys then some (.nat config.knownGoodCapacity.toNat) else none,
          if "probe_timeout_secs" ∈ keys then some (.nat config.probeTimeoutSecs.toNat) else none,
          if "connectivity_poll_secs" ∈ keys then some (.nat config.connectivityPollSecs.toNat)
            else none,
          if "endpoint_templates" ∈ keys then
            some (.array (config.endpointTemplates.map EndpointTemplate.toJson)) else none,
          if "cache_dir" ∈ keys then some (.optionalText config.cacheDir) else none] := rfl
  rw [ofJson?, fields, listed]
  simp only [Json.defaulted?_ite (asWord?_nat _), Json.defaulted?_ite (asList?_templates _),
    Json.defaulted?_ite (Json.asOptionalText?_optionalText _), Option.bind_eq_bind, Option.bind_some]
  rfl

private theorem save_of_writable {file : StoredFile} (writable : file.writeFault? = none)
    (config : Config) : config.save file = .ok (.text config.text) := by
  have kept : file.write config.text = .text config.text := by
    cases file with
    | directory => cases writable
    | unreachable fault => cases writable
    | _ => rfl
  rw [save, writable, kept]

theorem writable_toJson (config : Config) : Json.Writable config.toJson := by
  refine .record fun member listed => ?_
  simp only [List.mem_cons, List.not_mem_nil, or_false] at listed
  rcases listed with rfl | rfl | rfl | rfl | rfl | rfl
  · exact .nat _
  · exact .nat _
  · exact .nat _
  · exact .nat _
  · refine .array fun item listed => ?_
    obtain ⟨template, _, rfl⟩ := List.mem_map.1 listed
    exact template.writable_toJson
  · exact Json.writable_optionalText config.cacheDir

/-- A file that can be written holds the settings that are saved in it. From a record that gives some
of the settings, in any order and among any other members, these are loaded as given and the others as
their defaults. -/
theorem settings_stand_in_files (config : Config) :
    (∀ file : StoredFile, file.writeFault? = none →
      ∃ written, config.save file = .ok written ∧ load written = .ok config) ∧
    ∀ (content : String) (members : List (String × Json)),
      Json.Denotes content.toList (.element (.record members)) →
      (members.filter fun member => member.1 ∈ fieldNames).Subperm config.members →
        load (.text content) = .ok (config.keeping (members.map Prod.fst)) := by
  have loads : ∀ (content : String) (members : List (String × Json)),
      Json.parse? content = some (.record members) →
      (members.filter fun member => member.1 ∈ fieldNames).Subperm config.members →
        load (.text content) = .ok (config.keeping (members.map Prod.fst)) := by
    intro content members read known
    have parsed : parse? content = some (config.keeping (members.map Prod.fst)) := by
      rw [parse?, read, Option.bind_some, ofJson?_record known]
    simp only [load, StoredFile.read, parsed]
  constructor
  · intro file writable
    have read : Json.parse? config.text = some (.record config.members) :=
      Json.parse?_render Json.blank_indented config.writable_toJson
    have all : (config.members.filter fun member => member.1 ∈ fieldNames) = config.members := rfl
    refine ⟨.text config.text, save_of_writable writable config, ?_⟩
    exact loads config.text config.members read (all ▸ List.Subperm.refl _)
  · intro content members denotes known
    exact loads content members (Json.parse?_eq_some_iff.2 denotes) known

/-- Two of the settings, in another order and with an escape, after a member that is not known. -/
theorem settings_stand_in_files_among_others :
    let config : Config := { expirationMillis := 18446744073709551615, cacheDir := some "a\"b" }
    let content :=
      "\x7b\"zone\":[null],\"cache_dir\":\"a\\\"b\",\"expiration_millis\":18446744073709551615\x7d"
    let members := [("zone", .array [.null]), ("cache_dir", .text "a\"b"),
      ("expiration_millis", .nat 18446744073709551615)]
    StoredFile.vacant.writeFault? = none ∧
      (∃ written, config.save .vacant = .ok written ∧ load written = .ok config) ∧
      Json.Denotes content.toList (.element (.record members)) ∧
      (members.filter fun member => member.1 ∈ fieldNames).Subperm config.members ∧
      load (.text content) = .ok config := by
  intro config content members
  have shown : (Json.record members).compact = content := by decide +kernel
  have writable : Json.Writable (.record members) := by
    refine .record fun member listed => ?_
    simp only [members, List.mem_cons, List.not_mem_nil, or_false] at listed
    rcases listed with rfl | rfl | rfl
    · exact .array fun item listed => List.mem_singleton.1 listed ▸ .null
    · exact .text _
    · exact .nat _
  have read : Json.parse? content = some (.record members) :=
    shown ▸ Json.parse?_render Json.blank_oneLine writable
  have denotes := Json.parse?_eq_some_iff.1 read
  have inOrder : [("expiration_millis", .nat 18446744073709551615), ("cache_dir", .text "a\"b")].Sublist
      config.members := .cons_cons _ (.cons _ (.cons _ (.cons _ (.cons _ (.cons_cons _ .slnil)))))
  have known : (members.filter fun member => member.1 ∈ fieldNames).Subperm config.members :=
    ⟨_, .swap _ _ _, inOrder⟩
  obtain ⟨saved, loaded⟩ := settings_stand_in_files config
  exact ⟨rfl, saved .vacant rfl, denotes, known, loaded content members denotes known⟩

end Config

end PrinterRoster
