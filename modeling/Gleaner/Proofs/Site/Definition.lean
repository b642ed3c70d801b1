import Gleaner.Proofs.Json.Slot
import Gleaner.Site.Definition

/-!
How site definitions are written and read: every record in them is stable, so that a definition is
what it was after a detour through JSON, also where overrides were merged over it.
-/
namespace Gleaner

open Json

theorem stable_strings : Stable (arrayOf? str?) ofStrings := stable_str.toFaithful.array

theorem wellKeyed_ofStrings (xs : List String) : (ofStrings xs).WellKeyed := by
  rw [ofStrings, wellKeyed_arr]
  intro j hj
  obtain ⟨s, _, rfl⟩ := List.mem_map.mp hj
  trivial

theorem Selectors.stable : Stable Selectors.ofJson? Selectors.toJson := by
  refine Faithful.stable ⟨?_, ?_⟩ ?_
  · intro v hv
    cases v with
    | one s => rfl
    | many ss =>
      have h := stable_strings.read_write ss hv
      exact congrArg (Option.map Selectors.many) h
  · intro j v _
    cases v with
    | one s => trivial
    | many ss => exact wellKeyed_ofStrings ss
  · intro v members
    cases v <;> simp [Selectors.toJson, ofStrings]

theorem stable_choice {α : Type} {choices : List (String × α)} {name : α → String}
    (h : ∀ v, choices.lookup (name v) = some v) : Stable (choice? choices) fun v => .str (name v) :=
  Faithful.stable ⟨fun v _ => h v, fun _ _ _ => trivial⟩ (by simp)

theorem PageFormat.stable : Stable PageFormat.ofJson? fun f => .str f.name :=
  stable_choice fun f => by cases f <;> rfl

theorem AuthPolicy.stable : Stable AuthPolicy.ofJson? fun p => .str p.name :=
  stable_choice fun p => by cases p <;> rfl

namespace FilterStep

def callSlots : List (Slot (String × List String)) :=
  [.required "name" str? .str Prod.fst, .withDefault "args" (arrayOf? str?) ofStrings [] Prod.snd]

theorem callOfFields?_eq_some (x : String → Option Json) (v : String × List String) :
    callOfFields? x = some v ↔ ∀ s ∈ callSlots, s.Reads (x s.name) v := by
  obtain ⟨name, args⟩ := v
  simp only [callSlots, List.forall_mem_cons, Slot.required, Slot.withDefault, callOfFields?,
    Option.bind_eq_bind, Option.bind_eq_some_iff]
  constructor
  · rintro ⟨_, hname, _, hargs, h⟩
    cases h
    exact ⟨hname, hargs, List.forall_mem_nil _⟩
  · rintro ⟨hname, hargs, -⟩
    exact ⟨_, hname, _, hargs, rfl⟩

theorem callLayout : Layout callSlots callFieldNames callOfFields? callToFields :=
  ⟨rfl, by decide, fun _ => rfl, callOfFields?_eq_some⟩

theorem stable_call :
    Stable (record? callFieldNames callOfFields?) fun c => ofFields (callToFields c) :=
  callLayout.stable <| by
    simp only [callSlots, List.forall_mem_cons]
    exact ⟨stable_str.required _, stable_strings.withDefault (.arr []) rfl _, List.forall_mem_nil _⟩

theorem faithful : Faithful FilterStep.ofJson? FilterStep.toJson where
  read_write v hv := by
    cases v with
    | named n => rfl
    | call n as =>
      have h := stable_call.read_write (n, as) hv
      exact congrArg (Option.map fun c => FilterStep.call c.1 c.2) h
  wellKeyed j v hr := by
    cases j with
    | str s =>
      cases Option.some.inj hr
      trivial
    | obj members =>
      obtain ⟨c, hc, rfl⟩ := Option.map_eq_some_iff.mp hr
      exact stable_call.wellKeyed _ c hc
    | _ => simp [FilterStep.ofJson?] at hr

end FilterStep

namespace FieldQuery

def slots : List (Slot FieldQuery) :=
  [.withDefault "selector" Selectors.ofJson? Selectors.toJson (.many []) selectors,
    .optional "attr" str? .str attr, .optional "data" str? .str dataKey,
    .omitted "filters" (arrayOf? FilterStep.ofJson?) (fun fs => .arr (fs.map FilterStep.toJson)) []
      List.isEmpty filters]

theorem ofFields?_eq_some (x : String → Option Json) (v : FieldQuery) :
    ofFields? x = some v ↔ ∀ s ∈ slots, s.Reads (x s.name) v := by
  obtain ⟨selectors, attr, dataKey, filters⟩ := v
  simp only [slots, List.forall_mem_cons, Slot.withDefault, Slot.optional, Slot.omitted, ofFields?,
    Option.bind_eq_bind, Option.bind_eq_some_iff]
  constructor
  · rintro ⟨_, h1, _, h2, _, h3, _, h4, h⟩
    cases h
    exact ⟨h1, h2, h3, h4, List.forall_mem_nil _⟩
  · rintro ⟨h1, h2, h3, h4, -⟩
    exact ⟨_, h1, _, h2, _, h3, _, h4, rfl⟩

theorem layout : Layout slots fieldNames ofFields? toFields :=
  ⟨rfl, by decide, fun _ => rfl, ofFields?_eq_some⟩

theorem stable : Stable FieldQuery.ofJson? FieldQuery.toJson :=
  layout.stable <| by
    simp only [slots, List.forall_mem_cons]
    exact ⟨Selectors.stable.withDefault (.arr []) rfl _, stable_str.optional rfl _,
      stable_str.optional rfl _, FilterStep.faithful.omittedArray _, List.forall_mem_nil _⟩

end FieldQuery

namespace RequestTemplate

def slots : List (Slot RequestTemplate) :=
  [.optional "url" str? .str url, .optional "method" str? .str method,
    .optional "baseUrl" str? .str baseUrl,
    .omitted "params" (mapOf? anyValue?) (ofMap id) .empty OrderedMap.isEmpty params,
    .omitted "headers" (mapOf? str?) (ofMap .str) .empty OrderedMap.isEmpty headers]

theorem ofFields?_eq_some (x : String → Option Json) (v : RequestTemplate) :
    ofFields? x = some v ↔ ∀ s ∈ slots, s.Reads (x s.name) v := by
  obtain ⟨url, method, baseUrl, params, headers⟩ := v
  simp only [slots, List.forall_mem_cons, Slot.optional, Slot.omitted, ofFields?,
    Option.bind_eq_bind, Option.bind_eq_some_iff]
  constructor
  · rintro ⟨_, h1, _, h2, _, h3, _, h4, _, h5, h⟩
    cases h
    exact ⟨h1, h2, h3, h4, h5, List.forall_mem_nil _⟩
  · rintro ⟨h1, h2, h3, h4, h5, -⟩
    exact ⟨_, h1, _, h2, _, h3, _, h4, _, h5, rfl⟩

theorem layout : Layout slots fieldNames ofFields? toFields :=
  ⟨rfl, by decide, fun _ => rfl, ofFields?_eq_some⟩

theorem stable : Stable RequestTemplate.ofJson? RequestTemplate.toJson :=
  layout.stable <| by
    simp only [slots, List.forall_mem_cons]
    exact ⟨stable_str.optional rfl _, stable_str.optional rfl _, stable_str.optional rfl _,
      stable_anyValue.omittedMap _, stable_str.omittedMap _, List.forall_mem_nil _⟩

end RequestTemplate

namespace CategoryOption

def slots : List (Slot CategoryOption) :=
  [.required "value" anyValue? id value, .required "name" str? .str name]

theorem ofFields?_eq_some (x : String → Option Json) (v : CategoryOption) :
    ofFields? x = some v ↔ ∀ s ∈ slots, s.Reads (x s.name) v := by
  obtain ⟨value, name⟩ := v
  simp only [slots, List.forall_mem_cons, Slot.required, ofFields?, Option.bind_eq_bind,
    Option.bind_eq_some_iff]
  constructor
  · rintro ⟨_, h1, _, h2, h⟩
    cases h
    exact ⟨h1, h2, List.forall_mem_nil _⟩
  · rintro ⟨h1, h2, -⟩
    exact ⟨_, h1, _, h2, rfl⟩

theorem layout : Layout slots fieldNames ofFields? toFields :=
  ⟨rfl, by decide, fun _ => rfl, ofFields?_eq_some⟩

theorem stable : Stable CategoryOption.ofJson? CategoryOption.toJson :=
  layout.stable <| by
    simp only [slots, List.forall_mem_cons]
    exact ⟨stable_anyValue.required _, stable_str.required _, List.forall_mem_nil _⟩

end CategoryOption

namespace Category

def slots : List (Slot Category) :=
  [.required "name" str? .str name, .required "key" str? .str key,
    .withDefault "options" (arrayOf? CategoryOption.ofJson?)
      (fun os => .arr (os.map CategoryOption.toJson)) [] options]

theorem ofFields?_eq_some (x : String → Option Json) (v : Category) :
    ofFields? x = some v ↔ ∀ s ∈ slots, s.Reads (x s.name) v := by
  obtain ⟨name, key, options⟩ := v
  simp only [slots, List.forall_mem_cons, Slot.required, Slot.withDefault, ofFields?,
    Option.bind_eq_bind, Option.bind_eq_some_iff]
  constructor
  · rintro ⟨_, h1, _, h2, _, h3, h⟩
    cases h
    exact ⟨h1, h2, h3, List.forall_mem_nil _⟩
  · rintro ⟨h1, h2, h3, -⟩
    exact ⟨_, h1, _, h2, _, h3, rfl⟩

theorem layout : Layout slots fieldNames ofFields? toFields :=
  ⟨rfl, by decide, fun _ => rfl, ofFields?_eq_some⟩

theorem stable : Stable Category.ofJson? Category.toJson :=
  layout.stable <| by
    simp only [slots, List.forall_mem_cons]
    exact ⟨stable_str.required _, stable_str.required _, CategoryOption.stable.array.withDefault
      (.arr []) rfl _, List.forall_mem_nil _⟩

end Category

namespace SearchSettings

def slots : List (Slot SearchSettings) :=
  [.optional "keywordsParam" str? .str keywordsParam,
    .withDefault "requestConfig" RequestTemplate.ofJson? RequestTemplate.toJson .empty request,
    .withDefault "type" PageFormat.ofJson? (fun f => .str f.name) .document format,
    .optional "rows" str? .str rows,
    .omitted "categories" (arrayOf? Category.ofJson?) (fun cs => .arr (cs.map Category.toJson)) []
      List.isEmpty categories]

theorem ofFields?_eq_some (x : String → Option Json) (v : SearchSettings) :
    ofFields? x = some v ↔ ∀ s ∈ slots, s.Reads (x s.name) v := by
  obtain ⟨keywordsParam, request, format, rows, categories⟩ := v
  simp only [slots, List.forall_mem_cons, Slot.optional, Slot.withDefault, Slot.omitted, ofFields?,
    Option.bind_eq_bind, Option.bind_eq_some_iff]
  constructor
  · rintro ⟨_, h1, _, h2, _, h3, _, h4, _, h5, h⟩
    cases h
    exact ⟨h1, h2, h3, h4, h5, List.forall_mem_nil _⟩
  · rintro ⟨h1, h2, h3, h4, h5, -⟩
    exact ⟨_, h1, _, h2, _, h3, _, h4, _, h5, rfl⟩

theorem layout : Layout slots fieldNames ofFields? toFields :=
  ⟨rfl, by decide, fun _ => rfl, ofFields?_eq_some⟩

theorem stable : Stable SearchSettings.ofJson? SearchSettings.toJson :=
  layout.stable <| by
    simp only [slots, List.forall_mem_cons]
    exact ⟨stable_str.optional rfl _, RequestTemplate.stable.withDefault (.obj []) rfl _,
      PageFormat.stable.withDefault (.str PageFormat.document.name) rfl _, stable_str.optional rfl
      _, Category.stable.omittedArray _, List.forall_mem_nil _⟩

end SearchSettings

namespace ProfileStep

def slots : List (Slot ProfileStep) :=
  [.withDefault "requestConfig" RequestTemplate.ofJson? RequestTemplate.toJson .empty request,
    .omitted "assertion" (mapOf? str?) (ofMap .str) .empty OrderedMap.isEmpty assertion,
    .withDefault "fields" (arrayOf? str?) ofStrings [] fields,
    .withDefault "type" PageFormat.ofJson? (fun f => .str f.name) .document format]

theorem ofFields?_eq_some (x : String → Option Json) (v : ProfileStep) :
    ofFields? x = some v ↔ ∀ s ∈ slots, s.Reads (x s.name) v := by
  obtain ⟨request, assertion, fields, format⟩ := v
  simp only [slots, List.forall_mem_cons, Slot.withDefault, Slot.omitted, ofFields?,
    Option.bind_eq_bind, Option.bind_eq_some_iff]
  constructor
  · rintro ⟨_, h1, _, h2, _, h3, _, h4, h⟩
    cases h
    exact ⟨h1, h2, h3, h4, List.forall_mem_nil _⟩
  · rintro ⟨h1, h2, h3, h4, -⟩
    exact ⟨_, h1, _, h2, _, h3, _, h4, rfl⟩

theorem layout : Layout slots fieldNames ofFields? toFields :=
  ⟨rfl, by decide, fun _ => rfl, ofFields?_eq_some⟩

theorem stable : Stable ProfileStep.ofJson? ProfileStep.toJson :=
  layout.stable <| by
    simp only [slots, List.forall_mem_cons]
    exact ⟨RequestTemplate.stable.withDefault (.obj []) rfl _, stable_str.omittedMap _,
      stable_strings.withDefault (.arr []) rfl _, PageFormat.stable.withDefault (.str
      PageFormat.document.name) rfl _, List.forall_mem_nil _⟩

def sectionSlots : List (Slot (List ProfileStep)) :=
  [.withDefault "process" (arrayOf? ofJson?) (fun ss => .arr (ss.map toJson)) [] id]

theorem sectionOfFields?_eq_some (x : String → Option Json) (v : List ProfileStep) :
    sectionOfFields? x = some v ↔ ∀ s ∈ sectionSlots, s.Reads (x s.name) v := by
  simp [sectionSlots, Slot.withDefault, sectionOfFields?]

theorem sectionLayout : Layout sectionSlots ["process"] sectionOfFields? sectionToFields :=
  ⟨rfl, by decide, fun _ => rfl, sectionOfFields?_eq_some⟩

theorem stable_section : Stable ProfileStep.section? ProfileStep.sectionToJson :=
  sectionLayout.stable <| by
    simp only [sectionSlots, List.forall_mem_cons]
    exact ⟨ProfileStep.stable.array.withDefault (.arr []) rfl _, List.forall_mem_nil _⟩

end ProfileStep

theorem FieldGroup.stable : Stable FieldGroup.ofJson? FieldGroup.toJson := FieldQuery.stable.map

namespace SiteDefinition

def slots : List (Slot SiteDefinition) :=
  [.withDefault "name" str? .str "" name,
    .omitted "aka" (arrayOf? str?) ofStrings [] List.isEmpty aka,
    .optional "description" str? .str description, .optional "url" str? .str url,
    .optional "activateUrl" str? .str activateUrl, .optional "host" str? .str host,
    .optional "timezoneOffset" str? .str timezoneOffset,
    .omitted "tags" (arrayOf? str?) ofStrings [] List.isEmpty tags,
    .optional "collaborator" str? .str collaborator,
    .withDefault "authPolicy" AuthPolicy.ofJson? (fun p => .str p.name) .everyone authPolicy,
    .withDefault "search" SearchSettings.ofJson? SearchSettings.toJson .empty search,
    .optional "userInfo" ProfileStep.section? ProfileStep.sectionToJson profile,
    .withDefault "selector" (mapOf? FieldGroup.ofJson?) (ofMap FieldGroup.toJson) .empty groups,
    .optional "detailPagePath" str? .str detailPath]

theorem ofFields?_eq_some (x : String → Option Json) (v : SiteDefinition) :
    ofFields? x = some v ↔ ∀ s ∈ slots, s.Reads (x s.name) v := by
  obtain ⟨name, aka, description, url, activateUrl, host, timezoneOffset, tags, collaborator,
    authPolicy, search, profile, groups, detailPath⟩ := v
  simp only [slots, List.forall_mem_cons, Slot.optional, Slot.withDefault, Slot.omitted]
  -- With so many fields, the nested existentials of all binds are too much for one `simp`.
  constructor
  · intro h
    obtain ⟨_, h1, h⟩ := Option.bind_eq_some_iff.mp h
    obtain ⟨_, h2, h⟩ := Option.bind_eq_some_iff.mp h
    obtain ⟨_, h3, h⟩ := Option.bind_eq_some_iff.mp h
    obtain ⟨_, h4, h⟩ := Option.bind_eq_some_iff.mp h
    obtain ⟨_, h5, h⟩ := Option.bind_eq_some_iff.mp h
    obtain ⟨_, h6, h⟩ := Option.bind_eq_some_iff.mp h
    obtain ⟨_, h7, h⟩ := Option.bind_eq_some_iff.mp h
    obtain ⟨_, h8, h⟩ := Option.bind_eq_some_iff.mp h
    obtain ⟨_, h9, h⟩ := Option.bind_eq_some_iff.mp h
    obtain ⟨_, h10, h⟩ := Option.bind_eq_some_iff.mp h
    obtain ⟨_, h11, h⟩ := Option.bind_eq_some_iff.mp h
    obtain ⟨_, h12, h⟩ := Option.bind_eq_some_iff.mp h
    obtain ⟨_, h13, h⟩ := Option.bind_eq_some_iff.mp h
    obtain ⟨_, h14, h⟩ := Option.bind_eq_some_iff.mp h
    cases h
    exact ⟨h1, h2, h3, h4, h5, h6, h7, h8, h9, h10, h11, h12, h13, h14, List.forall_mem_nil _⟩
  · rintro ⟨h1, h2, h3, h4, h5, h6, h7, h8, h9, h10, h11, h12, h13, h14, -⟩
    simp only [ofFields?, h1, h2, h3, h4, h5, h6, h7, h8, h9, h10, h11, h12, h13, h14,
      Option.bind_eq_bind, Option.bind_some]

theorem stable_slots : ∀ s ∈ slots, s.Stable := by
  simp only [slots, List.forall_mem_cons]
  exact ⟨stable_str.withDefault (.str "") rfl _, stable_str.toFaithful.omittedArray _,
    stable_str.optional rfl _, stable_str.optional rfl _, stable_str.optional rfl _,
    stable_str.optional rfl _, stable_str.optional rfl _, stable_str.toFaithful.omittedArray _,
    stable_str.optional rfl _, AuthPolicy.stable.withDefault (.str AuthPolicy.everyone.name) rfl _,
    SearchSettings.stable.withDefault (.obj []) rfl _, ProfileStep.stable_section.optional rfl _,
    FieldGroup.stable.map.withDefault (.obj []) rfl _, stable_str.optional rfl _,
    List.forall_mem_nil _⟩

theorem layout : Layout slots fieldNames ofFields? toFields :=
  ⟨rfl, by decide, fun _ => rfl, ofFields?_eq_some⟩

theorem stable : Stable SiteDefinition.ofJson? SiteDefinition.toJson := layout.stable stable_slots

end SiteDefinition

end Gleaner
