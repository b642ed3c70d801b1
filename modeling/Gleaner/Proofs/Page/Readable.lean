import Gleaner.Proofs.Filter.Overflow
import Gleaner.Proofs.Page

/-!
Entities of pages written as JSON and read back. An entity reads back just when no filter of its
fields reads a numeral that overflows; links are always texts (`Page.entities_readable`).
-/
namespace Gleaner

/-- The text that the filters of a field start from: that of the first selector that hits, or the
empty one. -/
def Extraction.chosenText (source : Source) (q : FieldQuery) (filters : FilterRegistry) : String :=
  ((q.selectors.toList.find? fun s =>
    Hits (fun s => read source s q) (filters.applyAll q.filters) s).map
      fun s => read source s q).getD ""

namespace Page

variable {source : Source} {fields : List (String × FieldQuery)} {filters : FilterRegistry}
  {answers : List String}

/-- A field reads, in some step of its pipeline, a numeral that overflows. -/
def Overflows (source : Source) (filters : FilterRegistry) (f : String × FieldQuery) : Prop :=
  isLink f = false ∧ filters.OverflowsIn f.2.filters (Extraction.chosenText source f.2 filters)

/-- The text of an entity is that of an object with the names of its fields in their order. It reads
as an entity with the same fields, texts as they were and numbers for numbers, just when none of its
fields overflows, and otherwise as none. -/
structure ReadBack (source : Source) (fields : List (String × FieldQuery))
    (filters : FilterRegistry) (e : Entity) : Prop where
  object : ∃ members, Json.parse? e.toJson.compact = some (.obj members) ∧
    Keyed.keys members = Keyed.keys fields
  readable : e.Readable ↔ ∀ f ∈ fields, ¬ Overflows source filters f
  otherwise : ¬ e.Readable → (Json.parse? e.toJson.compact).bind Entity.ofJson? = none

theorem finite_extract (h : filters.Overflowing) (source : Source) (q : FieldQuery) :
    (extract source q filters).Finite ↔
      ¬ filters.OverflowsIn q.filters (Extraction.chosenText source q filters) := by
  rw [extract, Extraction.run, Extraction.value_firstHit, h.applyAll]
  rfl

theorem MadeOf.finite_iff {e : Entity} (made : MadeOf source fields filters answers e.entries)
    (h : filters.Overflowing) :
    (∀ x ∈ e.entries, x.2.Finite) ↔ ∀ f ∈ fields, ¬ Overflows source filters f := by
  constructor
  · rintro hfinite f hf ⟨hlink, hoverflows⟩
    exact (finite_extract h source f.2).mp (hfinite _ (made.others f hf hlink)) hoverflows
  · intro hnone x hx
    by_cases hlink : isLink x = true
    · have hvalue : x.2 ∈ (e.entries.filter isLink).map Prod.snd :=
        List.mem_map_of_mem (List.mem_filter.mpr ⟨hx, hlink⟩)
      rw [made.links] at hvalue
      obtain ⟨answer, -, hanswer⟩ := List.mem_map.mp hvalue
      rw [← hanswer]
      trivial
    · have hkey : x.1 ∈ Keyed.keys fields := made.keys ▸ Keyed.mem_keys_of_mem hx
      obtain ⟨f, hf, hname⟩ := List.mem_map.mp hkey
      have hother : isLink f = false := by
        rw [isLink, hname]
        exact Bool.eq_false_iff.mpr hlink
      have hvalue := Keyed.lookup_of_mem e.nodup (made.others f hf hother)
      rw [hname, Keyed.lookup_of_mem e.nodup hx] at hvalue
      rw [Option.some.inj hvalue, finite_extract h]
      exact fun hoverflows => hnone f hf ⟨hother, hoverflows⟩

theorem MadeOf.readBack {e : Entity} (made : MadeOf source fields filters answers e.entries)
    (h : filters.Overflowing) : ReadBack source fields filters e where
  object := by
    obtain ⟨members, -, hparse, hkeys⟩ := e.exists_parse?
    exact ⟨members, hparse, hkeys.trans made.keys⟩
  readable := e.readable_iff.trans (made.finite_iff h)
  otherwise := Entity.read_eq_none

section

variable {σ : Type} {links : String → StateM σ String}

theorem entityM_readBack (h : filters.Overflowing) (source : Source) (group : FieldGroup)
    (only : Option (List String)) (st : σ) :
    ReadBack source (wanted group only) filters
      (entityM source group only filters links st).1 := by
  obtain ⟨answers, -, made⟩ := entityM_made source filters links group only st
  exact made.readBack h

theorem wanted_none (group : FieldGroup) : wanted group none = group.entries :=
  List.filter_eq_self.mpr fun _ _ => rfl

/-- Row by row, whatever the normalizer has been asked before. -/
theorem mapM_readBack (h : filters.Overflowing) (group : FieldGroup) (rows : List Source)
    (st : σ) :
    List.Forall₂ (fun row e => ReadBack row group.entries filters e) rows
      (rows.mapM (entityM · group none filters links) st).1 := by
  induction rows generalizing st with
  | nil => exact .nil
  | cons row rows ih =>
    rw [mapM_cons_apply]
    exact .cons (wanted_none group ▸ entityM_readBack h row group none st) (ih _)

end

theorem entity_readBack (h : filters.Overflowing) (source : Source) (group : FieldGroup)
    (only : Option (List String)) (link : String → String) :
    ReadBack source (wanted group only) filters (entity source group only filters link) := by
  have hread : ReadBack source (wanted group only) filters
      (entityM source group only filters (fun t => (pure (link t) : StateM Unit String)) ()).1 :=
    entityM_readBack h source group only ()
  rwa [entityM_pure] at hread

/-- Whatever the page, the rows, the group and the normalizer of links: with builtin filters, with
or without offsets bound to them, every entity is written as an object with the names of its fields
in their order. It reads back, with the same fields, texts as they were and numbers for numbers,
just when none of its fields reads a numeral that overflows: a word for infinity or for no number,
or a number that its unit takes to `overflow`. -/
theorem entities_readable (now : Int64) (zones : List String) (body : String) (format : PageFormat)
    (setting : Option String) (group : FieldGroup) :
    let filters := (FilterRegistry.builtin now.toInt).boundAll zones
    (∀ (σ : Type) (links : String → StateM σ String) (st : σ),
      List.Forall₂ (fun row e => ReadBack row group.entries filters e) (rows body format setting)
        (entitiesM body format setting group filters links st).1 ∧
      ∀ only, ReadBack (whole body format) (wanted group only) filters
        (summaryM body format group only filters links st).1) ∧
    ∀ link : String → String,
      List.Forall₂ (fun row e => ReadBack row group.entries filters e) (rows body format setting)
        (entities body format setting group filters link) ∧
      ∀ only, ReadBack (whole body format) (wanted group only) filters
        (summary body format group only filters link) := by
  intro filters
  have h : filters.Overflowing := (FilterRegistry.overflowing_builtin now).boundAll zones
  refine ⟨fun σ links st => ⟨mapM_readBack h group _ st,
    fun only => entityM_readBack h _ group only st⟩, fun link => ⟨?_, fun only => ?_⟩⟩
  · rw [entities, List.forall₂_map_right_iff, List.forall₂_same]
    exact fun row _ => wanted_none group ▸ entity_readBack h row group none link
  · exact entity_readBack h (whole body format) group only link

/-- A field that is read as a number. -/
def ratioGroup : FieldGroup :=
  OrderedMap.ofList [("ratio", (FieldQuery.ofSelectors (.one "ratio")).withFilter
    (.named "parse_number"))]

/-- The word for no number is read as a number. It is written as `null`, and nothing reads back. -/
theorem not_entities_readable_nan :
    (entities "[\x7b\"ratio\": \"NaN\"\x7d]" .json none ratioGroup
      ((FilterRegistry.builtin 0).boundAll []) id).map (fun e => (e.toJson.compact,
        ((Json.parse? e.toJson.compact).bind Entity.ofJson?).isSome)) =
      [("\x7b\"ratio\":null\x7d", false)] := by
  decide +kernel

end Page

end Gleaner
