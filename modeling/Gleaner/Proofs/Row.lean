import Gleaner.Proofs.Json.Location
import Gleaner.Proofs.Page
import Mathlib

/-!
Rows of a page of JSON. What a path finds in a row, a path through the whole page finds as well: the
path of the rows, the index of the row between brackets, and the path in the row
(`paths_compose`).
-/
namespace Gleaner

namespace Json

theorem steps?_append_index {p q : String} {i : Nat} {steps : List Step} (hp : Text.trimmed p = p)
    (hq : Text.trimmed q = q) (hi : i < UInt64.size) (h : steps? p = some steps) :
    steps? (p ++ "[" ++ toString i ++ "]." ++ q) =
      (steps? q).map fun below => steps ++ .index i :: below := by
  have hpath : (p ++ "[" ++ toString i ++ "]." ++ q).toList =
      p.toList ++ ((Written.bracketed i).text ++ '.' :: q.toList) := by
    simp [Written.text, String.toList_append]
  have htrim : Text.trim ((Written.bracketed i).text ++ '.' :: q.toList) =
      (Written.bracketed i).text ++ '.' :: q.toList :=
    Text.trim_append (Written.trim_text_inBrackets '\'' (.index i)) (trim_dot hq)
  have hread : stepsFrom? [] none ((Written.bracketed i).text ++ '.' :: q.toList) =
      (steps? q).map (.index i :: ·) := by
    have hfits : (Written.bracketed i).Fits := hi
    rw [Written.stepsFrom?_text hfits (endsKey_dot _), stepsFrom?_start_dot, stepsFrom?_of_trimmed hq]
    rfl
  rw [steps?_append hpath hp htrim (endsKey_bracket _) h, hread, Option.map_map]
  rfl

/-- An item of an array, and what is found from there, by one path. -/
theorem at?_append_index {j item : Json} {items : List Json} {p q : String} {i : Nat}
    (hp : Text.trimmed p = p) (hq : Text.trimmed q = q) (hi : i < UInt64.size)
    (h : j.at? p = some (.arr items)) (hitem : items[i]? = some item) :
    j.at? (p ++ "[" ++ toString i ++ "]." ++ q) = item.at? q := by
  obtain ⟨steps, hsteps, hfound⟩ := Option.bind_eq_some_iff.mp h
  rw [at?, steps?_append_index hp hq hi hsteps, at?]
  cases steps? q with
  | none => rfl
  | some below =>
    have hstep : step? (.arr items) (.index i) = some item := hitem
    rw [Option.map_some, Option.bind_some, List.foldlM_append, hfound, Option.bind_eq_bind,
      Option.bind_some, List.foldlM_cons, hstep]
    rfl

end Json

namespace Page

theorem rows_of_items {body : String} {setting : Option String} {j : Json} {items : List Json}
    (hparse : Json.parse? body = some j) (hitems : j.at? (setting.getD "") = some (.arr items)) :
    Page.rows body .json setting = items.map .json :=
  rows_of_located (.items hparse hitems)

/-- Two paths with a dot between them lead to where the second leads from where the first does, so
that they lead nowhere when the first finds nothing or the second is malformed. What is read of a
row at a selector is what is read of the whole page behind the path of the rows and the index of
the row. No array has more items than 64 bits can count. -/
theorem paths_compose {p q : String} (hp : Text.trimmed p = p) (hq : Text.trimmed q = q) :
    (∀ j : Json, (Json.steps? p).isSome →
      j.at? (p ++ "." ++ q) = ((j.at? p).bind fun found => found.at? q) ∧
      (j.at? p = none ∨ Json.steps? q = none → j.at? (p ++ "." ++ q) = none)) ∧
    ∀ (body : String) (setting : Option String) (j : Json) (items : List Json),
      setting.getD "" = p → Json.parse? body = some j → j.at? p = some (.arr items) →
      (Page.rows body .json setting).length = items.length ∧
      ∀ i < items.length, i < UInt64.size →
        ∃ row, (Page.rows body .json setting)[i]? = some row ∧
          ∀ query, Extraction.read row q query =
            Extraction.read (Page.whole body .json) (p ++ "[" ++ toString i ++ "]." ++ q)
              query := by
  constructor
  · intro j h
    have happend := Json.at?_append_dot j hp hq h
    refine ⟨happend, ?_⟩
    rintro (hnone | hmalformed)
    · rw [happend, hnone]
      rfl
    · rw [happend]
      exact Option.bind_eq_none_iff.mpr fun found _ => Json.at?_eq_none_of_steps? hmalformed
  · rintro body setting j items rfl hparse hitems
    have hrows := rows_of_items hparse hitems
    refine ⟨by rw [hrows, List.length_map], ?_⟩
    intro i hlength hi
    have hitem : items[i]? = some items[i] := List.getElem?_eq_getElem hlength
    refine ⟨.json items[i], by rw [hrows, List.getElem?_map, hitem]; rfl, ?_⟩
    intro query
    rw [Extraction.read, Page.whole, hparse, Option.getD_some, Extraction.read,
      Json.at?_append_index hp hq hi hitems hitem]

theorem paths_compose_torrents :
    let body := "\x7b\"data\": [1, \x7b\"a.b\": [\"x\", \"y\"]\x7d]\x7d"
    Text.trimmed "data" = "data" ∧ Text.trimmed "['a.b'].1" = "['a.b'].1" ∧
      ∃ row, (Page.rows body .json (some "data"))[1]? = some row ∧
        ∀ query, Extraction.read row "['a.b'].1" query =
          Extraction.read (Page.whole body .json) "data[1].['a.b'].1" query := by
  intro body
  have hp : Text.trimmed "data" = "data" := by cbv
  have hq : Text.trimmed "['a.b'].1" = "['a.b'].1" := by cbv
  let items := [Json.num (.int 1), .obj [("a.b", .arr [.str "x", .str "y"])]]
  let page := Json.obj [("data", .arr items)]
  have hparse : Json.parse? body = some page := by cbv
  have hitems : page.at? "data" = some (.arr items) := by cbv
  obtain ⟨-, hrows⟩ := (paths_compose hp hq).2 body (some "data") page items rfl hparse hitems
  exact ⟨hp, hq, hrows 1 (by decide) (by decide)⟩

end Page

end Gleaner
