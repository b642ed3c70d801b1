import Gleaner.Proofs.Json.Nulls
import Gleaner.Proofs.Json.Reordered
import Gleaner.Proofs.Site.Resolve
import Gleaner.Site.Basic

/-!
The overrides of a site. Where each `null` in them meets an object of the definition, they might as
well be without it; and overrides that were given one after another do together what they do in
turn.
-/
namespace Gleaner

open Json

namespace SiteDefinition

/-- The `null`s in overrides count for nothing where they meet objects of the definition. Those that
do not are in the merged document, as what the definition lacks is taken over as it is. -/
theorem override_withoutNulls (d : SiteDefinition) (o : Json) (ho : o.WellKeyed) :
    (d.toJson.merge o.withoutNulls = d.toJson.merge o ↔ NullsMeet d.toJson o) ∧
      (NullsMeet d.toJson o → d.override o.withoutNulls = d.override o) := by
  refine ⟨merge_withoutNulls_iff ho, fun h => ?_⟩
  rw [override, override, merge_withoutNulls ho h]

theorem override_withoutNulls_rows :
    (obj [("search", obj [("rows", .null), ("type", .str "json")])]).WellKeyed ∧
      NullsMeet SiteDefinition.empty.toJson
        (obj [("search", obj [("rows", .null), ("type", .str "json")])]) ∧
      SiteDefinition.empty.override (obj [("search", obj [("type", .str "json")])]) =
        SiteDefinition.empty.override
          (obj [("search", obj [("rows", .null), ("type", .str "json")])]) := by
  have ho : (obj [("search", obj [("rows", .null), ("type", .str "json")])]).WellKeyed := by
    simp [WellKeyed, WellKeyedMembers]
  have hmeet : NullsMeet SiteDefinition.empty.toJson
      (obj [("search", obj [("rows", .null), ("type", .str "json")])]) :=
    (merge_withoutNulls_iff ho).mp rfl
  exact ⟨ho, hmeet, (override_withoutNulls _ _ ho).2 hmeet⟩

/-- A `null` in a section that the definition lacks spoils the section. -/
theorem not_override_withoutNulls :
    ¬ ∀ (d : SiteDefinition) (o : Json), d.toJson.WellKeyed → o.WellKeyed →
      d.override o.withoutNulls = d.override o := by
  intro h
  have hd : SiteDefinition.empty.toJson.WellKeyed :=
    SiteDefinition.stable.wellKeyed (.obj []) _ rfl
  have ho : (obj [("userInfo", obj [("process", .null)])]).WellKeyed := by
    simp [WellKeyed, WellKeyedMembers]
  have hread := congrArg Except.isOk (h SiteDefinition.empty _ hd ho)
  exact absurd hread (by decide +kernel)

end SiteDefinition

namespace SiteOptions

/-- Overrides that were given one after another are merged as if each was merged in turn, up to the
order of keys. Objects are maps, so documents repeat no key. -/
theorem reordered_override_override (filters : FilterRegistry) {base first second : Json}
    (hbase : base.WellKeyed) (hfirst : first.WellKeyed) (hsecond : second.WellKeyed)
    (h : KindsAgree first second) :
    Reordered (base.merge (((ofFilters filters).override first).override second).overrides)
      ((base.merge first).merge second) := by
  have ho : (((ofFilters filters).override first).override second).overrides =
      first.merge second := congrArg (Json.merge · second) (null_merge first)
  rw [ho]
  exact reordered_merge_merge hbase hfirst hsecond h

theorem reordered_override_override_search :
    KindsAgree (obj [("url", .null), ("search", obj [("rows", .str "tr")])])
        (obj [("search", obj [("rows", .str "li")]), ("url", .str "/")]) ∧
      Reordered
        ((obj []).merge ((((ofFilters (.builtin 0)).override
          (obj [("url", .null), ("search", obj [("rows", .str "tr")])])).override
          (obj [("search", obj [("rows", .str "li")]), ("url", .str "/")])).overrides))
        (obj [("search", obj [("rows", .str "li")]), ("url", .str "/")]) := by
  have hkinds : KindsAgree (obj [("url", .null), ("search", obj [("rows", .str "tr")])])
      (obj [("search", obj [("rows", .str "li")]), ("url", .str "/")]) := by
    rw [kindsAgree_obj]
    intro k v j hv hj
    by_cases hk : k = "search"
    · subst hk
      cases Option.some.inj hv
      cases Option.some.inj hj
      refine kindsAgree_obj.mpr fun k v j _ hj => kindsAgree_of_not_obj ?_
      rintro ms rfl
      simp [Keyed.lookup_cons_eq] at hj
    · refine kindsAgree_of_not_obj ?_
      rintro ms rfl
      simp [Keyed.lookup_cons_eq, hk] at hj
  refine ⟨hkinds, reordered_override_override (.builtin 0) SiteConfig.wellKeyed_nil ?_ ?_ hkinds⟩
  · simp [WellKeyed, WellKeyedMembers]
  · simp [WellKeyed, WellKeyedMembers]

end SiteOptions

end Gleaner
