import Gleaner.Json.Path
import Gleaner.Proofs.Text.Blank

/-!
Paths put together. A text that cannot go on with a key, such as one that starts with a dot or a
bracket, is read behind a path as it is read alone (`stepsFrom?_append`). So a path, a dot and
another path lead to where the second leads from where the first does (`at?_append_dot`).
-/
namespace Gleaner.Json

/-- Whether a key in front of the text ends there. -/
def EndsKey (cs : List Char) : Prop :=
  ∀ key, stepsFrom? key none cs = (stepsFrom? [] none cs).map (keyStep key ++ ·)

theorem stepsFrom?_dot (key cs : List Char) :
    stepsFrom? key none ('.' :: cs) = (stepsFrom? [] none cs).map (keyStep key ++ ·) := by
  rw [stepsFrom?, if_pos rfl]

theorem stepsFrom?_bracket (key cs : List Char) :
    stepsFrom? key none ('[' :: cs) = (stepsFrom? [] (some []) cs).map (keyStep key ++ ·) := by
  rw [stepsFrom?, if_neg (by decide), if_pos rfl]

theorem stepsFrom?_char {c : Char} (hdot : c ≠ '.') (hbracket : c ≠ '[') (key cs : List Char) :
    stepsFrom? key none (c :: cs) = stepsFrom? (c :: key) none cs := by
  rw [stepsFrom?, if_neg hdot, if_neg hbracket]

theorem stepsFrom?_start_dot (cs : List Char) :
    stepsFrom? [] none ('.' :: cs) = stepsFrom? [] none cs := by
  rw [stepsFrom?_dot]
  exact Option.map_id'

theorem stepsFrom?_start_bracket (cs : List Char) :
    stepsFrom? [] none ('[' :: cs) = stepsFrom? [] (some []) cs := by
  rw [stepsFrom?_bracket]
  exact Option.map_id'

theorem endsKey_nil : EndsKey [] := fun key => by simp [stepsFrom?, keyStep]

theorem endsKey_dot (cs : List Char) : EndsKey ('.' :: cs) := fun key => by
  rw [stepsFrom?_dot, stepsFrom?_start_dot]

theorem endsKey_bracket (cs : List Char) : EndsKey ('[' :: cs) := fun key => by
  rw [stepsFrom?_bracket, stepsFrom?_start_bracket]

/-- The steps of a text, then those of what comes behind it. -/
theorem stepsFrom?_append {key : List Char} {inner : Option (List Char)} {cs rest : List Char}
    {steps : List Step} (h : stepsFrom? key inner cs = some steps) (hrest : EndsKey rest) :
    stepsFrom? key inner (cs ++ rest) = (stepsFrom? [] none rest).map (steps ++ ·) := by
  fun_induction stepsFrom? key inner cs generalizing steps with
  | case1 key =>
    cases Option.some.inj h
    exact hrest key
  | case2 => cases h
  | case3 key cs ih =>
    obtain ⟨below, hbelow, rfl⟩ := Option.map_eq_some_iff.mp h
    rw [List.cons_append, stepsFrom?_dot, ih hbelow, Option.map_map]
    simp [Function.comp_def]
  | case4 key cs _ ih =>
    obtain ⟨below, hbelow, rfl⟩ := Option.map_eq_some_iff.mp h
    rw [List.cons_append, stepsFrom?_bracket, ih hbelow, Option.map_map]
    simp [Function.comp_def]
  | case5 key c cs hdot hbracket ih =>
    rw [List.cons_append, stepsFrom?_char hdot hbracket, ih h]
  | case6 key inner cs ih =>
    obtain ⟨step, hstep, h⟩ := Option.bind_eq_some_iff.mp h
    obtain ⟨below, hbelow, h⟩ := Option.bind_eq_some_iff.mp h
    cases Option.some.inj h
    rw [List.cons_append, stepsFrom?, if_pos rfl, hstep, ih hbelow]
    cases stepsFrom? [] none rest <;> rfl
  | case7 key inner c cs hc ih =>
    rw [List.cons_append, stepsFrom?, if_neg hc, ih h]

theorem at?_eq_none_of_steps? {j : Json} {path : String} (h : steps? path = none) :
    j.at? path = none := by
  rw [at?, h]
  rfl

/-- The steps of a path, then those of a text behind it. -/
theorem steps?_append {path p : String} {rest : List Char} {steps : List Step}
    (hpath : path.toList = p.toList ++ rest) (hp : Text.trimmed p = p)
    (hrest : Text.trim rest = rest) (hends : EndsKey rest) (h : steps? p = some steps) :
    steps? path = (stepsFrom? [] none rest).map (steps ++ ·) := by
  rw [Text.trimmed_eq_self_iff] at hp
  rw [steps?, hp] at h
  rw [steps?, hpath, Text.trim_append hp hrest, stepsFrom?_append h hends]

theorem stepsFrom?_of_trimmed {q : String} (hq : Text.trimmed q = q) :
    stepsFrom? [] none q.toList = steps? q := by
  rw [steps?, Text.trimmed_eq_self_iff.mp hq]

theorem trim_dot {q : String} (hq : Text.trimmed q = q) :
    Text.trim ('.' :: q.toList) = '.' :: q.toList := by
  have hdot : Text.trim ['.'] = ['.'] := rfl
  exact Text.trim_append hdot (Text.trimmed_eq_self_iff.mp hq)

theorem steps?_append_dot {p q : String} {steps : List Step} (hp : Text.trimmed p = p)
    (hq : Text.trimmed q = q) (h : steps? p = some steps) :
    steps? (p ++ "." ++ q) = (steps? q).map (steps ++ ·) := by
  have hpath : (p ++ "." ++ q).toList = p.toList ++ '.' :: q.toList := by
    rw [String.append_assoc, String.toList_append, String.toList_append]
    rfl
  rw [steps?_append hpath hp (trim_dot hq) (endsKey_dot _) h, stepsFrom?_start_dot,
    stepsFrom?_of_trimmed hq]

/-- A path, a dot and another path lead to where the second leads from where the first does. -/
theorem at?_append_dot (j : Json) {p q : String} (hp : Text.trimmed p = p)
    (hq : Text.trimmed q = q) (h : (steps? p).isSome) :
    j.at? (p ++ "." ++ q) = (j.at? p).bind fun found => found.at? q := by
  obtain ⟨steps, hsteps⟩ := Option.isSome_iff_exists.mp h
  rw [at?, steps?_append_dot hp hq hsteps, at?, hsteps]
  cases hq : steps? q with
  | none => simp [at?_eq_none_of_steps? hq]
  | some below => simp [at?, hq, List.foldlM_append]

end Gleaner.Json
