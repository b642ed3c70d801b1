import Gleaner.Proofs.Decimal.Digits
import Gleaner.Proofs.Json.Path

/-!
Locations in JSON values and the paths that may be written for them. A key stands in quotes between
brackets, or behind a dot; an index stands between brackets, or behind a dot as well. Whichever way
each step of a location is written, its path leads there (`at?_written`).
-/
namespace Gleaner.Json

/-- What is found at a location: keys name members of objects, and indexes count items of arrays. -/
inductive Reaches : Json → List Step → Json → Prop
  | here (j : Json) : Reaches j [] j
  | member {members : List (String × Json)} {k : String} {j v : Json} {below : List Step} :
    members.lookup k = some j → Reaches j below v → Reaches (.obj members) (.key k :: below) v
  | item {items : List Json} {i : Nat} {j v : Json} {below : List Step} :
    items[i]? = some j → Reaches j below v → Reaches (.arr items) (.index i :: below) v

/-- A step of a location as it is written in a path. -/
inductive Written where
  /-- `['name']`, with either quotation mark. -/
  | quoted (mark : Char) (name : String)
  /-- `[i]` -/
  | bracketed (i : Nat)
  /-- `.name` -/
  | dotted (name : String)
  /-- `.i` -/
  | counted (i : Nat)

namespace Written

def step : Written → Step
  | quoted _ name | dotted name => .key name
  | bracketed i | counted i => .index i

def text : Written → List Char
  | quoted mark name => '[' :: (mark :: name.toList ++ [mark]) ++ [']']
  | bracketed i => '[' :: Nat.toDigits 10 i ++ [']']
  | dotted name => '.' :: name.toList
  | counted i => '.' :: Nat.toDigits 10 i

/-- Whether a step may be written so. No array has an item with an index of more than 64 bits. -/
def Fits : Written → Prop
  | quoted mark name => (mark = '\'' ∨ mark = '"') ∧ ']' ∉ name.toList
  | dotted name => name ≠ "" ∧ '.' ∉ name.toList ∧ '[' ∉ name.toList
  | bracketed i | counted i => i < UInt64.size

def inBrackets (mark : Char) : Step → Written
  | .key name => quoted mark name
  | .index i => bracketed i

/-- The step that is read. A number behind a dot is read as a key. -/
def read : Written → Step
  | quoted _ name | dotted name => .key name
  | bracketed i => .index i
  | counted i => .key (toString i)

end Written

/-! ### Numbers -/

theorem isDigit_of_mem_digits {i : Nat} {c : Char} (h : c ∈ Nat.toDigits 10 i) :
    c.isDigit = true :=
  Nat.isDigit_of_mem_toDigits (by omega) (by omega) h

theorem index?_digits {i : Nat} (h : i < UInt64.size) : index? (Nat.toDigits 10 i) = some i := by
  rw [index?, Decimal.natural?_toDigits, if_pos h]

/-! ### Brackets -/

theorem stepsFrom?_inner {cs : List Char} (h : ']' ∉ cs) (inner rest : List Char) :
    stepsFrom? [] (some inner) (cs ++ ']' :: rest) =
      (bracketStep? (inner.reverse ++ cs)).bind fun step =>
        (stepsFrom? [] none rest).map (step :: ·) := by
  induction cs generalizing inner with
  | nil =>
    rw [List.nil_append, List.append_nil, stepsFrom?, if_pos rfl]
    cases bracketStep? inner.reverse <;> cases stepsFrom? [] none rest <;> rfl
  | cons c cs ih =>
    have hc : c ≠ ']' := fun e => h (by simp [e])
    have hcs : ']' ∉ cs := fun hmem => h (List.mem_cons_of_mem c hmem)
    rw [List.cons_append, stepsFrom?, if_neg hc, ih hcs]
    simp

theorem bracketStep?_quoted {mark : Char} (h : mark = '\'' ∨ mark = '"') (cs : List Char) :
    bracketStep? (mark :: cs ++ [mark]) = some (.key (String.ofList cs)) := by
  have hblank : Text.isBlank mark = false := by rcases h with rfl | rfl <;> rfl
  have htrim : Text.trim (mark :: cs ++ [mark]) = mark :: cs ++ [mark] := by
    apply Text.trim_eq_self_iff.mpr
    simp [hblank, List.getLast?_cons]
  unfold bracketStep?
  rw [htrim]
  rcases h with rfl | rfl <;> simp [List.getLast?_cons]

theorem bracketStep?_digits {i : Nat} (h : i < UInt64.size) :
    bracketStep? (Nat.toDigits 10 i) = some (.index i) := by
  have hshown : ∀ c ∈ Nat.toDigits 10 i, Text.isBlank c = false := fun c hc =>
    Text.isBlank_of_isDigit (isDigit_of_mem_digits hc)
  have htrim : Text.trim (Nat.toDigits 10 i) = Nat.toDigits 10 i :=
    Text.trim_eq_self_iff.mpr
      ⟨fun c hc => hshown c (List.mem_of_mem_head? hc),
        fun c hc => hshown c (List.mem_of_mem_getLast? hc)⟩
  have hunquoted : ∀ mark : Char, mark.isDigit = false →
      ((Nat.toDigits 10 i).head? == some mark) = false := by
    intro mark hmark
    rw [beq_eq_false_iff_ne]
    intro hhead
    have hdigit := isDigit_of_mem_digits (List.mem_of_mem_head? hhead)
    simp [hmark] at hdigit
  simp [bracketStep?, htrim, hunquoted '\'' rfl, hunquoted '"' rfl, index?_digits h]

/-! ### Dots -/

theorem stepsFrom?_name {name rest : List Char} (hdot : '.' ∉ name) (hbracket : '[' ∉ name)
    (key : List Char) :
    stepsFrom? key none (name ++ rest) = stepsFrom? (name.reverse ++ key) none rest := by
  induction name generalizing key with
  | nil => rfl
  | cons c name ih =>
    rw [List.mem_cons, not_or] at hdot hbracket
    rw [List.cons_append, stepsFrom?_char (Ne.symm hdot.1) (Ne.symm hbracket.1),
      ih hdot.2 hbracket.2, List.reverse_cons, List.append_assoc, List.singleton_append]

theorem stepsFrom?_dotted {name rest : List Char} (hne : name ≠ []) (hdot : '.' ∉ name)
    (hbracket : '[' ∉ name) (hrest : EndsKey rest) :
    stepsFrom? [] none ('.' :: name ++ rest) =
      (stepsFrom? [] none rest).map (.key (String.ofList name) :: ·) := by
  have hkey : keyStep name.reverse = [.key (String.ofList name)] := by simp [keyStep, hne]
  rw [List.cons_append, stepsFrom?_start_dot, stepsFrom?_name hdot hbracket, List.append_nil,
    hrest, hkey]
  rfl

theorem not_mem_digits {i : Nat} {c : Char} (h : c.isDigit = false) :
    c ∉ Nat.toDigits 10 i := fun hmem => by
  simp [isDigit_of_mem_digits hmem] at h

/-! ### Written steps -/

namespace Written

theorem stepsFrom?_text {w : Written} (h : w.Fits) {rest : List Char} (hrest : EndsKey rest) :
    stepsFrom? [] none (w.text ++ rest) = (stepsFrom? [] none rest).map (w.read :: ·) := by
  cases w with
  | quoted mark name =>
    obtain ⟨hmark, hname⟩ := h
    have hinner : ']' ∉ mark :: name.toList ++ [mark] := by
      rcases hmark with rfl | rfl <;> simp [hname]
    rw [text, List.append_assoc, List.cons_append, stepsFrom?_start_bracket, List.singleton_append,
      stepsFrom?_inner hinner, List.reverse_nil, List.nil_append, bracketStep?_quoted hmark,
      String.ofList_toList]
    rfl
  | bracketed i =>
    rw [text, List.append_assoc, List.cons_append, stepsFrom?_start_bracket, List.singleton_append,
      stepsFrom?_inner (not_mem_digits rfl), List.reverse_nil, List.nil_append,
      bracketStep?_digits h]
    rfl
  | dotted name =>
    obtain ⟨hne, hdot, hbracket⟩ := h
    have hname : name.toList ≠ [] := fun e => hne (String.toList_eq_nil_iff.mp e)
    rw [text, stepsFrom?_dotted hname hdot hbracket hrest, String.ofList_toList]
    rfl
  | counted i =>
    rw [text, stepsFrom?_dotted Nat.toDigits_ne_nil (not_mem_digits rfl) (not_mem_digits rfl) hrest,
      ← Nat.repr_eq_ofList_toDigits]
    rfl

theorem endsKey_path (ws : List Written) : EndsKey (ws.flatMap text) := by
  cases ws with
  | nil => exact endsKey_nil
  | cons w ws =>
    rw [List.flatMap_cons]
    cases w with
    | quoted mark name => exact endsKey_bracket _
    | bracketed i => exact endsKey_bracket _
    | dotted name => exact endsKey_dot _
    | counted i => exact endsKey_dot _

theorem stepsFrom?_path {ws : List Written} (h : ∀ w ∈ ws, w.Fits) :
    stepsFrom? [] none (ws.flatMap text) = some (ws.map read) := by
  induction ws with
  | nil => rfl
  | cons w ws ih =>
    have hw : w.Fits := h w List.mem_cons_self
    have hws : ∀ w ∈ ws, w.Fits := fun w hmem => h w (List.mem_cons_of_mem _ hmem)
    rw [List.flatMap_cons, stepsFrom?_text hw (endsKey_path ws), ih hws]
    rfl

theorem trim_text_inBrackets (mark : Char) (s : Step) :
    Text.trim (inBrackets mark s).text = (inBrackets mark s).text := by
  apply Text.trim_eq_self_iff.mpr
  cases s <;> simp [inBrackets, text, List.getLast?_cons, Text.isBlank]

theorem trim_path_inBrackets (mark : Char) (location : List Step) :
    Text.trim ((location.map (inBrackets mark)).flatMap text) =
      (location.map (inBrackets mark)).flatMap text := by
  induction location with
  | nil => rfl
  | cons s location ih =>
    rw [List.map_cons, List.flatMap_cons]
    exact Text.trim_append (trim_text_inBrackets mark s) ih

theorem step_inBrackets (mark : Char) (s : Step) : (inBrackets mark s).step = s := by
  cases s <;> rfl

theorem step?_read {w : Written} (hw : w.Fits) {j v : Json} {below : List Step}
    (h : Reaches j (w.step :: below) v) : ∃ next, step? j w.read = some next ∧
      Reaches next below v := by
  cases w with
  | quoted mark name =>
    cases h with
    | member hlookup hbelow => exact ⟨_, hlookup, hbelow⟩
  | bracketed i =>
    cases h with
    | item hitem hbelow => exact ⟨_, hitem, hbelow⟩
  | dotted name =>
    cases h with
    | member hlookup hbelow => exact ⟨_, hlookup, hbelow⟩
  | counted i =>
    cases h with
    | item hitem hbelow =>
      have hindex : index? (toString i).toList = some i := Nat.toList_repr ▸ index?_digits hw
      refine ⟨_, ?_, hbelow⟩
      rw [read, step?, hindex]
      exact hitem

/-- The steps that are read lead where the location does. -/
theorem foldlM_read {j v : Json} {ws : List Written} (h : Reaches j (ws.map step) v)
    (hfits : ∀ w ∈ ws, w.Fits) : (ws.map read).foldlM step? j = some v := by
  induction ws generalizing j with
  | nil =>
    cases h
    rfl
  | cons w ws ih =>
    have hws : ∀ w ∈ ws, w.Fits := fun w hmem => hfits w (List.mem_cons_of_mem _ hmem)
    obtain ⟨next, hnext, hbelow⟩ := step?_read (hfits w List.mem_cons_self) h
    rw [List.map_cons, List.foldlM_cons, hnext]
    exact ih hbelow hws

theorem at?_path {j v : Json} {ws : List Written} (h : Reaches j (ws.map step) v)
    (hfits : ∀ w ∈ ws, w.Fits) {path : String} (htrim : Text.trim path.toList = path.toList)
    (hpath : path.toList = ws.flatMap text ∨ '.' :: path.toList = ws.flatMap text) :
    j.at? path = some v := by
  have hsteps : steps? path = some (ws.map read) := by
    rw [steps?, htrim]
    rcases hpath with hpath | hpath
    · rw [hpath, stepsFrom?_path hfits]
    · rw [← stepsFrom?_start_dot, hpath, stepsFrom?_path hfits]
  rw [at?, hsteps]
  exact foldlM_read h hfits

end Written

/-- The path of a location leads to what is found there, if each key stands in quotes between
brackets, and each index between brackets. The same holds of a path in which any of the keys and
indexes stand behind dots, the first of which may be left out, if blanks at its ends are none of
its keys. Only a key with a closing bracket has no place between brackets, and only one that is
empty or has a dot or an opening bracket has none behind a dot. -/
theorem at?_written {j v : Json} {location : List Step} (h : Reaches j location v) :
    ((∀ k, .key k ∈ location → ']' ∉ k.toList) →
      (∀ i, .index i ∈ location → i < UInt64.size) → ∀ mark, mark = '\'' ∨ mark = '"' →
      j.at? (String.ofList ((location.map (Written.inBrackets mark)).flatMap Written.text)) =
        some v) ∧
    ∀ (ws : List Written) (path : String), ws.map Written.step = location →
      (∀ w ∈ ws, w.Fits) → Text.trimmed path = path →
      (path.toList = ws.flatMap Written.text ∨ '.' :: path.toList = ws.flatMap Written.text) →
      j.at? path = some v := by
  constructor
  · intro hkeys hindexes mark hmark
    have hsteps : (location.map (Written.inBrackets mark)).map Written.step = location := by
      simp [Function.comp_def, Written.step_inBrackets]
    have hfits : ∀ w ∈ location.map (Written.inBrackets mark), w.Fits := by
      intro w hw
      obtain ⟨s, hs, rfl⟩ := List.mem_map.mp hw
      cases s with
      | key k => exact ⟨hmark, hkeys k hs⟩
      | index i => exact hindexes i hs
    have htrim := Written.trim_path_inBrackets mark location
    exact Written.at?_path (hsteps.symm ▸ h) hfits (by rwa [String.toList_ofList])
      (Or.inl String.toList_ofList)
  · rintro ws path rfl hfits htrim hpath
    exact Written.at?_path h hfits (Text.trimmed_eq_self_iff.mp htrim) hpath

/-- A key is empty, and another has a blank, a dot, a bracket and a quotation mark. -/
theorem at?_written_rows :
    let below := Json.obj [("", .obj [(" a.['", .str "deep")])]
    let j := Json.obj [("rows", .arr [.null, below])]
    Reaches j [.key "rows", .index 1, .key "", .key " a.['"] (.str "deep") ∧
      j.at? "['rows'][1][''][' a.['']" = some (.str "deep") ∧
      j.at? "rows.1[''][\" a.['\"]" = some (.str "deep") := by
  intro below j
  have h : Reaches j [.key "rows", .index 1, .key "", .key " a.['"] (.str "deep") :=
    .member rfl (.item rfl (.member rfl (.member rfl (.here _))))
  have hkeys : ∀ k, Step.key k ∈ [.key "rows", .index 1, .key "", .key " a.['"] →
      ']' ∉ k.toList := by
    simp
  refine ⟨h, (at?_written h).1 hkeys (by simp [UInt64.size]) '\'' (.inl rfl), ?_⟩
  apply (at?_written h).2
    [.dotted "rows", .counted 1, .quoted '\'' "", .quoted '"' " a.['"] _ rfl
  · simp [Written.Fits, UInt64.size]
  · rfl
  · exact .inr rfl

end Gleaner.Json
