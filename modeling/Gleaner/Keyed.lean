/-!
Lists of key-value pairs, and ordered maps: such lists in which no key stands twice. `put` keeps the
place of a key it finds and appends a new one (`keys_put`, `lookup_put`).
-/
namespace Gleaner

variable {α β : Type}

namespace Keyed

/-- Puts a value under a key: in place of the pair that has the key, else at the end. -/
def put (key : String) (value : α) : List (String × α) → List (String × α)
  | [] => [(key, value)]
  | (k, v) :: rest => if k = key then (k, value) :: rest else (k, v) :: put key value rest

def keys (xs : List (String × α)) : List String := xs.map Prod.fst

theorem keys_put (key : String) (value : α) (xs : List (String × α)) :
    keys (put key value xs) = if key ∈ keys xs then keys xs else keys xs ++ [key] := by
  induction xs with
  | nil => simp [put, keys]
  | cons x xs ih =>
    obtain ⟨k, v⟩ := x
    by_cases h : k = key
    · simp [put, keys, h]
    · have h' : ¬ key = k := fun e => h e.symm
      by_cases hm : key ∈ keys xs <;> simp_all [put, keys]

theorem nodup_put {key : String} {value : α} {xs : List (String × α)} (h : (keys xs).Nodup) :
    (keys (put key value xs)).Nodup := by
  rw [keys_put]
  split
  · exact h
  · next hk =>
    rw [List.nodup_append]
    refine ⟨h, by simp, fun a ha b hb e => hk ?_⟩
    rw [List.mem_singleton] at hb
    exact hb ▸ e ▸ ha

theorem lookup_put (key k : String) (value : α) (xs : List (String × α)) :
    (put key value xs).lookup k = if k = key then some value else xs.lookup k := by
  induction xs with
  | nil =>
    by_cases h : k = key
    · simp [put, h]
    · have hb : (k == key) = false := by simpa using h
      simp [put, List.lookup_cons, h, hb]
  | cons x xs ih =>
    obtain ⟨a, v⟩ := x
    by_cases h : a = key
    · by_cases hk : k = key
      · simp [put, h, hk]
      · have hb : (k == key) = false := by simpa using hk
        simp [put, h, hk, List.lookup_cons, hb]
    · by_cases hk : k = a
      · subst hk; simp [put, h]
      · have hb : (k == a) = false := by simpa using hk
        simp [put, h, List.lookup_cons, hb, ih]

end Keyed

/-- A map that keeps its keys in order of insertion. -/
structure OrderedMap (α : Type) where
  entries : List (String × α)
  nodup : (Keyed.keys entries).Nodup

namespace OrderedMap

def empty : OrderedMap α := ⟨[], List.nodup_nil⟩

instance : Inhabited (OrderedMap α) := ⟨empty⟩

def get? (m : OrderedMap α) (key : String) : Option α := m.entries.lookup key

def contains (m : OrderedMap α) (key : String) : Bool := (m.get? key).isSome

def insert (m : OrderedMap α) (key : String) (value : α) : OrderedMap α :=
  ⟨Keyed.put key value m.entries, Keyed.nodup_put m.nodup⟩

def keys (m : OrderedMap α) : List String := Keyed.keys m.entries

def values (m : OrderedMap α) : List α := m.entries.map Prod.snd

def size (m : OrderedMap α) : Nat := m.entries.length

def isEmpty (m : OrderedMap α) : Bool := m.entries.isEmpty

/-- Inserts pairs one after another. -/
def insertAll (m : OrderedMap α) (xs : List (String × α)) : OrderedMap α :=
  xs.foldl (fun m x => m.insert x.1 x.2) m

/-- Of pairs with one key the last value, at the place of the first. -/
def ofList (xs : List (String × α)) : OrderedMap α := empty.insertAll xs

def mapValues (f : α → β) (m : OrderedMap α) : OrderedMap β :=
  ⟨m.entries.map fun x => (x.1, f x.2), by
    have := m.nodup
    simpa [Keyed.keys, List.map_map, Function.comp_def] using this⟩

/-- The same keys with equal values, in whatever order. -/
instance [BEq α] : BEq (OrderedMap α) where
  beq m n := m.size == n.size && m.entries.all fun x =>
    match n.get? x.1 with
    | some v => x.2 == v
    | none => false

theorem get?_insert (m : OrderedMap α) (key k : String) (value : α) :
    (m.insert key value).get? k = if k = key then some value else m.get? k :=
  Keyed.lookup_put key k value m.entries

theorem keys_insert (m : OrderedMap α) (key : String) (value : α) :
    (m.insert key value).keys = if key ∈ m.keys then m.keys else m.keys ++ [key] :=
  Keyed.keys_put key value m.entries

@[ext] theorem ext {m n : OrderedMap α} (h : m.entries = n.entries) : m = n := by
  cases m; cases n; cases h; rfl

end OrderedMap

end Gleaner
