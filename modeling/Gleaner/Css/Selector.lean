/-!
Selectors: which elements of a document are meant.
-/
namespace Gleaner.Css

/-- How an element stands to one that comes before it. -/
inductive Combinator where
  | descendant
  | child
  | next
  | later
  deriving DecidableEq, Repr

inductive AttrOperator where
  | equals
  | includes
  | dashed
  | starts
  | ends
  | contains
  deriving DecidableEq, Repr

/-- Whether case counts in a value: always, never, or only outside markup elements. -/
inductive CaseRule where
  | counts
  | ignored
  | ignoredInMarkup
  deriving DecidableEq, Repr

/-- A test on an attribute; without an operator the attribute need only be there. -/
structure AttrTest where
  name : String
  anySpace : Bool
  value : Option (AttrOperator × String × CaseRule)
  deriving DecidableEq, Repr

/-- Simple selectors. A compound is a list of them. A complex selector is a list of compounds, the
one for the element itself first, each with the combinator that stands before it. -/
inductive Simple where
  | universal
  | never
  | type (name : String)
  | id (name : String)
  | cls (name : String)
  | attr (test : AttrTest)
  /-- The place among the siblings is `a * n + b` for some natural `n`. -/
  | nth (a b : Int) (ofType fromEnd : Bool)
  | root
  | empty
  | link
  | onlyText
  | contains (text : String)
  | hasText (text : String)
  /-- The element that a relative selector starts from. -/
  | anchor
  | among (choices : List (List (Combinator × List Simple)))
  | notAmong (choices : List (List (Combinator × List Simple)))
  | has (relatives : List (List (Combinator × List Simple)))

abbrev Compound := List Simple

abbrev Complex := List (Combinator × Compound)

/-- An element is meant when one of the complex selectors means it. -/
structure Selector where
  choices : List Complex

end Gleaner.Css
