import Gleaner.Site.Definition
import Gleaner.Text.Case

/-!
Registries of sites. A site is found by its name or an alias, in whatever case; its name wins over
the aliases of others.
-/
namespace Gleaner

/-- The key that a site is found by. -/
def SiteDefinition.key (d : SiteDefinition) : String := Text.lower d.name

/-- Sites in order of registration, and the place of each name and alias. -/
structure SiteRegistry where
  sites : List SiteDefinition
  index : OrderedMap Nat

namespace SiteRegistry

def empty : SiteRegistry := ⟨[], OrderedMap.empty⟩

/-- The keys of the index that do not lead to a place. -/
def without (index : OrderedMap Nat) (slot : Nat) : OrderedMap Nat :=
  OrderedMap.ofList (index.entries.filter fun e => e.2 != slot)

/-- Whether a key is the name of another site. -/
def isNameOfOther (sites : List SiteDefinition) (index : OrderedMap Nat) (slot : Nat)
    (key : String) : Bool :=
  match index.get? key with
  | some other => other != slot && (sites[other]?).any fun s => s.key = key
  | none => false

/-- The place of the site with a name; behind all sites when there is none. -/
def slotOf (sites : List SiteDefinition) (name : String) : Nat := sites.findIdx fun s => s.key = name

/-- Puts a site at its place. -/
def store (sites : List SiteDefinition) (slot : Nat) (site : SiteDefinition) :
    List SiteDefinition :=
  if slot = sites.length then sites ++ [site] else sites.set slot site

/-- Lets an alias lead to a place, unless it is the name of another site. -/
def addAlias (sites : List SiteDefinition) (slot : Nat) (index : OrderedMap Nat) (other : String) :
    OrderedMap Nat :=
  let key := Text.lower other
  if isNameOfOther sites index slot key then index else index.insert key slot

/-- Registers a site, in place of one that has its name. -/
def register (r : SiteRegistry) (site : SiteDefinition) : SiteRegistry :=
  let slot := slotOf r.sites site.key
  let sites := store r.sites slot site
  let index := if slot = r.sites.length then r.index else without r.index slot
  ⟨sites, (site.aka.foldl (addAlias sites slot) index).insert site.key slot⟩

/-- Registers sites one after another. -/
def registerAll (r : SiteRegistry) (sites : List SiteDefinition) : SiteRegistry :=
  sites.foldl register r

def ofList (sites : List SiteDefinition) : SiteRegistry := empty.registerAll sites

/-- The site of a name or alias. -/
def get? (r : SiteRegistry) (name : String) : Option SiteDefinition :=
  (r.index.get? (Text.lower (Text.trimmed name))).bind fun slot => r.sites[slot]?

def size (r : SiteRegistry) : Nat := r.sites.length

end SiteRegistry

end Gleaner
