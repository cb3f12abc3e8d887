import ClusterGate.Api.Basic

/-!
# Catalogs

The APIs of a set that are switched on, in declaration order. A path
belongs to the first of them whose route covers it. An entry that no path
can reach, because an earlier one covers everything it would, is *shadowed*.
-/

namespace ClusterGate

/-- The reachable APIs with their routes, in matching order. -/
structure Catalog where
  entries : List (Api × Route)
  deriving DecidableEq, Repr

namespace Catalog

/-- The routable APIs of a set that are among the wanted ones. -/
def restrictedTo (table : ApiTable) (wanted : List Api) : Catalog :=
  ⟨table.routable.filter fun e => e.1 ∈ wanted⟩

/-- All routable APIs of a set. -/
def full (table : ApiTable) : Catalog := ⟨table.routable⟩

/-- The route of an API, if it is in the catalog. -/
def lookup? (catalog : Catalog) (api : Api) : Option Route :=
  (catalog.entries.find? fun e => e.1 = api).map (·.2)

def contains (catalog : Catalog) (api : Api) : Bool :=
  (catalog.lookup? api).isSome

/-- The first entry whose route covers a path. -/
def findEntry? (catalog : Catalog) (path : String) : Option (Api × Route) :=
  catalog.entries.find? fun e => e.2.covers path

/-- The API a path belongs to. -/
def find? (catalog : Catalog) (path : String) : Option Api :=
  (catalog.findEntry? path).map (·.1)

/-- Pairs of an entry and a later one that it shadows, given the entries
before. -/
def shadowedAfter (earlier : List (Api × Route)) :
    List (Api × Route) → List (Api × Api)
  | [] => []
  | e :: rest =>
    ((earlier.find? fun d => d.2.covers e.2.lead).map
      fun d => (d.1, e.1)).toList ++ shadowedAfter (earlier ++ [e]) rest

/-- Each shadowed API with the first one that shadows it. -/
def shadowed (catalog : Catalog) : List (Api × Api) :=
  shadowedAfter [] catalog.entries

/-- The canonical paths in matching order. -/
def paths (catalog : Catalog) : List String := catalog.entries.map (·.2.path)

def size (catalog : Catalog) : Nat := catalog.entries.length

def isEmpty (catalog : Catalog) : Bool := catalog.entries.isEmpty

end Catalog

end ClusterGate
