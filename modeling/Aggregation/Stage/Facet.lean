/-!
This module contains the stage that runs several pipelines on the same documents.
-/

namespace Aggregation

/--
Named pipelines, where `σ` is the type of their stages.
-/
structure Facet (σ : Type) where
  facets : List (String × List σ) := []

namespace Facet

def declare (f : Facet σ) (facet : String × List σ) : Facet σ :=
  { f with facets := f.facets ++ [facet] }

def ofFacets (facets : List (String × List σ)) : Facet σ :=
  facets.foldl declare {}

end Facet

end Aggregation
