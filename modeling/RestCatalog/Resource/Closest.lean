import RestCatalog.Resource.Basic

/-!
# The closest creator

Among calls on a resource and its ancestry the deepest ones are the closest.
Ties go to a source of choices, or to the first call where none is at hand.
-/

namespace RestCatalog

/-- The calls on the deepest paths, in order. -/
def deepestCalls (calls : List Call) : List Call :=
  let depth := calls.foldl (fun depth call => max depth call.restPath.levels) 0
  calls.filter fun call => call.restPath.levels = depth

namespace Chooser

variable {σ : Type} [ChoiceSource σ]

/-- Chooses among the deepest calls; without calls nothing is asked. -/
def deepest (calls : List Call) (chooser : Chooser σ) : Option Call × Chooser σ :=
  if calls.isEmpty then (none, chooser) else chooser.choose .calls (deepestCalls calls)

end Chooser

namespace ResourceGroup

/-- The calls on the resource at the target's path and on its ancestors: ancestors first,
closest first, then its own. -/
def sameOrAncestorCalls (group : ResourceGroup) (resource : Resource) (target : Call) :
    List Call :=
  match group.sameOrAncestor? resource target.restPath with
  | none => []
  | some found => group.ancestorCalls found ++ found.calls

/-- Those of them that have one of the verbs and another name than the target. -/
def closestCandidates (group : ResourceGroup) (resource : Resource) (target : Call)
    (verbs : List Verb) : List Call :=
  (group.sameOrAncestorCalls resource target).filter fun call =>
    verbs.contains call.verb && call.name != target.name

/-- The first of the closest calls with one of the verbs on the target's path or above. -/
def firstClosest? (group : ResourceGroup) (resource : Resource) (target : Call)
    (verbs : List Verb) : Option Call :=
  (deepestCalls (group.closestCandidates resource target verbs)).head?

/-- One of the closest calls with one of the verbs on the target's path or above. -/
def chooseClosest {σ : Type} [ChoiceSource σ] (group : ResourceGroup) (resource : Resource)
    (target : Call) (verbs : List Verb) (chooser : Chooser σ) : Option Call × Chooser σ :=
  chooser.deepest (group.closestCandidates resource target verbs)

/-- The first of the closest calls with one of the verbs strictly above a path. -/
def closestAbove? (group : ResourceGroup) (resource : Resource) (path : Path)
    (verbs : List Verb) : Option Call :=
  match group.sameOrAncestor? resource path with
  | none => none
  | some found =>
    (deepestCalls ((group.ancestorCalls found).filter fun call =>
      verbs.contains call.verb)).head?

end ResourceGroup

end RestCatalog
