import RestCatalog.Resource.Basic

/-!
# Tables of a resource

The words of a path speak for the tables they name.  A table found by a word is
also related to every parameter whose segment contains the word.
-/

namespace RestCatalog

namespace Resource

variable (resource : Resource)

/-- Whether the words of a parameter's segment, run together, contain a text. -/
def segmentMentions (info : ParamInfo) (text : String) : Bool :=
  Text.occursIn (Text.lower text).toList (info.segment.toList.filter fun c => c != '@')

/-- The relation after one match: the table is derived, and related to the parameters whose
segment mentions the indicator. -/
def noteMatch (relation : TableRelation) (found : TableMatch) : TableRelation :=
  (resource.params.values.filter fun info => segmentMentions info found.indicator).foldl
    (fun relation info => relation.relateParam info.key found.table)
    (relation.derive found.table found)

/-- Derives tables from the words of the path. -/
def deriveTables (tables : List String) : Resource :=
  { resource with
    tables := (matchTables (resource.tokens.flatWords false) tables).foldl resource.noteMatch
      resource.tables }

def confirmTable (table : String) : Resource :=
  { resource with tables := resource.tables.confirm table }

end Resource

end RestCatalog
