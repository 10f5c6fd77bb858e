import StubGen.Target.Spelling
import StubGen.Text.Block

/-!
# Imports

A file starts with the baseline imports of its target, followed by those that the types of the
signature call for; no statement is repeated.
-/

namespace StubGen

/-- Whether one of the types is, or holds, something of the category. -/
def anyContains (types : List TypeExpr) (category : Category) : Bool :=
  types.any fun t => t.contains category

/-- The names of the `typing` module that the types use. -/
def typingNames (types : List TypeExpr) : List String :=
  (if anyContains types .array || anyContains types .list || anyContains types .graph
    then ["List"] else []) ++
  (if anyContains types .tree then ["Optional"] else [])

/-- The imports that the types call for. -/
def Family.extraImports : Family → List TypeExpr → List String
  | java, types =>
    if anyContains types .list then ["import com.google.gson.reflect.TypeToken;"] else []
  | python, types =>
    let names := typingNames types
    if names.isEmpty then [] else ["from typing import " ++ Text.joined ", " names]
  | cpp, types => if anyContains types .tree then ["#include <memory>"] else []
  | javascript, _ => []

/-- The list without later repetitions. -/
def firstOccurrences : List String → List String
  | [] => []
  | s :: rest => s :: (firstOccurrences rest).filter (· ≠ s)

def Target.imports (target : Target) (types : List TypeExpr) : List String :=
  firstOccurrences (target.baselineImports ++ target.family.extraImports types)

end StubGen
