import StubGen.Target.Default
import StubGen.Text.Block

/-!
# The tree node helper

A file whose signature involves a tree defines the node type that its spellings refer to. The nodes
hold the value type of the first tree of the signature.
-/

namespace StubGen

/-- The value types of the trees in a type, outermost first. -/
def TypeExpr.treeValues (t : TypeExpr) : List Primitive :=
  t.walk.filterMap fun inner => match inner with
    | tree value => some value
    | _ => none

/-- The value type of the first tree in the types, `int` if there is none. -/
def firstTreeValue (types : List TypeExpr) : Primitive :=
  (types.flatMap TypeExpr.treeValues).headD .int

/-- The lines of the node definition for values of a primitive type. -/
def Target.treeNodeLines (target : Target) (value : Primitive) : List String :=
  let val := target.family.primitive value
  let init := target.primitiveDefault value
  match target.family with
  | .java =>
    ["// Definition for a binary tree node",
     "class TreeNode \x7b",
     "    " ++ val ++ " val;",
     "    TreeNode left;",
     "    TreeNode right;",
     "    TreeNode() \x7b\x7d",
     "    TreeNode(" ++ val ++ " val) \x7b this.val = val; \x7d",
     "    TreeNode(" ++ val ++ " val, TreeNode left, TreeNode right) \x7b",
     "        this.val = val;",
     "        this.left = left;",
     "        this.right = right;",
     "    \x7d",
     "\x7d"]
  | .python =>
    ["# Definition for a binary tree node",
     "class TreeNode:",
     "    def __init__(self, val=" ++ init ++ ", left=None, right=None):",
     "        self.val = val",
     "        self.left = left",
     "        self.right = right"]
  | .cpp =>
    ["// Definition for a binary tree node",
     "struct TreeNode \x7b",
     "    " ++ val ++ " val;",
     "    TreeNode *left;",
     "    TreeNode *right;",
     "    TreeNode() : val(" ++ init ++ "), left(nullptr), right(nullptr) \x7b\x7d",
     "    TreeNode(" ++ val ++ " x) : val(x), left(nullptr), right(nullptr) \x7b\x7d",
     "    TreeNode(" ++ val ++ " x, TreeNode *left, TreeNode *right) : val(x), left(left), right(right) \x7b\x7d",
     "\x7d;"]
  | .javascript =>
    ["// Definition for a binary tree node",
     "function TreeNode(val, left, right) \x7b",
     "    this.val = (val === undefined ? " ++ init ++ " : val);",
     "    this.left = (left === undefined ? null : left);",
     "    this.right = (right === undefined ? null : right);",
     "\x7d"]

/-- The node definition for values of a primitive type. -/
def Target.treeNode (target : Target) (value : Primitive) : String :=
  Text.unlines (target.treeNodeLines value)

/-- The node definition that the types need, empty if they hold no tree. -/
def Target.treeNodeFor (target : Target) (types : List TypeExpr) : String :=
  if anyTree types then target.treeNode (firstTreeValue types) else ""
where
  anyTree (types : List TypeExpr) : Bool := types.any fun t => t.contains .tree

end StubGen
