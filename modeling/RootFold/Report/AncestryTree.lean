import RootFold.Ancestry.PostOrder
import RootFold.Report.Style
import RootFold.Path.Map

/-!
# `RootFold.Report.AncestryTree` — the ancestry graph as a drawing

The tree of a root is put together from the bottom up, in the order in which a walk comes by: the trees of the
directories inside one are finished when it is its turn, and go into it in path order. Directories deeper than
the limit are left out. A tree is drawn with a line for each directory.

## Contents
- **Trees.** `DisplayTree`.
- **Putting together.** `nodeLabel`, `addTree`, `displayTree`.
- **Drawing.** `DisplayTree.draw`.
-/

namespace RootFold

/-- **A tree of labels.** -/
inductive DisplayTree where
  | node (label : String) (children : List DisplayTree)
  deriving Repr, Inhabited

namespace DisplayTree

/-- The label at the top. -/
def label : DisplayTree → String
  | node label _ => label

/-- The trees directly below the top. -/
def children : DisplayTree → List DisplayTree
  | node _ children => children

end DisplayTree

/-! ## Putting together -/

/-- **The label of a directory:** its whole path at the root, its name below, and the kind of a declared folder. -/
def nodeLabel (style : Style) (declared : PathMap Folder) (node : Path) (depth : Nat) : String :=
  let name := if depth = 0 then node.text else node.fileName?.getD node.text
  match declared.find? node with
  | some f => s!"{name} [{style.shortLabel f.kind}]"
  | none => name

/-- The finished trees of some directories, taken out of those that wait, in their order. -/
def takeTrees (waiting : PathMap DisplayTree) : List Path → List DisplayTree × PathMap DisplayTree
  | [] => ([], waiting)
  | path :: rest =>
    match waiting.find? path with
    | none => takeTrees waiting rest
    | some tree =>
      let (trees, left) := takeTrees (waiting.erase path) rest
      (tree :: trees, left)

/-- **Add a directory** to the trees that wait, over those of the directories inside it, unless it is too deep. -/
def addTree (graph : AncestryGraph) (style : Style) (declared : PathMap Folder) (root : Path) (limit : Option Nat)
    (waiting : PathMap DisplayTree) (node : Path) : PathMap DisplayTree :=
  let depth := (root.nestingDepth? node).getD 0
  if limit.any (· < depth) then waiting
  else
    let (children, waiting) := takeTrees waiting (graph.children node)
    waiting.insert node (.node (nodeLabel style declared node depth) children)

/-- **The tree below a root,** down to a limit if there is one. -/
def displayTree (graph : AncestryGraph) (style : Style) (declared : PathMap Folder) (limit : Option Nat)
    (root : Path) : DisplayTree :=
  let waiting := (graph.postOrder root).foldl (addTree graph style declared root limit) .empty
  (waiting.find? root).getD (.node root.text [])

/-! ## Drawing -/

namespace DisplayTree

mutual

/-- The lines of a tree below its first, behind a margin. -/
def lowerLines (margin : String) : DisplayTree → List String
  | node _ children => childLines margin children

/-- The lines of the trees below a node, each with its branch in front. -/
def childLines (margin : String) : List DisplayTree → List String
  | [] => []
  | child :: rest =>
    let (branch, inner) := if rest.isEmpty then ("└─ ", "   ") else ("├─ ", "│  ")
    (margin ++ branch ++ child.label) :: lowerLines (margin ++ inner) child ++ childLines margin rest

end

/-- **A tree, one line for each label.** -/
def draw (tree : DisplayTree) : String := String.join ((tree.label :: tree.lowerLines "").map (· ++ "\n"))

end DisplayTree

end RootFold
