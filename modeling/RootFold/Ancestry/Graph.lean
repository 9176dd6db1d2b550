import RootFold.Path.Nesting

/-!
# `RootFold.Ancestry.Graph` — declared directories and all directories above them

The graph holds every directory that was inserted and every directory above one of them, each once, as it was
first spelled. An edge leads from a directory to one directly inside it. Inserting climbs from the new directory
and stops at the first one that is already known, since that one is linked up to its root. Roots and children are
reported in path order.

## Contents
- **Graphs.** `AncestryGraph`, its nodes and edges in order of arrival.
- **Insertion.** `AncestryGraph.insert`, `AncestryGraph.ofList`.
- **Reading.** `roots`, `children`, and `childrenByAge`, the children in the order in which their edges came.
-/

namespace RootFold

/-- **A graph of directories.** -/
structure AncestryGraph where
  /-- The directories, in order of arrival, each as it was first spelled. -/
  nodes : List Path
  /-- Pairs of a directory and one directly inside it, in order of arrival. -/
  edges : List (Path × Path)
  deriving Inhabited

namespace AncestryGraph

/-- The graph without directories. -/
def empty : AncestryGraph := ⟨[], []⟩

/-- The directory of the graph that is the same place, in the graph's spelling. -/
def node? (g : AncestryGraph) (p : Path) : Option Path := g.nodes.find? (· == p)

/-- Whether a directory is in the graph. -/
def contains (g : AncestryGraph) (p : Path) : Bool := g.nodes.any (· == p)

/-- Whether there is no directory. -/
def isEmpty (g : AncestryGraph) : Bool := g.nodes.isEmpty

/-- The number of directories. -/
def size (g : AncestryGraph) : Nat := g.nodes.length

/-! ## Insertion -/

/-- Add a directory unless it is there. -/
def addNode (g : AncestryGraph) (p : Path) : AncestryGraph :=
  if g.contains p then g else { g with nodes := g.nodes ++ [p] }

/-- Add an edge between two directories of the graph unless it is there. -/
def addEdge (g : AncestryGraph) (parent child : Path) : AncestryGraph :=
  let edge := ((g.node? parent).getD parent, (g.node? child).getD child)
  if g.edges.any (fun e => e.1 == edge.1 && e.2 == edge.2) then g else { g with edges := g.edges ++ [edge] }

/-- **Link a directory of the graph to the one above it,** and so on upward until one is met that was there
    before. -/
def linkUp (g : AncestryGraph) (child : Path) : AncestryGraph :=
  match _h : child.parentDir? with
  | none => g
  | some parent =>
    let linked := (g.addNode parent).addEdge parent child
    if g.contains parent then linked else linkUp linked parent
termination_by child.components.length
decreasing_by exact Path.length_components_of_parentDir? _h

/-- **Insert a directory** and every directory above it. -/
def insert (g : AncestryGraph) (p : Path) : AncestryGraph := (g.addNode p).linkUp p

/-- The graph of a list of directories. -/
def ofList (paths : List Path) : AncestryGraph := paths.foldl insert empty

/-! ## Reading -/

/-- Paths in path order. -/
def inPathOrder (paths : List Path) : List Path := paths.mergeSort Path.le

/-- The directories directly inside one, in the order in which their edges came. -/
def childrenByAge (g : AncestryGraph) (p : Path) : List Path := (g.edges.filter (·.1 == p)).map (·.2)

/-- **The directories directly inside one,** in path order. -/
def children (g : AncestryGraph) (p : Path) : List Path := inPathOrder (g.childrenByAge p)

/-- **The directories with none above them,** in path order. -/
def roots (g : AncestryGraph) : List Path :=
  inPathOrder (g.nodes.filter fun p => !g.edges.any (·.2 == p))

end AncestryGraph

end RootFold
