import RootFold.Merge.Walk
import RootFold.Merge.Validity
import RootFold.Merge.Simplified

/-!
# `RootFold.Simplify` — one pass over a list of folders

A pass sorts the folders by path, checks them, takes note of the namespaces of those that take part in merging,
and walks every tree of their ancestry graph. The result does not depend on anything but the folders and the
resolver's answers.

## Contents
- **Preparation.** `Intake` is the state while folders are taken in, `takeIn`; `Prepared`, `prepare`: sorted and
  checked folders with the namespaces that are known.
- **Passes.** `runPass`, and its result `simplify`; `resolverCalls` are the files that the resolver was asked
  about, in order.
-/

namespace RootFold

/-- Folders in path order; those at one path keep their order. -/
def sortByPath (folders : List Folder) : List Folder := folders.mergeSort fun a b => a.path.le b.path

/-- **A pass before its walks:** what is excluded, what is known about namespaces, and the folders that are held. -/
structure Prepared where
  excluded : List Folder
  namespaces : NamespaceCache
  accumulator : Accumulator
  deriving Inhabited

/-- Nothing yet. -/
def Prepared.empty : Prepared := ⟨[], .empty, .empty⟩

/-- **The state while folders are taken in:** what they have given so far, the files that were asked about among it, and
    the notes. -/
structure Intake extends Prepared where
  notes : List Note
  deriving Inhabited

/-- **A part of taking folders in.** It changes the state and may fail; the state at the failure is kept. -/
abbrev IntakeM := EStateM Error Intake

/-- Take in one folder: an excluded one is set aside, any other is registered. -/
def Intake.add (resolver : Resolver) (folder : Folder) : IntakeM Unit := do
  if folder.isExcluded then modify fun s => { s with excluded := s.excluded ++ [folder] }
  else
    modify fun s =>
      let (namespaces, notes) := s.namespaces.register resolver folder
      { s with namespaces, notes := s.notes ++ notes }
    let accumulator ← MonadExcept.ofExcept (Accumulator.register (← get).accumulator folder)
    modify fun s => { s with accumulator }

/-- Check folders that are in order and take them in. -/
def takeIn (resolver : Resolver) (sorted : List Folder) : IntakeM Unit := do
  MonadExcept.ofExcept (validate sorted)
  sorted.forM (Intake.add resolver)

/-- **Sort and check the folders and take them in.** -/
def prepare (resolver : Resolver) (folders : List Folder) : NotingM Prepared := fun notes =>
  match takeIn resolver (sortByPath folders) ⟨.empty, notes⟩ with
  | .error e s => .error e s.notes
  | .ok () s =>
    .ok s.toPrepared (s.notes ++ [.simplifying s.accumulator.size s.excluded.length s.namespaces.resolutions])

/-- Walk the tree at a root and note it when it collapses. -/
def walkRoot (graph : AncestryGraph) (namespaces : NamespaceCache) (root : Path) : PassM Unit := do
  match ← walk graph namespaces root with
  | .merged folder => PassM.note [.collapsed root folder]
  | .blocked => pure ()

/-- Walk all trees of the folders that a pass holds. -/
def walkAll (namespaces : NamespaceCache) (acc : Accumulator) : PassM Unit :=
  let graph := AncestryGraph.ofList acc.keys
  graph.roots.forM (walkRoot graph namespaces)

/-- **One pass:** its result and the notes it made, also when it failed. -/
def runPass (resolver : Resolver) (folders : List Folder) : Except Error Simplified × List Note :=
  match prepare resolver folders [] with
  | .error e notes => (.error e, notes)
  | .ok p notes =>
    match walkAll p.namespaces p.accumulator ⟨p.accumulator, notes⟩ with
    | .error e pass => (.error e, pass.notes)
    | .ok () pass => (.ok (Simplified.assemble p.excluded pass.accumulator), pass.notes)

/-- **Collapse folders into the fewest that mean the same.** -/
def simplify (resolver : Resolver) (folders : List Folder) : Except Error Simplified :=
  (runPass resolver folders).1

/-- **The files that a pass asks the resolver about,** in order. Only taking the folders in asks about files, and the
    files asked about are part of its state, also if it fails. -/
def resolverCalls (resolver : Resolver) (folders : List Folder) : List Path :=
  match takeIn resolver (sortByPath folders) ⟨.empty, []⟩ with
  | .ok _ s => s.namespaces.calls
  | .error _ s => s.namespaces.calls

end RootFold
