import RootFold.Ancestry.PostOrder
import RootFold.Merge.Accumulator

/-!
# `RootFold.Merge.Walk` — merging from the bottom up

The walk goes through the directories below a root, each after what is inside it. A directory becomes one folder
when everything directly inside it did and one relocated folder, the template, may absorb each of them; otherwise
it is blocked, and so is every directory above it. What was merged below stays merged. Folders are compared with
the template only, never with each other.

## Contents
- **Outcomes.** `Outcome`, and the state of a walk: `Accumulator` and notes.
- **One directory.** `absorbAll`, `mergeAll`, `mergeNode`.
- **All directories.** `stepNode`, `walk`. A failed walk still leaves its state.
-/

namespace RootFold

/-- **What became of a directory.** -/
inductive Outcome where
  /-- One folder covers everything below. -/
  | merged (folder : Folder)
  /-- Nothing may merge here or above. -/
  | blocked
  deriving Inhabited

namespace Outcome

/-- Whether nothing may merge. -/
def isBlocked : Outcome → Bool
  | blocked => true
  | merged _ => false

/-- The folder that covers everything, if there is one. -/
def folder? : Outcome → Option Folder
  | merged folder => some folder
  | blocked => none

end Outcome

/-- **The state of a pass:** the folders it holds and the notes it has made. -/
structure Pass where
  accumulator : Accumulator
  notes : List Note
  deriving Inhabited

/-- **A part of a pass.** It changes the state and may fail; the state at the failure is kept. -/
abbrev PassM := EStateM Error Pass

namespace PassM

/-- Make notes. -/
def note (notes : List Note) : PassM Unit := modify fun s => { s with notes := s.notes ++ notes }

/-- Fail with a cause, or go on with a value. -/
def ofExcept {α : Type} : Except Error α → PassM α
  | .ok a => pure a
  | .error e => throw e

/-- Fail because of folders that do not fit together. -/
def inconsistent {α : Type} (cause : Inconsistency) : PassM α := throw (.inconsistent cause)

end PassM

/-! ## One directory -/

/-- **Whether the template may absorb all children,** tried in order up to the first it may not. -/
def absorbAll (namespaces : NamespaceCache) (node : Path) (template : Folder) : List Folder → PassM Bool
  | [] => pure true
  | child :: rest => do
    let v ← PassM.ofExcept (verdict template child namespaces)
    PassM.note v.notes
    if v.isFavourable then absorbAll namespaces node template rest
    else
      PassM.note [.cannotAbsorb node child.path]
      pure false

/-- The template with all children merged into it, one after the other. -/
def mergeAll (template : Folder) (children : List Folder) : Except Error Folder :=
  children.foldlM (fun merged child => child.merge merged) template

/-- The folders of a list of outcomes, if none is blocked. -/
def allMerged? : List Outcome → Option (List Folder)
  | [] => some []
  | .merged folder :: rest => (allMerged? rest).map (folder :: ·)
  | .blocked :: _ => none

/-- **Decide what becomes of a directory,** given what became of those directly inside it. -/
def mergeNode (namespaces : NamespaceCache) (node : Path) (outcomes : List Outcome) : PassM Outcome := do
  match allMerged? outcomes with
  | none =>
    PassM.note [.blockedBelow node]
    pure .blocked
  | some [] =>
    match (← get).accumulator.find? node with
    | some folder => pure (.merged folder)
    | none => PassM.inconsistent (.leafUndeclared node)
  | some (first :: rest) =>
    if (← get).accumulator.contains node then PassM.inconsistent (.declaredAbove node)
    else
      let template := first.relocated node
      if ← absorbAll namespaces node template (first :: rest) then
        let folder ← PassM.ofExcept (mergeAll template (first :: rest))
        PassM.note [.merged node (rest.length + 1) folder.kind]
        modify fun s => { s with accumulator := Accumulator.replace s.accumulator (first :: rest) folder }
        pure (.merged folder)
      else pure .blocked

/-! ## All directories -/

/-- The outcomes that wait to be used by the directory above. -/
abbrev Finished := PathMap Outcome

/-- Take the outcome of each path out of those that wait. -/
def takeOutcomes (finished : Finished) : List Path → Except Error (List Outcome × Finished)
  | [] => .ok ([], finished)
  | path :: rest =>
    match finished.find? path with
    | none => .error (.inconsistent (.notWalked path))
    | some outcome => do
      let (outcomes, finished) ← takeOutcomes (finished.erase path) rest
      return (outcome :: outcomes, finished)

/-- **Walk one directory:** take the outcomes of those inside it and leave its own. -/
def stepNode (graph : AncestryGraph) (namespaces : NamespaceCache) (finished : Finished) (node : Path) :
    PassM Finished := do
  let (outcomes, finished) ← PassM.ofExcept (takeOutcomes finished (graph.children node))
  let outcome ← mergeNode namespaces node outcomes
  return finished.insert node outcome

/-- **Walk everything below a root** and say what became of it. -/
def walk (graph : AncestryGraph) (namespaces : NamespaceCache) (root : Path) : PassM Outcome := do
  if !graph.contains root then PassM.inconsistent (.notInGraph root)
  else
    let finished ← (graph.postOrder root).foldlM (stepNode graph namespaces) .empty
    match finished.find? root with
    | some outcome => return outcome
    | none => PassM.inconsistent (.notWalked root)

end RootFold
