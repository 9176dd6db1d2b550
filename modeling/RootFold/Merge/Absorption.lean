import RootFold.Namespace.Cache

/-!
# `RootFold.Merge.Absorption` — may one folder take in another?

A folder may absorb one strictly below it when both agree on purpose and namespace flag and, if they want a
namespace prefix, when their namespaces follow the directories: taking as many steps off the lower namespace as
lie between the folders gives the upper namespace, and at least one step stays. Without a recorded namespace on
either side nothing is absorbed.

## Contents
- **Verdicts.** `Verdict` says why; `Verdict.notes` is what the log learns.
- **The test.** `verdict`, `canMerge`.
-/

namespace RootFold

/-- **Why a folder may or may not absorb another.** -/
inductive Verdict where
  /-- It may. -/
  | absorbs
  /-- They serve different purposes. -/
  | kindsDiffer
  /-- One wants a namespace prefix and the other does not. -/
  | flagsDiffer
  /-- A directory has no recorded namespace. -/
  | unplaced (path : Path)
  /-- The lower namespace has too few steps. -/
  | tooShallow
  /-- The namespaces do not follow the directories. -/
  | layoutsDiffer
  deriving Inhabited

namespace Verdict

/-- Whether the verdict is favourable. -/
def isFavourable : Verdict → Bool
  | absorbs => true
  | _ => false

/-- What the log learns from a verdict. -/
def notes : Verdict → List Note
  | unplaced path => [.unplaced path]
  | _ => []

end Verdict

/-- **May `parent` absorb `child`?** An error if `child` is not strictly below `parent`. -/
def verdict (parent child : Folder) (namespaces : NamespaceCache) : Except Error Verdict :=
  match parent.path.nestingDepth? child.path with
  | none => .error (.inconsistent (.notNested child.path parent.path))
  | some depth =>
    .ok <|
      if parent.kind != child.kind then .kindsDiffer
      else if parent.wantsNamespacePrefix != child.wantsNamespacePrefix then .flagsDiffer
      else if !parent.wantsNamespacePrefix then .absorbs
      else
        match namespaces.lookup parent.path, namespaces.lookup child.path with
        | none, _ => .unplaced parent.path
        | some _, none => .unplaced child.path
        | some parentNs, some childNs =>
          if childNs.segmentCount ≤ depth then .tooShallow
          else if (childNs.dropTrailing? depth).any (· == parentNs) then .absorbs
          else .layoutsDiffer

/-- Whether `parent` may absorb `child`. -/
def canMerge (parent child : Folder) (namespaces : NamespaceCache) : Except Error Bool :=
  (verdict parent child namespaces).map Verdict.isFavourable

end RootFold
