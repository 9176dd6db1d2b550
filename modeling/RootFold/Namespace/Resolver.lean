import RootFold.Namespace.Declaration
import RootFold.Note

/-!
# `RootFold.Namespace.Resolver` — where the namespace of a file comes from

A resolver answers for one file at a time which namespace it is in, or that it does not know. Namespaces are
written as paths. What a resolver notices while it answers is kept apart from the answer.

## Contents
- **Resolvers.** `Resolver`, a function with remarks.
- **Kinds.** `Resolver.directory`, `Resolver.mapped`, `Resolver.declared`.
-/

namespace RootFold

/-- **A source of namespaces.** -/
structure Resolver where
  /-- The namespace of a file, if it is known. -/
  resolve : Path → Option Path
  /-- What is noticed while the file is looked up. -/
  remarks : Path → List Note := fun _ => []

namespace Resolver

/-- The directory a file is in. -/
def containingDirectory (file : Path) : Path := file.parent?.getD .empty

/-- **Every directory is its own namespace.** -/
def directory : Resolver where
  resolve file := some (containingDirectory file)

/-- **A table says which directory stands for which namespace;** any other directory stands for itself. -/
def mapped (table : PathMap Path) : Resolver where
  resolve file := some ((table.find? (containingDirectory file)).getD (containingDirectory file))

/-- **The package declaration in the file decides.** A file without one is in the empty namespace; one that
    cannot be read is left to the fallback, if there is one. -/
def declared (files : FileSystem) (root : Path) (fallback : Option Resolver) : Resolver where
  resolve file :=
    match files.readText (root.join file) with
    | .ok source => some ((Declaration.find? source).getD .empty)
    | .error _ => fallback.bind (·.resolve file)
  remarks file :=
    match files.readText (root.join file) with
    | .ok _ => []
    | .error cause => .cannotRead (root.join file) cause :: (fallback.map (·.remarks file)).getD []

end Resolver

end RootFold
