/-!
# `RootFold.Folder.Kind` — what a folder is for

A declared folder holds source code, holds tests, or is kept out of the project. The kinds are ordered as they
are listed.
-/

namespace RootFold

/-- **What a folder is for.** -/
inductive FolderKind where
  | source
  | test
  | exclude
  deriving DecidableEq, Repr, Inhabited

namespace FolderKind

/-- The word for a kind, in manifests and in output. -/
def name : FolderKind → String
  | source => "source"
  | test => "test"
  | exclude => "exclude"

instance : ToString FolderKind := ⟨name⟩

/-- All kinds, in order. -/
def all : List FolderKind := [source, test, exclude]

/-- The kinds by their words. Case matters. -/
def words : List (String × FolderKind) := all.map fun kind => (kind.name, kind)

/-- A kind is found by its word. -/
theorem find?_words (k : FolderKind) : words.find? (·.1 == k.name) = some (k.name, k) := by
  cases k <;> decide

/-- The place of a kind in the order. -/
def rank : FolderKind → Nat
  | source => 0
  | test => 1
  | exclude => 2

end FolderKind

end RootFold
