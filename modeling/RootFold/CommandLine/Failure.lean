import RootFold.Error

/-!
# `RootFold.CommandLine.Failure` — how a failed command reports why

A failure says what was being done, and then the chain of causes, each the reason of the one before it. A single
cause is indented; several are numbered. The later lines of a cause stand under its first.
-/

namespace RootFold.CommandLine

/-- **Why a command failed.** -/
structure Failure where
  /-- What went wrong, in one sentence. -/
  summary : String
  /-- The causes, each the reason of the one before. -/
  causes : List String
  deriving DecidableEq, Repr, Inhabited

namespace Failure

/-- A failure without causes. -/
def plain (summary : String) : Failure := ⟨summary, []⟩

/-- The failure of something because of an error. -/
def because (summary : String) (cause : Error) : Failure := ⟨summary, cause.chain⟩

/-- A cause behind `head`, its later lines behind `margin`. -/
def indentCause (head margin cause : String) : String :=
  head ++ String.ofList (cause.toList.flatMap fun c => if c == '\n' then '\n' :: margin.toList else [c])

/-- The causes of a list, numbered from `number` on. -/
def numberCauses (number : Nat) : List String → List String
  | [] => []
  | cause :: rest =>
    let digits := toString number
    let head := String.ofList (List.replicate (5 - digits.length) ' ') ++ digits ++ ": "
    indentCause head "       " cause :: numberCauses (number + 1) rest

/-- The lines about the causes. -/
def causeLines : List String → List String
  | [cause] => [indentCause "    " "    " cause]
  | causes => numberCauses 0 causes

/-- **The report of a failure.** -/
def report (f : Failure) : String :=
  s!"Error: {f.summary}" ++
    (if f.causes.isEmpty then "" else "\n\nCaused by:\n" ++ "\n".intercalate (causeLines f.causes)) ++ "\n"

end Failure

end RootFold.CommandLine
