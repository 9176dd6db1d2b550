import RootFold.Json.Token

/-!
# `RootFold.Json.Reader` — from tokens to a value

The containers that are open are kept as a stack of frames; each token closes one, opens one or goes into the top
one. A text that breaks off still has a value: its open containers are closed around what is broken.

## Contents
- **Frames.** `Frame`, what an open container holds and waits for.
- **Steps.** `Stack.put`, `Stack.step`.
- **Reading.** `Json.read`.
-/

namespace RootFold.Json

/-- **An open container:** what it holds, last first, and what it waits for. -/
inductive Frame where
  /-- An array that waits for an item; the first may be missing. -/
  | item (done : List Json) (first : Bool)
  /-- An array that waits for a comma or its end. -/
  | afterItem (done : List Json)
  /-- An object that waits for a key; the first may be missing. -/
  | key (done : List (Json × Json)) (first : Bool)
  /-- An object that waits for the colon after a key. -/
  | colon (done : List (Json × Json)) (key : Json)
  /-- An object that waits for the value of a key. -/
  | content (done : List (Json × Json)) (key : Json)
  /-- An object that waits for a comma or its end. -/
  | afterContent (done : List (Json × Json))

/-- The open containers, the innermost first. -/
abbrev Stack := List Frame

/-- **Where reading stands:** in the open containers, or at the end of a value. -/
inductive Progress where
  | within (stack : Stack)
  | finished (value : Json)

namespace Stack

/-- Put a value where the innermost container waits for one, if it does. -/
def put (value : Json) : Stack → Option Progress
  | [] => some (.finished value)
  | .item done _ :: rest => some (.within (.afterItem (value :: done) :: rest))
  | .key done _ :: rest => some (.within (.colon done value :: rest))
  | .content done key :: rest => some (.within (.afterContent ((key, value) :: done) :: rest))
  | _ => none

/-- Whether the innermost container waits for a value. -/
def takesValue : Stack → Bool
  | [] => true
  | .item .. :: _ => true
  | .key .. :: _ => true
  | .content .. :: _ => true
  | _ => false

/-- Whether a value may stand as a key: any string may, also one that cannot be held. -/
def isKey : Json → Bool
  | .string _ => true
  | .halfPair => true
  | _ => false

/-- **One token,** if it fits. A key that is no string is followed by nothing. -/
def step (stack : Stack) : Token → Option Progress
  | .value value => put value stack
  | .openArray => if takesValue stack then some (.within (.item [] true :: stack)) else none
  | .openObject => if takesValue stack then some (.within (.key [] true :: stack)) else none
  | .closeArray => match stack with
    | .item _ true :: rest => put (.array []) rest
    | .afterItem done :: rest => put (.array done.reverse) rest
    | _ => none
  | .closeObject => match stack with
    | .key _ true :: rest => put (.object []) rest
    | .afterContent done :: rest => put (.object done.reverse) rest
    | _ => none
  | .comma => match stack with
    | .afterItem done :: rest => some (.within (.item done false :: rest))
    | .afterContent done :: rest => some (.within (.key done false :: rest))
    | _ => none
  | .colon => match stack with
    | .colon done key :: rest => if isKey key then some (.within (.content done key :: rest)) else none
    | _ => none
  | .broken => none

/-- The innermost container, closed around something broken. -/
def breakFrame (value : Json) : Frame → Json
  | .item done _ => .array (value :: done).reverse
  | .afterItem done => .array (value :: done).reverse
  | .key done _ => .object ((value, .broken) :: done).reverse
  | .colon done key => .object ((key, value) :: done).reverse
  | .content done key => .object ((key, value) :: done).reverse
  | .afterContent done => .object ((value, .broken) :: done).reverse

/-- **The value of a text that breaks off.** -/
def breakOff (stack : Stack) : Json := stack.foldl breakFrame .broken

end Stack

/-- **A value and whether the text is over after it.** -/
structure Reading where
  value : Json
  isWhole : Bool
  deriving Repr

/-- Read on from open containers. -/
def readFrom (stack : Stack) : List Token → Reading
  | [] => ⟨stack.breakOff, false⟩
  | token :: rest =>
    match stack.step token with
    | none => ⟨stack.breakOff, false⟩
    | some (.finished value) => ⟨value, rest.isEmpty⟩
    | some (.within stack) => readFrom stack rest

/-- **The value a text begins with.** -/
def read (text : String) : Reading := readFrom [] (Token.ofText text)

end RootFold.Json
