import GivenWhenThen.Json.Token

/-! Reading JSON. The reader folds over the tokens of a text and keeps the containers that are
still open, so that its depth does not depend on the depth of the value. -/

namespace GivenWhenThen.Json

/-- A container still open, with what it holds so far, last first. -/
inductive Reader.Frame where
  | array (done : List Json)
  | object (done : List (String × Json)) (key : Option String)

/-- What may come next: a value, or the end of a container just opened; a value; the key of a
field; the colon after a key; or a comma or the end of the container. -/
inductive Reader.Expecting where
  | first
  | value
  | key
  | colon
  | next

/-- The open containers, innermost first; the value read, once there is one; and what comes next. -/
structure Reader where
  frames : List Reader.Frame := []
  result : Option Json := none
  expecting : Reader.Expecting := .value

namespace Reader

/-- Puts a value into the innermost open container. -/
def put (frames : List Frame) (value : Json) : Option Reader :=
  match frames with
  | [] => some { result := some value, expecting := .next }
  | .array done :: rest => some { frames := .array (value :: done) :: rest, expecting := .next }
  | .object done (some key) :: rest =>
    some { frames := .object ((key, value) :: done) none :: rest, expecting := .next }
  | .object _ none :: _ => none

/-- Reads one token, or nothing where it may not stand. -/
def step (reader : Reader) (token : Token) : Option Reader :=
  let { frames, result := _, expecting } := reader
  match expecting, token, frames with
  | .first, .closeArray, .array done :: rest => put rest (.array done.reverse)
  | .first, .closeObject, .object done _ :: rest => put rest (.object done.reverse)
  | .first, .value (.string key), .object done _ :: rest
  | .key, .value (.string key), .object done _ :: rest =>
    some { frames := .object done (some key) :: rest, expecting := .colon }
  | .first, _, .object _ _ :: _ => none
  | .colon, .colon, _ => some { frames, expecting := .value }
  | .first, .value v, _ | .value, .value v, _ => put frames v
  | .first, .openArray, _ | .value, .openArray, _ =>
    some { frames := .array [] :: frames, expecting := .first }
  | .first, .openObject, _ | .value, .openObject, _ =>
    some { frames := .object [] none :: frames, expecting := .first }
  | .next, .comma, .array _ :: _ => some { frames, expecting := .value }
  | .next, .comma, .object _ _ :: _ => some { frames, expecting := .key }
  | .next, .closeArray, .array done :: rest => put rest (.array done.reverse)
  | .next, .closeObject, .object done _ :: rest => put rest (.object done.reverse)
  | _, _, _ => none

end Reader

/-- The value of a text that holds exactly one. -/
def read? (text : String) : Option Json := do
  (← (← tokens? text).foldlM Reader.step {}).result

end GivenWhenThen.Json
