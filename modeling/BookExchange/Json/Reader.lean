import BookExchange.Json.Token

/-! Trees read from JSON text. The reader keeps what it has seen when the text stops being JSON. -/
namespace BookExchange.Json

open Data

/-- A list or table that waits for a value, with what it holds already, last first. -/
inductive Frame where
  | list (done : List Tree)
  | member (done : List (Option String × Tree)) (key : Option String)

/-- What may come next inside the innermost list or table. -/
inductive Wait where
  | value
  | firstValue
  | afterItem (done : List Tree)
  | firstKey
  | key (done : List (Option String × Tree))
  | colon (done : List (Option String × Tree)) (key : Option String)
  | afterMember (done : List (Option String × Tree))

/-- The tree when the text breaks off at a value inside these frames. -/
def cutShort (t : Tree) : List Frame → Tree
  | [] => t
  | .list done :: outer => cutShort (.list (t :: done).reverse false) outer
  | .member done key :: outer => cutShort (.table ((key, t) :: done).reverse false) outer

/-- The tree when the text breaks off at what a wait stands for. -/
def Wait.cutShort (outer : List Frame) : Wait → Tree
  | .value => Json.cutShort .broken outer
  | .firstValue => Json.cutShort (.list [] false) outer
  | .afterItem done => Json.cutShort (.list done.reverse false) outer
  | .firstKey => Json.cutShort (.table [] false) outer
  | .key done | .afterMember done => Json.cutShort (.table done.reverse false) outer
  | .colon done k => Json.cutShort (.table ((k, .broken) :: done).reverse false) outer

/-- Reads one value; also gives the tokens behind it. -/
def readTree (outer : List Frame) (wait : Wait) : List Token → Tree × List Token
  | [] => (wait.cutShort outer, [])
  | token :: rest =>
    let put (t : Tree) : Tree × List Token :=
      match outer with
      | [] => (t, rest)
      | .list done :: outer => readTree outer (.afterItem (t :: done)) rest
      | .member done key :: outer => readTree outer (.afterMember ((key, t) :: done)) rest
    match wait, token with
    | .value, .value t => put t
    | .value, .text s => put (.text s)
    | .value, .openList => readTree outer .firstValue rest
    | .value, .openTable => readTree outer .firstKey rest
    | .firstValue, .closeList => put (.list [] true)
    | .firstValue, .value t => readTree outer (.afterItem [t]) rest
    | .firstValue, .text s => readTree outer (.afterItem [.text s]) rest
    | .firstValue, .openList => readTree (.list [] :: outer) .firstValue rest
    | .firstValue, .openTable => readTree (.list [] :: outer) .firstKey rest
    | .afterItem done, .comma => readTree (.list done :: outer) .value rest
    | .afterItem done, .closeList => put (.list done.reverse true)
    | .firstKey, .closeTable => put (.table [] true)
    | .firstKey, .text key => readTree outer (.colon [] key) rest
    | .key done, .text key => readTree outer (.colon done key) rest
    | .colon done key, .colon => readTree (.member done key :: outer) .value rest
    | .afterMember done, .comma => readTree outer (.key done) rest
    | .afterMember done, .closeTable => put (.table done.reverse true)
    | _, _ => (wait.cutShort outer, token :: rest)

/-- The first value of a text, whatever follows it. -/
def readFirst (bytes : List UInt8) : Tree := (readTree [] .value (Token.ofBytes bytes)).1

/-- The value that is the whole text. -/
def readWhole? (bytes : List UInt8) : Option Tree :=
  match readTree [] .value (Token.ofBytes bytes) with
  | (t, []) => some t
  | (_, _ :: _) => none

end BookExchange.Json
