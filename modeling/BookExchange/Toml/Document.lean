import BookExchange.Toml.Scalar
import BookExchange.Toml.Table

/-! Documents in TOML. -/
namespace BookExchange.Toml

open Data

abbrev Reading (α : Type) := List Char → Option (α × List Char)

def isBareChar (c : Char) : Bool := c.isAlphanum || c = '-' || c = '_'

def readName : Reading String
  | cs@(c :: _) =>
    if c = '"' ∨ c = '\x27' then readLineString cs
    else if isBareChar c then
      some (String.ofList (cs.takeWhile isBareChar), cs.dropWhile isBareChar)
    else none
  | [] => none

/-- Names between points; at most so many. -/
def readNames : Nat → Reading (List String)
  | 0, _ => none
  | n + 1, cs => do
    let (name, cs) ← readName (dropBlanks cs)
    match dropBlanks cs with
    | '.' :: cs => do
      let (names, cs) ← readNames n cs
      return (name :: names, cs)
    | cs => return ([name], cs)

/-- The most names in a key, and the most lists and inline tables around a value. -/
def depthLimit : Nat := 79

def readKey : Reading (List String) := readNames depthLimit

/-- What follows the blanks, line ends and comments at the beginning. -/
def dropLines (inComment : Bool) : List Char → Option (List Char)
  | [] => some []
  | c :: rest =>
    if c = '\n' then dropLines false rest
    else if c = '\r' then if rest.head? = some '\n' then dropLines false rest else none
    else if inComment then if isPlain c then dropLines true rest else none
    else if c = ' ' ∨ c = '\t' then dropLines false rest
    else if c = '#' then dropLines true rest
    else some (c :: rest)

/-- The items of a list, up to its closing bracket; `n` bounds their number. -/
def readItems (readValue : Reading Tree) (done : List Tree) : Nat → Reading Tree
  | 0, _ => none
  | n + 1, cs => do
    match ← dropLines false cs with
    | ']' :: cs => return (.list done.reverse true, cs)
    | cs =>
      let (t, cs) ← readValue cs
      match ← dropLines false cs with
      | ',' :: cs => readItems readValue (t :: done) n cs
      | ']' :: cs => return (.list (t :: done).reverse true, cs)
      | _ => none

/-- The members of an inline table, up to its closing brace; `n` bounds their number. -/
def readMembers (readValue : Reading Tree) (done : Members) : Nat → Reading Tree
  | 0, _ => none
  | n + 1, cs => do
    let (key, cs) ← readKey cs
    match cs with
    | '=' :: cs =>
      let (t, cs) ← readValue (dropBlanks cs)
      let done ← put t true key done
      match dropBlanks cs with
      | ',' :: cs => readMembers readValue done n cs
      | '}' :: cs => return (.table (trees done) true, cs)
      | _ => none
    | _ => none

def readScalar (cs : List Char) : Option (Tree × List Char) :=
  match cs with
  | [] => none
  | c :: _ =>
    if c = '"' ∨ c = '\x27' then (readString cs).map fun (s, rest) => (.text (some s), rest)
    else
      let (run, rest) := scalarRun cs
      (scalar? run).map (·, rest)

/-- A value with at most `depth` lists and inline tables inside each other. -/
def readValue : Nat → Reading Tree
  | 0, '[' :: _ | 0, '{' :: _ => none
  | depth + 1, '[' :: cs => readItems (readValue depth) [] (cs.length + 1) cs
  | depth + 1, '{' :: cs =>
    match dropBlanks cs with
    | '}' :: cs => some (.table [] true, cs)
    | _ => readMembers (readValue depth) [] cs.length cs
  | _, cs => readScalar cs

/-- Whether the line ends here, but for a comment. -/
def lineEnds (cs : List Char) : Bool :=
  match dropBlanks cs with
  | [] | '#' :: _ => true
  | cs => (newline? cs).isSome

/-- Reads the lines of a document; `path` leads to the table of the last header, and `n` bounds the
number of lines. -/
def readLines (path : List String) (root : Members) : Nat → List Char → Option Members
  | 0, _ => none
  | n + 1, cs => do
    match ← dropLines false cs with
    | [] => return root
    | '[' :: '[' :: cs =>
      let (names, cs) ← readKey cs
      let (front, name) ← splitLast? names
      match cs with
      | ']' :: ']' :: cs =>
        if lineEnds cs then readLines names (← change (beginItem name) front root) n cs else none
      | _ => none
    | '[' :: cs =>
      let (names, cs) ← readKey cs
      let (front, name) ← splitLast? names
      match cs with
      | ']' :: cs =>
        if lineEnds cs then readLines names (← change (beginTable name) front root) n cs else none
      | _ => none
    | cs =>
      let (key, cs) ← readKey cs
      match cs with
      | '=' :: cs =>
        let (t, cs) ← readValue depthLimit (dropBlanks cs)
        if lineEnds cs then readLines path (← change (put t true key) path root) n cs else none
      | _ => none

/-- The table that a document is; a byte order mark may stand before it. -/
def read? (text : String) : Option Tree := do
  let cs := match text.toList with
    | '\uFEFF' :: cs => cs
    | cs => cs
  let root ← readLines [] [] (cs.length + 1) cs
  return .table (trees root) true

end BookExchange.Toml
