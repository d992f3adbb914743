import BookExchange.Http.Message

/-! Media types, as far as needed to tell JSON from others. -/
namespace BookExchange.Http.Media

def isTokenChar (c : Char) : Bool :=
  c.isAlphanum || "!#$%&'*+-.^_\x60|~".toList.contains c

/-- Where a reader of parameters stands. -/
inductive Place where
  | start
  | name
  | valueStart
  | value
  | quoted (empty : Bool)
  | afterQuoted

/-- Whether the text behind the first semicolon is a list of parameters. -/
def areParameters : Place → List Char → Bool
  | .start, [] | .valueStart, [] | .value, [] | .afterQuoted, [] => true
  | .name, [] | .quoted _, [] => false
  | .start, c :: rest =>
    if c = ' ' then areParameters .start rest
    else isTokenChar c && areParameters .name rest
  | .name, c :: rest =>
    if c = '=' then areParameters .valueStart rest else isTokenChar c && areParameters .name rest
  | .valueStart, c :: rest =>
    if c = '"' then areParameters (.quoted true) rest
    else isTokenChar c && areParameters .value rest
  | .value, c :: rest =>
    if c = ';' then areParameters .start rest else isTokenChar c && areParameters .value rest
  | .quoted empty, c :: rest =>
    if c = '"' && !empty then areParameters .afterQuoted rest
    else !(c.toNat < 0x20) && c.toNat != 0x7F && areParameters (.quoted false) rest
  | .afterQuoted, c :: rest =>
    if c = ';' then areParameters .start rest else c = ' ' && areParameters .afterQuoted rest

/-- What stands before and behind the last plus sign that is not the first character. -/
def splitSuffix (subtype : List Char) : List Char × Option (List Char) :=
  let back := subtype.reverse
  match back.dropWhile (· ≠ '+') with
  | _ :: before@(_ :: _) => (before.reverse, some (back.takeWhile (· ≠ '+')).reverse)
  | _ => (subtype, none)

/-- JSON is the subtype or its suffix, whatever the case and the parameters. -/
def isJson (text : String) : Bool :=
  let cs := text.toList
  let subtype := (cs.dropWhile (· ≠ '/')).drop 1
  let name := (subtype.takeWhile (· ≠ ';')).map Char.toLower
  let parameters := subtype.dropWhile (· ≠ ';')
  let (stem, suffix) := splitSuffix name
  readableHeader text &&
    (cs.takeWhile (· ≠ '/')).map Char.toLower == "application".toList &&
    name.all isTokenChar && areParameters .start (parameters.drop 1) &&
    (stem == "json".toList || suffix == some "json".toList)

end BookExchange.Http.Media
