import BookExchange.Text.Hex

/-! Strings of TOML: between single or double quotes, one of each or three. Only double quotes know
escapes, only three quotes go over several lines. -/
namespace BookExchange.Toml

/-- Characters that stand for themselves in strings and comments: no control but the tab. -/
def isPlain (c : Char) : Bool := c = '\t' || (0x20 ≤ c.toNat && c.toNat ≠ 0x7F)

def dropBlanks (cs : List Char) : List Char := cs.dropWhile fun c => c = ' ' || c = '\t'

/-- What follows a line end, which is a line feed with or without a carriage return. -/
def newline? : List Char → Option (List Char)
  | '\n' :: rest | '\r' :: '\n' :: rest => some rest
  | _ => none

/-- The character with this number in so many hexadecimal digits. -/
def codePoint? (width : Nat) (cs : List Char) : Option Char := do
  let digits ← (cs.take width).mapM Text.hexValue?
  let n := digits.foldl (fun n d => n * 16 + d) 0
  if digits.length = width ∧ n.isValidChar then some (Char.ofNat n) else none

/-- The character that an escape stands for, and how many characters follow its backslash. -/
def escape? : List Char → Option (Char × Nat)
  | 'b' :: _ => some ('\x08', 1)
  | 't' :: _ => some ('\t', 1)
  | 'n' :: _ => some ('\n', 1)
  | 'f' :: _ => some ('\x0c', 1)
  | 'r' :: _ => some ('\r', 1)
  | '"' :: _ => some ('"', 1)
  | '\\' :: _ => some ('\\', 1)
  | 'u' :: rest => (codePoint? 4 rest).map (·, 5)
  | 'U' :: rest => (codePoint? 8 rest).map (·, 9)
  | _ => none

/-- The length of the blanks and line ends at the beginning. -/
def gapLength : List Char → Nat
  | ' ' :: rest | '\t' :: rest | '\n' :: rest => gapLength rest + 1
  | '\r' :: '\n' :: rest => gapLength rest + 2
  | _ => 0

/-- A backslash at the end of a line swallows the gap behind it, which has this length. -/
def foldedGap? (rest : List Char) : Option Nat :=
  (newline? (dropBlanks rest)).map fun _ => gapLength rest

structure Quoting where
  quote : Char
  threefold : Bool

/-- How many quotes, where one stands, are text before those that close the string; three close
one that goes over several lines, and two more may stand before them. -/
def Quoting.closing? (q : Quoting) (cs : List Char) : Option Nat :=
  if q.threefold then
    let run := (cs.takeWhile (· = q.quote)).length
    if run < 3 then none else some (min run 5 - 3)
  else some 0

/-- Reads a string up to and with its closing quotes; `done` is its text so far, last first, and
`skip` characters belong to an escape. -/
def Quoting.read (q : Quoting) (skip : Nat) (done : List Char) :
    List Char → Option (String × List Char)
  | [] => none
  | c :: rest =>
    match skip with
    | k + 1 => q.read k done rest
    | 0 =>
      if c = q.quote then
        match q.closing? (c :: rest) with
        | some extra =>
          some (String.ofList (done.reverse ++ List.replicate extra c),
            (c :: rest).drop (extra + if q.threefold then 3 else 1))
        | none => q.read 0 (c :: done) rest
      else if c = '\\' && q.quote = '"' then
        match if q.threefold then foldedGap? rest else none with
        | some gap => q.read gap done rest
        | none => match escape? rest with
          | some (d, width) => q.read width (d :: done) rest
          | none => none
      else if c = '\n' && q.threefold then q.read 0 (c :: done) rest
      else if c = '\r' && q.threefold && rest.head? = some '\n' then q.read 0 done rest
      else if isPlain c then q.read 0 (c :: done) rest
      else none

/-- A string on one line, from its opening quote on. -/
def readLineString : List Char → Option (String × List Char)
  | c :: rest => if c = '"' ∨ c = '\x27' then Quoting.read ⟨c, false⟩ 0 [] rest else none
  | [] => none

/-- A string, from its opening quotes on; a line end right behind three quotes is not text. -/
def readString : List Char → Option (String × List Char)
  | c :: d :: e :: rest =>
    if (c = '"' ∨ c = '\x27') ∧ d = c ∧ e = c then
      Quoting.read ⟨c, true⟩ 0 [] ((newline? rest).getD rest)
    else readLineString (c :: d :: e :: rest)
  | cs => readLineString cs

end BookExchange.Toml
