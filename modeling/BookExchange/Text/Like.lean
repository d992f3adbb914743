/-! Patterns over texts: a percent sign stands for any run of characters, an underscore for any one
character, and a backslash takes the next character literally. ASCII letters match without case. -/
namespace BookExchange.Text

/-- How a character is compared: the noncharacters U+FFFE and U+FFFF count as the replacement
character. -/
def foldCase (c : Char) : Char :=
  if c = '\uFFFE' ∨ c = '\uFFFF' then '\uFFFD' else if c.isUpper then c.toLower else c

/-- Whether some end of the text satisfies `p`. -/
def anySuffix (p : List Char → Bool) : List Char → Bool
  | [] => p []
  | c :: cs => p (c :: cs) || anySuffix p cs

def like : List Char → List Char → Bool
  | [], cs => cs.isEmpty
  | '%' :: p, cs => anySuffix (like p) cs
  | '_' :: _, [] => false
  | '_' :: p, _ :: cs => like p cs
  | ['\\'], _ => false
  | '\\' :: _ :: _, [] => false
  | '\\' :: d :: p, c :: cs => foldCase d == foldCase c && like p cs
  | _ :: _, [] => false
  | d :: p, c :: cs => foldCase d == foldCase c && like p cs

/-- The key with its wildcards taken literally. -/
def escapeWildcards : List Char → List Char
  | [] => []
  | c :: cs =>
    if c = '\\' ∨ c = '%' ∨ c = '_' then '\\' :: c :: escapeWildcards cs
    else c :: escapeWildcards cs

/-- Matches the texts that contain the key. -/
def containsPattern (key : List Char) : List Char := '%' :: escapeWildcards key ++ ['%']

/-- The most bytes a pattern may have in UTF-8. -/
def patternLimit : Nat := 50000

def patternFits (key : String) : Bool :=
  (String.ofList (containsPattern key.toList)).utf8ByteSize ≤ patternLimit

/-- Matching sees no character from the first NUL on, in a pattern or a text. -/
def beforeNul (cs : List Char) : List Char := cs.takeWhile (· ≠ '\x00')

def contains (key text : String) : Bool :=
  like (beforeNul (containsPattern key.toList)) (beforeNul text.toList)

end BookExchange.Text
