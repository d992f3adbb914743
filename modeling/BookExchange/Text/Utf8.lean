/-! UTF-8 read strictly, or with a replacement character for what cannot be read. -/
namespace BookExchange.Text

/-- What the start of a byte sequence holds, and how many bytes it takes. -/
inductive Utf8Start where
  | char (c : Char) (width : Nat)
  | invalid (width : Nat)

def isContinuation (b : UInt8) : Bool := 0x80 ≤ b && b ≤ 0xBF

/-- The second bytes that may follow a leading byte of three or four. -/
def mayFollow (lead second : UInt8) : Bool :=
  if lead == 0xE0 then 0xA0 ≤ second && second ≤ 0xBF
  else if lead == 0xED then 0x80 ≤ second && second ≤ 0x9F
  else if lead == 0xF0 then 0x90 ≤ second && second ≤ 0xBF
  else if lead == 0xF4 then 0x80 ≤ second && second ≤ 0x8F
  else isContinuation second

/-- The character made of a leading byte's bits and six bits of each further byte. -/
def utf8Char (high : Nat) (rest : List UInt8) : Char :=
  Char.ofNat (rest.foldl (fun n b => n * 64 + b.toNat % 64) high)

/-- An invalid start takes the longest piece that could have begun a character. -/
def utf8Start (lead : UInt8) (rest : List UInt8) : Utf8Start :=
  if lead < 0x80 then .char (Char.ofNat lead.toNat) 1
  else if 0xC2 ≤ lead && lead ≤ 0xDF then
    match rest with
    | b :: _ => if isContinuation b then .char (utf8Char (lead.toNat % 32) [b]) 2 else .invalid 1
    | [] => .invalid 1
  else if 0xE0 ≤ lead && lead ≤ 0xEF then
    match rest with
    | b :: c :: _ =>
      if !mayFollow lead b then .invalid 1
      else if isContinuation c then .char (utf8Char (lead.toNat % 16) [b, c]) 3
      else .invalid 2
    | [b] => .invalid (if mayFollow lead b then 2 else 1)
    | [] => .invalid 1
  else if 0xF0 ≤ lead && lead ≤ 0xF4 then
    match rest with
    | b :: c :: d :: _ =>
      if !mayFollow lead b then .invalid 1
      else if !isContinuation c then .invalid 2
      else if isContinuation d then .char (utf8Char (lead.toNat % 8) [b, c, d]) 4
      else .invalid 3
    | [b, c] => .invalid (if !mayFollow lead b then 1 else if isContinuation c then 3 else 2)
    | [b] => .invalid (if mayFollow lead b then 2 else 1)
    | [] => .invalid 1
  else .invalid 1

/-- The characters of a byte sequence, `none` for each piece that is not UTF-8; `skip` bytes belong
to the piece before. -/
def utf8Pieces (done : List (Option Char)) (skip : Nat) : List UInt8 → List (Option Char)
  | [] => done.reverse
  | b :: rest =>
    match skip with
    | k + 1 => utf8Pieces done k rest
    | 0 => match utf8Start b rest with
      | .char c width => utf8Pieces (some c :: done) (width - 1) rest
      | .invalid width => utf8Pieces (none :: done) (width - 1) rest

def decodeUtf8? (bytes : List UInt8) : Option String :=
  let pieces := utf8Pieces [] 0 bytes
  if pieces.all Option.isSome then some (String.ofList (pieces.filterMap id)) else none

def decodeUtf8Lossy (bytes : List UInt8) : String :=
  String.ofList ((utf8Pieces [] 0 bytes).map (·.getD '\uFFFD'))

def encodeUtf8 (s : String) : List UInt8 := s.toUTF8.data.toList

end BookExchange.Text
