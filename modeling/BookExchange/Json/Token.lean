import BookExchange.Data.Tree
import BookExchange.Text.Hex
import BookExchange.Text.Utf8

/-! The tokens of a JSON text, found byte by byte. -/
namespace BookExchange.Json

open Data Text

inductive Token where
  | value (t : Tree)
  | text (content : Option String)
  | openList
  | closeList
  | openTable
  | closeTable
  | colon
  | comma
  | lost

/-- A string so far: its bytes, last first, whether they are all characters, and a leading
surrogate that waits for its partner. -/
structure Piece where
  bytes : List UInt8
  sound : Bool
  leading : Option Nat

namespace Piece

def start : Piece := ⟨[], true, none⟩

def add (p : Piece) (bytes : List UInt8) : Piece :=
  ⟨bytes.reverse ++ p.bytes, p.sound && p.leading.isNone, none⟩

def addChar (p : Piece) (c : Char) : Piece := p.add (encodeUtf8 c.toString)

/-- The code unit of an escape; two surrogates make one character, in this order only. -/
def addUnit (p : Piece) (unit : Nat) : Piece :=
  match p.leading with
  | some high =>
    if 0xDC00 ≤ unit ∧ unit ≤ 0xDFFF then
      { p with leading := none }.addChar
        (Char.ofNat (0x10000 + (high - 0xD800) * 0x400 + (unit - 0xDC00)))
    else { p with sound := false }
  | none =>
    if 0xD800 ≤ unit ∧ unit ≤ 0xDBFF then { p with leading := some unit }
    else if 0xDC00 ≤ unit ∧ unit ≤ 0xDFFF then { p with sound := false }
    else p.addChar (Char.ofNat unit)

def content (p : Piece) : Option String :=
  if p.sound && p.leading.isNone then decodeUtf8? p.bytes.reverse else none

end Piece

/-- What the last character of a number was. -/
inductive Spot where
  | sign
  | zero
  | whole
  | point
  | fraction
  | mark
  | markSign
  | power

structure Figures where
  negative : Bool
  digits : Nat
  places : Nat
  powerNegative : Bool
  power : Nat
  plain : Bool

def Figures.numeral (f : Figures) : Numeral :=
  let power : Int := if f.powerNegative then -f.power else f.power
  ⟨f.negative, f.digits, power - f.places, f.plain⟩

def Figures.push (f : Figures) (c : Char) : Figures :=
  { f with digits := f.digits * 10 + (c.toNat - 48) }

inductive Mode where
  | between
  | word (left : List Char) (t : Tree)
  | number (spot : Spot) (f : Figures)
  | string (p : Piece)
  | escape (p : Piece)
  | unit (p : Piece) (left : Nat) (n : Nat)
  | lost

/-- The tokens so far, last first. -/
structure Scan where
  tokens : List Token
  mode : Mode

namespace Scan

def emit (s : Scan) (t : Token) : Scan := ⟨t :: s.tokens, .between⟩

def lose (s : Scan) : Scan := ⟨.lost :: s.tokens, .lost⟩

def enter (s : Scan) (m : Mode) : Scan := { s with mode := m }

/-- A character between tokens. -/
def between (s : Scan) (c : Char) : Scan :=
  match c with
  | ' ' | '\t' | '\n' | '\r' => s.enter .between
  | '[' => s.emit .openList
  | ']' => s.emit .closeList
  | '{' => s.emit .openTable
  | '}' => s.emit .closeTable
  | ':' => s.emit .colon
  | ',' => s.emit .comma
  | '"' => s.enter (.string .start)
  | 'n' => s.enter (.word ['u', 'l', 'l'] .null)
  | 't' => s.enter (.word ['r', 'u', 'e'] (.bool true))
  | 'f' => s.enter (.word ['a', 'l', 's', 'e'] (.bool false))
  | '-' => s.enter (.number .sign ⟨true, 0, 0, false, 0, true⟩)
  | '0' => s.enter (.number .zero ⟨false, 0, 0, false, 0, true⟩)
  | c => if c.isDigit then s.enter (.number .whole ⟨false, c.toNat - 48, 0, false, 0, true⟩)
    else s.lose

/-- A number ends at the first character that cannot continue it. -/
def number (s : Scan) (spot : Spot) (f : Figures) (c : Char) : Scan :=
  let finish := (s.emit (.value (.number f.numeral))).between c
  let beginPower := s.enter (.number .mark { f with plain := false })
  match spot with
  | .sign =>
    if c = '0' then s.enter (.number .zero f)
    else if c.isDigit then s.enter (.number .whole (f.push c)) else s.lose
  | .zero =>
    if c.isDigit then s.lose
    else if c = '.' then s.enter (.number .point { f with plain := false })
    else if c = 'e' ∨ c = 'E' then beginPower else finish
  | .whole =>
    if c.isDigit then s.enter (.number .whole (f.push c))
    else if c = '.' then s.enter (.number .point { f with plain := false })
    else if c = 'e' ∨ c = 'E' then beginPower else finish
  | .point =>
    if c.isDigit then s.enter (.number .fraction { f.push c with places := 1 }) else s.lose
  | .fraction =>
    if c.isDigit then s.enter (.number .fraction { f.push c with places := f.places + 1 })
    else if c = 'e' ∨ c = 'E' then beginPower else finish
  | .mark =>
    if c = '+' then s.enter (.number .markSign f)
    else if c = '-' then s.enter (.number .markSign { f with powerNegative := true })
    else if c.isDigit then s.enter (.number .power { f with power := c.toNat - 48 }) else s.lose
  | .markSign =>
    if c.isDigit then s.enter (.number .power { f with power := c.toNat - 48 }) else s.lose
  | .power =>
    if c.isDigit then s.enter (.number .power { f with power := f.power * 10 + (c.toNat - 48) })
    else finish

def escape (s : Scan) (p : Piece) (c : Char) : Scan :=
  match c with
  | '"' | '\\' | '/' => s.enter (.string (p.addChar c))
  | 'b' => s.enter (.string (p.addChar '\x08'))
  | 'f' => s.enter (.string (p.addChar '\x0c'))
  | 'n' => s.enter (.string (p.addChar '\n'))
  | 'r' => s.enter (.string (p.addChar '\r'))
  | 't' => s.enter (.string (p.addChar '\t'))
  | 'u' => s.enter (.unit p 4 0)
  | _ => s.lose

/-- Bytes past ASCII occur in strings only. -/
def step (s : Scan) (b : UInt8) : Scan :=
  let c := Char.ofNat b.toNat
  match s.mode with
  | .between => s.between c
  | .word (d :: left) t =>
    if c ≠ d then s.lose else if left.isEmpty then s.emit (.value t) else s.enter (.word left t)
  | .word [] _ => s.lose
  | .number spot f => s.number spot f c
  | .string p =>
    if c = '"' then s.emit (.text p.content)
    else if c = '\\' then s.enter (.escape p)
    else if b < 0x20 then s.lose
    else s.enter (.string (p.add [b]))
  | .escape p => s.escape p c
  | .unit p left n =>
    match hexValue? c with
    | none => s.lose
    | some d =>
      if left ≤ 1 then s.enter (.string (p.addUnit (n * 16 + d)))
      else s.enter (.unit p (left - 1) (n * 16 + d))
  | .lost => s

/-- The end of the text ends a number, and breaks off any other token. -/
def finish (s : Scan) : List Token :=
  let tokens := match s.mode with
    | .between | .lost => s.tokens
    | .number spot f => match spot with
      | .zero | .whole | .fraction | .power => .value (.number f.numeral) :: s.tokens
      | .sign | .point | .mark | .markSign => .lost :: s.tokens
    | _ => .lost :: s.tokens
  tokens.reverse

end Scan

def Token.ofBytes (bytes : List UInt8) : List Token :=
  (bytes.foldl Scan.step ⟨[], .between⟩).finish

end BookExchange.Json
