import BookExchange.Text.Hex
import BookExchange.Text.Utf8

/-! Percent-encoded text, and the pairs of a query string. -/
namespace BookExchange.Text

/-- The value of a byte that is a digit. -/
def hexByte? (b : UInt8) : Option UInt8 := (hexValue? (Char.ofNat b.toNat)).map UInt8.ofNat

/-- A percent sign and two hexadecimal digits stand for a byte; any other byte stands for itself. -/
def percentDecode (done : List UInt8) : List UInt8 → List UInt8
  | [] => done.reverse
  | 0x25 :: a :: b :: rest =>
    match hexByte? a, hexByte? b with
    | some x, some y => percentDecode ((x * 16 + y) :: done) rest
    | _, _ => percentDecode (0x25 :: done) (a :: b :: rest)
  | b :: rest => percentDecode (b :: done) rest
termination_by bytes => bytes.length

def splitBytes (separator : UInt8) (bytes : List UInt8) : List (List UInt8) :=
  bytes.splitOn separator

/-- A plus sign is a space, and what is not UTF-8 becomes replacement characters. -/
def formText (bytes : List UInt8) : String :=
  decodeUtf8Lossy (percentDecode [] (bytes.map fun b => if b == 0x2B then 0x20 else b))

/-- Name and value of each non-empty piece between ampersands. -/
def formPairs (query : String) : List (String × String) :=
  ((splitBytes 0x26 (encodeUtf8 query)).filter (!·.isEmpty)).map fun piece =>
    (formText (piece.takeWhile (· != 0x3D)), formText ((piece.dropWhile (· != 0x3D)).drop 1))

end BookExchange.Text
