import BookExchange.Text.Hex
import BookExchange.Text.Printable

/-! A text between double quotes, with escapes for what would not show as itself. -/
namespace BookExchange.Text

def quotedChar (c : Char) : String :=
  if c = '"' ∨ c = '\\' then String.ofList ['\\', c]
  else if c = '\x00' then "\\0"
  else if c = '\t' then "\\t"
  else if c = '\n' then "\\n"
  else if c = '\r' then "\\r"
  else if isPrintable c then c.toString
  else "\\u\x7b" ++ hexDigits 1 c.toNat ++ "\x7d"

def quoted (s : String) : String := "\"" ++ String.join (s.toList.map quotedChar) ++ "\""

end BookExchange.Text
