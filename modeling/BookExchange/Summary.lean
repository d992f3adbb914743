import BookExchange.Json.Value
import BookExchange.Text.Blank

/-! Summaries of books: the beginning of the description, or what a summary service answers. -/
namespace BookExchange.Summary

open Text

def empty : String := "No summary available."

/-- At most `maxChars` characters of the trimmed description; a cut is marked by three dots. -/
def ofDescription (maxChars : Nat) (description : String) : String :=
  let text := trim description
  if text = "" then empty
  else if text.length ≤ maxChars then text
  else String.ofList (text.toList.take maxChars ++ ['.', '.', '.'])

/-- A reply of the summary service. -/
structure Reply where
  status : Nat
  body : List UInt8

def Reply.isSuccess (r : Reply) : Bool := 200 ≤ r.status && r.status < 300

/-- The member `0` of a value: the first item of an array, or the member of that name. -/
def first? (v : Json) : Option Json :=
  match v with
  | .array _ => v.item? 0
  | _ => v.member? "0"

/-- The text of the first choice, or else the text on the top level. -/
def textOf? (body : Json) : Option String := do
  let v ← ((body.member? "choices" >>= first?) >>= (·.member? "text")).or (body.member? "text")
  let s ← v.text?
  nonBlank? s

/-- Whether a text can stand in a header: no control characters but the tab. -/
def isHeaderText (s : String) : Bool :=
  s.toList.all fun c => c = '\t' || (0x20 ≤ c.toNat && c.toNat ≠ 0x7F)

/-- The key a request is made with, if one can be made. -/
def usableKey? (apiKey : Option String) : Option String :=
  (apiKey.bind nonBlank?).filter isHeaderText

/-- What the service is asked. -/
def prompt (description : String) : String :=
  "Write a short summary of this book: " ++ description

/-- Asks the service when there is a key; whatever goes wrong, the description speaks for itself.
`ask` gives the reply to a request made with a key and a prompt, if one arrives. -/
def ofService (apiKey : Option String) (maxChars : Nat) (ask : String → String → Option Reply)
    (description : String) : String :=
  let answered := do
    let key ← usableKey? apiKey
    let reply ← ask key (prompt description)
    if reply.isSuccess then
      let body ← Json.ofBytes? reply.body
      textOf? body
    else none
  answered.getD (ofDescription maxChars description)

end BookExchange.Summary
