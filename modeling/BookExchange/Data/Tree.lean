import BookExchange.Data.Numeral

/-! Data as a reader finds it, perhaps cut short: the common form of documents before they are read
as values of a type. -/
namespace BookExchange.Data

/-- A `broken` value is where the document stops being well-formed, so at most one stands in a tree,
and only at its end. A list or table that is not `whole` stops before its closing mark. A text
without content is closed, but holds something that is no character. -/
inductive Tree where
  | null
  | bool (b : Bool)
  | number (n : Numeral)
  | text (content : Option String)
  | list (items : List Tree) (whole : Bool)
  | table (members : List (Option String × Tree)) (whole : Bool)
  | broken
deriving Inhabited

end BookExchange.Data
