import BookExchange.Failure
import BookExchange.Number.Double
import BookExchange.Text.Blank

/-! Reviews of users and books, and the rating of a user. -/
namespace BookExchange

open Text

structure Review where
  id : ReviewId
  author : UserId
  targetUser : UserId
  targetBook : BookId
  text : String
  rating : Int
  createdAt : Time
deriving DecidableEq, Repr, Inhabited

namespace Review

def textLeast : Nat := 10
def textGreatest : Nat := 150
def ratingLeast : Int := 1
def ratingGreatest : Int := 5

structure Submission where
  targetUser : UserId
  targetBook : BookId
  text : String
  rating : Int
deriving DecidableEq, Repr

/-- The trimmed text, whose length counts characters. -/
def Submission.validText (s : Submission) (author : UserId) : Except Failure String :=
  let text := trim s.text
  if text.length < textLeast ∨ textGreatest < text.length then .error .textLength
  else if s.rating < ratingLeast ∨ ratingGreatest < s.rating then .error .invalidRating
  else if s.targetUser = author then .error .selfReviewForbidden
  else .ok text

/-- A review about to be stored. -/
structure Entry where
  author : UserId
  targetUser : UserId
  targetBook : BookId
  text : String
  rating : Int
deriving DecidableEq, Repr

end Review

/-- How many reviews a user has, and the sum of their ratings. -/
structure Rating where
  count : Nat
  sum : Int
deriving DecidableEq, Repr, Inhabited

namespace Rating

def ofRatings (ratings : List Int) : Rating := ⟨ratings.length, ratings.foldr (· + ·) 0⟩

/-- The mean rating as a double, when there is one. -/
def average (r : Rating) : Option UInt64 :=
  if r.count = 0 then none else some (Number.ofRatio r.sum.toNat r.count)

end Rating

end BookExchange
