import BookExchange.Store.Reviews

/-! Reviews of the users one has dealt with. -/
namespace BookExchange.Market

def createReview (author : UserId) (r : Review.Submission) : Call Review := do
  let text ← r.validText author
  Store.insertReview ⟨author, r.targetUser, r.targetBook, text, r.rating⟩

/-- Authors delete their own reviews only. -/
def deleteReview (id : ReviewId) (actor : UserId) : Call Unit := do
  match ← .read fun s => .ok (s.review? id) with
  | none => throw (.reviewNotFound id)
  | some review =>
    if review.author ≠ actor then throw .forbidden
    Store.removeReview id

def reviewsOfUser (user : UserId) : Call (List Review) := .read fun s => .ok (s.reviewsOfUser user)

def reviewsOfBook (book : BookId) : Call (List Review) := .read fun s => .ok (s.reviewsOfBook book)

def ratingOf (user : UserId) : Call Rating := .read fun s => .ok (s.ratingOf user)

end BookExchange.Market
