import BookExchange.Store.Basic

/-! Reviews in the store. They name users and books without a foreign key. -/
namespace BookExchange

def ReviewRow.view (r : ReviewRow) (id : ReviewId) : Review :=
  ⟨id, r.author, r.targetUser, r.targetBook, r.text, r.rating, r.createdAt⟩

/-- The row of a new review. -/
def Review.Entry.row (r : Review.Entry) (now : Time) : ReviewRow :=
  ⟨r.author, r.targetUser, r.targetBook, r.text, r.rating, now⟩

namespace Store

def review? (s : Store) (id : ReviewId) : Option Review := (s.reviews.get? id).map (·.view id)

/-- The reviews that satisfy `p`, newest first. -/
def reviewsWhere (s : Store) (p : ReviewRow → Bool) : List Review :=
  ((s.reviews.entries.filter (p ·.2)).map fun (id, r) => r.view id).reverse

def reviewsOfUser (s : Store) (user : UserId) : List Review := s.reviewsWhere (·.targetUser == user)

def reviewsOfBook (s : Store) (book : BookId) : List Review := s.reviewsWhere (·.targetBook == book)

def ratingOf (s : Store) (user : UserId) : Rating :=
  .ofRatings ((s.reviews.entries.filter (·.2.targetUser == user)).map (·.2.rating))

def insertReview (r : Review.Entry) : Call Review :=
  .write fun s =>
    if r.rating < Review.ratingLeast ∨ Review.ratingGreatest < r.rating then
      .error (.storage .check)
    else
      let row := r.row s.clock
      .ok (row.view s.reviews.nextId, { s with reviews := s.reviews.insert row }.tick)

def removeReview (id : ReviewId) : Call Unit := do
  let removed ← .update (·.reviews.get? id) (fun _ _ => true) fun s =>
    { s with reviews := s.reviews.erase id }
  if !removed then throw (.reviewNotFound id)

end Store

end BookExchange
