/-! Why a call is refused: the causes, their kinds, and the words a caller is told. -/
namespace BookExchange

/-- Identifiers count from one in each table; callers may name any integer. -/
abbrev UserId := Int
abbrev BookId := Int
abbrev GenreId := Int
abbrev ExchangeId := Int
abbrev ReviewId := Int

/-- A point of the store's clock, which moves on with every write. -/
abbrev Time := Nat

/-- Refusals of the storage engine that are not a held lock. -/
inductive StorageFault where
  | foreignKey
  | check
  | patternTooLong
  | tooManyVariables
  | uniqueKey
  | rowNotFound
  | cannotOpen
  | badUrl
deriving DecidableEq, Repr

def StorageFault.message : StorageFault → String
  | .foreignKey => "error returned from database: (code: 787) FOREIGN KEY constraint failed"
  | .check => "error returned from database: (code: 275) CHECK constraint failed"
  | .patternTooLong => "error returned from database: (code: 1) LIKE or GLOB pattern too complex"
  | .tooManyVariables => "error returned from database: (code: 1) too many SQL variables"
  | .uniqueKey => "error returned from database: (code: 1555) UNIQUE constraint failed"
  | .rowNotFound => "no rows returned by a query that expected to return at least one row"
  | .cannotOpen => "error returned from database: (code: 14) unable to open database file"
  | .badUrl => "error with configuration: invalid database URL"

inductive Failure where
  | config (detail : String)
  | storage (fault : StorageFault)
  | busy (detail : String)
  | corrupt (detail : String)
  | invalidId
  | bookNotFound (id : BookId)
  | exchangeNotFound (id : ExchangeId)
  | reviewNotFound (id : ReviewId)
  | userNotFound (id : UserId)
  | genreNotFound (id : GenreId)
  | sameParty
  | initiatorNotOwner
  | recipientNotOwner
  | initiatorBookUnavailable
  | recipientBookUnavailable
  | alreadyReserved (id : BookId)
  | notPending
  | notAccepted
  | forbidden
  | bookReserved
  | invalidBook (detail : String)
  | textLength
  | invalidRating
  | selfReviewForbidden
  | emailTaken
  | invalidUser (detail : String)
  | userHasActiveExchanges
  | invalidGenre (detail : String)
  | genreTaken
  | malformedRequest (detail : String)
  | invalidFilter (detail : String)
  | auth (detail : String)
deriving DecidableEq, Repr

/-- The stable category of a failure. -/
inductive Kind where
  | notFound
  | forbidden
  | invalidState
  | invalidInput
  | conflict
  | internal
deriving DecidableEq, Repr

def Kind.name : Kind → String
  | .notFound => "not_found"
  | .forbidden => "forbidden"
  | .invalidState => "invalid_state"
  | .invalidInput => "invalid_input"
  | .conflict => "conflict"
  | .internal => "internal"

namespace Failure

def message : Failure → String
  | .config detail => "Invalid configuration: " ++ detail
  | .storage fault => "Database error: " ++ fault.message
  | .busy detail => "Database busy: " ++ detail
  | .corrupt detail => "Stored value is corrupt: " ++ detail
  | .invalidId => "Invalid id"
  | .bookNotFound id => s!"Book not found: {id}"
  | .exchangeNotFound id => s!"Exchange not found: {id}"
  | .reviewNotFound id => s!"Review not found: {id}"
  | .userNotFound id => s!"User not found: {id}"
  | .genreNotFound id => s!"Genre not found: {id}"
  | .sameParty => "Initiator and recipient must be different users"
  | .initiatorNotOwner => "Initiator does not own the book"
  | .recipientNotOwner => "Recipient does not own the book"
  | .initiatorBookUnavailable => "Initiator book is unavailable"
  | .recipientBookUnavailable => "Recipient book is unavailable"
  | .alreadyReserved id => s!"Book {id} is already reserved"
  | .notPending => "Exchange is not pending"
  | .notAccepted => "Exchange is not accepted"
  | .forbidden => "Forbidden"
  | .bookReserved => "Book is involved in an exchange"
  | .invalidBook detail => "Invalid book input: " ++ detail
  | .textLength => "Review text must be between 10 and 150 characters"
  | .invalidRating => "Rating must be between 1 and 5"
  | .selfReviewForbidden => "Cannot leave a review to yourself"
  | .emailTaken => "Email already in use"
  | .invalidUser detail => "Invalid user input: " ++ detail
  | .userHasActiveExchanges => "User still takes part in an active exchange"
  | .invalidGenre detail => "Invalid genre input: " ++ detail
  | .genreTaken => "Genre already exists"
  | .malformedRequest detail => "Malformed request: " ++ detail
  | .invalidFilter detail => "Invalid filter: " ++ detail
  | .auth detail => "Authentication failed: " ++ detail

def kind : Failure → Kind
  | .bookNotFound _ | .exchangeNotFound _ | .reviewNotFound _ | .userNotFound _
  | .genreNotFound _ => .notFound
  | .forbidden | .auth _ => .forbidden
  | .notPending | .notAccepted | .bookReserved | .userHasActiveExchanges => .invalidState
  | .invalidId | .sameParty | .initiatorNotOwner | .recipientNotOwner
  | .initiatorBookUnavailable | .recipientBookUnavailable | .invalidBook _ | .textLength
  | .invalidRating | .selfReviewForbidden | .invalidUser _ | .invalidGenre _ | .invalidFilter _
  | .malformedRequest _ => .invalidInput
  | .alreadyReserved _ | .emailTaken | .genreTaken | .busy _ => .conflict
  | .config _ | .storage _ | .corrupt _ => .internal

/-- What every write statement meets while another connection holds the write lock. -/
def locked : Failure := .busy "database is locked"

def unknownStatus (status : String) : Failure := .invalidFilter s!"unknown status '{status}'"

end Failure

end BookExchange
