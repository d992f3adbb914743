import BookExchange.Market.Accounts
import BookExchange.Market.Exchanges
import BookExchange.Market.Reviews
import BookExchange.Market.Shelves

/-! Everything the market can be asked to do, as data, and what it answers. -/
namespace BookExchange.Market

inductive Operation where
  | createUser (r : User.Registration)
  | getUser (id : UserId)
  | updateUser (id actor : UserId) (c : User.Change)
  | listUsers (q : Directory.Query)
  | deleteUser (id actor : UserId)
  | profile (id : UserId)
  | createBook (owner : UserId) (o : Book.Offer)
  | getBook (id : BookId)
  | updateBook (id : BookId) (actor : UserId) (c : Book.Change)
  | deleteBook (id : BookId) (actor : UserId)
  | searchBooks (q : Catalogue.Query)
  | booksOf (owner : UserId) (status : Option Book.Status)
  | availableBooks (city : Option String)
  | createGenre (name : String)
  | getGenre (id : GenreId)
  | listGenres
  | deleteGenre (id : GenreId)
  | createExchange (initiator : UserId) (r : Exchange.Request)
  | acceptExchange (id : ExchangeId) (actor : UserId)
  | completeExchange (id : ExchangeId) (actor : UserId)
  | cancelExchange (id : ExchangeId) (actor : UserId)
  | getExchange (id : ExchangeId)
  | listExchanges
  | exchangesOf (user : UserId) (status : Option Exchange.Status)
  | createReview (author : UserId) (r : Review.Submission)
  | deleteReview (id : ReviewId) (actor : UserId)
  | reviewsOfUser (user : UserId)
  | reviewsOfBook (book : BookId)
  | ratingOf (user : UserId)
deriving DecidableEq, Repr

inductive Answer where
  | done
  | user (u : User)
  | users (p : Directory.Page)
  | profile (p : User.Profile)
  | book (b : Book)
  | books (bs : List Book)
  | page (p : Catalogue.Page)
  | genre (g : Genre)
  | genres (gs : List Genre)
  | exchange (e : Exchange)
  | exchanges (es : List Exchange)
  | review (r : Review)
  | reviews (rs : List Review)
  | rating (r : Rating)
deriving DecidableEq, Repr

/-- Carries out an operation; `summarize` writes the summary of a book from its description. -/
def perform (summarize : String → String) : Operation → Call Answer
  | .createUser r => .user <$> createUser r
  | .getUser id => .user <$> getUser id
  | .updateUser id actor c => .user <$> updateUser id actor c
  | .listUsers q => .users <$> listUsers q
  | .deleteUser id actor => do deleteUser id actor; return .done
  | .profile id => .profile <$> profile id
  | .createBook owner o => .book <$> createBook summarize owner o
  | .getBook id => .book <$> getBook id
  | .updateBook id actor c => .book <$> updateBook id actor c
  | .deleteBook id actor => do deleteBook id actor; return .done
  | .searchBooks q => .page <$> searchBooks q
  | .booksOf owner status => .books <$> booksOf owner status
  | .availableBooks city => .books <$> availableBooks city
  | .createGenre name => .genre <$> createGenre name
  | .getGenre id => .genre <$> getGenre id
  | .listGenres => .genres <$> listGenres
  | .deleteGenre id => do deleteGenre id; return .done
  | .createExchange initiator r => .exchange <$> createExchange initiator r
  | .acceptExchange id actor => do acceptExchange id actor; return .done
  | .completeExchange id actor => do completeExchange id actor; return .done
  | .cancelExchange id actor => do cancelExchange id actor; return .done
  | .getExchange id => .exchange <$> getExchange id
  | .listExchanges => .exchanges <$> listExchanges
  | .exchangesOf user status => .exchanges <$> exchangesOf user status
  | .createReview author r => .review <$> createReview author r
  | .deleteReview id actor => do deleteReview id actor; return .done
  | .reviewsOfUser user => .reviews <$> reviewsOfUser user
  | .reviewsOfBook book => .reviews <$> reviewsOfBook book
  | .ratingOf user => .rating <$> ratingOf user

end BookExchange.Market
