import BookExchange.Market.Operation

/-! Everything that can be asked of the store: a service, or one of the store's writing ports
itself, as a caller that has lost a race does after its service has looked; and the ports that only
read. -/
namespace BookExchange.Market

/-- A call of the store that writes, without the checks of a service. -/
inductive Port where
  | insertUser (r : User.Registration)
  | saveUser (u : User)
  | removeUser (id : UserId)
  | insertGenre (name : String)
  | removeGenre (id : GenreId)
  | insertBook (e : Book.Entry)
  | describe (id : BookId) (description : String)
  | removeBook (id : BookId)
  | reserve (id : BookId)
  | release (id : BookId)
  | transfer (id : BookId) (owner : UserId)
  | insertExchange (p : Exchange.Proposal)
  | acceptExchange (e : Exchange)
  | completeExchange (e : Exchange)
  | cancelExchange (e : Exchange)
  | insertReview (r : Review.Entry)
  | removeReview (id : ReviewId)
deriving DecidableEq, Repr

def Port.perform : Port → Call Answer
  | .insertUser r => .user <$> Store.insertUser r
  | .saveUser u => .user <$> Store.saveUser u
  | .removeUser id => do Store.removeUser id; return .done
  | .insertGenre name => .genre <$> Store.insertGenre name
  | .removeGenre id => do Store.removeGenre id; return .done
  | .insertBook e => .book <$> Store.insertBook e
  | .describe id description => .book <$> Store.describe id description
  | .removeBook id => do Store.removeBook id; return .done
  | .reserve id => do Store.reserve id; return .done
  | .release id => do Store.release id; return .done
  | .transfer id owner => do Store.transfer id owner; return .done
  | .insertExchange p => .exchange <$> Store.insertExchange p
  | .acceptExchange e => do Store.acceptExchange e; return .done
  | .completeExchange e => do Store.completeExchange e; return .done
  | .cancelExchange e => do Store.cancelExchange e; return .done
  | .insertReview r => .review <$> Store.insertReview r
  | .removeReview id => do Store.removeReview id; return .done

/-- A call of the store that only reads. -/
inductive Look where
  | user (id : UserId)
  | usersAfter (after : UserId) (limit : Nat)
  | genre (id : GenreId)
  | genres
  | book (id : BookId)
  | statusOf (id : BookId)
  | search (q : Catalogue.Search)
  | booksOf (owner : UserId) (status : Option Book.Status)
  | availableBooks (city : Option String)
  | exchange (id : ExchangeId)
  | exchanges
  | exchangesOf (user : UserId) (status : Option Exchange.Status)
  | completedOf (user : UserId)
  | review (id : ReviewId)
  | reviewsOfUser (user : UserId)
  | reviewsOfBook (book : BookId)
  | ratingOf (user : UserId)
deriving DecidableEq, Repr

namespace Look

abbrev Sight : Look → Type
  | .user _ => Option User
  | .usersAfter _ _ => List User
  | .genre _ => Option Genre
  | .genres => List Genre
  | .book _ => Option Book
  | .statusOf _ => Book.Status
  | .search _ => List Book × Nat
  | .booksOf _ _ | .availableBooks _ => List Book
  | .exchange _ => Option Exchange
  | .exchanges | .exchangesOf _ _ => List Exchange
  | .completedOf _ => Nat
  | .review _ => Option Review
  | .reviewsOfUser _ | .reviewsOfBook _ => List Review
  | .ratingOf _ => Rating

def see (s : Store) : (l : Look) → Except Failure l.Sight
  | .user id => .ok (s.user? id)
  | .usersAfter after limit => .ok (s.usersAfter after limit)
  | .genre id => .ok (s.genre? id)
  | .genres => .ok s.allGenres
  | .book id => s.book? id
  | .statusOf id => s.requireStatus id
  | .search q => s.search q
  | .booksOf owner status? => s.booksOf owner status?
  | .availableBooks city => s.availableBooks city
  | .exchange id => s.exchange? id
  | .exchanges => s.allExchanges
  | .exchangesOf u status? => s.exchangesOf u status?
  | .completedOf u => .ok (s.completedOf u)
  | .review id => .ok (s.review? id)
  | .reviewsOfUser u => .ok (s.reviewsOfUser u)
  | .reviewsOfBook b => .ok (s.reviewsOfBook b)
  | .ratingOf u => .ok (s.ratingOf u)

def perform (l : Look) : Call l.Sight := .read l.see

end Look

/-- One request. A service comes with the summaries that the summary service writes just then. -/
inductive Command where
  | service (summarize : String → String) (op : Operation)
  | port (p : Port)

namespace Command

def perform : Command → Call Answer
  | .service summarize op => Market.perform summarize op
  | .port p => p.perform

def answer (c : Command) (s : Store) : Except Failure Answer := (c.perform s).1

def after (c : Command) (s : Store) : Store := (c.perform s).2

end Command

end BookExchange.Market
