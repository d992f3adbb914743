import BookExchange.Store.Basic

/-! Genres in the store. Deleting one takes it off every book. -/
namespace BookExchange

def GenreRow.view (g : GenreRow) (id : GenreId) : Genre := ⟨id, g.name, g.createdAt⟩

namespace Store

def genre? (s : Store) (id : GenreId) : Option Genre := (s.genres.get? id).map (·.view id)

def allGenres (s : Store) : List Genre :=
  (s.genres.entries.map fun (id, g) => g.view id).mergeSort Genre.before

def genreTaken (s : Store) (name : String) : Bool :=
  s.genres.entries.any fun (_, g) => g.name == name

/-- Whether a book is filed under a genre. -/
def isLinked (s : Store) (book : BookId) (genre : GenreId) : Bool := (book, genre) ∈ s.links

/-- The genres of a book in their order. -/
def genresOf (s : Store) (book : BookId) : List Genre :=
  s.allGenres.filter fun g => s.isLinked book g.id

def insertGenre (name : String) : Call Genre :=
  .write fun s =>
    if s.genreTaken name then .error .genreTaken
    else
      let row : GenreRow := ⟨name, s.clock⟩
      .ok (row.view s.genres.nextId, { s with genres := s.genres.insert row }.tick)

def removeGenre (id : GenreId) : Call Unit := do
  let removed ← .update (·.genres.get? id) (fun _ _ => true) fun s =>
    { s with genres := s.genres.erase id, links := s.links.filter (·.2 ≠ id) }
  if !removed then throw (.genreNotFound id)

end Store

end BookExchange
