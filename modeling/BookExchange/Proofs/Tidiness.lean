import BookExchange.Proofs.Runs
import BookExchange.Proofs.Summaries

/-! Callers write as they like, and the texts are stored in one form: without white space at their
ends, never empty where one is required, and beside each that is searched the key to search it by. -/
namespace BookExchange
open Text Call

/-! What the checks of a request find out. -/
namespace User

theorem checkName_eq_ok {name : String} : checkName name = .ok () ↔ trim name ≠ "" := by
  unfold checkName
  split <;> simp_all

theorem checkEmail_eq_ok {email : String} : checkEmail email = .ok () ↔ '@' ∈ (trim email).toList := by
  unfold checkEmail
  split <;> simp_all

theorem Registration.validate_eq_ok {r : Registration} (valid : r.validate = .ok ()) :
    trim r.name ≠ "" ∧ '@' ∈ (trim r.email).toList := by
  obtain ⟨_, hname, hemail⟩ := except_bind_eq_ok.mp valid
  exact ⟨checkName_eq_ok.mp hname, checkEmail_eq_ok.mp hemail⟩

theorem Change.validate_eq_ok {c : Change} (valid : c.validate = .ok ()) :
    (∀ name, c.name = some name → trim name ≠ "") ∧
      ∀ email, c.email = some email → '@' ∈ (trim email).toList := by
  obtain ⟨_ | name, _ | email, city, address⟩ := c
  · simp
  · simpa using checkEmail_eq_ok.mp valid
  · obtain ⟨_, hname, -⟩ := except_bind_eq_ok.mp valid
    simpa using checkName_eq_ok.mp hname
  · obtain ⟨_, hname, hemail⟩ := except_bind_eq_ok.mp valid
    simpa using ⟨checkName_eq_ok.mp hname, checkEmail_eq_ok.mp hemail⟩

end User

theorem Book.Offer.validate_eq_ok {o : Book.Offer} (valid : o.validate = .ok ()) :
    trim o.title ≠ "" ∧ trim o.author ≠ "" := by
  by_cases htitle : trim o.title = "" <;> by_cases hauthor : trim o.author = "" <;>
    simp_all [Book.Offer.validate, bind, Except.bind, throw, throwThe, MonadExceptOf.throw]

theorem Genre.written_validName {name valid : String} (h : Genre.validName name = .ok valid) :
    Written valid := by
  rw [Genre.validName] at h
  split at h
  · cases h
  · next hname =>
    cases h
    exact written_trim hname

/-! The rows. -/

/-- The texts of a user as they are stored; those of a deleted user stay. -/
structure UserRow.Tidy (u : UserRow) : Prop where
  name : Written u.name
  email : trim u.email = u.email
  at_sign : '@' ∈ u.email.toList
  city : trim u.city = u.city
  cityKey : u.cityKey = searchKey u.city
  address : trim u.address = u.address

/-- The texts of a book as they are stored, but for its description. -/
structure BookRow.Tidy (b : BookRow) : Prop where
  title : Written b.title
  author : Written b.author
  titleKey : b.titleKey = searchKey b.title
  authorKey : b.authorKey = searchKey b.author
  summary : Written b.summary

/-- Every text of a store is in its form. -/
structure Store.Tidy (s : Store) : Prop where
  users : ∀ id row, s.users.get? id = some row → row.Tidy
  books : ∀ id row, s.books.get? id = some row → row.Tidy
  genres : ∀ id row, s.genres.get? id = some row → Written row.name

theorem User.Registration.tidy_row {r : User.Registration} (valid : r.validate = .ok ())
    (now : Time) : (r.row now).Tidy := by
  obtain ⟨hname, hemail⟩ := validate_eq_ok valid
  exact ⟨written_trim hname, trim_trim _, hemail, trim_trim _, (searchKey_trim r.city).symm,
    trim_trim _⟩

/-- A field that is given is trimmed, and one that is left out stays as it was. -/
theorem getD_trim {P : String → Prop} {new? : Option String} {old : String}
    (new : ∀ s, new? = some s → P (trim s)) (kept : P old) : P ((new?.map trim).getD old) := by
  cases new? with
  | none => exact kept
  | some s => exact new s rfl

theorem User.Change.tidy_save {c : User.Change} (valid : c.validate = .ok ()) {u : UserRow}
    (tidy : u.Tidy) (id : UserId) (row : UserRow) : (row.save (c.apply (u.view id))).Tidy := by
  obtain ⟨hname, hemail⟩ := validate_eq_ok valid
  exact {
    name := getD_trim (P := Written) (fun s hs => written_trim (hname s hs)) tidy.name
    email := getD_trim (P := fun s => trim s = s) (fun s _ => trim_trim s) tidy.email
    at_sign := getD_trim (P := fun s => '@' ∈ s.toList) hemail tidy.at_sign
    city := getD_trim (P := fun s => trim s = s) (fun s _ => trim_trim s) tidy.city
    cityKey := rfl
    address := getD_trim (P := fun s => trim s = s) (fun s _ => trim_trim s) tidy.address }

theorem Book.Offer.tidy_row {o : Book.Offer} (valid : o.validate = .ok ()) {summary : String}
    (written : Written summary) (owner : UserId) (now : Time) : ((o.entry owner summary).row now).Tidy :=
  ⟨written_trim (validate_eq_ok valid).1, written_trim (validate_eq_ok valid).2, rfl, rfl, written⟩

/-- The texts of a book that no write changes. -/
structure Book.Wording where
  title : String
  author : String
  titleKey : String
  authorKey : String
  summary : String

def BookRow.wording (b : BookRow) : Book.Wording :=
  ⟨b.title, b.author, b.titleKey, b.authorKey, b.summary⟩

theorem BookRow.wording_withdraw (b : BookRow) (owner : UserId) (now : Time) :
    (b.withdraw owner now).wording = b.wording := by
  rw [withdraw]
  split <;> rfl

theorem BookRow.Tidy.of_wording {b b' : BookRow} (tidy : b.Tidy) (h : b'.wording = b.wording) :
    b'.Tidy := by
  rw [wording, wording, Book.Wording.mk.injEq] at h
  obtain ⟨htitle, hauthor, htitleKey, hauthorKey, hsummary⟩ := h
  exact ⟨htitle ▸ tidy.title, hauthor ▸ tidy.author, htitle ▸ htitleKey ▸ tidy.titleKey,
    hauthor ▸ hauthorKey ▸ tidy.authorKey, hsummary ▸ tidy.summary⟩

namespace Store
variable {s : Store}

/-- The book's texts, deleted or not. -/
def wordingOf (s : Store) (b : BookId) : Option Book.Wording := (s.books.get? b).map (·.wording)

theorem wordingOf_setBook {id b : BookId} {f : Time → BookRow → BookRow}
    (h : ∀ now row, (f now row).wording = row.wording) :
    (s.setBook id f).wordingOf b = s.wordingOf b := by
  rw [wordingOf, setBook_get?]
  split
  · rw [Option.map_map]
    exact congrArg (Option.map · _) (funext fun row => h s.clock row)
  · rfl

@[simp] theorem wordingOf_reserve (id b : BookId) :
    (s.setBook id .reserve).wordingOf b = s.wordingOf b := wordingOf_setBook fun _ _ => rfl

@[simp] theorem wordingOf_release (id b : BookId) :
    (s.setBook id .release).wordingOf b = s.wordingOf b := wordingOf_setBook fun _ _ => rfl

@[simp] theorem wordingOf_transfer (id b : BookId) (owner : UserId) :
    (s.setBook id (.transfer owner)).wordingOf b = s.wordingOf b := wordingOf_setBook fun _ _ => rfl

@[simp] theorem wordingOf_setExchange (id : ExchangeId) (f : Time → ExchangeRow → ExchangeRow)
    (b : BookId) : (s.setExchange id f).wordingOf b = s.wordingOf b := rfl

end Store

namespace Market
variable {summarize : String → String} {s t : Store} {op : Operation} {p : Port} {log : List Event}

/-- Of the texts of a book only the description is ever written again. -/
theorem Port.Writes.wordingOf (h : p.Writes s t) (hp : ∀ e, p ≠ .insertBook e) (b : BookId) :
    t.wordingOf b = s.wordingOf b := by
  cases h with
  | removeUser => simp [Store.wordingOf, Table.get?_map, Function.comp_def, BookRow.wording_withdraw]
  | insertBook => exact absurd rfl (hp _)
  | describe | removeBook | reserve | release | transfer => exact Store.wordingOf_setBook fun _ _ => rfl
  | @insertExchange q =>
    have hbooks : ((s.setBook q.initiatorBook .reserve).setBook q.recipientBook
        .reserve).wordingOf b = s.wordingOf b := by simp
    exact hbooks
  | completeExchange | cancelExchange => simp
  | _ => rfl

/-- A service stores the users' texts in their form; a change starts from a row in its form. -/
theorem users_tidy (reached : op.Reaches summarize s p) (h : p.Writes s t)
    (tidy : ∀ id row, s.users.get? id = some row → row.Tidy) (id : UserId) (row : UserRow)
    (found : t.users.get? id = some row) : row.Tidy := by
  cases h with
  | insertUser =>
    rw [Store.tick_users, Table.get?_insert] at found
    split at found
    · cases found
      cases reached with
      | createUser valid => exact User.Registration.tidy_row valid s.clock
    · exact tidy id row found
  | saveUser =>
    rw [Store.tick_users, Table.get?_modify] at found
    split at found
    · obtain ⟨row', -, rfl⟩ := Option.map_eq_some_iff.mp found
      cases reached with
      | updateUser valid hv =>
        obtain ⟨stored, hstored, -, rfl⟩ := Store.user?_eq_some.mp hv
        exact User.Change.tidy_save valid (tidy _ stored hstored) _ row'
    · exact tidy id row found
  | removeUser =>
    rw [Table.get?_modify] at found
    split at found
    · obtain ⟨row', found', rfl⟩ := Option.map_eq_some_iff.mp found
      obtain ⟨hname, hemail, hat, hcity, hkey, haddress⟩ := tidy id row' found'
      exact ⟨hname, hemail, hat, hcity, hkey, haddress⟩
    · exact tidy id row found
  | _ => exact tidy id row found

/-- The summary is the one given, or one that is made. -/
theorem written_summaryOf (made : Summary.Made summarize) (o : Book.Offer) :
    Written (summaryOf summarize o) := by
  refine Written.getD (fun text h => ?_) (made.written o.description)
  obtain ⟨given, -, h⟩ := Option.bind_eq_some_iff.mp h
  exact written_of_nonBlank? h

theorem books_tidy (made : Summary.Made summarize) (reached : op.Reaches summarize s p)
    (h : p.Writes s t) (tidy : ∀ id row, s.books.get? id = some row → row.Tidy) (id : BookId)
    (row : BookRow) (found : t.books.get? id = some row) : row.Tidy := by
  by_cases hp : ∃ e, p = .insertBook e
  · obtain ⟨e, rfl⟩ := hp
    cases h
    rw [Store.tick_books, Table.get?_insert] at found
    split at found
    · cases found
      cases reached with
      | @createBook owner o valid =>
        exact Book.Offer.tidy_row valid (written_summaryOf made o) owner s.clock
    · exact tidy id row found
  -- No other write touches these texts, so there was a row with the same ones before.
  · have hwording := h.wordingOf (fun e he => hp ⟨e, he⟩) id
    rw [Store.wordingOf, found, Option.map_some] at hwording
    obtain ⟨row', found', hsame⟩ := Option.map_eq_some_iff.mp hwording.symm
    exact (tidy id row' found').of_wording hsame.symm

theorem genres_tidy (reached : op.Reaches summarize s p) (h : p.Writes s t)
    (tidy : ∀ id row, s.genres.get? id = some row → Written row.name) (id : GenreId)
    (row : GenreRow) (found : t.genres.get? id = some row) : Written row.name := by
  cases h with
  | insertGenre =>
    rw [Store.tick_genres, Table.get?_insert] at found
    split at found
    · cases found
      cases reached with
      | createGenre validated => exact Genre.written_validName validated
    · exact tidy id row found
  | removeGenre =>
    rw [Store.tick_genres, Table.get?_erase] at found
    split at found
    · cases found
    · exact tidy id row found
  | _ => exact tidy id row found

/-- The command asks a service, which has its summaries made. -/
def Command.HasSummariesMade : Command → Prop
  | .service summarize _ => Summary.Made summarize
  | .port _ => False

/-- Whatever callers write and whatever is answered about summaries, the stored texts are in their
form. -/
theorem Run.texts_tidy (run : Run (fun _ => Command.HasSummariesMade) .fresh log s) : s.Tidy := by
  have hfresh : Store.fresh.Tidy := by constructor <;> simp [Store.fresh]
  refine run.preserves_written hfresh fun _ ok calls hw tidy => ?_
  cases calls with
  | port => exact ok.elim
  | service reached =>
    exact ⟨users_tidy reached hw tidy.users, books_tidy ok reached hw tidy.books,
      genres_tidy reached hw tidy.genres⟩

/-! Texts with white space around them; a summary is cut, and a city is changed. -/

def untidy : List Command :=
  [.service (Summary.ofDescription 4) (.createUser ⟨" Ana", "ana@example.org ", " Porto ", ""⟩),
    .service (Summary.ofDescription 4)
      (.createBook 1 ⟨" Dune", "Herbert ", " Sand and spice ", none, []⟩),
    .service (Summary.ofDescription 4) (.updateUser 1 1 ⟨none, none, some "\tLisboa ", none⟩),
    .service (Summary.ofDescription 4) (.createGenre " Epic ")]

theorem Run.texts_tidy_untidy :
    (follow .fresh untidy).2.Tidy ∧
      (follow .fresh untidy).2.users.get? 1 =
        some ⟨"Ana", "ana@example.org", "Lisboa", "lisboa", "", 0, none⟩ ∧
      ((follow .fresh untidy).2.books.get? 1).map (·.summary) = some "Sand..." := by
  have made : ∀ stores : List Store, ∀ c ∈ untidy, c.HasSummariesMade := by
    simp [untidy, Command.HasSummariesMade, Summary.Made.ofDescription]
  have run : Run (fun _ => Command.HasSummariesMade) .fresh (follow .fresh untidy).1
      (follow .fresh untidy).2 := Run.of_follow .start made
  exact ⟨run.texts_tidy, by decide +kernel, by decide +kernel⟩

end Market

end BookExchange
