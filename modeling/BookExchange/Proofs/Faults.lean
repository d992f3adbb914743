import BookExchange.Proofs.Refusals

/-! Calls that get past every check and break in the store. There are three ways: a book is listed for
an owner whom the foreign key does not find, a search comes to a pattern that is too long, and more
books are found than can be read at once. Every other call that fails is refused for what it asks. -/
namespace BookExchange
open Text

/-! Long texts. -/
namespace Text

theorem length_le_lowerWithin (before after cs : List Char) :
    cs.length ≤ (lowerWithin before after cs).length := by
  induction cs generalizing before with
  | nil => exact Nat.zero_le _
  | cons c rest ih =>
    have hrest := ih (c :: before)
    have hfirst := List.length_pos_iff.mpr (lowerChar_ne_nil c)
    rw [lowerWithin, List.length_cons, List.length_append]
    split
    · rw [List.length_singleton]
      omega
    · omega

theorem length_le_escapeWildcards (cs : List Char) : cs.length ≤ (escapeWildcards cs).length := by
  induction cs with
  | nil => exact Nat.le_refl _
  | cons c cs ih =>
    rw [escapeWildcards]
    split <;> simp only [List.length_cons] <;> omega

/-- Each character takes a byte at least. -/
theorem length_le_utf8ByteSize (cs : List Char) : cs.length ≤ (String.ofList cs).utf8ByteSize := by
  rw [String.utf8ByteSize_ofList]
  induction cs with
  | nil => exact Nat.le_refl _
  | cons c cs ih =>
    have hc := c.utf8Size_pos
    rw [String.utf8Len_cons, List.length_cons]
    omega

/-- Neither the lower case nor the escapes make a text shorter. -/
theorem not_patternFits_of_long {text : String}
    (long : patternLimit ≤ (trimmed text.toList).length) : patternFits (searchKey text) = false := by
  have hkey : (trimmed text.toList).length ≤ (searchKey text).toList.length := by
    rw [searchKey, String.toList_ofList, lowercase_eq]
    exact length_le_lowerWithin ..
  have hescaped := length_le_escapeWildcards (searchKey text).toList
  have hpattern := length_le_utf8ByteSize (containsPattern (searchKey text).toList)
  simp only [containsPattern, List.cons_append, List.length_cons, List.length_append] at hpattern
  rw [patternFits, decide_eq_false_iff_not]
  simp only [containsPattern, List.cons_append]
  omega

end Text

namespace Catalogue

/-- The query comes, at a live book, to a text that makes too long a pattern: all that it tries before
it lets the book through. -/
inductive Query.Overruns (q : Query) (s : Store) : Prop where
  | title {text : String} {b : Book} (asked : q.title = some text)
      (long : patternFits (searchKey text) = false) (live : s.book? b.id = .ok (some b))
      (reached : { q with title := none, author := none, genre := none, city := none }.Selects
        FoundIn s b)
  | author {text : String} {b : Book} (asked : q.author = some text)
      (long : patternFits (searchKey text) = false) (live : s.book? b.id = .ok (some b))
      (reached : { q with author := none, genre := none, city := none }.Selects FoundIn s b)
  | city {text : String} {b : Book} (asked : q.city = some text)
      (long : patternFits (searchKey text) = false) (live : s.book? b.id = .ok (some b))
      (reached : { q with city := none }.Selects FoundIn s b)

/-- Asks for the available books of owners in a city. -/
def Query.ofCity (city : Option String) : Query :=
  { status := some "available", city, limit := some 1 }

theorem Query.askedStatus_ofCity (city : Option String) :
    (Query.ofCity city).askedStatus = .ok (some .available) := by
  have hname : Query.askedStatus { status := some "available" } = .ok (some .available) := by
    decide +kernel
  exact hname

end Catalogue

namespace Store
open Catalogue
variable {s : Store} {q : Query} {status : Option Book.Status}

/-- Some row passes if the query selects some live book. -/
theorem exists_passes_iff (keyed : s.Keyed) (asked : q.askedStatus = .ok status) :
    (∃ r ∈ s.books.entries, s.passes (q.search status) r.1 r.2) ↔
      ∃ b, s.book? b.id = .ok (some b) ∧ q.Selects FoundIn s b := by
  have hlists := lists_listing keyed asked
  constructor
  · intro h
    obtain ⟨r, hr, hpass⟩ := h
    exact ⟨s.bookOf r, (hlists.members _).mp
      (List.mem_map_of_mem (mem_ranked.mpr ⟨Table.mem_entries.mp hr, hpass⟩))⟩
  · intro h
    obtain ⟨b, hb⟩ := h
    obtain ⟨r, hr, -⟩ := List.mem_map.mp ((hlists.members b).mpr hb)
    obtain ⟨found, hpass⟩ := mem_ranked.mp hr
    exact ⟨r, Table.mem_entries.mpr found, hpass⟩

theorem any_overruns_iff (keyed : s.Keyed) (asked : q.askedStatus = .ok status) :
    (s.books.entries.any fun r => s.overruns (q.search status) r.1 r.2) ↔ q.Overruns s := by
  have htitle := exists_passes_iff
    (q := { q with title := none, author := none, genre := none, city := none }) keyed asked
  have hauthor := exists_passes_iff
    (q := { q with author := none, genre := none, city := none }) keyed asked
  have hcity := exists_passes_iff (q := { q with city := none }) keyed asked
  simp only [List.any_eq_true, overruns, Bool.or_eq_true, Bool.and_eq_true]
  constructor
  · intro h
    obtain ⟨r, hr, (⟨hlong, hpass⟩ | ⟨hlong, hpass⟩) | ⟨hlong, hpass⟩⟩ := h
    · obtain ⟨text, htext, hlong⟩ := long_key?.mp hlong
      obtain ⟨b, live, reached⟩ := htitle.mp ⟨r, hr, hpass⟩
      exact .title htext hlong live reached
    · obtain ⟨text, htext, hlong⟩ := long_key?.mp hlong
      obtain ⟨b, live, reached⟩ := hauthor.mp ⟨r, hr, hpass⟩
      exact .author htext hlong live reached
    · obtain ⟨text, htext, hlong⟩ := long_key?.mp hlong
      obtain ⟨b, live, reached⟩ := hcity.mp ⟨r, hr, hpass⟩
      exact .city htext hlong live reached
  · intro h
    cases h with
    | title asked' long live reached =>
      obtain ⟨r, hr, hpass⟩ := htitle.mpr ⟨_, live, reached⟩
      exact ⟨r, hr, .inl (.inl ⟨long_key?.mpr ⟨_, asked', long⟩, hpass⟩)⟩
    | author asked' long live reached =>
      obtain ⟨r, hr, hpass⟩ := hauthor.mpr ⟨_, live, reached⟩
      exact ⟨r, hr, .inl (.inr ⟨long_key?.mpr ⟨_, asked', long⟩, hpass⟩)⟩
    | city asked' long live reached =>
      obtain ⟨r, hr, hpass⟩ := hcity.mpr ⟨_, live, reached⟩
      exact ⟨r, hr, .inr ⟨long_key?.mpr ⟨_, asked', long⟩, hpass⟩⟩

/-- The available books are the listing, newest first, as long as they are not too many. -/
theorem availableBooks_cases (keyed : s.Keyed) (city : Option String) : s.availableBooks city =
    if s.books.entries.any fun r =>
      s.overruns ((Query.ofCity city).search (some .available)) r.1 r.2 then
      .error (.storage .patternTooLong)
    else if variableLimit < (s.listing ((Query.ofCity city).search (some .available))).length then
      .error (.storage .tooManyVariables)
    else .ok (((s.books.entries.filter fun r =>
      s.passes ((Query.ofCity city).search (some .available)) r.1 r.2).mergeSort newestFirst).map
        s.bookOf) := by
  have hsound : ∀ r ∈ (s.books.entries.filter fun r =>
      s.passes ((Query.ofCity city).search (some .available)) r.1 r.2).mergeSort newestFirst,
      r.2.Sound := by
    intro r hr
    have hmem := (List.mem_filter.mp (List.mem_mergeSort.mp hr)).1
    exact (keyed.books _ _ (Table.mem_entries.mp hmem)).1
  have hread := s.hydrate_of_sound hsound
  have hmatching := matching_cases keyed ((Query.ofCity city).search (some .available))
  rw [List.length_mergeSort] at hread
  rw [listing, List.length_map, ranked, sorted, List.length_mergeSort]
  have hsearch : s.availableBooks city =
      s.matching ((Query.ofCity city).search (some .available)) >>= fun rows =>
        s.hydrate (rows.mergeSort newestFirst) := rfl
  rw [hsearch, hmatching]
  split
  · rfl
  · exact hread

end Store

/-- What keeps the engine from objecting to a call. -/
structure Store.Intact (s : Store) : Prop where
  unlocked : s.locked = false
  keyed : s.Keyed
  filed : s.Filed
  dated : ∀ x row, s.exchanges.get? x = some row → row.Dated
  backed : s.Backed
  consistent : s.Consistent

namespace Market
open Call Catalogue
variable {s : Store} {log : List Event} {op : Operation} {fault : StorageFault}
  {summarize : String → String}

theorem Run.intact (run : Run Command.Raced .fresh log s) : s.Intact :=
  ⟨run.unlocked, run.keyed, run.filed, fun _ => run.dated, run.backed, run.consistent⟩

/-- The operation gets past its checks, and the storage engine objects. -/
inductive Operation.Breaks (s : Store) : Operation → StorageFault → Prop where
  | unknownOwner {owner : UserId} {o : Book.Offer} (valid : o.validate = .ok ())
      (unknown : s.users.get? owner = none) : Breaks s (.createBook owner o) .foreignKey
  | longFilter {q : Query} {search : Search} (normal : q.normalize = .ok search)
      (long : q.Overruns s) : Breaks s (.searchBooks q) .patternTooLong
  | longCity {city : Option String} (long : (Query.ofCity city).Overruns s) :
      Breaks s (.availableBooks city) .patternTooLong
  | manyOwned {owner : UserId} {status : Option Book.Status}
      (many : Store.variableLimit < (s.shelf owner status).length) :
      Breaks s (.booksOf owner status) .tooManyVariables
  | manyShown {id : UserId} {u : User} (found : s.user? id = some u)
      (many : Store.variableLimit < (s.shelf id none).length) :
      Breaks s (.profile id) .tooManyVariables
  | manyAvailable {city : Option String} {L : List Book}
      (short : ¬ (Query.ofCity city).Overruns s) (lists : (Query.ofCity city).Lists FoundIn s L)
      (many : Store.variableLimit < L.length) : Breaks s (.availableBooks city) .tooManyVariables

/-! The operations that may break. -/

theorem createBook_of_unknown (intact : s.Intact) {owner : UserId} {o : Book.Offer}
    (valid : o.validate = .ok ()) (unknown : s.users.get? owner = none) :
    outcome (createBook summarize owner o) s = (.error (.storage .foreignKey), s) := by
  have hinsert : outcome (Store.insertBook (o.entry owner (summaryOf summarize o))) s =
      (.error (.storage .foreignKey), s) := by
    simp [Store.insertBook, outcome_transaction, outcome_bind, outcome_write, intact.unlocked,
      Book.Offer.entry, unknown]
  simp [createBook, outcome_bind, valid, hinsert]

/-- What breaks an operation is its answer. -/
theorem answer_of_breaks (intact : s.Intact) (summarize : String → String) (h : op.Breaks s fault) :
    (Command.service summarize op).answer s = .error (.storage fault) := by
  have hrun : outcome (perform summarize op) s = (.error (.storage fault), s) := by
    cases h with
    | unknownOwner valid unknown =>
      simp [perform, outcome_map, createBook_of_unknown intact valid unknown]
    | longFilter normal long =>
      obtain ⟨status, asked, rfl⟩ := Query.normalize_eq_ok.mp normal
      have hany := (Store.any_overruns_iff intact.keyed asked).mpr long
      simp only [perform, searchBooks, outcome_map, outcome_bind, outcome_lift, normal, outcome_read,
        Store.search_cases intact.keyed, hany, ↓reduceIte]
    | longCity long =>
      have hany := (Store.any_overruns_iff intact.keyed (Query.askedStatus_ofCity _)).mpr long
      simp only [perform, availableBooks, outcome_map, outcome_read,
        Store.availableBooks_cases intact.keyed, hany, ↓reduceIte]
    | manyOwned many =>
      simp only [perform, booksOf, outcome_map, outcome_read, Store.booksOf_eq intact.keyed, many,
        ↓reduceIte]
    | manyShown found many =>
      simp [perform, profile, getUser, outcome_bind, found,
        Store.booksOf_eq intact.keyed, many]
    | @manyAvailable city L short lists many =>
      have hasked := Query.askedStatus_ofCity city
      have hany := (Store.any_overruns_iff intact.keyed hasked).not.mpr short
      have hlists := Store.lists_listing intact.keyed hasked
      rw [lists.unique hlists] at many
      simp only [perform, availableBooks, outcome_map, outcome_read,
        Store.availableBooks_cases intact.keyed, hany, many, Bool.false_eq_true, ↓reduceIte]
  exact congrArg Prod.fst hrun

theorem breaks_or_regular_createBook (intact : s.Intact) (summarize : String → String)
    (owner : UserId) (o : Book.Offer) : (∃ fault, (Operation.createBook owner o).Breaks s fault) ∨
      Regular (outcome (createBook summarize owner o) s).1 := by
  cases hvalid : o.validate with
  | error f =>
    refine .inr (regular_lift_bind (regular_validate_offer o) fun _ h => ?_)
    cases hvalid.symm.trans h
  | ok _ =>
    cases howner : s.users.get? owner with
    | none => exact .inl ⟨_, .unknownOwner hvalid howner⟩
    | some row => exact .inr (regular_createBook intact.filed (by simp [howner]) summarize o)

theorem breaks_or_regular_searchBooks (intact : s.Intact) (q : Query) :
    (∃ fault, (Operation.searchBooks q).Breaks s fault) ∨
      Regular (outcome (searchBooks q) s).1 := by
  cases hasked : q.askedStatus with
  | error f =>
    right
    have hf : f.kind ≠ .internal := by
      rw [Query.askedStatus] at hasked
      split at hasked
      · cases hasked
      · split at hasked <;> cases hasked
        simp [Failure.unknownStatus, Failure.kind]
    simp [searchBooks, outcome_bind, Query.normalize_eq, hasked, Except.map, hf]
  | ok status =>
    have hnormal := Query.normalize_eq_ok.mpr ⟨status, hasked, rfl⟩
    by_cases long : q.Overruns s
    · exact .inl ⟨_, .longFilter hnormal long⟩
    · have hany := (Store.any_overruns_iff intact.keyed hasked).not.mpr long
      right
      simp only [searchBooks, outcome_bind, outcome_lift, hnormal, outcome_read,
        Store.search_cases intact.keyed, hany, Bool.false_eq_true, ↓reduceIte, outcome_pure,
        regular_ok]

theorem breaks_or_regular_booksOf (intact : s.Intact) (owner : UserId)
    (status : Option Book.Status) : (∃ fault, (Operation.booksOf owner status).Breaks s fault) ∨
      Regular (outcome (booksOf owner status) s).1 := by
  by_cases many : Store.variableLimit < (s.shelf owner status).length
  · exact .inl ⟨_, .manyOwned many⟩
  · right
    simp only [booksOf, outcome_read, Store.booksOf_eq intact.keyed, many, ↓reduceIte, regular_ok]

theorem breaks_or_regular_availableBooks (intact : s.Intact) (city : Option String) :
    (∃ fault, (Operation.availableBooks city).Breaks s fault) ∨
      Regular (outcome (availableBooks city) s).1 := by
  have hasked := Query.askedStatus_ofCity city
  by_cases long : (Query.ofCity city).Overruns s
  · exact .inl ⟨_, .longCity long⟩
  have hlists := Store.lists_listing intact.keyed hasked
  by_cases many : Store.variableLimit <
      (s.listing ((Query.ofCity city).search (some .available))).length
  · exact .inl ⟨_, .manyAvailable long hlists many⟩
  · have hany := (Store.any_overruns_iff intact.keyed hasked).not.mpr long
    right
    simp only [availableBooks, outcome_read, Store.availableBooks_cases intact.keyed, hany, many,
      ↓reduceIte, Bool.false_eq_true, regular_ok]

theorem breaks_or_regular_profile (intact : s.Intact) (id : UserId) :
    (∃ fault, (Operation.profile id).Breaks s fault) ∨ Regular (outcome (profile id) s).1 := by
  cases found : s.user? id with
  | none =>
    right
    simp [profile, getUser, outcome_bind, found, Failure.kind]
  | some u =>
    by_cases many : Store.variableLimit < (s.shelf id none).length
    · exact .inl ⟨_, .manyShown found many⟩
    · right
      simp [profile, getUser, outcome_bind, outcome_map, found, Store.booksOf_eq intact.keyed, many]

/-- Every operation that fails breaks or is refused for what it asks. -/
theorem breaks_or_regular (intact : s.Intact) (summarize : String → String) (op : Operation) :
    (∃ fault, op.Breaks s fault) ∨ Regular ((Command.service summarize op).answer s) := by
  change _ ∨ Regular (outcome (perform summarize op) s).1
  cases op with
  | createBook owner o =>
    exact (breaks_or_regular_createBook intact summarize owner o).imp_right (regular_map _)
  | searchBooks q => exact (breaks_or_regular_searchBooks intact q).imp_right (regular_map _)
  | booksOf owner status =>
    exact (breaks_or_regular_booksOf intact owner status).imp_right (regular_map _)
  | availableBooks city =>
    exact (breaks_or_regular_availableBooks intact city).imp_right (regular_map _)
  | profile id => exact (breaks_or_regular_profile intact id).imp_right (regular_map _)
  | createUser r => exact .inr (regular_map _ (regular_createUser r))
  | getUser id => exact .inr (regular_map _ (regular_getUser id))
  | updateUser id actor c => exact .inr (regular_map _ (regular_updateUser id actor c))
  | listUsers q => exact .inr (regular_map _ (regular_listUsers q))
  | deleteUser id actor =>
    exact .inr (regular_bind (regular_deleteUser intact.dated id actor) fun _ _ _ => regular_ok _)
  | getBook id => exact .inr (regular_map _ (regular_getBook intact.keyed id))
  | updateBook id actor c => exact .inr (regular_map _ (regular_updateBook intact.keyed id actor c))
  | deleteBook id actor =>
    exact .inr (regular_bind (regular_deleteBook intact.keyed id actor) fun _ _ _ => regular_ok _)
  | createGenre name => exact .inr (regular_map _ (regular_createGenre name))
  | getGenre id => exact .inr (regular_map _ (regular_getGenre id))
  | listGenres => exact .inr (regular_ok _)
  | deleteGenre id => exact .inr (regular_bind (regular_deleteGenre id) fun _ _ _ => regular_ok _)
  | createExchange initiator r =>
    exact .inr (regular_createExchange intact.unlocked intact.keyed summarize initiator r)
  | acceptExchange id actor =>
    exact .inr (regular_move intact.unlocked intact.dated intact.backed intact.consistent summarize
      ⟨.accept, id, actor⟩)
  | completeExchange id actor =>
    exact .inr (regular_move intact.unlocked intact.dated intact.backed intact.consistent summarize
      ⟨.complete, id, actor⟩)
  | cancelExchange id actor =>
    exact .inr (regular_move intact.unlocked intact.dated intact.backed intact.consistent summarize
      ⟨.cancel, id, actor⟩)
  | getExchange id => exact .inr (regular_map _ (regular_getExchange intact.dated id))
  | listExchanges => exact .inr (regular_map _ (regular_allExchanges intact.dated))
  | exchangesOf user status =>
    exact .inr (regular_map _ (regular_exchangesOf intact.dated user status))
  | createReview author r =>
    rw [perform]
    exact .inr (regular_map _ (regular_createReview author r))
  | deleteReview id actor =>
    rw [perform]
    exact .inr (regular_bind (regular_deleteReview id actor) fun _ _ _ => regular_ok _)
  | reviewsOfUser user | reviewsOfBook book | ratingOf user => exact .inr (regular_ok _)

/-- In every store that services and racing callers have led to, a call fails within the store exactly
where it breaks, and with the fault that it breaks with. Any other call that fails is refused: for what
it does not find, for who asks, for the state of things, for its input or for a conflict. -/
theorem Run.internal_iff (run : Run Command.Raced .fresh log s) (summarize : String → String)
    (op : Operation) (f : Failure) :
    ((Command.service summarize op).answer s = .error f ∧ f.kind = .internal) ↔
      ∃ fault, f = .storage fault ∧ op.Breaks s fault := by
  constructor
  · intro h
    obtain ⟨hanswer, hkind⟩ := h
    obtain ⟨fault, hbreaks⟩ | hregular := breaks_or_regular run.intact summarize op
    · have hfault := answer_of_breaks run.intact summarize hbreaks
      rw [hanswer] at hfault
      cases hfault
      exact ⟨fault, rfl, hbreaks⟩
    · exact absurd hkind (hregular f hanswer)
  · intro h
    obtain ⟨fault, rfl, hbreaks⟩ := h
    exact ⟨answer_of_breaks run.intact summarize hbreaks, rfl⟩

/-- With two users there, a book cannot be listed for a third; the first one's books can be read. -/
theorem Run.internal_iff_opening :
    (Command.service id (.createBook 3 ⟨"Dune", "Herbert", "", none, [7]⟩)).answer
        (follow .fresh opening).2 = .error (.storage .foreignKey) ∧
      ∀ f, (Command.service id (.booksOf 1 none)).answer (follow .fresh opening).2 = .error f →
        f.kind ≠ .internal := by
  have hlist := run_opening.internal_iff id (.createBook 3 ⟨"Dune", "Herbert", "", none, [7]⟩)
    (.storage .foreignKey)
  have hbreaks : (Operation.createBook 3 ⟨"Dune", "Herbert", "", none, [7]⟩).Breaks
      (follow .fresh opening).2 .foreignKey := .unknownOwner (by decide +kernel) (by decide +kernel)
  refine ⟨(hlist.mpr ⟨.foreignKey, rfl, hbreaks⟩).1, fun f hf hkind => ?_⟩
  obtain ⟨fault, -, hmany⟩ := (run_opening.internal_iff id (.booksOf 1 none) f).mp ⟨hf, hkind⟩
  cases hmany with
  | manyOwned many =>
    have hfew : ¬ Store.variableLimit < ((follow .fresh opening).2.shelf 1 none).length := by
      decide +kernel
    exact hfew many

/-- A long title that is asked for breaks the search as soon as there is a book. -/
theorem breaks_of_long {text : String} (long : patternLimit ≤ (trimmed text.toList).length) :
    (Operation.searchBooks { title := some text }).Breaks (shelf "Dune") .patternTooLong := by
  have live : (shelf "Dune").book? (shelved "Dune").id = .ok (some (shelved "Dune")) := by
    decide +kernel
  have hnormal : Query.normalize { title := some text } =
      .ok (Query.search { title := some text } none) := Query.normalize_eq_ok.mpr ⟨none, rfl, rfl⟩
  exact .longFilter hnormal (.title rfl (not_patternFits_of_long long) live
    ⟨by simp, by simp, by simp, by simp, by simp⟩)

/-- A book that is listed for a user who never registered is refused by the foreign key alone; a long
text that is searched for breaks the search. -/
theorem input_breaks :
    (∃ log s f, Run (fun _ => Command.IsService) .fresh log s ∧
      (Command.service id (.createBook 1 ⟨"Dune", "Herbert", "", some "sand", []⟩)).answer s =
        .error f ∧ f.kind = .internal) ∧
      ∃ log s q f, Run (fun _ => Command.IsService) .fresh log s ∧
        (Command.service id (.searchBooks q)).answer s = .error f ∧ f.kind = .internal := by
  refine ⟨⟨[], .fresh, .storage .foreignKey, .start, by decide +kernel, rfl⟩, ?_⟩
  have run := run_shelf "Dune"
  have hletter : ∀ c ∈ List.replicate patternLimit 'x', isBlank c = false := by
    intro c hc
    rw [List.eq_of_mem_replicate hc]
    decide
  have htight : Tight (List.replicate patternLimit 'x') :=
    ⟨fun c hc => hletter c (List.mem_of_head? hc), fun c hc => hletter c (List.mem_of_getLast? hc)⟩
  have long : patternLimit ≤
      (trimmed (String.ofList (List.replicate patternLimit 'x')).toList).length := by
    rw [String.toList_ofList, trimmed_of_tight htight, List.length_replicate]
  exact ⟨_, _, _, _, run, answer_of_breaks run.raced.intact id (breaks_of_long long), rfl⟩

end Market

end BookExchange
