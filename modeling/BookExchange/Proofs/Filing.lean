import BookExchange.Proofs.Refusals

/-! The genres of books. A book is filed under all the genres that are named when it is listed or, if
one of them is not there, not listed at all. From then on only the deletion of a genre takes it off the
book, and nothing puts it back. -/
namespace BookExchange
open Text Call

namespace Genre

/-- The one genre stands before the other: names are compared by their bytes. -/
def Before (a b : Genre) : Prop :=
  encodeUtf8 a.name < encodeUtf8 b.name ∨ a.name = b.name ∧ a.id < b.id

theorem before_iff (a b : Genre) : a.before b ↔ toLex (a.name, a.id) ≤ toLex (b.name, b.id) := by
  simp [before, Prod.Lex.toLex_le_toLex]

/-- Different genres, sorted, stand one before the other. -/
theorem pairwise_sorted {gs : List Genre} (distinct : gs.Pairwise (·.id ≠ ·.id)) :
    (gs.mergeSort before).Pairwise Before := by
  have hne : (gs.mergeSort before).Pairwise (·.id ≠ ·.id) :=
    distinct.perm (List.mergeSort_perm _ _).symm fun h => h.symm
  refine ((pairwise_mergeSort before_iff gs).and hne).imp fun {a b} h => ?_
  obtain ⟨hle, hne⟩ := h
  rw [Prod.Lex.toLex_le_toLex] at hle
  rw [Before, encodeUtf8_lt_iff]
  exact hle.imp_right fun hsame => ⟨hsame.1, lt_of_le_of_ne hsame.2 hne⟩

end Genre

namespace Store
variable {s : Store} {b : BookId} {g : Genre} {k : Book}

theorem genre?_eq_some {id : GenreId} : s.genre? id = some g ↔
    ∃ row, s.genres.get? id = some row ∧ g = row.view id := by
  simp [genre?, @eq_comm _ g]

theorem mem_allGenres : g ∈ s.allGenres ↔ s.genre? g.id = some g := by
  rw [allGenres, List.mem_mergeSort, List.mem_map, genre?_eq_some]
  constructor
  · intro h
    obtain ⟨⟨id, row⟩, hentry, rfl⟩ := h
    exact ⟨row, Table.mem_entries.mp hentry, rfl⟩
  · intro h
    obtain ⟨row, found, hg⟩ := h
    exact ⟨(g.id, row), Table.mem_entries.mpr found, hg.symm⟩

theorem mem_genresOf : g ∈ s.genresOf b ↔ s.genre? g.id = some g ∧ (b, g.id) ∈ s.links := by
  simp [genresOf, mem_allGenres, isLinked]

theorem pairwise_genresOf (s : Store) (b : BookId) : (s.genresOf b).Pairwise Genre.Before := by
  refine List.Pairwise.filter _ (Genre.pairwise_sorted (List.pairwise_map.mpr ?_))
  exact s.genres.pairwise_entries.imp Int.ne_of_lt

/-- Books are only filed under genres that are there. -/
def Classed (s : Store) : Prop := ∀ l ∈ s.links, (s.genres.get? l.2).isSome

/-- What is read for identifiers, if all of them can be read, are their genres in the same order. -/
theorem genres_of_mapM {ids : List GenreId} {gs : List Genre} (h : ids.mapM s.genre? = some gs) :
    gs.map (·.id) = ids ∧ ∀ g ∈ gs, s.genre? g.id = some g := by
  induction ids generalizing gs with
  | nil =>
    obtain rfl : [] = gs := by simpa using h
    simp
  | cons id ids ih =>
    simp only [List.mapM_cons, Option.bind_eq_bind, Option.bind_eq_some_iff] at h
    obtain ⟨g, hg, gs', hgs, h⟩ := h
    obtain rfl : g :: gs' = gs := by simpa using h
    obtain ⟨hids, hall⟩ := ih hgs
    obtain ⟨row, -, hview⟩ := genre?_eq_some.mp hg
    have hid : g.id = id := by rw [hview]; rfl
    refine ⟨by rw [List.map_cons, hid, hids], List.forall_mem_cons.mpr ⟨hid ▸ hg, hall⟩⟩

theorem mem_of_mapM_genre? {ids : List GenreId} {gs : List Genre}
    (h : ids.mapM s.genre? = some gs) : g ∈ gs ↔ g.id ∈ ids ∧ s.genre? g.id = some g := by
  obtain ⟨rfl, hall⟩ := genres_of_mapM h
  constructor
  · exact fun hg => ⟨List.mem_map_of_mem hg, hall g hg⟩
  · intro hg
    obtain ⟨hid, hfound⟩ := hg
    obtain ⟨g', hg', hsame⟩ := List.mem_map.mp hid
    have hfound' := hall g' hg'
    rw [hsame, hfound, Option.some.injEq] at hfound'
    exact hfound' ▸ hg'

theorem isSome_of_mapM_genre? {ids : List GenreId} {gs : List Genre} {id : GenreId}
    (h : ids.mapM s.genre? = some gs) (hid : id ∈ ids) : (s.genres.get? id).isSome := by
  obtain ⟨rfl, hall⟩ := genres_of_mapM h
  obtain ⟨g, hg, rfl⟩ := List.mem_map.mp hid
  obtain ⟨row, found, -⟩ := genre?_eq_some.mp (hall g hg)
  simp [found]

end Store

namespace Market
variable {s t : Store} {p : Port} {b : BookId} {g : GenreId}

theorem Port.Writes.classed (h : p.Writes s t) (classed : s.Classed) : t.Classed := by
  cases h with
  | insertGenre =>
    intro l hl
    rw [Store.tick_genres, Table.get?_insert]
    split
    · rfl
    · exact classed l hl
  | removeGenre =>
    intro l hl
    obtain ⟨hl, hne⟩ := List.mem_filter.mp hl
    rw [Store.tick_genres, Table.get?_erase, if_neg (by simpa using hne)]
    exact classed l hl
  | insertBook known filed =>
    intro l hl
    obtain hl | hl := List.mem_append.mp hl
    · exact classed l hl
    · obtain ⟨g, hg, rfl⟩ := List.mem_map.mp hl
      exact Store.isSome_of_mapM_genre? filed hg
  | _ => exact classed

theorem Run.classed {allowed : List Store → Command → Prop} {log : List Event}
    (run : Run allowed .fresh log s) : s.Classed :=
  run.preserves (P := Store.Classed) (by simp [Store.Classed, Store.fresh]) fun _ c classed =>
    c.after_keeps classed fun _ hw => hw.classed classed

/-! What one command does to a genre and to its place on a book. -/

/-- A genre that is there or was once keeps its row, or its lack of one, until it is removed. -/
theorem Port.Writes.genre_kept (h : p.Writes s t) (hp : p ≠ .removeGenre g)
    (old : g < s.genres.nextId) : t.genres.get? g = s.genres.get? g := by
  cases h with
  | insertGenre => simp [Table.get?_insert, Int.ne_of_lt old]
  | @removeGenre id =>
    have hne : g ≠ id := fun hg => hp (hg ▸ rfl)
    simp [Table.get?_erase, hne]
  | _ => rfl

theorem Port.Writes.genres_nextId (h : p.Writes s t) : s.genres.nextId ≤ t.genres.nextId := by
  cases h with
  | insertGenre => simp
  | removeGenre => simp
  | _ => exact le_rfl

theorem Port.Writes.link_kept (h : p.Writes s t) (hp : p ≠ .removeGenre g)
    (known : (s.books.get? b).isSome) : (b, g) ∈ t.links ↔ (b, g) ∈ s.links := by
  cases h with
  | insertBook =>
    have hne : b ≠ s.books.nextId := by
      intro hb
      simp [hb, Table.get?_nextId] at known
    simp [Ne.symm hne]
  | @removeGenre id =>
    have hne : g ≠ id := fun hg => hp (hg ▸ rfl)
    simp [hne]
  | _ => exact Iff.rfl

/-- The genre that a command deletes. -/
def Command.dropped? : Command → Option GenreId
  | .service _ (.deleteGenre id) | .port (.removeGenre id) => some id
  | _ => none

theorem Command.Calls.removes_iff {c : Command} (h : c.Calls s p) :
    p = .removeGenre g ↔ c.dropped? = some g := by
  cases h with
  | port => cases p <;> simp [Command.dropped?]
  | service reached => cases reached <;> simp [Command.dropped?]

/-- The genre has been deleted. -/
def Event.Drops (v : Event) (g : GenreId) : Prop :=
  v.answer = .ok .done ∧ v.command.dropped? = some g

namespace Event
variable {v : Event}

theorem Drops.writes (h : v.Drops g) : (Port.removeGenre g).Writes v.store v.after := by
  obtain ⟨answered, drops⟩ := h
  obtain query | ⟨p, calls, hw⟩ := Command.writes_of_ok answered
  · obtain ⟨s, c⟩ := v
    cases c with
    | port q => cases query
    | service summarize op =>
      cases op with
      | deleteGenre => cases query
      | _ => cases drops
  · exact calls.removes_iff.mpr drops ▸ hw

/-- Any other command leaves the store as it is or writes something else. -/
theorem writes_other (h : ¬ v.Drops g) :
    v.after = v.store ∨ ∃ p : Port, p ≠ .removeGenre g ∧ p.Writes v.store v.after := by
  cases v.command.cases v.store with
  | fails failed unchanged => exact .inl unchanged
  | looks query unchanged => exact .inl unchanged
  | @writes p a calls answered =>
    refine .inr ⟨p, fun hp => h ⟨?_, calls.removes_iff.mp hp⟩, Port.writes_of_ok answered⟩
    have hanswer := congrArg Prod.fst ((Command.perform_of_calls calls).trans answered)
    subst hp
    obtain ⟨-, rfl⟩ := then_pure_eq_ok.mp answered
    exact hanswer
  | describes calls failed written unreadable => exact .inr ⟨_, by simp, written⟩

end Event

/-! A book is listed. -/

/-- The links are written one by one until a genre is not there; that is then the least of them. -/
theorem mapM_link_cases {genres : List GenreId} (unlocked : s.locked = false)
    (ascending : genres.Pairwise (· < ·)) (free : ∀ g ∈ genres, (b, g) ∉ s.links) :
    ((∀ g ∈ genres, (s.genre? g).isSome) ∧
        ∃ gs t, outcome (genres.mapM (Store.link b)) s = (.ok gs, t)) ∨
      ∃ g t, IsLeast {g | g ∈ genres ∧ s.genre? g = none} g ∧
        outcome (genres.mapM (Store.link b)) s = (.error (.genreNotFound g), t) := by
  induction genres generalizing s with
  | nil => exact .inl ⟨by simp, [], s, rfl⟩
  | cons genre genres ih =>
    obtain ⟨hleast, hrest⟩ := List.pairwise_cons.mp ascending
    rw [List.mapM_cons, outcome_bind]
    cases hgenre : s.genre? genre with
    | none =>
      have hlink : outcome (Store.link b genre) s = (.error (.genreNotFound genre), s) := by
        simp [Store.link, outcome_bind, hgenre]
      refine .inr ⟨genre, s, ⟨⟨List.mem_cons_self, hgenre⟩, fun g hg => ?_⟩, by simp [hlink]⟩
      obtain rfl | hg := List.mem_cons.mp hg.1
      · exact le_rfl
      · exact Int.le_of_lt (hleast g hg)
    | some found =>
      let u : Store := { s with links := s.links ++ [(b, genre)] }
      have hlink : outcome (Store.link b genre) s = (.ok found, u) := by
        refine Store.link_eq_ok.mpr ⟨hgenre, unlocked, ?_, rfl⟩
        simpa [Store.isLinked] using free genre List.mem_cons_self
      have hfree : ∀ g ∈ genres, (b, g) ∉ u.links := by
        intro g hg
        have hne : g ≠ genre := (Int.ne_of_lt (hleast g hg)).symm
        simpa [u, hne] using free g (List.mem_cons_of_mem _ hg)
      obtain ⟨hall, gs, t, ht⟩ | ⟨g, t, ⟨hg, hlower⟩, ht⟩ := ih (s := u) unlocked hrest hfree
      · refine .inl ⟨List.forall_mem_cons.mpr ⟨by simp [hgenre], hall⟩, found :: gs, t, ?_⟩
        simp [hlink, outcome_map, ht]
      · refine .inr ⟨g, t, ⟨⟨List.mem_cons_of_mem _ hg.1, hg.2⟩, fun g' hg' => ?_⟩, ?_⟩
        · obtain ⟨hmem, hnone⟩ := hg'
          obtain rfl | hmem := List.mem_cons.mp hmem
          · simp [hgenre] at hnone
          · exact hlower ⟨hmem, hnone⟩
        · simp [hlink, outcome_map, ht]

/-- An owner's book is stored if all its genres are there, or else nothing is. -/
theorem insertBook_cases {e : Book.Entry} (unlocked : s.locked = false) (filed : s.Filed)
    (known : (s.users.get? e.owner).isSome) (ascending : e.genres.Pairwise (· < ·)) :
    ((∀ g ∈ e.genres, (s.genre? g).isSome) ∧
        ∃ k t, outcome (Store.insertBook e) s = (.ok k, t)) ∨
      ∃ g, IsLeast {g | g ∈ e.genres ∧ s.genre? g = none} g ∧
        outcome (Store.insertBook e) s = (.error (.genreNotFound g), s) := by
  let u : Store := { s with books := s.books.insert (e.row s.clock) }.tick
  have hfree : ∀ g ∈ e.genres, (s.books.nextId, g) ∉ u.links := by
    intro g _ hlink
    simpa [Table.get?_nextId] using filed _ hlink
  have hknown : (s.users.get? e.owner).isNone = false := by simpa using known
  have hrun : outcome (Store.insertBook e) s =
      match outcome (e.genres.mapM (Store.link s.books.nextId)) u with
      | (.ok gs, t) => (.ok ⟨s.books.nextId, e.title, e.author, e.description, e.summary, .available,
          e.owner, s.clock, s.clock, gs.mergeSort Genre.before⟩, t)
      | (.error f, _) => (.error f, s) := by
    rw [Store.insertBook, outcome_transaction, outcome_bind, outcome_write, if_neg (by simp [unlocked])]
    simp only [hknown, Bool.false_eq_true, ↓reduceIte, outcome_bind]
    cases outcome (e.genres.mapM (Store.link s.books.nextId)) u with
    | mk r t => cases r <;> rfl
  obtain ⟨hall, gs, t, ht⟩ | ⟨g, t, hleast, ht⟩ := mapM_link_cases (s := u) unlocked ascending hfree
  · exact .inl ⟨hall, _, t, by rw [hrun, ht]⟩
  · exact .inr ⟨g, hleast, by rw [hrun, ht]⟩

variable {summarize : String → String} {owner : UserId} {o : Book.Offer} {k : Book}

theorem mem_entry {summary : String} : g ∈ (o.entry owner summary).genres ↔ g ∈ o.genres := by
  simp [Book.Offer.entry, mem_dedup]

/-- A valid offer is accepted if all genres that it names are there; else the least that is not is
complained of. -/
theorem createBook_cases (unlocked : s.locked = false) (filed : s.Filed)
    (summarize : String → String) (valid : o.validate = .ok ())
    (known : (s.users.get? owner).isSome) :
    ((∀ g ∈ o.genres, (s.genre? g).isSome) ∧
        ∃ k, (Command.service summarize (.createBook owner o)).answer s = .ok (.book k)) ∨
      ∃ g, IsLeast {g | g ∈ o.genres ∧ s.genre? g = none} g ∧
        (Command.service summarize (.createBook owner o)).answer s = .error (.genreNotFound g) ∧
          (Command.service summarize (.createBook owner o)).after s = s := by
  have hrun : outcome (perform summarize (.createBook owner o)) s =
      outcome (.book <$> Store.insertBook (o.entry owner (summaryOf summarize o))) s :=
    perform_of_reaches (.createBook valid)
  have hcases := insertBook_cases (e := o.entry owner (summaryOf summarize o)) unlocked filed known
    (pairwise_entry o owner _)
  simp only [mem_entry] at hcases
  obtain ⟨hall, k, t, ht⟩ | ⟨g, hleast, ht⟩ := hcases
  · rw [outcome_map, ht] at hrun
    exact .inl ⟨hall, k, (Command.outcome_perform.mp hrun).1⟩
  · rw [outcome_map, ht] at hrun
    exact .inr ⟨g, hleast, Command.outcome_perform.mp hrun⟩

/-- What an accepted offer has written. -/
theorem insertBook_of_answer
    (h : (Command.service summarize (.createBook owner o)).answer s = .ok (.book k)) :
    outcome (Store.insertBook (o.entry owner (summaryOf summarize o))) s =
      (.ok k, (Command.service summarize (.createBook owner o)).after s) := by
  have hrun := Command.outcome_perform.mpr ⟨h, rfl⟩
  generalize (Command.service summarize (.createBook owner o)).after s = t at hrun ⊢
  rw [perform, map_eq_ok] at hrun
  obtain ⟨k', hcreate, hk⟩ := hrun
  cases hk
  obtain ⟨_, u, hvalid, hinsert⟩ := bind_eq_ok.mp hcreate
  rw [outcome_lift, Prod.mk.injEq] at hvalid
  obtain ⟨-, rfl⟩ := hvalid
  exact hinsert

/-! What a book shows of the genres that it was listed under. -/

/-- The genres are those named that were there in the store, without the ones deleted since, each once
and in order. -/
structure ShownUnder (s : Store) (named : List GenreId) (since : List Event) (gs : List Genre) :
    Prop where
  members (g : Genre) : g ∈ gs ↔
    g.id ∈ named ∧ s.genre? g.id = some g ∧ ∀ v ∈ since, ¬ v.Drops g.id
  ordered : gs.Pairwise Genre.Before

/-- The book is filed under the genres that were named when the store was `s`, without those deleted
since, and the others are as they were. -/
structure Keeps (s : Store) (b : BookId) (named : List GenreId) (since : List Event) (t : Store) :
    Prop where
  known : (t.books.get? b).isSome
  old : s.genres.nextId ≤ t.genres.nextId
  links (g : GenreId) : (b, g) ∈ t.links ↔ g ∈ named ∧ ∀ v ∈ since, ¬ v.Drops g
  genres (g : GenreId) (mem : g ∈ named) (kept : ∀ v ∈ since, ¬ v.Drops g) :
    t.genres.get? g = s.genres.get? g

variable {named : List GenreId} {since : List Event}

theorem Event.Drops.not_linked {v : Event} (h : v.Drops g) (b : BookId) : (b, g) ∉ v.after.links := by
  have hw := h.writes
  generalize v.after = t at hw
  cases hw with
  | removeGenre => simp

theorem Event.Drops.gone {v : Event} (h : v.Drops g) :
    v.after.genres.get? g = none ∧ g < v.after.genres.nextId := by
  have hw := h.writes
  generalize v.after = t at hw
  cases hw with
  | removeGenre found => exact ⟨by simp [Table.get?_erase], by simpa using Table.lt_nextId found⟩

theorem Event.link_kept {v : Event} (h : ¬ v.Drops g) (known : (v.store.books.get? b).isSome) :
    (b, g) ∈ v.after.links ↔ (b, g) ∈ v.store.links := by
  obtain unchanged | ⟨p, hp, hw⟩ := writes_other h
  · rw [unchanged]
  · exact hw.link_kept hp known

theorem Event.genre_kept {v : Event} (h : ¬ v.Drops g) (old : g < v.store.genres.nextId) :
    v.after.genres.get? g = v.store.genres.get? g := by
  obtain unchanged | ⟨p, hp, hw⟩ := writes_other h
  · rw [unchanged]
  · exact hw.genre_kept hp old

theorem Keeps.step (h : Keeps s b named since t) (there : ∀ g ∈ named, (s.genres.get? g).isSome)
    (c : Command) : Keeps s b named (since ++ [⟨t, c⟩]) (c.after t) := by
  have hsince (g : GenreId) : (∀ v ∈ since ++ [⟨t, c⟩], ¬ v.Drops g) ↔
      (∀ v ∈ since, ¬ v.Drops g) ∧ ¬ (⟨t, c⟩ : Event).Drops g := by
    simp only [List.mem_append, List.mem_singleton, or_imp, forall_and, forall_eq]
  refine ⟨?_, ?_, fun g => ?_, fun g mem kept => ?_⟩
  · exact c.after_keeps (P := fun u => (u.books.get? b).isSome) h.known fun _ hw =>
      hw.book_kept h.known
  · exact c.after_keeps (P := fun u => s.genres.nextId ≤ u.genres.nextId) h.old fun _ hw =>
      h.old.trans hw.genres_nextId
  · rw [hsince]
    by_cases drops : (⟨t, c⟩ : Event).Drops g
    · have hgone : (b, g) ∉ (c.after t).links := drops.not_linked b
      simp [hgone, drops]
    · have hkept : (b, g) ∈ (c.after t).links ↔ (b, g) ∈ t.links := Event.link_kept drops h.known
      simp only [hkept, h.links, drops, not_false_eq_true, and_true]
  · obtain ⟨kept, drops⟩ := (hsince g).mp kept
    obtain ⟨row, found⟩ := Option.isSome_iff_exists.mp (there g mem)
    have old : g < t.genres.nextId := lt_of_lt_of_le (Table.lt_nextId found) h.old
    exact (Event.genre_kept drops old : (c.after t).genres.get? g = _).trans (h.genres g mem kept)

/-- A book begins under all the genres named. -/
theorem keeps_of_answer (filed : s.Filed)
    (h : (Command.service summarize (.createBook owner o)).answer s = .ok (.book k)) :
    Keeps s k.id o.genres [] ((Command.service summarize (.createBook owner o)).after s) ∧
      (∀ g ∈ o.genres, (s.genres.get? g).isSome) ∧ ShownUnder s o.genres [] k.genres := by
  obtain ⟨-, gs, hgs, hk, hafter⟩ := Store.insertBook_ok (insertBook_of_answer h)
  have hmem (g : GenreId) : g ∈ (o.entry owner (summaryOf summarize o)).genres ↔ g ∈ o.genres :=
    mem_entry
  have hid : k.id = s.books.nextId := by rw [hk]
  have hgenres : k.genres = gs.mergeSort Genre.before := by rw [hk]
  refine ⟨⟨?_, ?_, fun g => ?_, fun g _ _ => ?_⟩, fun g hg => ?_, fun g => ?_, ?_⟩
  · simp [hafter, hid, Table.get?_insert]
  · rw [hafter]
    exact le_rfl
  · have hnew : (s.books.nextId, g) ∉ s.links := by
      intro hlink
      simpa [Table.get?_nextId] using filed _ hlink
    simp [hafter, hid, hnew, hmem]
  · rw [hafter]
    rfl
  · exact Store.isSome_of_mapM_genre? hgs ((hmem g).mpr hg)
  · rw [hgenres, List.mem_mergeSort, Store.mem_of_mapM_genre? hgs, hmem]
    simp
  · rw [hgenres]
    refine Genre.pairwise_sorted (List.pairwise_map.mp ?_)
    rw [(Store.genres_of_mapM hgs).1]
    exact (pairwise_entry o owner _).imp Int.ne_of_lt

/-! The search by genre. -/

section Run
variable {allowed : List Store → Command → Prop} {log : List Event}

/-- What was listed keeps its genres, but for those deleted. -/
theorem Run.keeps {before : List Event} {v : Event}
    (run : Run allowed .fresh (before ++ v :: since) s)
    (listed : v.command = .service summarize (.createBook owner o))
    (answered : v.answer = .ok (.book k)) : Keeps v.store k.id o.genres since s := by
  obtain ⟨_, hrun, -⟩ := run.of_mem_log (v := v) (by simp)
  obtain ⟨u, c⟩ := v
  subst listed
  obtain ⟨hafter, there, -⟩ := keeps_of_answer hrun.filed answered
  exact run.persists_since hafter fun _ _ c h => h.step there c

def refiling : List Command :=
  [.service id (.createUser ⟨"Ana", "ana@example.org", "Porto", ""⟩),
    .service id (.createGenre "Sea"), .service id (.createGenre "Art"),
    .service id (.createBook 1 ⟨"Dune", "Herbert", "", some "sand", [2, 1, 2]⟩),
    .service id (.deleteGenre 1), .service id (.createGenre "Sea")]

def offeredDune : Book.Offer := ⟨"Dune", "Herbert", "", some "sand", [2, 1, 2]⟩

def filedDune : Book.Entry := ⟨"Dune", "Herbert", "", "sand", 1, [1, 2]⟩

/-- The fourth command lists the book. -/
def filing : Command := .service id (.createBook 1 offeredDune)

def beforeFiling : Store := (follow .fresh (refiling.take 3)).2

def afterFiling : Store :=
  { beforeFiling with
    books := beforeFiling.books.insert (filedDune.row 3)
    links := [(1, 1), (1, 2)] }.tick

/-- The store in the end. -/
def refiled : Store := (follow afterFiling (refiling.drop 4)).2

-- Sorting does not reduce, so what is sorted on the way is written out.

theorem entry_offeredDune : offeredDune.entry 1 (summaryOf id offeredDune) = filedDune := by
  have hnamed : offeredDune.genres.mergeSort (· ≤ ·) = [1, 2, 2] := by
    simp [offeredDune, List.mergeSort]
  rw [Book.Offer.entry, hnamed]
  decide +kernel

theorem mergeSort_seaArt : [⟨1, "Sea", 1⟩, ⟨2, "Art", 2⟩].mergeSort Genre.before =
    [⟨2, "Art", 2⟩, ⟨1, "Sea", 1⟩] := by
  have hbefore : Genre.before ⟨1, "Sea", 1⟩ ⟨2, "Art", 2⟩ = false := by decide +kernel
  simp [List.mergeSort, hbefore]

theorem filing_files :
    filing.answer beforeFiling =
        .ok (.book ⟨1, "Dune", "Herbert", "", "sand", .available, 1, 3, 3,
          [⟨2, "Art", 2⟩, ⟨1, "Sea", 1⟩]⟩) ∧
      filing.after beforeFiling = afterFiling := by
  have run := run_services .fresh (refiling.take 3) (by simp [refiling, Command.IsService])
  have valid : offeredDune.validate = .ok () := by decide +kernel
  have known : (beforeFiling.users.get? 1).isSome := by decide +kernel
  have hfound : filedDune.genres.mapM beforeFiling.genre? =
      some [⟨1, "Sea", 1⟩, ⟨2, "Art", 2⟩] := by decide +kernel
  obtain ⟨-, k, hanswer⟩ | ⟨g, ⟨⟨hg, hnone⟩, -⟩, -⟩ :=
    createBook_cases run.unlocked run.filed id valid known
  · have hinserted := insertBook_of_answer hanswer
    rw [entry_offeredDune] at hinserted
    obtain ⟨-, gs, hgs, hk, hafter⟩ := Store.insertBook_ok hinserted
    cases hgs.symm.trans hfound
    rw [mergeSort_seaArt] at hk
    refine ⟨hanswer.trans ?_, hafter.trans ?_⟩
    · rw [hk]
      decide +kernel
    · decide +kernel
  · have hall : ∀ g ∈ offeredDune.genres, beforeFiling.genre? g ≠ none := by decide +kernel
    exact absurd hnone (hall g hg)

theorem follow_refiling :
    follow .fresh refiling =
      ((follow .fresh (refiling.take 3)).1 ++
          ⟨beforeFiling, filing⟩ :: (follow afterFiling (refiling.drop 4)).1, refiled) := by
  rw [refiled, ← filing_files.2]
  rfl

end Run

end Market

end BookExchange
