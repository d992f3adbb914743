import BookExchange.Proofs.Emails
import BookExchange.Proofs.Filing
import BookExchange.Proofs.Tombstones

/-! What has to be unique is looked for among the rows just before a row is written, and is refused if
and only if it is there. Emails are those of all rows, and rows of users never go; the name of a genre
goes with its row. -/
namespace BookExchange
open Text Call

namespace Store
variable {s t : Store}

/-- No two genres have the same name. -/
def NamesDistinct (s : Store) : Prop :=
  ∀ i j row row', s.genres.get? i = some row → s.genres.get? j = some row' →
    row.name = row'.name → i = j

theorem emailTaken_iff {email : String} {exempt : UserId} :
    s.emailTaken email exempt = true ↔
      ∃ id row, s.users.get? id = some row ∧ row.email = email ∧ id ≠ exempt := by
  simp [emailTaken, List.any_eq_true, Table.mem_entries]

/-- The number nobody has exempts nobody. -/
theorem emailTaken_zero_iff {email : String} :
    s.emailTaken email 0 = true ↔ ∃ id row, s.users.get? id = some row ∧ row.email = email := by
  rw [emailTaken_iff]
  refine exists_congr fun id => exists_congr fun row => and_congr_right fun found => ?_
  exact and_iff_left (Table.pos_of_get? found).ne'

theorem genreTaken_iff {name : String} :
    s.genreTaken name = true ↔ ∃ id row, s.genres.get? id = some row ∧ row.name = name := by
  simp [genreTaken, List.any_eq_true, Table.mem_entries]

end Store

namespace Market
variable {summarize : String → String} {s t : Store} {p : Port} {c : Command} {log : List Event}

theorem Port.Writes.namesDistinct (h : p.Writes s t) (distinct : s.NamesDistinct) :
    t.NamesDistinct := by
  cases h with
  | @insertGenre name free =>
    have hfree : ∀ id row, s.genres.get? id = some row → row.name ≠ name := by
      intro id row found hname
      rw [Store.genreTaken_iff.mpr ⟨id, row, found, hname⟩] at free
      cases free
    intro i j row row' hi hj hname
    rw [Store.tick_genres, Table.get?_insert] at hi hj
    split at hi
    · next hid =>
      cases hi
      split at hj
      · next hjd => rw [hid, hjd]
      · exact absurd hname.symm (hfree j row' hj)
    · split at hj
      · cases hj
        exact absurd hname (hfree i row hi)
      · exact distinct i j row row' hi hj hname
  | removeGenre =>
    intro i j row row' hi hj hname
    rw [Store.tick_genres, Table.get?_erase] at hi hj
    split at hi
    · cases hi
    · split at hj
      · cases hj
      · exact distinct i j row row' hi hj hname
  | _ => exact distinct

theorem Run.namesDistinct {allowed : List Store → Command → Prop} (run : Run allowed .fresh log s) :
    s.NamesDistinct :=
  run.preserves (P := Store.NamesDistinct) (by simp [Store.NamesDistinct, Store.fresh])
    fun _ c distinct => c.after_keeps distinct fun _ hw => hw.namesDistinct distinct

/-- The command is refused for the one reason when it holds, and otherwise succeeds. -/
structure Command.Hinges (c : Command) (s : Store) (f : Failure) (taken : Prop) : Prop where
  refused : c.answer s = .error f ↔ taken
  succeeds : ¬ taken → ∃ a, c.answer s = .ok a

/-- A statement that looks for one thing, under the command that comes down to it. -/
theorem hinges_of_outcome {α : Type} {call : Call α} {f : Failure} {a : α} {answer : α → Answer}
    {taken? : Bool} {taken : Prop} (htaken : taken? = true ↔ taken)
    (hcall : outcome call s = if taken? then (.error f, s) else (.ok a, t))
    (hperform : outcome c.perform s = outcome (answer <$> call) s) : c.Hinges s f taken := by
  have hanswer : c.answer s = if taken? then .error f else .ok (answer a) := by
    refine (congrArg Prod.fst hperform).trans ?_
    rw [outcome_map, hcall]
    cases taken? <;> rfl
  rw [← htaken]
  cases taken? with
  | true => exact ⟨by simp [hanswer], fun free => absurd rfl free⟩
  | false => exact ⟨by simp [hanswer], fun _ => ⟨answer a, hanswer⟩⟩

theorem hinges_createUser (summarize : String → String) (unlocked : s.locked = false)
    {r : User.Registration} (valid : r.validate = .ok ()) :
    (Command.service summarize (.createUser r)).Hinges s .emailTaken
      (∃ id row, s.users.get? id = some row ∧ row.email = trim r.email) :=
  hinges_of_outcome Store.emailTaken_zero_iff (Store.outcome_insertUser unlocked r)
    (Command.perform_of_calls (.service (.createUser valid)))

/-- The port hinges on the email that it is to write. -/
theorem hinges_saveUser (unlocked : s.locked = false) {v : User}
    (live : (s.liveUser? v.id).isSome) :
    (Command.port (.saveUser v)).Hinges s .emailTaken
      (∃ id row, s.users.get? id = some row ∧ row.email = v.email ∧ id ≠ v.id) :=
  hinges_of_outcome Store.emailTaken_iff (Store.outcome_saveUser unlocked live)
    (Command.perform_of_calls .port)

theorem validName_of_nonblank {name : String} (nonblank : trim name ≠ "") :
    Genre.validName name = .ok (trim name) := by
  rw [Genre.validName, if_neg nonblank]

theorem hinges_createGenre (summarize : String → String) (unlocked : s.locked = false)
    {name : String} (nonblank : trim name ≠ "") :
    (Command.service summarize (.createGenre name)).Hinges s .genreTaken
      (∃ id row, s.genres.get? id = some row ∧ row.name = trim name) :=
  hinges_of_outcome Store.genreTaken_iff (Store.outcome_insertGenre unlocked (trim name))
    (Command.perform_of_calls (.service (.createGenre (validName_of_nonblank nonblank))))

theorem hinges_updateUser (summarize : String → String) (unlocked : s.locked = false) {id : UserId}
    {change : User.Change} {u : User} (valid : change.validate = .ok ()) (found : s.user? id = some u) :
    (Command.service summarize (.updateUser id id change)).Hinges s .emailTaken
      (∃ j row, s.users.get? j = some row ∧ row.email = (change.apply u).email ∧ j ≠ id) := by
  have hid : (change.apply u).id = id := id_of_user? (v := u) found
  have live : (s.liveUser? (change.apply u).id).isSome := by
    rw [hid]
    simpa [Store.user?] using congrArg Option.isSome found
  have calls : (Command.service summarize (.updateUser id id change)).Calls s _ :=
    .service (.updateUser valid found)
  have hinges := hinges_of_outcome Store.emailTaken_iff (Store.outcome_saveUser unlocked live)
    (Command.perform_of_calls calls)
  rwa [hid] at hinges

/-- A number that follows on all numbers so far has never been a genre's. -/
theorem Run.nextId_unseen {allowed : List Store → Command → Prop} (run : Run allowed .fresh log s)
    (ht : t ∈ seen log s) : t.genres.get? s.genres.nextId = none := by
  have hgrown : t.genres.nextId ≤ s.genres.nextId :=
    run.preserves_since (P := (t.genres.nextId ≤ ·.genres.nextId)) ht le_rfl fun _ c grown =>
      c.after_keeps (P := (t.genres.nextId ≤ ·.genres.nextId)) grown fun _ hw =>
        grown.trans hw.genres_nextId
  cases found : t.genres.get? s.genres.nextId with
  | none => rfl
  | some row => exact absurd (Table.lt_nextId found) (Int.not_lt.mpr hgrown)

/-- A name that was one genre's alone is free when that genre is deleted. -/
theorem name_free_of_removeGenre (distinct : s.NamesDistinct) {id : GenreId} {row : GenreRow}
    (found : s.genres.get? id = some row) (deleted : (Port.removeGenre id).Writes s t) :
    t.genreTaken row.name = false := by
  refine Bool.eq_false_iff.mpr fun taken => ?_
  obtain ⟨j, row', hj, hname⟩ := Store.genreTaken_iff.mp taken
  cases deleted
  rw [Store.tick_genres, Table.get?_erase] at hj
  split at hj
  · cases hj
  · next hne => exact hne (distinct j id row' row hj found hname)

theorem exists_of_removeGenre {id : GenreId} (h : (Port.removeGenre id).Writes s t) :
    (∃ row, s.genres.get? id = some row) ∧ t.genres.nextId = s.genres.nextId := by
  cases h with
  | removeGenre found => exact ⟨⟨_, found⟩, Table.nextId_erase _ _⟩

theorem answer_createGenre (summarize : String → String) (unlocked : s.locked = false)
    {name : String} (nonblank : trim name ≠ "") (free : s.genreTaken (trim name) = false) :
    (Command.service summarize (.createGenre name)).answer s =
      .ok (.genre ⟨s.genres.nextId, trim name, s.clock⟩) := by
  have validated := validName_of_nonblank nonblank
  refine (congrArg Prod.fst (perform_of_reaches (.createGenre validated))).trans ?_
  rw [Port.perform, outcome_map, Store.outcome_insertGenre unlocked, free]
  rfl

/-- The row of a closed account is there for good. -/
theorem Run.row_of_closed {allowed : List Store → Command → Prop} (run : Run allowed .fresh log s)
    (ht : t ∈ seen log s) {u : UserId} {row : UserRow} (found : t.users.get? u = some row)
    (closed : row.isLive = false) : s.users.get? u = some row :=
  run.preserves_since (P := (·.users.get? u = some row)) ht found fun _ c found =>
    c.after_keeps (P := (·.users.get? u = some row)) found fun _ hw => hw.closed_row found closed

theorem ne_of_closed {u id : UserId} {row : UserRow} (found : s.users.get? u = some row)
    (closed : row.isLive = false) {v : User} (hv : s.user? id = some v) : u ≠ id := by
  intro hu
  obtain ⟨own, hown, live, -⟩ := Store.user?_eq_some.mp hv
  rw [← hu, found, Option.some.injEq] at hown
  rw [← hown, closed] at live
  cases live

/-- Emails and the names of genres are unique, and nothing is refused for their sake that would leave
them so. -/
structure Unique (log : List Event) (s : Store) : Prop where
  emails : s.EmailsDistinct
  names : s.NamesDistinct
  registered (summarize : String → String) (r : User.Registration) (valid : r.validate = .ok ()) :
    (Command.service summarize (.createUser r)).Hinges s .emailTaken
      (∃ id row, s.users.get? id = some row ∧ row.email = trim r.email)
  changed (summarize : String → String) (id : UserId) (change : User.Change) (u : User)
    (valid : change.validate = .ok ()) (found : s.user? id = some u) :
    (Command.service summarize (.updateUser id id change)).Hinges s .emailTaken
      (∃ j row, s.users.get? j = some row ∧ row.email = (change.apply u).email ∧ j ≠ id)
  saved (v : User) (live : (s.user? v.id).isSome) :
    (Command.port (.saveUser v)).Hinges s .emailTaken
      (∃ j row, s.users.get? j = some row ∧ row.email = v.email ∧ j ≠ v.id)
  /-- Users do not stand in their own way. -/
  kept (summarize : String → String) (id : UserId) (change : User.Change) (u : User)
    (valid : change.validate = .ok ()) (found : s.user? id = some u)
    (same : (change.apply u).email = u.email) :
    ∃ a, (Command.service summarize (.updateUser id id change)).answer s = .ok a
  filed (summarize : String → String) (name : String) (nonblank : trim name ≠ "") :
    (Command.service summarize (.createGenre name)).Hinges s .genreTaken
      (∃ id row, s.genres.get? id = some row ∧ row.name = trim name)
  /-- The name of a genre that is deleted can be given again at once, and with it comes a number that
  no genre has had. -/
  freed (c : Command) (id : GenreId) (drops : (Event.mk s c).Drops id) (summarize : String → String) :
    ∃ row, s.genres.get? id = some row ∧ ∀ name, trim name ≠ "" → trim name = row.name →
      ∃ g, (Command.service summarize (.createGenre name)).answer (c.after s) = .ok (.genre g) ∧
        g.name = row.name ∧ ∀ t ∈ seen log s, t.genres.get? g.id = none
  /-- The email of an account that was once closed is refused to everybody. -/
  held (t : Store) (ht : t ∈ seen log s) (u : UserId) (row : UserRow)
    (found : t.users.get? u = some row) (closed : row.isLive = false) (summarize : String → String) :
    (∀ r : User.Registration, r.validate = .ok () → trim r.email = row.email →
      (Command.service summarize (.createUser r)).answer s = .error .emailTaken) ∧
    ∀ id change v, User.Change.validate change = .ok () → s.user? id = some v →
      (change.apply v).email = row.email →
        (Command.service summarize (.updateUser id id change)).answer s = .error .emailTaken

/-- Whatever is called, a write is refused for what it would double, and for nothing else. -/
theorem Run.emails_and_names_unique {allowed : List Store → Command → Prop}
    (run : Run allowed .fresh log s) : Unique log s := by
  constructor
  · exact run.emailsDistinct
  · exact run.namesDistinct
  · exact fun summarize r valid => hinges_createUser summarize run.unlocked valid
  · exact fun summarize id change u valid found =>
      hinges_updateUser summarize run.unlocked valid found
  · intro v live
    exact hinges_saveUser run.unlocked (by simpa [Store.user?] using live)
  · intro summarize id change u valid found same
    refine (hinges_updateUser summarize run.unlocked valid found).succeeds fun taken => ?_
    obtain ⟨j, row, hj, hemail, hne⟩ := taken
    obtain ⟨own, hown, -, rfl⟩ := Store.user?_eq_some.mp found
    exact hne (run.emailsDistinct j id row own hj hown (hemail.trans same))
  · exact fun summarize name nonblank => hinges_createGenre summarize run.unlocked nonblank
  · intro c id drops summarize
    have hw : (Port.removeGenre id).Writes s (c.after s) := drops.writes
    obtain ⟨⟨row, found⟩, hnext⟩ := exists_of_removeGenre hw
    refine ⟨row, found, fun name nonblank same => ?_⟩
    have free := name_free_of_removeGenre run.namesDistinct found hw
    have unlocked := (c.after_locked s).trans run.unlocked
    refine ⟨_, answer_createGenre summarize unlocked nonblank (same ▸ free), same, fun t ht => ?_⟩
    rw [hnext]
    exact run.nextId_unseen ht
  · intro t ht u row found closed summarize
    have hrow := run.row_of_closed ht found closed
    constructor
    · intro r valid same
      exact (hinges_createUser summarize run.unlocked valid).refused.mpr ⟨u, row, hrow, same.symm⟩
    · intro id change v valid hv same
      exact (hinges_updateUser summarize run.unlocked valid hv).refused.mpr
        ⟨u, row, hrow, same.symm, ne_of_closed hrow closed hv⟩

/-! The first user closes the account, the second takes another email, and a genre is deleted. -/

def vacating : List Command :=
  [.service id (.createUser ⟨"Ana", "ana@example.org", "Porto", ""⟩),
    .service id (.createUser ⟨"Rui", "rui@example.org", "Porto", ""⟩),
    .port (.saveUser ⟨2, "Rui", "rui@example.com", "Porto", "", 1⟩),
    .service id (.deleteUser 1 1), .service id (.createGenre "Sea"), .service id (.deleteGenre 1)]

theorem Run.emails_and_names_unique_vacating :
    Unique (follow .fresh vacating).1 (follow .fresh vacating).2 ∧
      (Command.service id (.createUser ⟨"Eva", " ana@example.org", "Faro", ""⟩)).answer
        (follow .fresh vacating).2 = .error .emailTaken ∧
      (Command.service id (.createUser ⟨"Eva", "rui@example.org ", "Faro", ""⟩)).answer
        (follow .fresh vacating).2 = .ok (.user ⟨3, "Eva", "rui@example.org", "Faro", "", 7⟩) ∧
      (Command.service id (.createGenre "Sea ")).answer (follow .fresh vacating).2 =
        .ok (.genre ⟨2, "Sea", 7⟩) := by
  let anything : List Store → Command → Prop := fun _ _ => True
  have hallowed : ∀ stores, ∀ c ∈ vacating, anything stores c := fun _ _ _ => trivial
  have run : Run anything .fresh (follow .fresh vacating).1 (follow .fresh vacating).2 :=
    Run.of_follow .start hallowed
  exact ⟨run.emails_and_names_unique, by decide +kernel, by decide +kernel, by decide +kernel⟩

end Market

end BookExchange
