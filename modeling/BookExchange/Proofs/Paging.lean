import BookExchange.Proofs.Counting
import BookExchange.Proofs.Runs

/-! All users, page after page, while others go on calling. A page begins after the last user of the
one before, and no identifier is given twice: nobody is shown twice, and whoever stays is shown. -/
namespace BookExchange
open Call

namespace Directory

def Page.ids (p : Page) : List UserId := p.data.map (·.id)

/-- What a cursor makes a page begin after. -/
def afterCursor (cursor : Option UserId) : UserId := max (cursor.getD 0) 0

variable {q : Query}

theorem Query.normalize_snd_pos : 0 < q.normalize.2 := by
  unfold normalize
  cases h : q.limit.filter fun n => 1 ≤ n && n ≤ greatestLimit with
  | none => exact Nat.zero_lt_succ 49
  | some n =>
    have hn := (Option.filter_eq_some_iff.mp h).2
    simp only [Bool.and_eq_true, decide_eq_true_eq] at hn
    exact hn.1

end Directory

namespace Store
open Directory
variable {s : Store} {after u : UserId}

/-- The rows of the live users that come after an identifier. -/
def usersFrom (s : Store) (after : UserId) : List (UserId × UserRow) :=
  s.users.entries.filter fun (id, u) => after < id && u.isLive

theorem pairwise_usersFrom (s : Store) (after : UserId) :
    ((s.usersFrom after).map (·.1)).Pairwise (· < ·) :=
  List.pairwise_map.mpr (s.users.pairwise_entries.filter _)

theorem isSome_user? : (s.user? u).isSome ↔ ∃ row, s.users.get? u = some row ∧ row.isLive := by
  simp [user?, liveUser?, Option.any_eq_true]

theorem mem_usersFrom : u ∈ (s.usersFrom after).map (·.1) ↔ after < u ∧ (s.user? u).isSome := by
  simp only [usersFrom, List.mem_map, List.mem_filter, Prod.exists, Table.mem_entries, isSome_user?]
  grind

/-- The page that is shown to the query. -/
def page (s : Store) (q : Query) : Page := .of (s.usersAfter q.normalize.1 q.normalize.2) q.normalize.2

variable {q : Query}

theorem ids_page (s : Store) (q : Query) :
    (s.page q).ids = ((s.usersFrom q.normalize.1).map (·.1)).take q.normalize.2 := by
  simp [page, Page.of, Page.ids, usersAfter, usersFrom, UserRow.view, List.map_take,
    Function.comp_def]

theorem pairwise_page : (s.page q).ids.Pairwise (· < ·) := by
  rw [ids_page]
  exact (s.pairwise_usersFrom _).take

theorem of_mem_page (h : u ∈ (s.page q).ids) : q.normalize.1 < u ∧ (s.user? u).isSome := by
  rw [ids_page] at h
  exact mem_usersFrom.mp (List.mem_of_mem_take h)

theorem hasNext_page : (s.page q).hasNext ↔ (s.page q).ids.length = q.normalize.2 := by
  simp [page, Page.of, Page.ids]

/-- A page that has a successor ends with the greatest of its identifiers. -/
theorem nextId_page (next : (s.page q).hasNext) :
    (s.page q).nextId ∈ (s.page q).ids ∧ ∀ w ∈ (s.page q).ids, w ≤ (s.page q).nextId := by
  have hlength := hasNext_page.mp next
  have hpos := q.normalize_snd_pos
  have hnil : (s.page q).ids ≠ [] := by
    intro h
    simp [h] at hlength
    omega
  have hlast : (s.page q).nextId = (s.page q).ids.getLast hnil := by
    have h := List.getLast?_eq_some_getLast hnil
    change ((s.page q).data.map (·.id)).getLast? = _ at h
    rw [List.getLast?_map] at h
    exact congrArg (·.getD 0) h
  rw [hlast]
  exact ⟨List.getLast_mem hnil, fun w hw => (pairwise_page.imp Int.le_of_lt).rel_getLast hw⟩

/-- Up to its last user a page leaves nobody out, and one that has no successor leaves nobody out at
all. -/
theorem mem_page (live : (s.user? u).isSome) (hu : q.normalize.1 < u)
    (h : (s.page q).hasNext → u ≤ (s.page q).nextId) : u ∈ (s.page q).ids := by
  have hmem := mem_usersFrom.mpr ⟨hu, live⟩
  have hsorted := s.pairwise_usersFrom q.normalize.1
  rw [← List.take_append_drop q.normalize.2 ((s.usersFrom _).map (·.1)), ← ids_page] at hmem hsorted
  obtain hmem | hdrop := List.mem_append.mp hmem
  · exact hmem
  · -- What the page cuts off comes after all that it shows.
    have hfull : (s.page q).hasNext := by
      have hlength := List.length_pos_of_mem hdrop
      rw [hasNext_page, ids_page, List.length_take]
      rw [List.length_drop] at hlength
      omega
    have hlt := (List.pairwise_append.mp hsorted).2.2 _ (nextId_page hfull).1 _ hdrop
    exact absurd hlt (Int.not_lt.mpr (h hfull))

end Store

namespace Market
open Directory

/-- One request for a page, and what others ask of the store before the next request. -/
structure Round where
  limit : Option Nat := none
  meanwhile : List Command := []

/-- The size of the page that the request is for. -/
def Round.size (r : Round) : Nat := (Query.normalize ⟨r.limit, none⟩).2

/-- What a request met: the store, the page that it was answered with, and what happened until the
next request. -/
structure Visit where
  store : Store
  page : Page
  since : List Event

/-- Asks for one page after the other as long as there is a next one. -/
def walk (s : Store) (cursor : Option UserId) : List Round → List Visit
  | [] => []
  | r :: rounds =>
    let request := Command.service id (.listUsers ⟨r.limit, cursor⟩)
    match request.answer s with
    | .ok (.users page) =>
      if page.hasNext then
        let (since, next) := follow (request.after s) r.meanwhile
        ⟨s, page, since⟩ :: walk next (some page.nextId) rounds
      else [⟨s, page, []⟩]
    | _ => []

/-- The identifiers on all pages. -/
def shown (visits : List Visit) : List UserId := visits.flatMap (·.page.ids)

/-- A page without a successor was reached. -/
def Ended (visits : List Visit) : Prop := ∃ v ∈ visits, v.page.hasNext = false

/-- The command asks for a new user. -/
def Command.registers : Command → Prop
  | .service _ (.createUser _) | .port (.insertUser _) => True
  | _ => False

/-- A user has been created. -/
def Event.Registers (v : Event) : Prop := v.command.registers ∧ ∃ a, v.answer = .ok a

variable {s t : Store} {u : UserId} {cursor : Option UserId} {r : Round} {rounds : List Round}

theorem walk_of_hasNext (next : (s.page ⟨r.limit, cursor⟩).hasNext) :
    walk s cursor (r :: rounds) =
      ⟨s, s.page ⟨r.limit, cursor⟩, (follow s r.meanwhile).1⟩ ::
        walk (follow s r.meanwhile).2 (some (s.page ⟨r.limit, cursor⟩).nextId) rounds :=
  if_pos next

theorem walk_of_last (last : ¬ (s.page ⟨r.limit, cursor⟩).hasNext) :
    walk s cursor (r :: rounds) = [⟨s, s.page ⟨r.limit, cursor⟩, []⟩] :=
  if_neg last

/-- The next page begins after the last user of this one. -/
theorem afterCursor_nextId {q : Query} (next : (s.page q).hasNext) :
    afterCursor (some (s.page q).nextId) = (s.page q).nextId := by
  have hlast := (Store.of_mem_page (Store.nextId_page next).1).1
  have hnonneg : 0 ≤ q.normalize.1 := Int.le_max_right ..
  exact Int.max_eq_left (Int.le_trans hnonneg (Int.le_of_lt hlast))

theorem shown_cons (v : Visit) (visits : List Visit) :
    shown (v :: visits) = v.page.ids ++ shown visits := rfl

/-- A walk stops at the first page without a successor, or when the rounds are over. -/
theorem ended_or_length_walk (s : Store) (cursor : Option UserId) (rounds : List Round) :
    Ended (walk s cursor rounds) ∨ (walk s cursor rounds).length = rounds.length := by
  induction rounds generalizing s cursor with
  | nil => exact .inr rfl
  | cons r rounds ih =>
    by_cases next : (s.page ⟨r.limit, cursor⟩).hasNext
    · rw [walk_of_hasNext next]
      obtain ended | hlength := ih (follow s r.meanwhile).2 (some (s.page ⟨r.limit, cursor⟩).nextId)
      · obtain ⟨v, hv, hlast⟩ := ended
        exact .inl ⟨v, List.mem_cons_of_mem _ hv, hlast⟩
      · exact .inr (congrArg (· + 1) hlength)
    · rw [walk_of_last next]
      exact .inl ⟨_, List.mem_cons_self, Bool.eq_false_iff.mpr next⟩

/-- All that a walk shows comes after its cursor, in ascending order. -/
theorem pairwise_shown_walk (s : Store) (cursor : Option UserId) (rounds : List Round) :
    (shown (walk s cursor rounds)).Pairwise (· < ·) ∧
      ∀ u ∈ shown (walk s cursor rounds), afterCursor cursor < u := by
  induction rounds generalizing s cursor with
  | nil => simp [walk, shown]
  | cons r rounds ih =>
    have hfrom : ∀ u ∈ (s.page ⟨r.limit, cursor⟩).ids, afterCursor cursor < u :=
      fun u hu => (Store.of_mem_page hu).1
    by_cases next : (s.page ⟨r.limit, cursor⟩).hasNext
    · obtain ⟨hids, hlater⟩ :=
        ih (follow s r.meanwhile).2 (some (s.page ⟨r.limit, cursor⟩).nextId)
      obtain ⟨hlast, hmax⟩ := Store.nextId_page next
      rw [afterCursor_nextId next] at hlater
      rw [walk_of_hasNext next, shown_cons]
      refine ⟨List.pairwise_append.mpr ⟨Store.pairwise_page, hids, ?_⟩, fun u hu => ?_⟩
      · exact fun w hw u hu => Int.lt_of_le_of_lt (hmax w hw) (hlater u hu)
      · obtain hu | hu := List.mem_append.mp hu
        · exact hfrom u hu
        · exact Int.lt_trans (hfrom _ hlast) (hlater u hu)
    · rw [walk_of_last next]
      simpa [shown] using And.intro Store.pairwise_page hfrom

/-- Whoever is there at every request and comes after the cursor is on some page. -/
theorem mem_shown_walk (ended : Ended (walk s cursor rounds)) (hu : afterCursor cursor < u)
    (stays : ∀ v ∈ walk s cursor rounds, (v.store.user? u).isSome) :
    u ∈ shown (walk s cursor rounds) := by
  induction rounds generalizing s cursor with
  | nil => simp [Ended, walk] at ended
  | cons r rounds ih =>
    by_cases next : (s.page ⟨r.limit, cursor⟩).hasNext
    · rw [walk_of_hasNext next] at ended stays ⊢
      obtain ⟨hhere, hrest⟩ := List.forall_mem_cons.mp stays
      rw [shown_cons, List.mem_append]
      by_cases hpage : u ≤ (s.page ⟨r.limit, cursor⟩).nextId
      · exact .inl (Store.mem_page hhere (q := ⟨r.limit, cursor⟩) hu fun _ => hpage)
      · obtain ⟨v, hv, hlast⟩ := ended
        obtain rfl | hv := List.mem_cons.mp hv
        · cases next.symm.trans hlast
        · refine .inr (ih ⟨v, hv, hlast⟩ ?_ hrest)
          rw [afterCursor_nextId next]
          exact Int.not_le.mp hpage
    · rw [walk_of_last next] at stays ⊢
      have hhere := stays _ List.mem_cons_self
      simpa [shown] using Store.mem_page hhere (q := ⟨r.limit, cursor⟩) hu fun h => absurd h next

/-- Every page that is not the last one is full. -/
theorem mul_length_walk (s : Store) (cursor : Option UserId) {k : Nat}
    (sized : ∀ r ∈ rounds, r.size = k) :
    k * (walk s cursor rounds).length ≤ (shown (walk s cursor rounds)).length + k ∧
      (¬ Ended (walk s cursor rounds) →
        k * (walk s cursor rounds).length ≤ (shown (walk s cursor rounds)).length) := by
  induction rounds generalizing s cursor with
  | nil => simp [walk]
  | cons r rounds ih =>
    obtain ⟨hsize, hsizes⟩ := List.forall_mem_cons.mp sized
    by_cases next : (s.page ⟨r.limit, cursor⟩).hasNext
    · rw [walk_of_hasNext next]
      obtain ⟨hle, hfull⟩ :=
        ih (follow s r.meanwhile).2 (some (s.page ⟨r.limit, cursor⟩).nextId) hsizes
      have hlength : (s.page ⟨r.limit, cursor⟩).ids.length = k :=
        (Store.hasNext_page.mp next).trans hsize
      simp only [shown_cons, List.length_append, List.length_cons, Nat.mul_succ, hlength]
      refine ⟨by omega, fun going => ?_⟩
      have hrest := hfull fun ⟨v, hv, hlast⟩ => going ⟨v, List.mem_cons_of_mem _ hv, hlast⟩
      omega
    · rw [walk_of_last next]
      refine ⟨by simp, fun going => ?_⟩
      exact absurd ⟨_, List.mem_cons_self, Bool.eq_false_iff.mpr next⟩ going

/-! Who is there without having been created. -/

theorem Port.Writes.user_before {p : Port} (h : p.Writes s t) (hp : ∀ r, p ≠ .insertUser r)
    (live : (t.user? u).isSome) : (s.user? u).isSome := by
  obtain ⟨row, found, hlive⟩ := Store.isSome_user?.mp live
  rw [Store.isSome_user?]
  cases h with
  | @insertUser r => exact absurd rfl (hp r)
  | @saveUser v =>
    by_cases hu : u = v.id
    · simp only [Store.tick_users, Table.get?_modify, hu, ↓reduceIte, Option.map_eq_some_iff] at found
      obtain ⟨row', found', rfl⟩ := found
      exact ⟨row', hu ▸ found', hlive⟩
    · exact ⟨row, by simpa [Table.get?_modify, hu] using found, hlive⟩
  | @removeUser id =>
    by_cases hu : u = id
    · simp only [Table.get?_modify, hu, ↓reduceIte, Option.map_eq_some_iff] at found
      obtain ⟨row', -, rfl⟩ := found
      simp [UserRow.remove, UserRow.isLive] at hlive
    · exact ⟨row, by simpa [Table.get?_modify, hu] using found, hlive⟩
  | _ => exact ⟨row, found, hlive⟩

theorem Command.Calls.registers {c : Command} {reg : User.Registration}
    (h : c.Calls s (.insertUser reg)) : c.registers := by
  cases h with
  | port => trivial
  | service reached =>
    cases reached with
    | createUser => trivial

theorem Event.user_before {v : Event} (settled : ¬ v.Registers) (live : (v.after.user? u).isSome) :
    (v.store.user? u).isSome := by
  cases v.command.cases v.store with
  | fails failed unchanged => rwa [Event.after, unchanged] at live
  | looks query unchanged => rwa [Event.after, unchanged] at live
  | writes calls answered =>
    refine (Port.writes_of_ok answered).user_before (fun reg hp => ?_) live
    subst hp
    have hanswer := congrArg Prod.fst (Command.perform_of_calls calls)
    exact settled ⟨calls.registers, _, hanswer.trans (congrArg Prod.fst answered)⟩
  | describes calls failed written unreadable =>
    exact written.user_before (fun reg hp => by cases hp) live

theorem user_before_follow {cs : List Command} (settled : ∀ v ∈ (follow s cs).1, ¬ v.Registers)
    (live : ((follow s cs).2.user? u).isSome) : (s.user? u).isSome := by
  induction cs generalizing s with
  | nil => exact live
  | cons c cs ih =>
    obtain ⟨hc, hcs⟩ := List.forall_mem_cons.mp settled
    exact Event.user_before hc (ih hcs live)

/-- Where nobody is created, a walk shows those who were there when it began. -/
theorem user_before_walk
    (settled : ∀ v ∈ walk s cursor rounds, ∀ e ∈ v.since, ¬ e.Registers)
    (hu : u ∈ shown (walk s cursor rounds)) : (s.user? u).isSome := by
  induction rounds generalizing s cursor with
  | nil => simp [shown, walk] at hu
  | cons r rounds ih =>
    by_cases next : (s.page ⟨r.limit, cursor⟩).hasNext
    · rw [walk_of_hasNext next] at settled hu
      obtain ⟨hhere, hrest⟩ := List.forall_mem_cons.mp settled
      rw [shown_cons] at hu
      obtain hu | hu := List.mem_append.mp hu
      · exact (Store.of_mem_page hu).2
      · exact user_before_follow hhere (ih hrest hu)
    · rw [walk_of_last next, shown_cons] at hu
      exact (Store.of_mem_page (by simpa [shown] using hu)).2

theorem length_shown_walk (settled : ∀ v ∈ walk s cursor rounds, ∀ e ∈ v.since, ¬ e.Registers) :
    (shown (walk s cursor rounds)).length ≤ s.users.count (·.isLive) := by
  have hnodup : (shown (walk s cursor rounds)).Nodup :=
    (pairwise_shown_walk s cursor rounds).1.imp Int.ne_of_lt
  have hsub : shown (walk s cursor rounds) ⊆
      (s.users.entries.filter (·.2.isLive)).map (·.1) := by
    intro u hu
    obtain ⟨row, found, live⟩ := Store.isSome_user?.mp (user_before_walk settled hu)
    exact List.mem_map.mpr ⟨(u, row), List.mem_filter.mpr ⟨Table.mem_entries.mpr found, live⟩, rfl⟩
  rw [Table.count, List.countP_eq_length_filter]
  simpa using (List.subperm_of_subset hnodup hsub).length_le

/-- What a reader gets who asks for page after page, beginning with the first. -/
structure Walk (s : Store) (rounds : List Round) (visits : List Visit) : Prop where
  /-- The reader gets as many pages as there are rounds, unless one has no successor. -/
  goesOn : Ended visits ∨ visits.length = rounds.length
  /-- Nobody is shown twice, -/
  ascending : (shown visits).Pairwise (· < ·)
  /-- whoever is there at every request is shown, -/
  whole (ended : Ended visits) (u : UserId) (stays : ∀ v ∈ visits, (v.store.user? u).isSome) :
    (shown visits).count u = 1
  /-- and with pages of one size and nobody created meanwhile the end is near. -/
  bounded (k : Nat) (sized : ∀ r ∈ rounds, r.size = k)
    (settled : ∀ v ∈ visits, ∀ e ∈ v.since, ¬ e.Registers) :
    visits.length ≤ s.users.count (·.isLive) / k + 1 ∧
      (s.users.count (·.isLive) / k < rounds.length → Ended visits)

/-- Whatever is called between the requests and whatever limits they have. -/
theorem walk_exact (s : Store) (rounds : List Round) : Walk s rounds (walk s none rounds) := by
  obtain ⟨ascending, positive⟩ := pairwise_shown_walk s none rounds
  have hgoes := ended_or_length_walk s none rounds
  refine ⟨hgoes, ascending, fun ended u stays => ?_, fun k sized settled => ?_⟩
  · have hpos : 0 < u := by
      obtain ⟨v, hv, -⟩ := ended
      obtain ⟨row, found, -⟩ := Store.isSome_user?.mp (stays v hv)
      exact Table.pos_of_get? found
    have hnodup : (shown (walk s none rounds)).Nodup := ascending.imp Int.ne_of_lt
    rw [hnodup.count, if_pos (mem_shown_walk ended hpos stays)]
  · obtain ⟨hle, hfull⟩ := mul_length_walk s none sized
    have hshown := length_shown_walk settled
    cases rounds with
    | nil => simp [walk]
    | cons r rounds =>
      have hk : 0 < k := (sized r List.mem_cons_self) ▸ Query.normalize_snd_pos
      have hlength : (walk s none (r :: rounds)).length ≤ s.users.count (·.isLive) / k + 1 := by
        have h : ((walk s none (r :: rounds)).length - 1) * k ≤ s.users.count (·.isLive) := by
          rw [Nat.sub_mul, Nat.mul_comm]
          omega
        have := (Nat.le_div_iff_mul_le hk).mpr h
        omega
      refine ⟨hlength, fun enough => ?_⟩
      by_contra going
      have hall := hgoes.resolve_left going
      have h := (Nat.le_div_iff_mul_le hk).mpr (Nat.mul_comm .. ▸ (hfull going).trans hshown)
      omega

/-! Five users, two on a page: while the first page is read, its second user and the one after close
their accounts, and a sixth one comes. -/

def fiveUsers : List Command :=
  ["Ana", "Rui", "Eva", "Leo", "Ida"].map fun name =>
    .service id (.createUser ⟨name, name ++ "@example.org", "Porto", ""⟩)

def comingAndGoing : List Command :=
  [.service id (.deleteUser 2 2), .service id (.deleteUser 3 3),
    .service id (.createUser ⟨"Gil", "gil@example.org", "Porto", ""⟩)]

example : shown (walk (follow .fresh fiveUsers).2 none [⟨some 2, comingAndGoing⟩, ⟨some 2, []⟩,
    ⟨some 2, []⟩]) = [1, 2, 4, 5, 6] := by decide +kernel

end Market

end BookExchange
