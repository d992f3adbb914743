import BookExchange.Proofs.Conservation
import BookExchange.Proofs.Rounding

/-! What is said of a user in reviews, and what is counted of it. The count, the mean and the list are
read by queries of their own, and agree; a review that is taken back leaves no trace in any of them. -/
namespace BookExchange
open Text Call

namespace Table
variable {α : Type}

theorem entries_erase_insert (t : Table α) (row : α) :
    ((t.insert row).erase t.nextId).entries = t.entries := by
  have hearlier : t.entries.filter (·.1 ≠ t.nextId) = t.entries := by
    refine List.filter_eq_self.mpr fun entry hentry => ?_
    have hlt := lt_nextId (mem_entries.mp hentry)
    simpa using Int.ne_of_lt hlt
  rw [entries_erase, entries_insert, List.filter_append, hearlier]
  simp

theorem get?_erase_insert (t : Table α) (row : α) (id : Int) :
    ((t.insert row).erase t.nextId).get? id = t.get? id :=
  Option.ext fun r => by rw [← mem_entries, ← mem_entries, entries_erase_insert]

end Table

/-! What a review has to be. -/

theorem Review.Submission.validText_eq_ok {r : Review.Submission} {author : UserId} {text : String}
    (h : r.validText author = .ok text) :
    trim r.text = text ∧ (10 ≤ text.length ∧ text.length ≤ 150) ∧
      (1 ≤ r.rating ∧ r.rating ≤ 5) ∧ author ≠ r.targetUser := by
  rw [validText] at h
  by_cases short : (trim r.text).length < textLeast ∨ textGreatest < (trim r.text).length
  · simp [short] at h
  · by_cases low : r.rating < ratingLeast ∨ ratingGreatest < r.rating
    · simp [short, low] at h
    · by_cases own : r.targetUser = author
      · simp [short, low, own] at h
      · simp only [short, low, own, ↓reduceIte, Except.ok.injEq] at h
        subst h
        simp only [textLeast, textGreatest] at short
        simp only [ratingLeast, ratingGreatest] at low
        exact ⟨rfl, by omega, by omega, Ne.symm own⟩

/-- A review as it is stored. -/
structure ReviewRow.IsProper (row : ReviewRow) : Prop where
  /-- Nobody reviews themselves. -/
  author_ne : row.author ≠ row.targetUser
  rating : 1 ≤ row.rating ∧ row.rating ≤ 5
  trimmed : trim row.text = row.text
  length : 10 ≤ row.text.length ∧ row.text.length ≤ 150

/-- All stored reviews are as they have to be. -/
def Store.Reviewed (s : Store) : Prop := ∀ id row, s.reviews.get? id = some row → row.IsProper

/-! The mean. -/
namespace Rating
variable {ratings : List Int}

/-- The exact mean of ratings. -/
def mean (ratings : List Int) : ℚ := ratings.sum / ratings.length

theorem sum_bounds (bounded : ∀ r ∈ ratings, 1 ≤ r ∧ r ≤ 5) :
    (ratings.length : Int) ≤ ratings.sum ∧ ratings.sum ≤ ratings.length * 5 := by
  have hleast := ratings.card_nsmul_le_sum 1 fun r hr => (bounded r hr).1
  have hgreatest := ratings.sum_le_card_nsmul 5 fun r hr => (bounded r hr).2
  rw [nsmul_eq_mul, mul_one] at hleast
  rw [nsmul_eq_mul] at hgreatest
  exact ⟨hleast, hgreatest⟩

theorem mean_bounds (bounded : ∀ r ∈ ratings, 1 ≤ r ∧ r ≤ 5) (nonempty : ratings ≠ []) :
    1 ≤ mean ratings ∧ mean ratings ≤ 5 := by
  have hlength : (0 : ℚ) < ratings.length := by
    exact_mod_cast List.length_pos_of_ne_nil nonempty
  obtain ⟨hleast, hgreatest⟩ := sum_bounds bounded
  rw [mean, le_div_iff₀ hlength, div_le_iff₀ hlength, one_mul, mul_comm]
  exact ⟨by exact_mod_cast hleast, by exact_mod_cast hgreatest⟩

/-- The double that is shown for a mean is the one nearest to it. -/
theorem isNearest_mean (bounded : ∀ r ∈ ratings, 1 ≤ r ∧ r ≤ 5) (nonempty : ratings ≠ []) :
    Number.IsNearest (Number.ofRatio ratings.sum.toNat ratings.length) (mean ratings) := by
  have hlength : 0 < ratings.length := List.length_pos_of_ne_nil nonempty
  obtain ⟨hleast, hgreatest⟩ := sum_bounds bounded
  have hsum : (ratings.sum.toNat : Int) = ratings.sum := Int.toNat_of_nonneg (by omega)
  have hmean : mean ratings = (ratings.sum.toNat : ℚ) / ratings.length := by
    rw [mean, ← hsum, Int.cast_natCast, hsum]
  rw [hmean]
  exact Number.isNearest_ofRatio hlength (by omega) (by omega)

theorem value_one : Number.value 0x3FF0000000000000 = 1 := by
  have hparts : Number.parts 0x3FF0000000000000 = (2 ^ 52, -52) := by decide
  rw [Number.value, hparts]
  norm_num

theorem value_five : Number.value 0x4014000000000000 = 5 := by
  have hparts : Number.parts 0x4014000000000000 = (5 * 2 ^ 50, -50) := by decide
  rw [Number.value, hparts]
  norm_num

/-- What is shown of a user's ratings is what they come to. The mean is shown as a double, than which
no other is nearer to it. -/
structure Sums (r : Rating) (ratings : List Int) : Prop where
  count : r.count = ratings.length
  sum : r.sum = ratings.sum
  unrated : r.average = none ↔ r.count = 0
  rated : ∀ bits, r.average = some bits →
    (1 ≤ mean ratings ∧ mean ratings ≤ 5) ∧ Number.IsNearest bits (mean ratings) ∧
      1 ≤ Number.value bits ∧ Number.value bits ≤ 5

theorem ofRatings_reverse (ratings : List Int) : ofRatings ratings.reverse = ofRatings ratings := by
  have hsum : ratings.reverse.sum = ratings.sum := ratings.sum_reverse
  simp only [ofRatings, List.length_reverse, mk.injEq, true_and]
  exact hsum

theorem sums_ofRatings (bounded : ∀ r ∈ ratings, 1 ≤ r ∧ r ≤ 5) :
    (ofRatings ratings).Sums ratings where
  count := rfl
  sum := rfl
  unrated := by simp [average]
  rated := by
    intro bits h
    by_cases hnil : ratings = []
    · simp [average, ofRatings, hnil] at h
    · have hcount : (ofRatings ratings).count ≠ 0 := (List.length_pos_of_ne_nil hnil).ne'
      rw [average, if_neg hcount, Option.some.injEq] at h
      subst h
      have hbounds := mean_bounds bounded hnil
      have hnearest := isNearest_mean bounded hnil
      refine ⟨hbounds, hnearest, ?_, ?_⟩
      · exact value_one ▸ hnearest.value_le (value_one.trans_le hbounds.1)
      · exact value_five ▸ hnearest.le_value (hbounds.2.trans_eq value_five.symm)

end Rating

/-! The lists of reviews. -/
namespace Store
variable {s : Store}

/-- The reviews that are listed for a user are those that are stored and name the user. -/
theorem mem_reviewsOfUser {u : UserId} {v : Review} :
    v ∈ s.reviewsOfUser u ↔ s.review? v.id = some v ∧ v.targetUser = u := by
  have hmem : v ∈ s.reviewsOfUser u ↔
      ∃ id row, s.reviews.get? id = some row ∧ row.targetUser = u ∧ row.view id = v := by
    simp [reviewsOfUser, reviewsWhere, Table.mem_entries, and_assoc]
  rw [hmem, review?, Option.map_eq_some_iff]
  constructor
  · intro h
    obtain ⟨id, row, found, htarget, rfl⟩ := h
    exact ⟨⟨row, found, rfl⟩, htarget⟩
  · intro h
    obtain ⟨⟨row, found, hview⟩, htarget⟩ := h
    exact ⟨v.id, row, found, (congrArg Review.targetUser hview).trans htarget, hview⟩

/-- The rating and the list of reviews come from two queries over the same rows. -/
theorem ratingOf_eq (s : Store) (u : UserId) :
    s.ratingOf u = .ofRatings ((s.reviewsOfUser u).map (·.rating)) := by
  rw [reviewsOfUser, reviewsWhere, List.map_reverse, Rating.ofRatings_reverse, List.map_map]
  rfl

theorem sums_ratingOf (reviewed : s.Reviewed) (u : UserId) :
    (s.ratingOf u).Sums ((s.reviewsOfUser u).map (·.rating)) := by
  rw [ratingOf_eq]
  refine Rating.sums_ofRatings fun r hr => ?_
  obtain ⟨v, hv, rfl⟩ := List.mem_map.mp hr
  obtain ⟨row, found, hview⟩ := Option.map_eq_some_iff.mp (mem_reviewsOfUser.mp hv).1
  exact hview ▸ (reviewed v.id row found).rating

end Store

namespace Market
variable {summarize : String → String} {s t : Store} {p : Port} {log : List Event}

/-- A review that is there was there before, or is the one that has been written. -/
theorem Port.Writes.review_cases (h : p.Writes s t) {id : ReviewId} {row : ReviewRow}
    (found : t.reviews.get? id = some row) :
    s.reviews.get? id = some row ∨ ∃ r, p = .insertReview r ∧ row = r.row s.clock := by
  cases h with
  | @insertReview r bounded =>
    simp only [Store.tick_reviews, Table.get?_insert] at found
    split at found
    · cases found
      exact .inr ⟨r, rfl, rfl⟩
    · exact .inl found
  | removeReview =>
    simp only [Store.tick_reviews, Table.get?_erase] at found
    split at found
    · cases found
    · exact .inl found
  | _ => exact .inl found

/-- The service has checked what the store is told to keep. -/
theorem isProper_of_reaches {op : Operation} {r : Review.Entry}
    (reached : op.Reaches summarize s (.insertReview r)) (now : Time) : (r.row now).IsProper := by
  cases reached with
  | createReview valid =>
    obtain ⟨htrim, hlength, hrating, apart⟩ := Review.Submission.validText_eq_ok valid
    exact ⟨apart, hrating, htrim ▸ trim_trim _, hlength⟩

theorem Run.reviewed (run : Run (fun _ => Command.IsService) .fresh log s) : s.Reviewed := by
  refine run.preserves_written (by simp [Store.Reviewed, Store.fresh]) ?_
  intro _ _ _ _ _ _ ok calls hw reviewed id row found
  obtain found | ⟨r, rfl, rfl⟩ := hw.review_cases found
  · exact reviewed id row found
  · cases calls with
    | port => exact ok.elim
    | service reached => exact isProper_of_reaches reached _

/-- Nothing that only reads finds a trace of a review that was written last and is deleted. -/
theorem alike_takenBack (s : Store) (row : ReviewRow) (now : Time) :
    Alike { s with reviews := (s.reviews.insert row).erase s.reviews.nextId, clock := now } s := by
  intro l
  cases l with
  | review id => simp only [Look.see, Store.review?, Table.get?_erase_insert]
  | reviewsOfUser u =>
    simp only [Look.see, Store.reviewsOfUser, Store.reviewsWhere, Table.entries_erase_insert]
  | reviewsOfBook b =>
    simp only [Look.see, Store.reviewsOfBook, Store.reviewsWhere, Table.entries_erase_insert]
  | ratingOf u => simp only [Look.see, Store.ratingOf, Table.entries_erase_insert]
  | _ => rfl

/-- The new review has the last number, and nothing else has changed. -/
theorem takeBack {e : Review.Entry} {v : Review} (unlocked : s.locked = false)
    (h : outcome (Store.insertReview e) s = (.ok v, t)) :
    t.review? v.id = some v ∧ v.author = e.author ∧
      ∃ u, outcome (Store.removeReview v.id) t = (.ok (), u) ∧ Alike u s := by
  obtain ⟨rfl, rfl⟩ := Store.insertReview_ok h
  let t : Store := { s with reviews := s.reviews.insert (e.row s.clock) }.tick
  have found : t.reviews.get? s.reviews.nextId = some (e.row s.clock) := by
    simp [t, Table.get?_insert]
  have hremoved := (Store.removeReview_eq_ok (s := t)).mpr ⟨unlocked, _, found, rfl⟩
  refine ⟨?_, rfl, _, hremoved, alike_takenBack s _ _⟩
  exact congrArg (Option.map _) found

/-- A review can be taken back by its author. -/
theorem deleteReview_created {author : UserId} {r : Review.Submission} {v : Review}
    (unlocked : s.locked = false)
    (created : outcome (perform summarize (.createReview author r)) s = (.ok (.review v), t)) :
    ∃ u, outcome (perform summarize (.deleteReview v.id author)) t = (.ok .done, u) ∧ Alike u s := by
  obtain ⟨v, hv, ⟨⟩⟩ := map_eq_ok.mp created
  obtain ⟨text, u, htext, hv⟩ := bind_eq_ok.mp hv
  rw [outcome_lift, Prod.mk.injEq] at htext
  obtain ⟨-, rfl⟩ := htext
  obtain ⟨found, rfl, u, hremoved, halike⟩ := takeBack unlocked hv
  have hreached : (Operation.deleteReview v.id v.author).Reaches summarize t _ :=
    .deleteReview found
  exact ⟨u, (perform_of_reaches hreached).trans (then_pure_eq_ok.mpr ⟨hremoved, rfl⟩), halike⟩

/-- Reviews and ratings are in order. -/
structure Rated (s : Store) : Prop where
  proper (id : ReviewId) (row : ReviewRow) (found : s.reviews.get? id = some row) : row.IsProper
  /-- Of every user, known or not, all reviews are listed, and the rating is that of this list. -/
  summed (summarize : String → String) (u : UserId) : ∃ reviews rating,
    (Command.service summarize (.reviewsOfUser u)).answer s = .ok (.reviews reviews) ∧
    (Command.service summarize (.ratingOf u)).answer s = .ok (.rating rating) ∧
    (∀ v, v ∈ reviews ↔ s.review? v.id = some v ∧ v.targetUser = u) ∧
    rating.Sums (reviews.map (·.rating))
  /-- The profile of a user who is there shows the same rating. -/
  shown (u : UserId) (live : (s.user? u).isSome) : Profiled s u fun shown =>
    ∀ summarize : String → String,
      (Command.service summarize (.ratingOf u)).answer s = .ok (.rating shown.rating)
  /-- A new review can be taken back, and then all queries answer as if it had not been written. -/
  takenBack (summarize : String → String) (author : UserId) (r : Review.Submission) (v : Review)
    (created : (Command.service summarize (.createReview author r)).answer s = .ok (.review v)) :
    let t := (Command.service summarize (.createReview author r)).after s
    let u := (Command.service summarize (.deleteReview v.id author)).after t
    (Command.service summarize (.deleteReview v.id author)).answer t = .ok .done ∧
      ∀ summarize' op, op.isQuery →
        (Command.service summarize' op).answer u = (Command.service summarize' op).answer s

/-- In every store that services have led to, what is told about reviews is told of the same ones. -/
theorem Run.reviews_rated (run : Run (fun _ => Command.IsService) .fresh log s) : Rated s := by
  constructor
  · exact run.reviewed
  · intro summarize u
    exact ⟨s.reviewsOfUser u, s.ratingOf u, rfl, rfl, fun _ => Store.mem_reviewsOfUser,
      Store.sums_ratingOf run.reviewed u⟩
  · intro u live
    obtain ⟨user, found⟩ := Option.isSome_iff_exists.mp live
    refine (profile_of_live run.keyed found).imp fun shown hshown summarize => ?_
    rw [hshown]
    rfl
  · intro summarize author r v created
    obtain ⟨u, hdeleted, halike⟩ :=
      deleteReview_created run.unlocked (Command.outcome_perform.mpr ⟨created, rfl⟩)
    obtain ⟨hanswer, rfl⟩ := Command.outcome_perform.mp hdeleted
    refine ⟨hanswer, fun summarize' op query => ?_⟩
    have hsame : Same _ s (perform summarize' op) := same_of_isQuery halike query
    obtain ⟨a, hafter, hbefore⟩ := hsame
    exact (congrArg Prod.fst hafter).trans (congrArg Prod.fst hbefore).symm

/-! Two reviews of one user. -/

def reviewing : List Command :=
  [.service id (.createUser ⟨"Ana", "ana@example.org", "Porto", ""⟩),
    .service id (.createUser ⟨"Rui", "rui@example.org", "Porto", ""⟩),
    .service id (.createReview 1 ⟨2, 1, " Came on time. ", 4⟩),
    .service id (.createReview 3 ⟨2, 1, "Like new, thanks.", 5⟩)]

/-- Their mean is four and a half. -/
theorem Run.reviews_rated_reviewing :
    Rated (follow .fresh reviewing).2 ∧ (follow .fresh reviewing).2.ratingOf 2 = ⟨2, 9⟩ ∧
      ((follow .fresh reviewing).2.ratingOf 2).average = some 0x4012000000000000 := by
  have run := run_services .fresh reviewing (by simp [reviewing, Command.IsService])
  exact ⟨run.reviews_rated, by decide +kernel, by decide +kernel⟩

/-- One user is reviewed three times by another. -/
def praising : List Command :=
  [.service id (.createUser ⟨"Ana", "ana@example.org", "Porto", ""⟩),
    .service id (.createUser ⟨"Rui", "rui@example.org", "Porto", ""⟩),
    .service id (.createReview 1 ⟨2, 1, "Came on time.", 5⟩),
    .service id (.createReview 1 ⟨2, 1, "Like new, thanks.", 5⟩),
    .service id (.createReview 1 ⟨2, 1, "A good swap.", 4⟩)]

/-- The mean of five, five and four is no double, and a user who has listed 32767 books has a rating,
but no profile to show it. -/
theorem ratings_fall_short :
    (∃ log, Run (fun _ => Command.IsService) .fresh log (follow .fresh praising).2) ∧
      (Command.service id (.ratingOf 2)).answer (follow .fresh praising).2 =
        .ok (.rating ⟨3, 14⟩) ∧
      Rating.average ⟨3, 14⟩ = some 0x4012AAAAAAAAAAAB ∧
      Number.value 0x4012AAAAAAAAAAAB ≠ 14 / 3 ∧
    (∃ log, Run (fun _ => Command.IsService) .fresh log (follow .fresh (stocking 32767)).2) ∧
      ((follow .fresh (stocking 32767)).2.user? 1).isSome ∧
      (∃ r, (Command.service id (.ratingOf 1)).answer (follow .fresh (stocking 32767)).2 =
        .ok (.rating r)) ∧
      (Command.service id (.profile 1)).answer (follow .fresh (stocking 32767)).2 =
        .error (.storage .tooManyVariables) := by
  have run := run_services .fresh praising (by simp [praising, Command.IsService])
  have hparts : Number.parts 0x4012AAAAAAAAAAAB = (5254199565265579, -50) := by decide +kernel
  have hinexact : Number.value 0x4012AAAAAAAAAAAB ≠ 14 / 3 := by
    rw [Number.value, hparts]
    norm_num
  have hrating (s : Store) :
      (Command.service id (.ratingOf 1)).answer s = .ok (.rating (s.ratingOf 1)) := rfl
  exact ⟨⟨_, run⟩, by decide +kernel, by decide +kernel, hinexact, ⟨_, run_stocking 32767⟩,
    (stocking_listed 32767).1, ⟨_, hrating _⟩, profile_of_stocking (by decide)⟩

end Market

end BookExchange
