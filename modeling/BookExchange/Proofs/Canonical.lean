import BookExchange.Catalogue
import BookExchange.Proofs.Folding
import BookExchange.Store.Books
import BookExchange.Store.Users

/-! Keys have a form of their own. A key is its own key, and the white space around a text has no part
in it: it does not matter whether a text or its key is asked for, nor whether a text is trimmed before
its key is made. -/
namespace BookExchange

namespace Text
variable {cs before after : List Char} {c d : Char}

/-! Lower case of lower case. -/

/-- The character is its own lower case wherever it stands. -/
structure Settled (c : Char) : Prop where
  alone : lowerChar c = [c]
  sigma : c ≠ 'Σ'

/-- Where the lower cases of a run stand. -/
def Run.image (r : Run) : Run :=
  { r with first := (r.first + r.shift).toNat, last := (r.last + r.shift).toNat }

/-- The other run ends before this one begins, or its numbers lie between the numbers of this one. -/
def Run.leaves (r r' : Run) : Bool :=
  r'.last < r.first ||
    (r.first == r.last || r.step == r'.step) && r'.first ≤ r.first &&
      (r.first - r'.first) % r'.step != 0

/-- None of the runs, which are in ascending order, has a number of this one. -/
def Run.isMissed (r : Run) : List Run → Bool
  | [] => true
  | r' :: rest => r.last < r'.first || r.leaves r' && r.isMissed rest

/-- No number of the run is that of a character with another lower case, or of white space. -/
def Run.isSettled (r : Run) : Bool :=
  r.isMissed lowercaseRuns && (r.last < 'İ'.toNat || 'İ'.toNat < r.first) &&
    blankRanges.all fun b => r.last < b.1 || b.2 < r.first

theorem Run.not_covers_of_leaves {r r' : Run} {n : Nat} (h : r.leaves r') (covered : r.covers n) :
    ¬ r'.covers n := by
  simp only [leaves, covers, Bool.or_eq_true, Bool.and_eq_true, decide_eq_true_eq, bne_iff_ne,
    beq_iff_eq] at h covered ⊢
  obtain ⟨⟨hfirst, hlast⟩, hstep⟩ := covered
  rintro ⟨⟨hfirst', hlast'⟩, hstep'⟩
  obtain hbefore | ⟨⟨hsame, hle⟩, hbetween⟩ := h
  · omega
  · refine hbetween ?_
    obtain hone | hsame := hsame
    · have hn : n = r.first := by omega
      rwa [hn] at hstep'
    · have hn : n - r'.first = (n - r.first) + (r.first - r'.first) := by omega
      rwa [hn, Nat.add_mod, ← hsame, hstep, Nat.zero_add, Nat.mod_mod, hsame] at hstep'

/-- The table is searched in ascending order, and so is it checked. -/
theorem findRun_of_isMissed {runs : List Run} {r : Run} {n : Nat} (h : r.isMissed runs)
    (covered : r.covers n) : findRun runs n = none := by
  induction runs with
  | nil => rfl
  | cons r' runs ih =>
    rw [findRun]
    split
    · rfl
    · next hn =>
      simp only [Run.isMissed, Bool.or_eq_true, Bool.and_eq_true, decide_eq_true_eq] at h
      obtain hafter | ⟨hleaves, hrest⟩ := h
      · have hlast := (Run.bounds_of_covers covered).2
        omega
      · rw [if_neg (Run.not_covers_of_leaves hleaves covered)]
        exact ih hrest

theorem inRanges_eq_false {ranges : List (Nat × Nat)} {n : Nat}
    (h : ∀ b ∈ ranges, n < b.1 ∨ b.2 < n) : inRanges ranges n = false := by
  rw [Bool.eq_false_iff]
  intro hn
  obtain ⟨b, hb, hfirst, hlast⟩ := exists_of_inRanges hn
  have hout := h b hb
  omega

theorem settled_of_none (plain : d ≠ 'İ') (unfound : findRun lowercaseRuns d.toNat = none) :
    Settled d where
  alone := by rw [lowerChar, if_neg plain, unfound]
  sigma := by
    rintro rfl
    exact absurd unfound (by decide +kernel)

/-- A character of a run that is settled. -/
theorem settled_of_covers {r : Run} (h : r.isSettled) (covered : r.covers d.toNat) :
    Settled d ∧ isBlank d = false := by
  simp only [Run.isSettled, Bool.and_eq_true, Bool.or_eq_true, decide_eq_true_eq,
    List.all_eq_true] at h
  obtain ⟨⟨missed, plain⟩, blank⟩ := h
  obtain ⟨hfirst, hlast⟩ := Run.bounds_of_covers covered
  refine ⟨settled_of_none ?_ (findRun_of_isMissed missed covered), inRanges_eq_false fun b hb => ?_⟩
  · rintro rfl
    omega
  · have hout := blank b hb
    omega

/-- The lower cases in the table have no other lower case, and none is white space. -/
theorem settled_of_findRun {r : Run} (found : findRun lowercaseRuns c.toNat = some r)
    (hd : d.toNat = (c.toNat + r.shift).toNat) : Settled d ∧ isBlank d = false := by
  -- The check goes over the runs, since there are too many characters to go over.
  have hall : ∀ r ∈ lowercaseRuns, r.image.isSettled := by decide +kernel
  obtain ⟨hr, hcovers⟩ := findRun_eq_some found
  refine settled_of_covers (hall r hr) ?_
  have hlands := lands_of_findRun found
  simp only [Run.lands, Bool.or_eq_true, Bool.and_eq_true, decide_eq_true_eq] at hlands
  simp only [Run.covers, Run.image, Bool.and_eq_true, decide_eq_true_eq, hd] at hcovers ⊢
  have hoffset : (c.toNat + r.shift).toNat - (r.first + r.shift).toNat = c.toNat - r.first := by
    omega
  rw [hoffset]
  exact ⟨by omega, hcovers.2⟩

/-- The characters that are lower cases without being found in the table: the two that the dotted
capital I becomes, and the sigmas. -/
theorem settled_of_mem {d : Char} (h : d ∈ ['i', '\u0307', 'ς', 'σ']) :
    Settled d ∧ isBlank d = false := by
  have hall : ['i', '\u0307', 'ς', 'σ'].all fun d =>
      d != 'İ' && (findRun lowercaseRuns d.toNat).isNone && !isBlank d := by decide +kernel
  have hd := List.all_eq_true.mp hall d h
  simp only [Bool.and_eq_true, bne_iff_ne, Option.isNone_iff_eq_none, Bool.not_eq_true'] at hd
  exact ⟨settled_of_none hd.1.1 hd.1.2, hd.2⟩

theorem settled_of_mem_lowerChar (h : d ∈ lowerChar c) :
    Settled d ∧ (isBlank c = false → isBlank d = false) := by
  rw [lowerChar] at h
  split at h
  · have hd : d = 'i' ∨ d = '\u0307' := by simpa using h
    obtain ⟨settled, blank⟩ := settled_of_mem (d := d) (by simp [or_assoc.symm, hd])
    exact ⟨settled, fun _ => blank⟩
  · next plain =>
    split at h
    · next r found =>
      have hd : d = Char.ofNat (c.toNat + r.shift).toNat := by simpa using h
      obtain ⟨settled, blank⟩ := settled_of_findRun found (hd ▸ toNat_shifted found)
      exact ⟨settled, fun _ => blank⟩
    · next unfound =>
      have hd : d = c := by simpa using h
      subst hd
      exact ⟨settled_of_none plain unfound, id⟩

theorem settled_of_mem_lowerWithin (h : d ∈ lowerWithin before after cs) :
    Settled d ∧ ((∀ c ∈ cs, isBlank c = false) → isBlank d = false) := by
  obtain hsigma | ⟨c, hc, hd⟩ := exists_of_mem_lowerWithin h
  · obtain ⟨settled, blank⟩ := settled_of_mem (d := d) (by simp [hsigma])
    exact ⟨settled, fun _ => blank⟩
  · obtain ⟨settled, blank⟩ := settled_of_mem_lowerChar hd
    exact ⟨settled, fun nonblank => blank (nonblank c hc)⟩

theorem lowerWithin_of_settled (h : ∀ c ∈ cs, Settled c) : lowerWithin before after cs = cs := by
  induction cs generalizing before with
  | nil => rfl
  | cons c rest ih =>
    have hc := h c List.mem_cons_self
    rw [lowerWithin, if_neg hc.sigma, hc.alone, ih fun c' hc' => h c' (List.mem_cons_of_mem _ hc')]
    rfl

theorem lowercase_lowercase (cs : List Char) : lowercase (lowercase cs) = lowercase cs := by
  rw [lowercase_eq (lowercase cs)]
  refine lowerWithin_of_settled fun c hc => ?_
  rw [lowercase_eq] at hc
  exact (settled_of_mem_lowerWithin hc).1

/-! White space at the ends of lower case. -/

theorem lowerWithin_singleton_ne_nil : lowerWithin before after [c] ≠ [] := by
  rw [lowerWithin]
  split <;> simp [lowerChar_ne_nil]

theorem not_blank_of_lowered (nonblank : isBlank c = false)
    (h : d ∈ lowerWithin before after [c]) : isBlank d = false :=
  (settled_of_mem_lowerWithin h).2 (by simpa using nonblank)

/-- The first and the last character have no white space for their lower cases. -/
theorem Tight.lowercase (tight : Tight cs) : Tight (lowercase cs) := by
  rw [lowercase_eq]
  constructor
  · intro d hd
    cases cs with
    | nil => cases hd
    | cons c rest =>
      have hsplit := lowerWithin_append [] [] [c] rest
      rw [List.singleton_append] at hsplit
      rw [hsplit, List.head?_append_of_ne_nil _ lowerWithin_singleton_ne_nil] at hd
      exact not_blank_of_lowered (tight.head c rfl) (List.mem_of_head? hd)
  · intro d hd
    cases hlast : cs.getLast? with
    | none =>
      rw [List.getLast?_eq_none_iff] at hlast
      subst hlast
      cases hd
    | some c =>
      obtain ⟨front, rfl⟩ := List.getLast?_eq_some_iff.mp hlast
      rw [lowerWithin_append, List.getLast?_append_of_ne_nil _ lowerWithin_singleton_ne_nil] at hd
      exact not_blank_of_lowered (tight.last c hlast) (List.mem_of_getLast? hd)

theorem trimmed_eq_nil : trimmed cs = [] ↔ ∀ c ∈ cs, isBlank c := by
  constructor
  · intro h
    rw [trimmed, List.reverse_eq_nil_iff, List.dropWhile_eq_nil_iff] at h
    have hfront : cs.dropWhile isBlank = [] := by
      cases hrest : cs.dropWhile isBlank with
      | nil => rfl
      | cons c rest =>
        have hhead : isBlank c = false := dropWhile_head (by rw [hrest, List.head?_cons])
        have hblank := h c (by simp [hrest])
        rw [hhead] at hblank
        cases hblank
    exact List.dropWhile_eq_nil_iff.mp hfront
  · intro h
    rw [trimmed, List.dropWhile_eq_nil_iff.mpr h]
    rfl

/-! Keys of keys. -/

theorem searchKey_searchKey (s : String) : searchKey (searchKey s) = searchKey s := by
  have htight : Tight (lowercase (trimmed s.toList)) := (tight_trimmed _).lowercase
  rw [searchKey, searchKey, String.toList_ofList, trimmed_of_tight htight, lowercase_lowercase]

/-- Neither a sigma at the end of a word nor what a dotted capital I becomes is lowered again. -/
example : searchKey " ΟΔΥΣ İ " = "οδυς i\u0307" ∧ searchKey "οδυς i\u0307" = "οδυς i\u0307" := by
  decide +kernel

theorem searchKey_eq_empty_iff {s : String} : searchKey s = "" ↔ ∀ c ∈ s.toList, isBlank c := by
  rw [searchKey_eq_empty, trim, String.ofList_eq_empty_iff, trimmed_eq_nil]

end Text

open Text

namespace Catalogue

theorem key?_searchKey (s : String) : key? (searchKey s) = key? s := by
  rw [key?, searchKey_searchKey, key?]

theorem key?_eq_some_iff {s : String} :
    key? s = some (searchKey s) ↔ ∃ c ∈ s.toList, isBlank c = false := by
  have hblank := @searchKey_eq_empty_iff s
  rw [key?]
  split
  · next empty => simpa using hblank.mp empty
  · next nonempty => simpa [hblank] using nonempty

theorem bind_key?_map (filter : Option String) :
    (filter.map searchKey).bind key? = filter.bind key? := by
  cases filter with
  | none => rfl
  | some text => rw [Option.map_some, Option.bind_some, Option.bind_some, key?_searchKey]

/-- The query with the key of each text in the text's place. -/
def Query.keyed (q : Query) : Query :=
  { q with
    title := q.title.map searchKey
    author := q.author.map searchKey
    status := q.status.map searchKey
    city := q.city.map searchKey
    sortField := q.sortField.map searchKey
    sortOrder := q.sortOrder.map searchKey }

/-- Asking by keys is asking by the texts themselves. -/
theorem Query.normalize_keyed (q : Query) : q.keyed.normalize = q.normalize := by
  have hfield : (q.sortField.map searchKey).map SortField.ofName = q.sortField.map .ofName := by
    cases q.sortField <;> simp [SortField.ofName, searchKey_searchKey]
  have horder : (q.sortOrder.map searchKey).map SortOrder.ofName = q.sortOrder.map .ofName := by
    cases q.sortOrder <;> simp [SortOrder.ofName, searchKey_searchKey]
  simp only [normalize, keyed, bind_key?_map, hfield, horder]

end Catalogue

/-! Keys of what is stored. -/

theorem User.Registration.row_cityKey (r : User.Registration) (now : Time) :
    (r.row now).cityKey = searchKey (r.row now).city := (searchKey_trim r.city).symm

theorem User.Change.save_cityKey (c : User.Change) (u : User) (row : UserRow) :
    (row.save (c.apply u)).cityKey = searchKey (c.city.getD u.city) := by
  obtain ⟨name, email, _ | city, address⟩ := c
  · rfl
  · exact searchKey_trim city

theorem Book.Offer.row_keys (o : Book.Offer) (owner : UserId) (summary : String) (now : Time) :
    ((o.entry owner summary).row now).titleKey = searchKey o.title ∧
      ((o.entry owner summary).row now).authorKey = searchKey o.author :=
  ⟨searchKey_trim o.title, searchKey_trim o.author⟩

/-- Making a key a second time changes nothing, nor does trimming before; only blank texts have an
empty key. So a query may hold keys for its texts, and what a user or a book is searched by is the key
of the text as it was given, whatever white space has been taken from it since. -/
theorem keys_canonical (s : String) :
    searchKey (searchKey s) = searchKey s ∧ searchKey (trim s) = searchKey s ∧
      (searchKey s = "" ↔ ∀ c ∈ s.toList, isBlank c) ∧
      (Catalogue.key? (searchKey s) = some (searchKey s) ↔ ∃ c ∈ s.toList, isBlank c = false) ∧
      (∀ q : Catalogue.Query, q.keyed.normalize = q.normalize) ∧
      (∀ (r : User.Registration) (now : Time), (r.row now).cityKey = searchKey r.city ∧
        (r.row now).cityKey = searchKey (r.row now).city) ∧
      (∀ (c : User.Change) (u : User) (row : UserRow),
        (row.save (c.apply u)).cityKey = searchKey (c.city.getD u.city)) ∧
      ∀ (o : Book.Offer) (owner : UserId) (summary : String) (now : Time),
        ((o.entry owner summary).row now).titleKey = searchKey o.title ∧
          ((o.entry owner summary).row now).authorKey = searchKey o.author := by
  have hkept : Catalogue.key? (searchKey s) = some (searchKey s) ↔
      ∃ c ∈ s.toList, isBlank c = false := by
    rw [Catalogue.key?_searchKey, Catalogue.key?_eq_some_iff]
  exact ⟨searchKey_searchKey s, searchKey_trim s, searchKey_eq_empty_iff, hkept,
    Catalogue.Query.normalize_keyed, fun r now => ⟨rfl, r.row_cityKey now⟩,
    User.Change.save_cityKey, Book.Offer.row_keys⟩

end BookExchange
