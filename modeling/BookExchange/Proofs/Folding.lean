import BookExchange.Proofs.Patterns
import BookExchange.Text.Case
import Mathlib.Tactic.ByContra

/-! The keys of a text and of a piece of it. A piece is lowered as it is lowered inside the text, but
for a capital sigma, whose lower case depends on the letters around it. -/
namespace BookExchange.Text
variable {cs pre mid post : List Char}

/-! White space at the ends. -/

/-- There is no white space at its ends. -/
structure Tight (cs : List Char) : Prop where
  head : ∀ c, cs.head? = some c → isBlank c = false
  last : ∀ c, cs.getLast? = some c → isBlank c = false

theorem dropWhile_append_of_head {p : Char → Bool} {xs ys : List Char}
    (h : ∀ c, ys.head? = some c → p c = false) :
    (xs ++ ys).dropWhile p = xs.dropWhile p ++ ys := by
  induction xs with
  | nil =>
    cases ys with
    | nil => rfl
    | cons y ys => simp [h y rfl]
  | cons x xs ih =>
    cases hx : p x with
    | true => simp [hx, ih]
    | false => simp [hx]

theorem dropWhile_head {p : Char → Bool} {c : Char} (h : (cs.dropWhile p).head? = some c) :
    p c = false := by
  have hd := List.head?_dropWhile_not p cs
  rw [h] at hd
  simpa using hd

theorem tight_trimmed (cs : List Char) : Tight (trimmed cs) := by
  constructor
  · intro c hc
    have hsub : trimmed cs <+: cs.dropWhile isBlank := by
      rw [trimmed, ← List.reverse_suffix, List.reverse_reverse]
      exact List.dropWhile_suffix _
    obtain ⟨rest, hrest⟩ := hsub
    have hhead : (cs.dropWhile isBlank).head? = some c := by
      rw [← hrest, List.head?_append, hc]
      rfl
    exact dropWhile_head hhead
  · intro c hc
    rw [trimmed, List.getLast?_reverse] at hc
    exact dropWhile_head hc

/-- What surrounds a tight piece is trimmed on its own. -/
theorem trimmed_append (tight : Tight mid) (nonempty : mid ≠ []) :
    trimmed (pre ++ mid ++ post) =
      pre.dropWhile isBlank ++ mid ++ (post.reverse.dropWhile isBlank).reverse := by
  have hfront : (pre ++ (mid ++ post)).dropWhile isBlank =
      pre.dropWhile isBlank ++ (mid ++ post) := by
    refine dropWhile_append_of_head fun c hc => tight.head c ?_
    rwa [List.head?_append_of_ne_nil _ nonempty] at hc
  have hback : (post.reverse ++ (mid.reverse ++ (pre.dropWhile isBlank).reverse)).dropWhile isBlank =
      post.reverse.dropWhile isBlank ++ (mid.reverse ++ (pre.dropWhile isBlank).reverse) := by
    refine dropWhile_append_of_head fun c hc => tight.last c ?_
    rwa [List.head?_append_of_ne_nil _ (by simpa using nonempty), List.head?_reverse] at hc
  rw [trimmed, List.append_assoc, hfront]
  simp only [List.reverse_append, List.append_assoc] at hback ⊢
  rw [hback]
  simp

theorem trimmed_of_tight (tight : Tight cs) : trimmed cs = cs := by
  by_cases h : cs = []
  · subst h
    rfl
  · have happend := @trimmed_append [] cs [] tight h
    simpa using happend

theorem mem_of_mem_trimmed {c : Char} (h : c ∈ trimmed cs) : c ∈ cs := by
  rw [trimmed, List.mem_reverse] at h
  have h' := (List.dropWhile_sublist _).subset h
  exact (List.dropWhile_sublist _).subset (List.mem_reverse.mp h')

@[simp] theorem trim_trim (s : String) : trim (trim s) = trim s := by
  rw [trim, trim, String.toList_ofList, trimmed_of_tight (tight_trimmed _)]

theorem searchKey_trim (s : String) : searchKey (trim s) = searchKey s := by
  rw [searchKey, searchKey, trim, String.toList_ofList, trimmed_of_tight (tight_trimmed _)]

/-! Lower case. -/

/-- Lower case of a piece of a text: `before` holds what precedes it, nearest first, and `after` what
follows. -/
def lowerWithin (before after : List Char) : List Char → List Char
  | [] => []
  | c :: rest =>
    (if c = 'Σ' then [lowerSigma before (rest ++ after)] else lowerChar c) ++
      lowerWithin (c :: before) after rest

theorem lowerFrom_eq (before done cs : List Char) :
    lowerFrom before done cs = done.reverse ++ lowerWithin before [] cs := by
  induction cs generalizing before done with
  | nil => simp [lowerFrom, lowerWithin]
  | cons c rest ih => simp [lowerFrom, lowerWithin, ih]

theorem lowercase_eq (cs : List Char) : lowercase cs = lowerWithin [] [] cs := by
  simp [lowercase, lowerFrom_eq]

theorem lowerWithin_append (before after xs ys : List Char) :
    lowerWithin before after (xs ++ ys) =
      lowerWithin before (ys ++ after) xs ++ lowerWithin (xs.reverse ++ before) after ys := by
  induction xs generalizing before with
  | nil => rfl
  | cons x xs ih => simp [lowerWithin, ih]

theorem lowercase_append (pre mid post : List Char) :
    lowercase (pre ++ mid ++ post) = lowerWithin [] (mid ++ post) pre ++
      lowerWithin pre.reverse post mid ++ lowerWithin (pre ++ mid).reverse [] post := by
  simp [lowercase_eq, lowerWithin_append]

theorem lowerChar_ne_nil (c : Char) : lowerChar c ≠ [] := by
  rw [lowerChar]
  split
  · simp
  · split <;> simp

theorem lowercase_eq_nil : lowercase cs = [] ↔ cs = [] := by
  cases cs with
  | nil => simp [lowercase_eq, lowerWithin]
  | cons c rest =>
    rw [lowercase_eq, lowerWithin]
    split <;> simp [lowerChar_ne_nil]

/-- A key is empty when its text is blank. -/
theorem searchKey_eq_empty {s : String} : searchKey s = "" ↔ trim s = "" := by
  rw [searchKey, trim, String.ofList_eq_empty_iff, String.ofList_eq_empty_iff, lowercase_eq_nil]

/-- The capital sigmas of a piece have the same lower case in the text as in the piece alone. -/
def KeepsSigmas (pre mid post : List Char) : Prop :=
  ∀ xs ys, mid = xs ++ 'Σ' :: ys →
    lowerSigma (xs.reverse ++ pre.reverse) (ys ++ post) = lowerSigma xs.reverse ys

/-- Two surroundings give a piece the same lower case when they give it to its sigmas. -/
theorem lowerWithin_eq_iff {before before' after after' : List Char} :
    lowerWithin before after cs = lowerWithin before' after' cs ↔
      ∀ xs ys, cs = xs ++ 'Σ' :: ys →
        lowerSigma (xs.reverse ++ before) (ys ++ after) =
          lowerSigma (xs.reverse ++ before') (ys ++ after') := by
  induction cs generalizing before before' with
  | nil => simp [lowerWithin]
  | cons c rest ih =>
    -- Both answers give the first character the same number of characters.
    have htail : (lowerWithin before after (c :: rest) = lowerWithin before' after' (c :: rest)) ↔
        (c = 'Σ' → lowerSigma before (rest ++ after) = lowerSigma before' (rest ++ after')) ∧
          lowerWithin (c :: before) after rest = lowerWithin (c :: before') after' rest := by
      simp only [lowerWithin]
      split <;> simp [*]
    rw [htail, ih]
    constructor
    · intro h xs ys hsplit
      obtain ⟨rfl, hys⟩ | ⟨xs, rfl, hrest⟩ := List.cons_eq_append_iff.mp hsplit
      · cases hys
        simpa using h.1 rfl
      · simpa using h.2 xs ys hrest
    · intro h
      refine ⟨fun hc => ?_, fun xs ys hrest => ?_⟩
      · simpa using h [] rest (by simp [hc])
      · simpa using h (c :: xs) ys (by simp [hrest])

theorem meetsCased_append (xs ys : List Char) :
    meetsCased (xs ++ ys) = if xs.all isCaseIgnorable then meetsCased ys else meetsCased xs := by
  induction xs with
  | nil => rfl
  | cons x xs ih =>
    cases hx : isCaseIgnorable x with
    | true => simpa [meetsCased, hx] using ih
    | false => simp [meetsCased, hx]

theorem meetsCased_of_ignorable (h : cs.all isCaseIgnorable) : meetsCased cs = false := by
  have hd : cs.dropWhile isCaseIgnorable = [] := List.dropWhile_eq_nil_iff.mpr (by simpa using h)
  simp [meetsCased, hd]

/-- Where no cased letter follows, the end of a piece decides as the end of the text would. -/
theorem meetsCased_append_of_not {xs ys : List Char} (h : meetsCased ys = false) :
    meetsCased (xs ++ ys) = meetsCased xs := by
  rw [meetsCased_append]
  split
  · rename_i hall
    rw [h, meetsCased_of_ignorable hall]
  · rfl

/-- Whole words keep their sigmas. -/
theorem keepsSigmas_of_words (before : meetsCased pre.reverse = false)
    (after : meetsCased post = false) : KeepsSigmas pre mid post := by
  intro xs ys _
  rw [lowerSigma, lowerSigma, meetsCased_append_of_not before, meetsCased_append_of_not after]

theorem exists_of_inRanges {ranges : List (Nat × Nat)} {n : Nat} (h : inRanges ranges n) :
    ∃ r ∈ ranges, r.1 ≤ n ∧ n ≤ r.2 := by
  induction ranges with
  | nil => simp [inRanges] at h
  | cons r ranges ih =>
    simp only [inRanges, Bool.and_eq_true, decide_eq_true_eq, Bool.or_eq_true] at h
    obtain ⟨hfirst, hlast | hrest⟩ := h
    · exact ⟨r, List.mem_cons_self, hfirst, hlast⟩
    · obtain ⟨r', hr', hn⟩ := ih hrest
      exact ⟨r', List.mem_cons_of_mem _ hr', hn⟩

theorem not_cased_of_blank {c : Char} (h : isBlank c) : isCased c = false := by
  have hnone : ∀ r ∈ blankRanges, ∀ k < r.2 + 1 - r.1, inRanges casedRanges (r.1 + k) = false := by
    decide +kernel
  obtain ⟨r, hr, hfirst, hlast⟩ := exists_of_inRanges h
  have hc := hnone r hr (c.toNat - r.1) (by omega)
  rwa [Nat.add_sub_cancel' hfirst] at hc

theorem meetsCased_of_blanks (h : ∀ c ∈ cs, isBlank c) : meetsCased cs = false := by
  cases hd : (cs.dropWhile isCaseIgnorable).head? with
  | none => simp [meetsCased, hd]
  | some c =>
    have hc := (List.dropWhile_sublist _).subset (List.mem_of_head? hd)
    simp [meetsCased, hd, not_cased_of_blank (h c hc)]

/-- White space at the end of a context is not cased. -/
theorem meetsCased_dropWhile_blank (xs ys : List Char) :
    meetsCased (xs ++ (ys.dropWhile isBlank).reverse) = meetsCased (xs ++ ys.reverse) := by
  have hblank : meetsCased (ys.takeWhile isBlank).reverse = false :=
    meetsCased_of_blanks fun c hc => by
      have hall := List.all_takeWhile (p := isBlank) (l := ys)
      exact List.all_eq_true.mp hall c (List.mem_reverse.mp hc)
  conv_rhs => rw [← List.takeWhile_append_dropWhile (p := isBlank) (l := ys), List.reverse_append,
    ← List.append_assoc, meetsCased_append_of_not hblank]

/-! What lower case is made of. -/

/-- The lower cases of the characters are compared as they are. -/
def Run.lands (r : Run) : Bool :=
  let first := r.first + r.shift
  let last := r.last + r.shift
  (0x5A < first && last < 0xD800) || (0xDFFF < first && last < 0xFFFE) ||
    (0xFFFF < first && last < 0x110000)

/-- The character ends no text and is no noncharacter that is taken for another. -/
def IsPlain (c : Char) : Prop := c ≠ '\x00' ∧ c ≠ '\uFFFE' ∧ c ≠ '\uFFFF'
deriving Decidable

theorem isUpper_iff {c : Char} : c.isUpper ↔ 0x41 ≤ c.toNat ∧ c.toNat ≤ 0x5A := by
  show decide (c.val ≥ 'A'.val ∧ c.val ≤ 'Z'.val) = true ↔ _
  simp [UInt32.le_iff_toNat_le]

theorem isPlain_iff {c : Char} : IsPlain c ↔ c.toNat ≠ 0 ∧ c.toNat ≠ 0xFFFE ∧ c.toNat ≠ 0xFFFF := by
  simp only [IsPlain, ne_eq, ← Char.toNat_inj]
  rfl

theorem foldCase_of_isPlain {c : Char} (lower : c.isUpper = false) (plain : IsPlain c) :
    foldCase c = c := by
  simp [foldCase, lower, plain.2.1, plain.2.2]

theorem toNat_ofNat_of_valid {n : Nat} (h : n.isValidChar) : (Char.ofNat n).toNat = n := by
  rw [Char.ofNat, dif_pos h]
  rfl

theorem Run.bounds_of_covers {r : Run} {n : Nat} (h : r.covers n) : r.first ≤ n ∧ n ≤ r.last := by
  simp only [Run.covers, Bool.and_eq_true, decide_eq_true_eq] at h
  exact h.1

theorem findRun_eq_some {runs : List Run} {n : Nat} {r : Run} (h : findRun runs n = some r) :
    r ∈ runs ∧ r.covers n := by
  induction runs with
  | nil => simp [findRun] at h
  | cons r' runs ih =>
    rw [findRun] at h
    split at h
    · simp at h
    · split at h
      · next hcovers =>
        cases h
        exact ⟨List.mem_cons_self, hcovers⟩
      · obtain ⟨hr, hn⟩ := ih h
        exact ⟨List.mem_cons_of_mem _ hr, hn⟩

section Found
variable {c : Char} {r : Run} (found : findRun lowercaseRuns c.toNat = some r)
include found

theorem lands_of_findRun : r.lands := by
  have hall : ∀ r ∈ lowercaseRuns, r.lands := by decide +kernel
  exact hall r (findRun_eq_some found).1

/-- There is a character where the table has the lower case. -/
theorem toNat_shifted : (Char.ofNat (c.toNat + r.shift).toNat).toNat = (c.toNat + r.shift).toNat := by
  have hlands := lands_of_findRun found
  obtain ⟨hfirst, hlast⟩ := Run.bounds_of_covers (findRun_eq_some found).2
  simp only [Run.lands, Bool.or_eq_true, Bool.and_eq_true, decide_eq_true_eq] at hlands
  refine toNat_ofNat_of_valid ?_
  simp only [Nat.isValidChar]
  omega

/-- A lower case of its own is no capital letter, and it is plain. -/
theorem findRun_lands {d : Char} (hd : d = Char.ofNat (c.toNat + r.shift).toNat) :
    d.isUpper = false ∧ IsPlain d := by
  have hlands := lands_of_findRun found
  have htoNat := toNat_shifted found
  obtain ⟨hfirst, hlast⟩ := Run.bounds_of_covers (findRun_eq_some found).2
  simp only [Run.lands, Bool.or_eq_true, Bool.and_eq_true, decide_eq_true_eq] at hlands
  rw [← hd] at htoNat
  rw [← Bool.not_eq_true, isUpper_iff, isPlain_iff]
  omega

end Found

theorem mem_lowerChar {c d : Char} (h : d ∈ lowerChar c) :
    d.isUpper = false ∧ (d = c ∨ IsPlain d) := by
  rw [lowerChar] at h
  split at h
  · have hd : d = 'i' ∨ d = '\u0307' := by simpa using h
    obtain rfl | rfl := hd
    · exact ⟨rfl, .inr (by simp [IsPlain])⟩
    · exact ⟨rfl, .inr (by simp [IsPlain])⟩
  · split at h
    · rename_i r hr
      obtain ⟨hupper, hplain⟩ := findRun_lands hr (by simpa using h)
      exact ⟨hupper, .inr hplain⟩
    · rename_i hnone
      have hd : d = c := by simpa using h
      subst hd
      refine ⟨?_, .inl rfl⟩
      by_contra hupper
      rw [Bool.not_eq_false, isUpper_iff] at hupper
      -- The ASCII capitals are the first run of the table.
      obtain ⟨runs, hruns⟩ : ∃ runs, lowercaseRuns = ⟨0x41, 0x5A, 1, 32⟩ :: runs := ⟨_, rfl⟩
      rw [hruns, findRun, if_neg (Nat.not_lt.mpr hupper.1), if_pos] at hnone
      · simp at hnone
      · simp [Run.covers, hupper, Nat.mod_one]

/-- Lower case is made of sigmas and of the lower cases of the characters on their own. -/
theorem exists_of_mem_lowerWithin {before after : List Char} {d : Char}
    (h : d ∈ lowerWithin before after cs) :
    (d = 'ς' ∨ d = 'σ') ∨ ∃ c ∈ cs, d ∈ lowerChar c := by
  induction cs generalizing before with
  | nil => simp [lowerWithin] at h
  | cons c rest ih =>
    rw [lowerWithin, List.mem_append] at h
    obtain h | h := h
    · split at h
      · rw [List.mem_singleton, lowerSigma] at h
        split at h <;> simp [h]
      · exact .inr ⟨c, List.mem_cons_self, h⟩
    · obtain hsigma | ⟨c', hc', hd⟩ := ih h
      · exact .inl hsigma
      · exact .inr ⟨c', List.mem_cons_of_mem _ hc', hd⟩

theorem mem_lowerWithin {before after : List Char} {d : Char}
    (h : d ∈ lowerWithin before after cs) : d.isUpper = false ∧ (d ∈ cs ∨ IsPlain d) := by
  obtain (rfl | rfl) | ⟨c, hc, hd⟩ := exists_of_mem_lowerWithin h
  · exact ⟨rfl, .inr (by simp [IsPlain])⟩
  · exact ⟨rfl, .inr (by simp [IsPlain])⟩
  · obtain ⟨hupper, rfl | hplain⟩ := mem_lowerChar hd
    · exact ⟨hupper, .inl hc⟩
    · exact ⟨hupper, .inr hplain⟩

/-- A key is made of small letters and of what the text holds. -/
theorem mem_searchKey {s : String} {c : Char} (h : c ∈ (searchKey s).toList) :
    c.isUpper = false ∧ (c ∈ s.toList ∨ IsPlain c) := by
  rw [searchKey, String.toList_ofList, lowercase_eq] at h
  obtain ⟨hupper, hmem | hplain⟩ := mem_lowerWithin h
  · exact ⟨hupper, .inl (mem_of_mem_trimmed hmem)⟩
  · exact ⟨hupper, .inr hplain⟩

/-- The text holds plain characters only. -/
def Plain (s : String) : Prop := ∀ c ∈ s.toList, IsPlain c

instance (s : String) : Decidable (Plain s) := List.decidableBAll _ _

/-- The key of the one text is found in the key of the other. -/
def FoundIn (text whole : String) : Prop := Finds (searchKey text).toList (searchKey whole).toList

/-- The key of the one text is a piece of the key of the other. -/
def PartOf (text whole : String) : Prop := (searchKey text).toList <:+: (searchKey whole).toList

theorem Plain.of_mem_searchKey {s : String} (h : Plain s) :
    ∀ c ∈ (searchKey s).toList, IsPlain c := by
  intro c hc
  obtain ⟨-, hmem | hplain⟩ := mem_searchKey hc
  · exact h c hmem
  · exact hplain

theorem Plain.map_foldCase {s : String} (h : Plain s) :
    (searchKey s).toList.map foldCase = (searchKey s).toList := by
  have hid : ∀ c ∈ (searchKey s).toList, foldCase c = id c := fun c hc =>
    foldCase_of_isPlain (mem_searchKey hc).1 (h.of_mem_searchKey c hc)
  rw [List.map_congr_left hid, List.map_id]

theorem Plain.not_mem_nul {s : String} (h : Plain s) : '\x00' ∉ (searchKey s).toList :=
  fun hmem => (h.of_mem_searchKey _ hmem).1 rfl

/-- Of plain texts, the one is found in the other where its key is a piece of the other's. -/
theorem Plain.foundIn_iff {text whole : String} (htext : Plain text) (hwhole : Plain whole) :
    FoundIn text whole ↔ PartOf text whole := by
  rw [FoundIn, finds_iff_of_not_mem htext.not_mem_nul, beforeNul_of_not_mem hwhole.not_mem_nul,
    htext.map_foldCase, hwhole.map_foldCase, PartOf]

/-! The key of a piece. -/

/-- What a piece of a text contributes to the text's key. -/
def pieceKey (pre mid post : List Char) : List Char := lowerWithin pre.reverse post mid

theorem pieceKey_eq_iff : pieceKey pre mid post = lowercase mid ↔ KeepsSigmas pre mid post := by
  rw [pieceKey, lowercase_eq, lowerWithin_eq_iff, KeepsSigmas]
  simp only [List.append_nil]

/-- White space at the ends of the text does not matter to it. -/
theorem pieceKey_trim :
    pieceKey (pre.dropWhile isBlank) mid (post.reverse.dropWhile isBlank).reverse =
      pieceKey pre mid post := by
  have hpost (ys : List Char) : meetsCased (ys ++ (post.reverse.dropWhile isBlank).reverse) =
      meetsCased (ys ++ post) := by
    rw [meetsCased_dropWhile_blank, List.reverse_reverse]
  rw [pieceKey, pieceKey, lowerWithin_eq_iff]
  intro xs ys _
  rw [lowerSigma, lowerSigma, meetsCased_dropWhile_blank, hpost]

section Piece
variable {key text : String} (occurs : text.toList = pre ++ trimmed key.toList ++ post)
  (nonempty : trimmed key.toList ≠ [])
include occurs nonempty

/-- Where a trimmed text occurs in another one, the key of the other has the key of the piece. -/
theorem searchKey_of_piece : ∃ front back,
    (searchKey text).toList = front ++ pieceKey pre (trimmed key.toList) post ++ back ∧
      ('\x00' ∉ pre → '\x00' ∉ front) := by
  have hkey := lowercase_append (pre.dropWhile isBlank) (trimmed key.toList)
    (post.reverse.dropWhile isBlank).reverse
  rw [← trimmed_append (tight_trimmed _) nonempty, ← occurs, ← pieceKey, pieceKey_trim] at hkey
  rw [searchKey, String.toList_ofList]
  refine ⟨_, _, hkey, fun hpre hfront => ?_⟩
  obtain ⟨-, hmem | hplain⟩ := mem_lowerWithin hfront
  · exact hpre ((List.dropWhile_sublist _).subset hmem)
  · exact hplain.1 rfl

/-- A trimmed text is found where it occurs, if no NUL stands before it and its capital sigmas are
not lowered otherwise there. -/
theorem foundIn_of_piece (uncut : '\x00' ∉ pre)
    (keeps : KeepsSigmas pre (trimmed key.toList) post) : FoundIn key text := by
  obtain ⟨front, back, htext, hfront⟩ := searchKey_of_piece occurs nonempty
  have hkey : (searchKey key).toList = pieceKey pre (trimmed key.toList) post := by
    rw [searchKey, String.toList_ofList, pieceKey_eq_iff.mpr keeps]
  rw [FoundIn, htext, ← hkey]
  exact finds_of_infix (hfront uncut)

end Piece

end BookExchange.Text
