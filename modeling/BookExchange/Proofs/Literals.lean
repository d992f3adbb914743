import BookExchange.Proofs.Folding
import BookExchange.Store.Search

/-! A key is looked for as it is written, with its percent signs, underscores and backslashes: by the
rules of patterns it matches the texts that it is a piece of. The matcher goes by the rules, but it
reads two noncharacters as the replacement character and stops at a NUL. -/
namespace BookExchange.Text
variable {key text : String} {cs piece : List Char} {c : Char}

/-- There is no capital ASCII letter in the text. -/
def NoCapitals (s : String) : Prop := ∀ c ∈ s.toList, c.isUpper = false

instance (s : String) : Decidable (NoCapitals s) := List.decidableBAll _ _

theorem noCapitals_searchKey (s : String) : NoCapitals (searchKey s) :=
  fun _ hc => (mem_searchKey hc).1

/-- The comparison that the rules of patterns ask for: ASCII letters without case. -/
def SameLetter (d c : Char) : Prop := d.toLower = c.toLower

theorem toLower_of_not_upper (h : c.isUpper = false) : c.toLower = c := by
  rw [← Bool.not_eq_true, isUpper_iff] at h
  refine dif_neg ?_
  simpa [UInt32.le_iff_toNat_le] using h

theorem map_toLower (small : ∀ c ∈ cs, c.isUpper = false) : cs.map Char.toLower = cs := by
  rw [List.map_congr_left fun c hc => toLower_of_not_upper (small c hc), List.map_id']

/-- How the matcher reads a character, letter case aside. -/
def legible (c : Char) : Char := if c = '\uFFFE' ∨ c = '\uFFFF' then '\uFFFD' else c

/-- The matcher reads the one as it reads the other. -/
def ReadsLike (xs ys : List Char) : Prop := xs.map legible = ys.map legible

theorem map_foldCase (small : ∀ c ∈ cs, c.isUpper = false) :
    cs.map foldCase = cs.map legible := by
  refine List.map_congr_left fun c hc => ?_
  simp [foldCase, legible, small c hc]

theorem legible_of_isPlain (plain : IsPlain c) : legible c = c := by
  simp [legible, plain.2]

/-- Only noncharacters are mistaken, and only for the replacement character. -/
theorem legible_of_ne (h : legible c ≠ '\uFFFD') : legible c = c := by
  rw [legible] at h ⊢
  split at h
  · exact absurd rfl h
  · next hc => rw [if_neg hc]

/-- What reads like a plain text is that text, unless a noncharacter stands for a replacement
character in it. -/
theorem ReadsLike.eq {ks : List Char} (same : ReadsLike piece ks)
    (plain : ∀ c ∈ ks, IsPlain c) (replaced : '\uFFFD' ∈ ks → ∀ c ∈ piece, IsPlain c) :
    piece = ks := by
  have hmap {xs : List Char} (h : ∀ c ∈ xs, legible c = c) : xs.map legible = xs := by
    rw [List.map_congr_left h, List.map_id']
  rw [ReadsLike, hmap fun c hc => legible_of_isPlain (plain c hc)] at same
  by_cases hmem : '\uFFFD' ∈ ks
  · rwa [hmap fun c hc => legible_of_isPlain (replaced hmem c hc)] at same
  -- No character is read as the replacement character, for there is none in what is read.
  · have hread : ∀ c ∈ piece, legible c = c := by
      intro c hc
      refine legible_of_ne fun heq => hmem ?_
      rw [← same, ← heq]
      exact List.mem_map_of_mem hc
    rwa [hmap hread] at same

theorem map_foldCase_eq_iff {ks : List Char} (text_small : NoCapitals text)
    (small : ∀ c ∈ ks, c.isUpper = false) (within : piece <:+: text.toList) :
    ks.map foldCase = piece.map foldCase ↔ ReadsLike piece ks := by
  rw [map_foldCase small, map_foldCase fun c hc => text_small c (within.subset hc), eq_comm,
    ReadsLike]

section Small
variable (key_small : NoCapitals key) (text_small : NoCapitals text)
include key_small text_small

/-- By the rules a key matches the texts that it is a piece of. -/
theorem matches_sameLetter_iff :
    Matches SameLetter (containsPattern key.toList) text.toList ↔ key.toList <:+: text.toList := by
  have hsame : ∀ piece, piece <:+: text.toList →
      (List.Forall₂ SameLetter key.toList piece ↔ key.toList = piece) := by
    intro piece within
    have hmap := @forall₂_map_iff key.toList Char.toLower piece
    rwa [map_toLower key_small,
      map_toLower fun c hc => text_small c (within.subset hc)] at hmap
  rw [matches_containsPattern]
  constructor
  · rintro ⟨piece, within, same⟩
    rwa [(hsame piece within).mp same]
  · intro h
    exact ⟨key.toList, h, (hsame _ h).mpr rfl⟩

variable (uncut : '\x00' ∉ text.toList)
include uncut

/-- The matcher looks for pieces that read like the key. -/
theorem contains_iff_of_not_mem (whole : '\x00' ∉ key.toList) : contains key text ↔
    ∃ piece, piece <:+: text.toList ∧ ReadsLike piece key.toList := by
  rw [contains_iff, finds_iff_of_not_mem whole, beforeNul_of_not_mem uncut, List.infix_map_iff]
  exact exists_congr fun piece => and_congr_right fun within =>
    map_foldCase_eq_iff text_small key_small within

/-- Of a key with a NUL only the part before it counts, and it has to end the text. -/
theorem contains_iff_of_mem (cut : '\x00' ∈ key.toList) : contains key text ↔
    ∃ piece, piece <:+ text.toList ∧ ReadsLike piece (beforeNul key.toList) := by
  have hsmall : ∀ c ∈ beforeNul key.toList, c.isUpper = false := fun c hc =>
    key_small c ((List.takeWhile_sublist _).subset hc)
  rw [contains_iff, finds_iff_of_mem cut, beforeNul_of_not_mem uncut, List.suffix_map_iff]
  exact exists_congr fun piece => and_congr_right fun ending =>
    map_foldCase_eq_iff text_small hsmall ending.isInfix

/-- A key that is a piece of the text is found, and where no noncharacter can stand for another
character, no other one is. -/
theorem contains_iff_of_plain (plain : Plain key) (replaced : '\uFFFD' ∈ key.toList → Plain text) :
    contains key text ↔ key.toList <:+: text.toList := by
  rw [contains_iff_of_not_mem key_small text_small uncut fun h => (plain _ h).1 rfl]
  constructor
  · rintro ⟨piece, within, same⟩
    rwa [← same.eq plain fun h c hc => replaced h c (within.subset hc)]
  · intro h
    exact ⟨key.toList, h, rfl⟩

end Small

/-- How a search looks for a key in a text. By the rules it would look for the key itself; the matcher
looks for what reads like the key, and that is the key itself unless there are noncharacters. -/
structure LooksFor (key text : String) : Prop where
  ruled : Matches SameLetter (containsPattern key.toList) text.toList ↔
    key.toList <:+: text.toList
  tried : Store.tryKey (some key) text = .ofBool (contains key text)
  found : key.toList <:+: text.toList → contains key text
  whole : '\x00' ∉ key.toList → (contains key text ↔
    ∃ piece, piece <:+: text.toList ∧ ReadsLike piece key.toList)
  cut : '\x00' ∈ key.toList → (contains key text ↔
    ∃ piece, piece <:+ text.toList ∧ ReadsLike piece (beforeNul key.toList))
  plain : Plain key → ('\uFFFD' ∈ key.toList → Plain text) →
    (contains key text ↔ key.toList <:+: text.toList)
  wildcards : (∀ c ∈ key.toList, c ∈ ['%', '_', '\\']) →
    (contains key text ↔ key.toList <:+: text.toList)

/-- A key without capital letters, such as every search key, is looked for literally in a text without
them, whatever wildcards it has and wherever it has them, as long as its pattern is not too long. Only
a noncharacter, or a NUL in the key, is not taken for itself. -/
theorem looksFor_literally (fits : patternFits key) (key_small : NoCapitals key)
    (text_small : NoCapitals text) (uncut : '\x00' ∉ text.toList) :
    LooksFor key text ∧
      ∀ s, NoCapitals (searchKey s) ∧ ('\x00' ∉ s.toList → '\x00' ∉ (searchKey s).toList) := by
  have hplain : Plain key → ('\uFFFD' ∈ key.toList → Plain text) →
      (contains key text ↔ key.toList <:+: text.toList) :=
    contains_iff_of_plain key_small text_small uncut
  refine ⟨⟨matches_sameLetter_iff key_small text_small, ?_, fun h => ?_,
    contains_iff_of_not_mem key_small text_small uncut,
    contains_iff_of_mem key_small text_small uncut, hplain, fun h => ?_⟩, fun s => ?_⟩
  · exact if_pos fits
  · have hwhole : '\x00' ∉ key.toList := fun hmem => uncut (h.subset hmem)
    exact (contains_iff_of_not_mem key_small text_small uncut hwhole).mpr ⟨key.toList, h, rfl⟩
  · refine hplain (fun c hc => ?_) fun hmem => absurd (h _ hmem) (by decide)
    have hall : ∀ c ∈ ['%', '_', '\\'], IsPlain c := by simp [IsPlain]
    exact hall c (h c hc)
  · refine ⟨noCapitals_searchKey s, fun huncut hmem => ?_⟩
    obtain ⟨-, hs | hplain⟩ := mem_searchKey hmem
    · exact huncut hs
    · exact hplain.1 rfl

/-- A key with all three wildcards, where it is written and where only the wildcards would match. -/
theorem looksFor_literally_wildcards :
    patternFits "50%_\\" ∧ NoCapitals "50%_\\" ∧ NoCapitals "save 50%_\\!" ∧
      NoCapitals "save 500\\!" ∧ '\x00' ∉ "save 50%_\\!".toList ∧ '\x00' ∉ "save 500\\!".toList ∧
      contains "50%_\\" "save 50%_\\!" ∧ ¬ contains "50%_\\" "save 500\\!" := by
  have fits : patternFits "50%_\\" := by decide +kernel
  have small : NoCapitals "50%_\\" := by decide +kernel
  have written : NoCapitals "save 50%_\\!" := by decide +kernel
  have matched : NoCapitals "save 500\\!" := by decide +kernel
  have uncut : '\x00' ∉ "save 50%_\\!".toList := by decide +kernel
  have uncut' : '\x00' ∉ "save 500\\!".toList := by decide +kernel
  have plain : Plain "50%_\\" := by decide +kernel
  have unreplaced : '\uFFFD' ∉ "50%_\\".toList := by decide +kernel
  have hfound := (looksFor_literally fits small written uncut).1.found (by decide +kernel)
  have hmissed := (looksFor_literally fits small matched uncut').1.plain plain fun h =>
    absurd h unreplaced
  refine ⟨fits, small, written, matched, uncut, uncut', hfound, ?_⟩
  rw [hmissed]
  decide +kernel

/-- A noncharacter between wildcards is found where a replacement character stands. -/
theorem noncharacter_matched :
    patternFits "%\uFFFF_" ∧ NoCapitals "%\uFFFF_" ∧ NoCapitals "50%\uFFFD_\\" ∧
      '\x00' ∉ "50%\uFFFD_\\".toList ∧ searchKey "%\uFFFF_" = "%\uFFFF_" ∧
      Store.tryKey (some "%\uFFFF_") "50%\uFFFD_\\" = .holds ∧
      ¬ "%\uFFFF_".toList <:+: "50%\uFFFD_\\".toList := by
  decide +kernel

end BookExchange.Text
