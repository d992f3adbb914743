import BookExchange.Proofs.Searching

/-! A book is found by what is written on it: by any piece of its title, of its author or of its
owner's city, as long as the piece keeps its lower case and no NUL stands before it. -/
namespace BookExchange
open Text

namespace Catalogue
variable {s : Store} {b : Book} {text whole : String}

/-- What of a book a filter looks at. -/
inductive Aspect where
  | title
  | author
  | city
deriving DecidableEq, Repr

namespace Aspect

/-- The query with one filter. -/
def query (text : String) : Aspect → Query
  | .title => { title := some text }
  | .author => { author := some text }
  | .city => { city := some text }

/-- The text that the filter looks at. -/
def text? (s : Store) (b : Book) : Aspect → Option String
  | .title => some b.title
  | .author => some b.author
  | .city => (s.users.get? b.owner).map (·.city)

variable {aspect : Aspect}

theorem selects_iff (written : aspect.text? s b = some whole) (nonblank : trim text ≠ "") :
    (aspect.query text).Selects FoundIn s b ↔ FoundIn text whole := by
  cases aspect with
  | title =>
    cases written
    constructor
    · intro h
      exact h.title text rfl nonblank
    · intro h
      exact ⟨by simp [query, h], by simp [query], by simp [query], by simp [query], by simp [query]⟩
  | author =>
    cases written
    constructor
    · intro h
      exact h.author text rfl nonblank
    · intro h
      exact ⟨by simp [query], by simp [query, h], by simp [query], by simp [query], by simp [query]⟩
  | city =>
    obtain ⟨owner, howner, rfl⟩ := Option.map_eq_some_iff.mp written
    constructor
    · intro h
      obtain ⟨owner', howner', hfound⟩ := h.city text rfl nonblank
      cases howner.symm.trans howner'
      exact hfound
    · intro h
      exact ⟨by simp [query], by simp [query], by simp [query, howner, h], by simp [query],
        by simp [query]⟩

theorem askedStatus_query (aspect : Aspect) (text : String) :
    (aspect.query text).askedStatus = .ok none := by
  cases aspect <;> rfl

theorem fits_query (fits : patternFits (searchKey text)) : (aspect.query text).Fits := by
  intro text' h
  cases aspect <;> simp only [query, Option.some.injEq, reduceCtorEq, or_false, false_or] at h <;>
    exact h ▸ fits

end Aspect

end Catalogue

namespace Market
open Catalogue
variable {allowed : List Store → Command → Prop} {log : List Event} {s : Store} {b : Book}
  {text whole : String}

/-- A search with one filter answers with a live book when the filter is found in the book's text.
Wherever the text has the filter written in it, the piece makes the same key there as it makes alone
exactly when its capital sigmas keep their lower case, and then the book is found, unless a NUL cuts
the text short before the piece. -/
theorem Run.finds_written (run : Run allowed .fresh log s) (live : s.book? b.id = .ok (some b))
    (aspect : Aspect) (written : aspect.text? s b = some whole) (nonblank : trim text ≠ "")
    (fits : patternFits (searchKey text)) :
    ∃ L, (aspect.query text).Lists FoundIn s L ∧ (aspect.query text).Pages s L ∧
      (b ∈ L ↔ FoundIn text whole) ∧ ∀ pre post, whole.toList = pre ++ trimmed text.toList ++ post →
        (∃ front back, (searchKey whole).toList =
          front ++ pieceKey pre (trimmed text.toList) post ++ back) ∧
        (pieceKey pre (trimmed text.toList) post = (searchKey text).toList ↔
          KeepsSigmas pre (trimmed text.toList) post) ∧
        ('\x00' ∉ pre → KeepsSigmas pre (trimmed text.toList) post → b ∈ L) := by
  have asked := aspect.askedStatus_query text
  have hlists := Store.lists_listing run.keyed asked
  have nonempty : trimmed text.toList ≠ [] := fun h => nonblank (by rw [trim, h])
  have hmem : b ∈ s.listing ((aspect.query text).search none) ↔ FoundIn text whole := by
    rw [hlists.members, Aspect.selects_iff written nonblank]
    exact and_iff_right live
  refine ⟨_, hlists, pages_of_lists hlists run.keyed (Aspect.fits_query fits) asked, hmem,
    fun pre post occurs => ⟨?_, ?_, fun uncut keeps => ?_⟩⟩
  · obtain ⟨front, back, hkey, -⟩ := searchKey_of_piece occurs nonempty
    exact ⟨front, back, hkey⟩
  · rw [searchKey, String.toList_ofList]
    exact pieceKey_eq_iff
  · exact hmem.mpr (foundIn_of_piece occurs nonempty uncut keeps)

/-- A whole word is found, though its last letter is a sigma. -/
theorem Run.finds_written_word :
    (shelf "Ο ΜΥΘΟΣ ΤΟΥ ΣΙΣΥΦΟΥ").book? 1 = .ok (some (shelved "Ο ΜΥΘΟΣ ΤΟΥ ΣΙΣΥΦΟΥ")) ∧
      trim " ΜΥΘΟΣ " ≠ "" ∧ patternFits (searchKey " ΜΥΘΟΣ ") ∧
      ∃ L, (Aspect.title.query " ΜΥΘΟΣ ").Pages (shelf "Ο ΜΥΘΟΣ ΤΟΥ ΣΙΣΥΦΟΥ") L ∧
        shelved "Ο ΜΥΘΟΣ ΤΟΥ ΣΙΣΥΦΟΥ" ∈ L := by
  have live : (shelf "Ο ΜΥΘΟΣ ΤΟΥ ΣΙΣΥΦΟΥ").book? (shelved "Ο ΜΥΘΟΣ ΤΟΥ ΣΙΣΥΦΟΥ").id =
      .ok (some (shelved "Ο ΜΥΘΟΣ ΤΟΥ ΣΙΣΥΦΟΥ")) := by decide +kernel
  have nonblank : trim " ΜΥΘΟΣ " ≠ "" := by decide +kernel
  have fits : patternFits (searchKey " ΜΥΘΟΣ ") := by decide +kernel
  obtain ⟨L, -, hpages, -, hfinds⟩ := Run.finds_written (run_shelf _) live .title rfl nonblank fits
  obtain ⟨-, -, hfound⟩ := hfinds "Ο ".toList " ΤΟΥ ΣΙΣΥΦΟΥ".toList (by decide +kernel)
  have hb := hfound (by decide) (keepsSigmas_of_words (by decide +kernel) (by decide +kernel))
  exact ⟨live, nonblank, fits, L, hpages, hb⟩

/-- The first letters of a title are not found when the last of them is a sigma: alone it ends a
word, and in the title it does not. -/
theorem sigma_missed : ∃ log s b, Run (fun _ => Command.IsService) .fresh log s ∧
    s.book? b.id = .ok (some b) ∧ b.title.toList = trimmed "ΟΔΥΣ".toList ++ "ΣΕΙΑ".toList ∧
      trim "ΟΔΥΣ" ≠ "" ∧ patternFits (searchKey "ΟΔΥΣ") ∧ ¬ PartOf "ΟΔΥΣ" b.title ∧
      (Command.service id (.searchBooks (Aspect.title.query "ΟΔΥΣ"))).answer s =
        .ok (.page ⟨[], 1, 10, 0, 0⟩) := by
  have hpart : ¬ (searchKey "ΟΔΥΣ").toList <:+: (searchKey "ΟΔΥΣΣΕΙΑ").toList := by decide +kernel
  exact ⟨_, _, shelved "ΟΔΥΣΣΕΙΑ", run_shelf "ΟΔΥΣΣΕΙΑ", by decide +kernel, by decide +kernel,
    by decide +kernel, by decide +kernel, hpart, by decide +kernel⟩

end Market

end BookExchange
