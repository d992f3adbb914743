import BookExchange.Text.Like
import Mathlib.Data.List.Forall2
import Mathlib.Data.List.Infix
import Mathlib.Data.List.TakeWhile

/-! What a pattern matches, said without a matcher. The pattern made of a key matches the texts that
have the key in them, wildcards and all, as long as no NUL cuts the key or the text short. -/
namespace BookExchange.Text
variable {key text p cs : List Char}

/-! The rules of patterns. -/

/-- A percent sign matches any run of characters and an underscore any one character; an escaped
character and any other one match a character that is the same as far as the comparison goes. -/
inductive Matches (same : Char → Char → Prop) : List Char → List Char → Prop where
  | nil : Matches same [] []
  | percent {p front back : List Char} :
      Matches same p back → Matches same ('%' :: p) (front ++ back)
  | underscore {p cs : List Char} {c : Char} : Matches same p cs → Matches same ('_' :: p) (c :: cs)
  | escaped {p cs : List Char} {c d : Char} :
      same d c → Matches same p cs → Matches same ('\\' :: d :: p) (c :: cs)
  | literal {p cs : List Char} {c d : Char} : d ≠ '%' → d ≠ '_' → d ≠ '\\' →
      same d c → Matches same p cs → Matches same (d :: p) (c :: cs)

section Rules
variable {same : Char → Char → Prop} {d : Char}

theorem matches_nil : Matches same [] cs ↔ cs = [] := by
  constructor
  · intro h
    cases h
    rfl
  · rintro rfl
    exact .nil

/-- A percent sign leaves the rest of the pattern any end of the text. -/
theorem matches_percent :
    Matches same ('%' :: p) cs ↔ ∃ back, back <:+ cs ∧ Matches same p back := by
  constructor
  · intro h
    cases h with
    | percent h => exact ⟨_, List.suffix_append _ _, h⟩
    | literal hne => exact absurd rfl hne
  · rintro ⟨back, ⟨front, rfl⟩, h⟩
    exact .percent h

theorem matches_percent_end : Matches same ['%'] cs :=
  matches_percent.mpr ⟨[], List.nil_suffix, .nil⟩

theorem matches_underscore :
    Matches same ('_' :: p) cs ↔ ∃ c rest, cs = c :: rest ∧ Matches same p rest := by
  constructor
  · intro h
    cases h with
    | underscore h => exact ⟨_, _, rfl, h⟩
    | literal _ hne => exact absurd rfl hne
  · rintro ⟨c, rest, rfl, h⟩
    exact .underscore h

theorem matches_escaped : Matches same ('\\' :: d :: p) cs ↔
    ∃ c rest, cs = c :: rest ∧ same d c ∧ Matches same p rest := by
  constructor
  · intro h
    cases h with
    | escaped hsame h => exact ⟨_, _, rfl, hsame, h⟩
    | literal _ _ hne => exact absurd rfl hne
  · rintro ⟨c, rest, rfl, hsame, h⟩
    exact .escaped hsame h

/-- A pattern does not match when nothing is left to escape. -/
theorem not_matches_lone : ¬ Matches same ['\\'] cs := by
  intro h
  cases h with
  | literal _ _ hne => exact absurd rfl hne

theorem matches_literal (hp : d ≠ '%') (hu : d ≠ '_') (hb : d ≠ '\\') :
    Matches same (d :: p) cs ↔ ∃ c rest, cs = c :: rest ∧ same d c ∧ Matches same p rest := by
  constructor
  · intro h
    cases h with
    | percent => exact absurd rfl hp
    | underscore => exact absurd rfl hu
    | escaped => exact absurd rfl hb
    | literal _ _ _ hsame h => exact ⟨_, _, rfl, hsame, h⟩
  · rintro ⟨c, rest, rfl, hsame, h⟩
    exact .literal hp hu hb hsame h

/-- With its wildcards escaped a key matches itself alone, as far as the comparison goes. -/
theorem matches_escapeWildcards : Matches same (escapeWildcards key ++ p) cs ↔
    ∃ piece rest, cs = piece ++ rest ∧ List.Forall₂ same key piece ∧ Matches same p rest := by
  induction key generalizing cs with
  | nil => simp [escapeWildcards]
  | cons d key ih =>
    have hcons : Matches same (escapeWildcards (d :: key) ++ p) cs ↔ ∃ c rest, cs = c :: rest ∧
        same d c ∧ Matches same (escapeWildcards key ++ p) rest := by
      rw [escapeWildcards]
      split
      · exact matches_escaped
      · next h =>
        rw [not_or, not_or] at h
        exact matches_literal h.2.1 h.2.2 h.1
    rw [hcons]
    constructor
    · rintro ⟨c, rest, rfl, hc, h⟩
      obtain ⟨piece, rest, rfl, hpiece, hrest⟩ := ih.mp h
      exact ⟨c :: piece, rest, rfl, .cons hc hpiece, hrest⟩
    · rintro ⟨_, rest, rfl, hkey, hrest⟩
      obtain ⟨c, piece, hc, hpiece, rfl⟩ := List.forall₂_cons_left_iff.mp hkey
      exact ⟨c, piece ++ rest, rfl, hc, ih.mpr ⟨piece, rest, rfl, hpiece, hrest⟩⟩

/-- Between a percent sign and the end, a key matches the texts that end in it. -/
theorem matches_end : Matches same ('%' :: escapeWildcards key) cs ↔
    ∃ piece, piece <:+ cs ∧ List.Forall₂ same key piece := by
  have hkey (back : List Char) :
      Matches same (escapeWildcards key) back ↔ List.Forall₂ same key back := by
    rw [← List.append_nil (escapeWildcards key), matches_escapeWildcards]
    simp [matches_nil]
  simp only [matches_percent, hkey]

/-- Between two percent signs, a key matches the texts that have it in them. -/
theorem matches_containsPattern : Matches same (containsPattern key) cs ↔
    ∃ piece, piece <:+: cs ∧ List.Forall₂ same key piece := by
  rw [containsPattern, List.cons_append, matches_percent]
  simp only [matches_escapeWildcards, matches_percent_end, and_true]
  constructor
  · rintro ⟨_, ⟨front, rfl⟩, piece, back, rfl, hpiece⟩
    exact ⟨piece, ⟨front, back, by simp⟩, hpiece⟩
  · rintro ⟨piece, ⟨front, back, rfl⟩, hpiece⟩
    exact ⟨piece ++ back, ⟨front, by simp⟩, piece, back, rfl, hpiece⟩

end Rules

/-! The matcher. -/

theorem anySuffix_iff {q : List Char → Bool} : anySuffix q cs ↔ ∃ back, back <:+ cs ∧ q back := by
  induction cs with
  | nil => simp [anySuffix]
  | cons c cs ih =>
    rw [anySuffix, Bool.or_eq_true, ih]
    simp only [List.suffix_cons_iff]
    constructor
    · rintro (h | ⟨back, hback, h⟩)
      · exact ⟨_, .inl rfl, h⟩
      · exact ⟨back, .inr hback, h⟩
    · rintro ⟨back, rfl | hback, h⟩
      · exact .inl h
      · exact .inr ⟨back, hback, h⟩

/-- The matcher goes by the rules. -/
theorem like_iff (p cs : List Char) : like p cs ↔ Matches (foldCase · = foldCase ·) p cs := by
  -- The recursion is on the length of the pattern, of which an escape takes two characters.
  cases p with
  | nil => simp [like, matches_nil]
  | cons d p =>
    by_cases hp : d = '%'
    · subst hp
      rw [like, anySuffix_iff, matches_percent]
      simp only [like_iff p]
    by_cases hu : d = '_'
    · subst hu
      rw [matches_underscore]
      cases cs with
      | nil => simp [like]
      | cons c cs => simp [like, like_iff p cs]
    by_cases hb : d = '\\'
    · subst hb
      cases p with
      | nil => simp [like, not_matches_lone]
      | cons d p =>
        rw [matches_escaped]
        cases cs with
        | nil => simp [like]
        | cons c cs => simp [like, like_iff p cs]
    · rw [matches_literal hp hu hb]
      cases cs with
      | nil => simp [like, hb]
      | cons c cs => simp [like, hb, like_iff p cs]
termination_by p.length

/-! The part of a text before its first NUL. -/

/-- The key is found in the text. Both end at their first NUL, and a key that is cut short there has
to stand at the end. -/
structure Finds (key text : List Char) : Prop where
  whole : '\x00' ∉ key → key.map foldCase <:+: (beforeNul text).map foldCase
  cut : '\x00' ∈ key → (beforeNul key).map foldCase <:+ (beforeNul text).map foldCase

theorem beforeNul_append {xs ys : List Char} (h : '\x00' ∉ xs) :
    beforeNul (xs ++ ys) = xs ++ beforeNul ys := by
  rw [beforeNul, List.takeWhile_append_of_pos]
  · rfl
  · intro c hc
    have hne : c ≠ '\x00' := ne_of_mem_of_not_mem hc h
    simpa using hne

theorem beforeNul_of_not_mem (h : '\x00' ∉ cs) : beforeNul cs = cs := by
  have happend := @beforeNul_append cs [] h
  simpa [beforeNul] using happend

theorem beforeNul_append_of_mem {xs ys : List Char} (h : '\x00' ∈ xs) :
    beforeNul (xs ++ ys) = beforeNul xs := by
  obtain ⟨front, back, rfl, hfront⟩ := List.eq_append_cons_of_mem h
  rw [List.append_assoc, beforeNul_append hfront, beforeNul_append hfront]
  rfl

theorem finds_iff_of_not_mem (whole : '\x00' ∉ key) :
    Finds key text ↔ key.map foldCase <:+: (beforeNul text).map foldCase :=
  ⟨fun h => h.whole whole, fun h => ⟨fun _ => h, fun cut => absurd cut whole⟩⟩

theorem finds_iff_of_mem (cut : '\x00' ∈ key) :
    Finds key text ↔ (beforeNul key).map foldCase <:+ (beforeNul text).map foldCase :=
  ⟨fun h => h.cut cut, fun h => ⟨fun whole => absurd cut whole, fun _ => h⟩⟩

/-- A key is found where it stands, if no NUL stands before it. -/
theorem finds_of_infix {pre post : List Char} (h : '\x00' ∉ pre) :
    Finds key (pre ++ key ++ post) := by
  rw [List.append_assoc]
  constructor
  · intro hkey
    rw [beforeNul_append h, beforeNul_append hkey, ← List.append_assoc]
    exact (List.infix_append pre key (beforeNul post)).map foldCase
  · intro hkey
    rw [beforeNul_append h, beforeNul_append_of_mem hkey]
    exact (List.suffix_append pre (beforeNul key)).map foldCase

theorem beforeNul_escapeWildcards : beforeNul (escapeWildcards key ++ p) =
    if '\x00' ∈ key then escapeWildcards (beforeNul key)
    else escapeWildcards key ++ beforeNul p := by
  induction key with
  | nil => simp [escapeWildcards]
  | cons d key ih =>
    by_cases hd : d = '\x00'
    · subst hd
      simp [escapeWildcards, beforeNul]
    · have hcons : beforeNul (d :: key) = d :: beforeNul key := by simp [beforeNul, hd]
      have hesc : beforeNul (escapeWildcards (d :: key) ++ p) =
          (if d = '\\' ∨ d = '%' ∨ d = '_' then ['\\', d] else [d]) ++
            beforeNul (escapeWildcards key ++ p) := by
        rw [escapeWildcards]
        split <;> simp [beforeNul, hd]
      rw [hesc, ih, hcons]
      simp only [List.mem_cons, Ne.symm hd, false_or]
      split <;> simp [escapeWildcards] <;> split <;> simp

theorem forall₂_map_iff {f : Char → Char} {piece : List Char} :
    List.Forall₂ (f · = f ·) key piece ↔ key.map f = piece.map f := by
  rw [← List.forall₂_eq_eq_eq, List.forall₂_map_left_iff, List.forall₂_map_right_iff]

/-- The pattern of a key that is cut short has lost its last percent sign. -/
theorem beforeNul_containsPattern : beforeNul (containsPattern key) =
    if '\x00' ∈ key then '%' :: escapeWildcards (beforeNul key) else containsPattern key := by
  have hpattern : beforeNul (containsPattern key) =
      '%' :: beforeNul (escapeWildcards key ++ ['%']) := by
    simp [containsPattern, beforeNul]
  have hpercent : beforeNul ['%'] = ['%'] := by decide
  rw [hpattern, beforeNul_escapeWildcards, hpercent]
  split <;> rfl

/-- The pattern made of a key matches a text when the key is found in the text. -/
theorem contains_iff {key text : String} :
    contains key text ↔ Finds key.toList text.toList := by
  rw [contains, like_iff, beforeNul_containsPattern]
  split
  · next cut =>
    rw [matches_end, finds_iff_of_mem cut, List.suffix_map_iff]
    simp only [forall₂_map_iff]
  · next whole =>
    rw [matches_containsPattern, finds_iff_of_not_mem whole, List.infix_map_iff]
    simp only [forall₂_map_iff]

end BookExchange.Text
