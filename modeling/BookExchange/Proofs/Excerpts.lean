import BookExchange.Proofs.ByteOrder
import BookExchange.Proofs.Summaries

/-! A summary that is made of a description alone is the trimmed description, or the beginning of it
with three dots. The place of the cut is a number of bytes, found by counting characters; it lies
between two characters, and as many stand before it as were asked for. -/
namespace BookExchange

namespace Text
variable {cs : List Char} {s : String} {c : Char} {n cut : Nat}

/-! Bytes and characters. -/

theorem encodeUtf8_append (s t : String) : encodeUtf8 (s ++ t) = encodeUtf8 s ++ encodeUtf8 t := by
  rw [encodeUtf8_eq, encodeUtf8_eq, encodeUtf8_eq, String.toList_append, List.flatMap_append]

theorem length_encodeUtf8 (s : String) : (encodeUtf8 s).length = s.utf8ByteSize := by
  rw [encodeUtf8, Array.length_toList]
  rfl

/-- The characters of a text, each with the byte at which it begins. -/
def byteIndices (start : Nat) : List Char → List (Nat × Char)
  | [] => []
  | c :: cs => (start, c) :: byteIndices (start + c.utf8Size) cs

theorem length_byteIndices (start : Nat) (cs : List Char) :
    (byteIndices start cs).length = cs.length := by
  induction cs generalizing start with
  | nil => rfl
  | cons c cs ih => simp [byteIndices, ih]

/-- A character begins where the bytes of all that stand before it end. -/
theorem getElem?_byteIndices (start : Nat) (front : List Char) (c : Char) (back : List Char) :
    (byteIndices start (front ++ c :: back))[front.length]? =
      some (start + (encodeUtf8 (String.ofList front)).length, c) := by
  induction front generalizing start with
  | nil => simp [byteIndices, encodeUtf8_eq]
  | cons d front ih =>
    simp only [List.cons_append, byteIndices, List.length_cons, List.getElem?_cons_succ, ih,
      encodeUtf8_eq, String.toList_ofList, List.flatMap_cons, List.length_append,
      String.length_utf8EncodeChar, Nat.add_assoc]

/-- A text split before one of its characters. -/
theorem exists_split (h : n < s.length) :
    ∃ front c back, s = String.ofList (front ++ c :: back) ∧ front.length = n := by
  have hn : n < s.toList.length := by rwa [String.length_toList]
  refine ⟨s.toList.take n, s.toList[n], s.toList.drop (n + 1), ?_, ?_⟩
  · rw [List.getElem_cons_drop, List.take_append_drop, String.ofList_toList]
  · rw [List.length_take, Nat.min_eq_left (Nat.le_of_lt hn)]

/-- Where a character begins, no other one is cut in two. -/
theorem isValid_of_byteIndices (h : (byteIndices 0 s.toList)[n]? = some (cut, c)) :
    String.Pos.Raw.IsValid s ⟨cut⟩ := by
  obtain ⟨hn, -⟩ := List.getElem?_eq_some_iff.mp h
  rw [length_byteIndices, String.length_toList] at hn
  obtain ⟨front, d, back, rfl, rfl⟩ := exists_split hn
  rw [String.toList_ofList, getElem?_byteIndices, Nat.zero_add] at h
  cases h
  refine String.Pos.Raw.isValid_iff_exists_append.mpr ⟨_, _, String.ofList_append, ?_⟩
  rw [length_encodeUtf8]
  rfl

/-! Cutting at a byte. -/

/-- The text in bytes; if there is a character with `n` others before it, the text is cut where that
one begins, and marked. -/
def cutBytes (n : Nat) (s : String) : List UInt8 :=
  match (byteIndices 0 s.toList)[n]? with
  | some (cut, _) => (encodeUtf8 s).take cut ++ encodeUtf8 "..."
  | none => encodeUtf8 s

theorem cutBytes_of_le (h : s.length ≤ n) : cutBytes n s = encodeUtf8 s := by
  have hnone : (byteIndices 0 s.toList)[n]? = none :=
    List.getElem?_eq_none (by rwa [length_byteIndices, String.length_toList])
  rw [cutBytes, hnone]

theorem cutBytes_of_lt (h : n < s.length) :
    cutBytes n s = encodeUtf8 (String.ofList (s.toList.take n ++ ['.', '.', '.'])) := by
  obtain ⟨front, c, back, rfl, rfl⟩ := exists_split h
  rw [cutBytes, String.toList_ofList, getElem?_byteIndices, Nat.zero_add, List.take_left,
    String.ofList_append, String.ofList_append, encodeUtf8_append, encodeUtf8_append]
  exact congrArg (· ++ _) List.take_left

end Text

namespace Summary
open Text
variable {maxChars : Nat} {description : String}

theorem ofDescription_of_blank (blank : trim description = "") :
    ofDescription maxChars description = "No summary available." := if_pos blank

theorem ofDescription_of_le (nonblank : trim description ≠ "")
    (short : (trim description).length ≤ maxChars) :
    ofDescription maxChars description = trim description := by
  rw [ofDescription, if_neg nonblank, if_pos short]

theorem ofDescription_of_lt (long : maxChars < (trim description).length) :
    ofDescription maxChars description =
      String.ofList ((trim description).toList.take maxChars ++ ['.', '.', '.']) := by
  have nonblank : trim description ≠ "" := by
    intro blank
    rw [blank] at long
    exact Nat.not_lt_zero _ long
  rw [ofDescription, if_neg nonblank, if_neg (Nat.not_le.mpr long)]

/-- What a summary is to be for a description of which at most `maxChars` characters are wanted. -/
structure IsExcerpt (maxChars : Nat) (description summary : String) : Prop where
  blank : trim description = "" → summary = "No summary available."
  whole : trim description ≠ "" → (trim description).length ≤ maxChars →
    summary = trim description
  cut : maxChars < (trim description).length → ∃ front back : String,
    trim description = front ++ back ∧ front.length = maxChars ∧ summary = front ++ "..."
  counted : trim description ≠ "" → encodeUtf8 summary = cutBytes maxChars (trim description)
  between : ∀ cut c, (byteIndices 0 (trim description).toList)[maxChars]? = some (cut, c) →
    String.Pos.Raw.IsValid (trim description) ⟨cut⟩
  written : Written summary
  bounded : summary.length ≤ max 21 (maxChars + 3)

theorem encodeUtf8_ofDescription (nonblank : trim description ≠ "") :
    encodeUtf8 (ofDescription maxChars description) = cutBytes maxChars (trim description) := by
  obtain long | short := Nat.lt_or_ge maxChars (trim description).length
  · rw [ofDescription_of_lt long, cutBytes_of_lt long]
  · rw [ofDescription_of_le nonblank short, cutBytes_of_le short]

theorem length_ofDescription_le (maxChars : Nat) (description : String) :
    (ofDescription maxChars description).length ≤ max 21 (maxChars + 3) := by
  by_cases blank : trim description = ""
  · have hempty : "No summary available.".length = 21 := by decide +kernel
    rw [ofDescription_of_blank blank, hempty]
    exact Nat.le_max_left _ _
  · refine Nat.le_trans ?_ (Nat.le_max_right _ _)
    obtain long | short := Nat.lt_or_ge maxChars (trim description).length
    · rw [ofDescription_of_lt long, String.length_ofList, List.length_append, List.length_take]
      exact Nat.add_le_add_right (Nat.min_le_left _ _) 3
    · rw [ofDescription_of_le blank short]
      omega

/-- Whatever the description and however many characters are wanted, a description makes its
summary. -/
theorem isExcerpt_ofDescription (maxChars : Nat) (description : String) :
    IsExcerpt maxChars description (ofDescription maxChars description) where
  blank := ofDescription_of_blank
  whole := ofDescription_of_le
  cut long := by
    obtain ⟨front, c, back, htext, hfront⟩ := exists_split long
    refine ⟨String.ofList front, String.ofList (c :: back), ?_, ?_, ?_⟩
    · rw [htext, String.ofList_append]
    · rw [String.length_ofList, hfront]
    · rw [ofDescription_of_lt long, htext, String.toList_ofList, ← hfront, List.take_left,
        String.ofList_append]
  counted := encodeUtf8_ofDescription
  between _ _ := isValid_of_byteIndices
  written := written_ofDescription maxChars description
  bounded := length_ofDescription_le maxChars description

/-- Characters of one, two and three bytes; none is cut in two. -/
example : ofDescription 3 " né€s " = "né€..." ∧ ofDescription 0 "né€s" = "..." ∧
    ofDescription 4 "né€s" = "né€s" := by decide +kernel

end Summary

end BookExchange
