import BookExchange.Proofs.Folding
import BookExchange.Summary

/-! Texts as they are kept: with something in them, and no white space at their ends. A summary is one,
whatever book it is written for and whatever the summary service answers. -/
namespace BookExchange

namespace Text
variable {s t : String} {cs : List Char}

/-- There is something in the text, and no white space at its ends. -/
structure Written (s : String) : Prop where
  trimmed : trim s = s
  nonempty : s ≠ ""

theorem written_trim (h : trim s ≠ "") : Written (trim s) := ⟨trim_trim s, h⟩

theorem nonBlank?_eq_some : nonBlank? s = some t ↔ t = trim s ∧ t ≠ "" := by
  rw [nonBlank?]
  split
  · next blank => simp [blank]
  · next nonblank =>
    rw [Option.some.injEq]
    constructor
    · rintro rfl
      exact ⟨rfl, nonblank⟩
    · exact fun h => h.1.symm

theorem written_of_nonBlank? (h : nonBlank? s = some t) : Written t := by
  obtain ⟨rfl, nonempty⟩ := nonBlank?_eq_some.mp h
  exact written_trim nonempty

theorem written_ofList (tight : Tight cs) (nonempty : cs ≠ []) : Written (String.ofList cs) where
  trimmed := by rw [trim, String.toList_ofList, trimmed_of_tight tight]
  nonempty := by simpa using nonempty

theorem Written.getD {text? : Option String} (h : ∀ t, text? = some t → Written t) (hs : Written s) :
    Written (text?.getD s) := by
  cases text? with
  | none => exact hs
  | some t => exact h t rfl

/-- A cut text with its mark. -/
theorem tight_take_append (tight : Tight cs) (n : Nat) {mark : List Char} (marked : Tight mark)
    (nonempty : mark ≠ []) : Tight (cs.take n ++ mark) := by
  constructor
  · intro c hc
    rw [List.head?_append] at hc
    cases n with
    | zero => exact marked.head c (by simpa using hc)
    | succ n =>
      cases cs with
      | nil => exact marked.head c (by simpa using hc)
      | cons a rest => exact tight.head c (by simpa using hc)
  · intro c hc
    rw [List.getLast?_append_of_ne_nil _ nonempty] at hc
    exact marked.last c hc

end Text

namespace Summary
open Text

theorem tight_dots : Tight ['.', '.', '.'] := by
  constructor <;>
  · intro c hc
    cases hc
    rfl

theorem written_ofDescription (maxChars : Nat) (description : String) :
    Written (ofDescription maxChars description) := by
  rw [ofDescription]
  by_cases blank : trim description = ""
  · rw [if_pos blank]
    exact ⟨by decide +kernel, by decide +kernel⟩
  · rw [if_neg blank]
    split
    · exact written_trim blank
    · have htight : Tight (trim description).toList := by
        rw [trim, String.toList_ofList]
        exact tight_trimmed _
      exact written_ofList (tight_take_append htight maxChars tight_dots (by simp)) (by simp)

theorem written_of_textOf? {body : Json} {text : String} (h : textOf? body = some text) :
    Written text := by
  rw [textOf?] at h
  obtain ⟨v, -, h⟩ := Option.bind_eq_some_iff.mp h
  obtain ⟨s, -, h⟩ := Option.bind_eq_some_iff.mp h
  exact written_of_nonBlank? h

/-- The service may be there or not and reply what it will. -/
theorem written_ofService (apiKey : Option String) (maxChars : Nat)
    (ask : String → String → Option Reply) (description : String) :
    Written (ofService apiKey maxChars ask description) := by
  refine Written.getD (fun text h => ?_) (written_ofDescription maxChars description)
  obtain ⟨key, -, h⟩ := Option.bind_eq_some_iff.mp h
  obtain ⟨reply, -, h⟩ := Option.bind_eq_some_iff.mp h
  split at h
  · obtain ⟨body, -, h⟩ := Option.bind_eq_some_iff.mp h
    exact written_of_textOf? h
  · cases h

/-- The summaries are the beginnings of the descriptions, or come from a summary service. -/
inductive Made : (String → String) → Prop where
  | ofDescription (maxChars : Nat) : Made (Summary.ofDescription maxChars)
  | ofService (apiKey : Option String) (maxChars : Nat) (ask : String → String → Option Reply) :
      Made (Summary.ofService apiKey maxChars ask)

theorem Made.written {summarize : String → String} (h : Made summarize) (description : String) :
    Written (summarize description) := by
  cases h with
  | ofDescription maxChars => exact written_ofDescription maxChars description
  | ofService apiKey maxChars ask => exact written_ofService apiKey maxChars ask description

end Summary

end BookExchange
