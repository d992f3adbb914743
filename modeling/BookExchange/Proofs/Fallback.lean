import BookExchange.Proofs.Summaries

/-! What a summary is made of. The service is asked with a usable key only; its reply counts when it is
a success whose body offers a text with something in it, and in all other cases the summary is the
beginning of the description. -/
namespace BookExchange

namespace Json

/-- The value has another one under a name: a table its member, an array the item whose number the
name is. -/
inductive Has : Json → String → Json → Prop
  | member {members : List (String × Json)} {name : String} {w : Json}
      (found : (object members).member? name = some w) : Has (object members) name w
  | item {items : List Json} {i : Nat} {w : Json} (found : items[i]? = some w) :
      Has (array items) (toString i) w

/-- The value has another one at the end of a path. -/
inductive At : Json → List String → Json → Prop
  | here (v : Json) : At v [] v
  | under {v w u : Json} {name : String} {path : List String} (step : v.Has name w)
      (rest : w.At path u) : At v (name :: path) u

variable {v w u : Json} {name : String} {path : List String}

theorem at_nil : v.At [] w ↔ w = v := by
  constructor
  · intro h
    cases h
    rfl
  · intro h
    exact h ▸ .here v

theorem at_cons : v.At (name :: path) u ↔ ∃ w, v.Has name w ∧ w.At path u := by
  constructor
  · intro h
    cases h with
    | under step rest => exact ⟨_, step, rest⟩
  · intro h
    obtain ⟨w, step, rest⟩ := h
    exact .under step rest

/-- A name that is no number is the name of a member. -/
theorem has_iff_member (letter : ∃ c ∈ name.toList, c.isDigit = false) :
    v.Has name w ↔ v.member? name = some w := by
  constructor
  · intro h
    cases h with
    | member found => exact found
    | @item items i w found =>
      obtain ⟨c, hc, hdigit⟩ := letter
      rw [Nat.toString_eq_repr, Nat.toList_repr] at hc
      have hdigit' := Nat.isDigit_of_mem_toDigits (by decide) (by decide) hc
      rw [hdigit] at hdigit'
      cases hdigit'
  · intro h
    cases v with
    | object members => exact .member h
    | _ => cases h

theorem has_array_iff {items : List Json} :
    (array items).Has name w ↔ ∃ i : Nat, name = toString i ∧ items[i]? = some w := by
  constructor
  · intro h
    cases h with
    | item found => exact ⟨_, rfl, found⟩
  · intro h
    obtain ⟨i, rfl, found⟩ := h
    exact .item found

/-- The first item of an array has the number zero, and no other item has it. -/
theorem has_zero_iff : v.Has "0" w ↔ Summary.first? v = some w := by
  cases v with
  | array items =>
    rw [has_array_iff]
    constructor
    · intro h
      obtain ⟨i, hname, found⟩ := h
      have hvalue := congrArg (fun name : String => Nat.ofDigitChars 10 name.toList 0) hname
      simp only [Nat.toString_eq_repr, Nat.toList_repr, Nat.ofDigitChars_ten_toDigits] at hvalue
      subst hvalue
      exact found
    · exact fun found => ⟨0, rfl, found⟩
  | object members =>
    constructor
    · intro h
      generalize hname : "0" = name at h
      cases h with
      | member found =>
        subst hname
        exact found
    · exact fun found => .member found
  | _ =>
    constructor
    · intro h
      cases h
    · intro h
      cases h

end Json

namespace Summary
open Text
variable {body v : Json} {apiKey : Option String} {key text description : String} {maxChars : Nat}
  {ask : String → String → Option Reply}

/-- The value in which a body offers its text: the text of the first choice, if there is such a value,
and otherwise the text on the top level. -/
def Offers (body v : Json) : Prop :=
  body.At ["choices", "0", "text"] v ∨
    (∀ w, ¬ body.At ["choices", "0", "text"] w) ∧ body.At ["text"] v

/-- A request can be made with the key: there is something in it once it is trimmed, and it can stand
in a header. -/
def Usable (apiKey : Option String) (key : String) : Prop :=
  ∃ given, apiKey = some given ∧ key = trim given ∧ key ≠ "" ∧
    ∀ c ∈ key.toList, c = '\t' ∨ 0x20 ≤ c.toNat ∧ c.toNat ≠ 0x7F

/-- The service, asked with the key, replies with success and offers the text. -/
def Served (apiKey : Option String) (ask : String → String → Option Reply)
    (description text : String) : Prop :=
  ∃ key reply body s, Usable apiKey key ∧ ask key (prompt description) = some reply ∧
    200 ≤ reply.status ∧ reply.status < 300 ∧ Json.ofBytes? reply.body = some body ∧
    Offers body (.text s) ∧ text = trim s ∧ text ≠ ""

theorem at_text : body.At ["text"] v ↔ body.member? "text" = some v := by
  have letter : ∃ c ∈ "text".toList, c.isDigit = false := ⟨'t', by decide, by decide⟩
  simp [Json.at_cons, Json.at_nil, Json.has_iff_member letter]

theorem at_choice : body.At ["choices", "0", "text"] v ↔
    (body.member? "choices" >>= first?) >>= (·.member? "text") = some v := by
  have letter : ∃ c ∈ "choices".toList, c.isDigit = false := ⟨'c', by decide, by decide⟩
  have hchoice {choices w : Json} : choices.At ["0", "text"] w ↔
      ∃ choice, first? choices = some choice ∧ choice.member? "text" = some w := by
    rw [Json.at_cons]
    simp only [Json.has_zero_iff, at_text]
  rw [Json.at_cons]
  simp only [hchoice, Json.has_iff_member letter]
  simp only [bind, Option.bind_eq_some_iff]
  constructor
  · intro h
    obtain ⟨choices, hchoices, choice, hchoice, htext⟩ := h
    exact ⟨choice, ⟨choices, hchoices, hchoice⟩, htext⟩
  · intro h
    obtain ⟨choice, ⟨choices, hchoices, hchoice⟩, htext⟩ := h
    exact ⟨choices, hchoices, choice, hchoice, htext⟩

theorem offers_iff : Offers body v ↔
    ((body.member? "choices" >>= first?) >>= (·.member? "text")).or (body.member? "text") =
      some v := by
  rw [Offers, at_text, Option.or_eq_some_iff, Option.eq_none_iff_forall_ne_some]
  simp only [at_choice, ne_eq]

theorem usableKey?_eq_some : usableKey? apiKey = some key ↔ Usable apiKey key := by
  simp only [usableKey?, Option.filter_eq_some_iff, Option.bind_eq_some_iff, nonBlank?_eq_some, Usable,
    isHeaderText, List.all_eq_true, Bool.or_eq_true, Bool.and_eq_true, decide_eq_true_eq]
  constructor
  · intro h
    obtain ⟨⟨given, hgiven, hkey, nonempty⟩, header⟩ := h
    exact ⟨given, hgiven, hkey, nonempty, header⟩
  · intro h
    obtain ⟨given, hgiven, hkey, nonempty, header⟩ := h
    exact ⟨⟨given, hgiven, hkey, nonempty⟩, header⟩

theorem textOf?_eq_some : textOf? body = some text ↔
    ∃ s, Offers body (.text s) ∧ text = trim s ∧ text ≠ "" := by
  simp only [textOf?, offers_iff]
  simp only [bind, Option.bind_eq_some_iff, nonBlank?_eq_some]
  constructor
  · intro h
    obtain ⟨v, offered, s, hs, htext⟩ := h
    cases v with
    | text s' =>
      cases hs
      exact ⟨s, offered, htext⟩
    | _ => cases hs
  · intro h
    obtain ⟨s, offered, htext⟩ := h
    exact ⟨.text s, offered, s, rfl, htext⟩

/-- What is taken from the service, if anything is. -/
def served? (apiKey : Option String) (ask : String → String → Option Reply)
    (description : String) : Option String := do
  let key ← usableKey? apiKey
  let reply ← ask key (prompt description)
  if reply.isSuccess then
    let body ← Json.ofBytes? reply.body
    textOf? body
  else none

theorem ofService_eq : ofService apiKey maxChars ask description =
    (served? apiKey ask description).getD (ofDescription maxChars description) := rfl

theorem Reply.isSuccess_iff {reply : Reply} :
    reply.isSuccess ↔ 200 ≤ reply.status ∧ reply.status < 300 := by
  simp [Reply.isSuccess]

theorem served?_eq_some :
    served? apiKey ask description = some text ↔ Served apiKey ask description text := by
  simp only [served?, bind, Option.bind_eq_some_iff, usableKey?_eq_some, Served]
  constructor
  · intro h
    obtain ⟨key, usable, reply, arrived, h⟩ := h
    split at h
    · next success =>
      obtain ⟨body, hbody, htext⟩ := Option.bind_eq_some_iff.mp h
      obtain ⟨s, offered, htext⟩ := textOf?_eq_some.mp htext
      obtain ⟨hleast, hless⟩ := Reply.isSuccess_iff.mp success
      exact ⟨key, reply, body, s, usable, arrived, hleast, hless, hbody, offered, htext⟩
    · cases h
  · intro h
    obtain ⟨key, reply, body, s, usable, arrived, hleast, hless, hbody, offered, htext⟩ := h
    refine ⟨key, usable, reply, arrived, ?_⟩
    rw [if_pos (Reply.isSuccess_iff.mpr ⟨hleast, hless⟩)]
    exact Option.bind_eq_some_iff.mpr ⟨body, hbody, textOf?_eq_some.mpr ⟨s, offered, htext⟩⟩

theorem served?_eq_none :
    served? apiKey ask description = none ↔ ∀ text, ¬ Served apiKey ask description text := by
  simp only [Option.eq_none_iff_forall_ne_some, ne_eq, served?_eq_some]

/-- No request has a part in it but the one with the prompt, and that only with a usable key. -/
theorem served?_congr {ask' : String → String → Option Reply}
    (alike : ∀ key, Usable apiKey key →
      ask' key (prompt description) = ask key (prompt description)) :
    served? apiKey ask' description = served? apiKey ask description := by
  cases hkey : usableKey? apiKey with
  | none => simp [served?, hkey]
  | some key => simp [served?, hkey, alike key (usableKey?_eq_some.mp hkey)]

/-- What an answer is to be for a description: the text that the service has served, in all other
cases what the description says itself, and a written text in any case. -/
structure Summarizes (apiKey : Option String) (maxChars : Nat)
    (ask : String → String → Option Reply) (description answer : String) : Prop where
  served : ∀ text, Served apiKey ask description text → answer = text
  unserved : (∀ text, ¬ Served apiKey ask description text) →
    answer = ofDescription maxChars description
  written : Written answer

/-- Whatever the key, the service and its replies are, there is a summary, and it is the right one. The
service is asked for nothing else, and without a usable key it is not asked. -/
theorem summarizes_ofService (apiKey : Option String) (maxChars : Nat)
    (ask : String → String → Option Reply) (description : String) :
    Summarizes apiKey maxChars ask description (ofService apiKey maxChars ask description) ∧
      ∀ ask' : String → String → Option Reply,
        (∀ key, Usable apiKey key →
          ask' key (prompt description) = ask key (prompt description)) →
        ofService apiKey maxChars ask' description =
          ofService apiKey maxChars ask description := by
  refine ⟨⟨fun text h => ?_, fun h => ?_, written_ofService apiKey maxChars ask description⟩,
    fun ask' alike => ?_⟩
  · rw [ofService_eq, served?_eq_some.mpr h, Option.getD_some]
  · rw [ofService_eq, served?_eq_none.mpr h, Option.getD_none]
  · rw [ofService_eq, ofService_eq, served?_congr alike]

/-! A service that offers a text, and one whose first choice hides the text on the top level. -/

def replying (body : String) (_key _prompt : String) : Option Reply :=
  some ⟨200, encodeUtf8 body⟩

def choiceReply : String := "\x7b\"choices\": [\x7b\"text\": \" A tale. \"\x7d]\x7d"

def hiddenReply : String := "\x7b\"choices\": [\x7b\"text\": 5\x7d], \"text\": \"Short\"\x7d"

theorem summarizes_replying :
    Served (some " key ") (replying choiceReply) "  abcdefgh " "A tale." ∧
      ofService (some " key ") 5 (replying choiceReply) "  abcdefgh " = "A tale." ∧
      ofService (some " key ") 5 (replying hiddenReply) "  abcdefgh " =
        ofDescription 5 "  abcdefgh " := by
  have served : Served (some " key ") (replying choiceReply) "  abcdefgh " "A tale." :=
    served?_eq_some.mp (by decide +kernel)
  have hidden : ∀ text, ¬ Served (some " key ") (replying hiddenReply) "  abcdefgh " text :=
    served?_eq_none.mp (by decide +kernel)
  exact ⟨served, (summarizes_ofService _ 5 _ _).1.served _ served,
    (summarizes_ofService _ 5 _ _).1.unserved hidden⟩

end Summary

end BookExchange
