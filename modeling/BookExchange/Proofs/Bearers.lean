import BookExchange.Proofs.Summaries
import BookExchange.Token.Verifier

/-! Who is let in with a token. The subject of a valid token is read as a decimal number of 64 bits, and
the user of that number is let in if it is positive. Whoever else comes is refused. -/
namespace BookExchange

namespace Text
variable {w : Width} {negative : Bool} {cs : List Char} {n : Nat} {m : Int}

/-- The number is written in these digits; zeros may lead. -/
structure Digits (cs : List Char) (n : Nat) : Prop where
  nonempty : cs ≠ []
  ascii : ∀ c ∈ cs, c.isDigit
  value : Nat.ofDigitChars 10 cs 0 = n

/-- The integer is written in decimal, with a sign or without. -/
inductive Writes : List Char → Int → Prop
  | plain {cs : List Char} {n : Nat} (digits : Digits cs n) : Writes cs n
  | plus {cs : List Char} {n : Nat} (digits : Digits cs n) : Writes ('+' :: cs) n
  | minus {cs : List Char} {n : Nat} (digits : Digits cs n) : Writes ('-' :: cs) (-n)

def signed (negative : Bool) (n : Nat) : Int := if negative then -n else n

theorem le_ofDigitChars (cs : List Char) (n : Nat) : n ≤ Nat.ofDigitChars 10 cs n := by
  rw [Nat.ofDigitChars_eq_ofDigitChars_zero]
  calc
    n = 1 * n := (Nat.one_mul n).symm
    _ ≤ 10 ^ cs.length * n := Nat.mul_le_mul_right n (Nat.pow_pos (by decide))
    _ ≤ 10 ^ cs.length * n + Nat.ofDigitChars 10 cs 0 := Nat.le_add_right _ _

/-- A field that holds a number holds all that are nearer to zero. -/
theorem holds_signed_of_le {k : Nat} (least : w.least ≤ 0) (greatest : 0 ≤ w.greatest) (le : n ≤ k)
    (h : w.holds (signed negative k)) : w.holds (signed negative n) := by
  cases negative <;> simp [Width.holds, signed] at h ⊢ <;> omega

/-- One digit more, read with the sign of the number before it. -/
theorem signed_digit {c : Char} (digit : c.isDigit) :
    (if negative then 10 * signed negative n - ((c.toNat : Int) - ('0'.toNat : Int))
      else 10 * signed negative n + ((c.toNat : Int) - ('0'.toNat : Int))) =
      signed negative (10 * n + (c.toNat - '0'.toNat)) := by
  have hzero : '0'.toNat = 48 := rfl
  have hleast : 48 ≤ c.toNat := (Char.isDigit_iff_toNat.mp digit).1
  cases negative <;> simp [signed, hzero] <;> omega

/-- A digit is read if the field holds the number that it ends, and is refused otherwise. -/
theorem readDigits_cons {c : Char} {k : Nat} (digit : c.isDigit)
    (next : 10 * n + (c.toNat - '0'.toNat) = k) :
    readDigits w negative (signed negative n) (c :: cs) =
      if w.holds (signed negative k) then readDigits w negative (signed negative k) cs
      else .error (if w.greatest < signed negative k then .tooLarge else .tooSmall) := by
  subst next
  have hdigit : ¬ (!c.isDigit) := by simp [digit]
  rw [readDigits, if_neg hdigit]
  simp only [signed_digit digit, Width.holds, Bool.and_eq_true, decide_eq_true_eq, gt_iff_lt]
  split
  · next large => rw [if_neg (by omega)]
  · next hgreatest =>
    split
    · rw [if_neg (by omega)]
    · rw [if_pos (by omega)]

/-- What is read on after `n` is the number of all the digits, if the field holds it. -/
theorem readDigits_eq_ok (least : w.least ≤ 0) (greatest : 0 ≤ w.greatest)
    (held : w.holds (signed negative n)) :
    readDigits w negative (signed negative n) cs = .ok m ↔
      (∀ c ∈ cs, c.isDigit) ∧ m = signed negative (Nat.ofDigitChars 10 cs n) ∧ w.holds m := by
  induction cs generalizing n with
  | nil =>
    rw [readDigits, Nat.ofDigitChars_nil, Except.ok.injEq]
    constructor
    · rintro rfl
      exact ⟨by simp, rfl, held⟩
    · exact fun h => h.2.1.symm
  | cons c cs ih =>
    by_cases digit : c.isDigit
    · rw [readDigits_cons digit rfl, Nat.ofDigitChars_cons, List.forall_mem_cons]
      cases hnext : w.holds (signed negative (10 * n + (c.toNat - '0'.toNat))) with
      | true =>
        rw [if_pos rfl, ih hnext]
        simp [digit]
      | false =>
        rw [if_neg Bool.false_ne_true]
        -- the digits that follow only lead further away from zero
        constructor
        · intro h
          cases h
        · rintro ⟨-, rfl, h⟩
          have hheld := holds_signed_of_le least greatest (le_ofDigitChars cs _) h
          rw [hnext] at hheld
          cases hheld
    · rw [readDigits, if_pos (by simp [digit])]
      simp [digit]

/-- Digits are read as their number, if the field holds it. -/
theorem readDigits_zero_eq_ok (least : w.least ≤ 0) (greatest : 0 ≤ w.greatest)
    (nonempty : cs ≠ []) : readDigits w negative 0 cs = .ok m ↔
      w.holds m ∧ ∃ n, Digits cs n ∧ m = signed negative n := by
  have held : w.holds (signed negative 0) := by
    cases negative <;> simp [Width.holds, signed, least, greatest]
  have hzero : signed negative 0 = 0 := by cases negative <;> rfl
  have hread := @readDigits_eq_ok w negative cs 0 m least greatest held
  rw [hzero] at hread
  rw [hread]
  constructor
  · rintro ⟨ascii, hm, hheld⟩
    exact ⟨hheld, _, ⟨nonempty, ascii, rfl⟩, hm⟩
  · rintro ⟨hheld, n, digits, hm⟩
    exact ⟨digits.ascii, digits.value ▸ hm, hheld⟩

theorem not_digits_nil : ¬ Digits [] n := fun digits => digits.nonempty rfl

theorem Digits.not_cons {c : Char} (letter : c.isDigit = false) : ¬ Digits (c :: cs) n := by
  intro digits
  have hdigit := digits.ascii c (by simp)
  rw [letter] at hdigit
  cases hdigit

theorem writes_plus : Writes ('+' :: cs) m ↔ ∃ n, Digits cs n ∧ m = signed false n := by
  constructor
  · intro h
    cases h with
    | plain digits => exact absurd digits (Digits.not_cons (by decide))
    | plus digits => exact ⟨_, digits, rfl⟩
  · rintro ⟨n, digits, rfl⟩
    exact .plus digits

theorem writes_minus : Writes ('-' :: cs) m ↔ ∃ n, Digits cs n ∧ m = signed true n := by
  constructor
  · intro h
    cases h with
    | plain digits => exact absurd digits (Digits.not_cons (by decide))
    | minus digits => exact ⟨_, digits, rfl⟩
  · rintro ⟨n, digits, rfl⟩
    exact .minus digits

theorem writes_plain (plus : ∀ rest, cs ≠ '+' :: rest) (minus : ∀ rest, cs ≠ '-' :: rest) :
    Writes cs m ↔ ∃ n, Digits cs n ∧ m = signed false n := by
  constructor
  · intro h
    cases h with
    | plain digits => exact ⟨_, digits, rfl⟩
    | plus => exact absurd rfl (plus _)
    | minus => exact absurd rfl (minus _)
  · rintro ⟨n, digits, rfl⟩
    exact .plain digits

/-- A field that holds negative numbers is read from exactly the texts that write a number it holds. -/
theorem readDecimal_eq_ok {s : String} (least : w.least < 0) (greatest : 0 ≤ w.greatest) :
    readDecimal w s = .ok m ↔ w.holds m ∧ Writes s.toList m := by
  have least' : w.least ≤ 0 := Int.le_of_lt least
  unfold readDecimal
  split
  · next h =>
    rw [h, writes_plain (by simp) (by simp)]
    simp [not_digits_nil]
  · next h =>
    rw [h, writes_plus]
    simp [not_digits_nil]
  · next h =>
    rw [h, writes_minus]
    simp [not_digits_nil]
  · next cs nonempty h =>
    rw [h, writes_plus, readDigits_zero_eq_ok least' greatest nonempty]
  · next cs nonempty h =>
    rw [h, writes_minus, if_pos least, readDigits_zero_eq_ok least' greatest nonempty]
  · next cs nonempty _ _ plus minus =>
    rw [writes_plain plus minus, readDigits_zero_eq_ok least' greatest nonempty]

theorem digits_toDigits (n : Nat) : Digits (Nat.toDigits 10 n) n where
  nonempty := Nat.toDigits_ne_nil
  ascii _ hc := Nat.isDigit_of_mem_toDigits (by decide) (by decide) hc
  value := Nat.ofDigitChars_ten_toDigits

/-- The text of an integer writes it. -/
theorem writes_toString (m : Int) : Writes (toString m).toList m := by
  rw [Int.toString_eq_repr, Int.repr_eq_if]
  split
  · next nonneg =>
    have hplain := Writes.plain (digits_toDigits m.toNat)
    rwa [Int.toNat_of_nonneg nonneg, ← Nat.toList_repr] at hplain
  · next negative =>
    have hminus := Writes.minus (digits_toDigits (-m).toNat)
    rw [Int.toNat_of_nonneg (by omega), Int.neg_neg, ← Nat.toList_repr] at hminus
    rwa [String.toList_append]

end Text

namespace Token
open Text
variable {v : Verifier} {c : Claims} {header token : String} {user : UserId}

/-- The subject names the user: a positive number of 64 bits in decimal digits, before which a plus sign
may stand. -/
def Claims.Names (c : Claims) (user : UserId) : Prop :=
  ∃ digits n, (c.subject.toList = digits ∨ c.subject.toList = '+' :: digits) ∧ Digits digits n ∧
    user = (n : Int) ∧ 1 ≤ n ∧ n ≤ Nat.pow 2 63 - 1

/-- The header carries the token. -/
def Carries (header token : String) : Prop :=
  ∃ rest, header = "Bearer " ++ rest ∧ token = trim rest ∧ token ≠ ""

/-- The header carries a valid token, which names the user. -/
def Verifier.LetsIn (v : Verifier) (header : String) (user : UserId) : Prop :=
  ∃ token c, Carries header token ∧ v.validate token = .ok c ∧ c.Names user

theorem holds_signed {m : Int} :
    (Width.signed 64).holds m ↔ -(Nat.pow 2 63 : Int) ≤ m ∧ m ≤ (Nat.pow 2 63 : Int) - 1 := by
  have hleast : (Width.signed 64).least = -(Nat.pow 2 63 : Int) := rfl
  have hgreatest : (Width.signed 64).greatest = (Nat.pow 2 63 : Int) - 1 := rfl
  rw [Width.holds, hleast, hgreatest, Bool.and_eq_true, decide_eq_true_eq, decide_eq_true_eq]

theorem readDecimal_signed {s : String} {m : Int} : readDecimal (.signed 64) s = .ok m ↔
    (-(Nat.pow 2 63 : Int) ≤ m ∧ m ≤ (Nat.pow 2 63 : Int) - 1) ∧ Writes s.toList m := by
  rw [readDecimal_eq_ok (by decide) (by decide), holds_signed]

theorem Claims.names_iff {user : Int} :
    c.Names user ↔ readDecimal (.signed 64) c.subject = .ok user ∧ 0 < user := by
  rw [readDecimal_signed]
  constructor
  · rintro ⟨digits, n, hsubject, hdigits, rfl, hleast, hgreatest⟩
    have hwrites : Writes c.subject.toList n := by
      obtain hsubject | hsubject := hsubject
      · exact hsubject ▸ .plain hdigits
      · exact hsubject ▸ .plus hdigits
    exact ⟨⟨by omega, hwrites⟩, by omega⟩
  · rintro ⟨⟨⟨-, hgreatest⟩, hwrites⟩, hpos⟩
    generalize hsubject : c.subject.toList = cs at hwrites
    cases hwrites with
    | plain hdigits => exact ⟨_, _, .inl hsubject, hdigits, rfl, by omega, by omega⟩
    | plus hdigits => exact ⟨_, _, .inr hsubject, hdigits, rfl, by omega, by omega⟩
    | @minus _ n hdigits => omega

theorem Claims.user_eq_ok : c.user = .ok user ↔ c.Names user := by
  rw [names_iff, Claims.user]
  split
  · next id hid =>
    rw [hid, Except.ok.injEq]
    split
    · next hpos =>
      rw [Except.ok.injEq]
      exact ⟨fun h => ⟨h, h ▸ hpos⟩, fun h => h.1⟩
    · next hpos =>
      constructor
      · intro h
        cases h
      · rintro ⟨rfl, h⟩
        exact absurd h hpos
  · next fault hfault => simp [hfault]

/-- A subject that names nobody is refused, and so it is told. -/
theorem Claims.user_refused (nobody : ∀ user, ¬ c.Names user) :
    c.user = .error (.auth s!"Invalid subject: {c.subject}") := by
  unfold Claims.user
  split
  · next id hid =>
    rw [if_neg fun hpos => nobody id (names_iff.mpr ⟨hid, hpos⟩)]
  · rfl

theorem Verifier.bearer?_eq_some : bearer? header = some token ↔ Carries header token := by
  unfold bearer? Carries
  split
  · next rest hheader =>
    have heq : header = "Bearer " ++ String.ofList rest := by
      apply String.toList_inj.mp
      simp [hheader]
    rw [nonBlank?_eq_some, heq]
    constructor
    · exact fun h => ⟨_, rfl, h⟩
    · rintro ⟨rest', hrest, h⟩
      rw [String.append_right_inj] at hrest
      exact hrest ▸ h
  · next other =>
    constructor
    · intro h
      cases h
    · rintro ⟨rest, rfl, -⟩
      exact absurd String.toList_append (other _)

theorem Verifier.authenticate_some (carries : Carries header token) :
    v.authenticate (some header) = v.claimsOf token >>= Claims.user := by
  unfold authenticate
  rw [Option.bind_some, bearer?_eq_some.mpr carries]

theorem Verifier.authenticate_valid (carries : Carries header token) (valid : v.validate token = .ok c) :
    v.authenticate (some header) = c.user := by
  rw [authenticate_some carries, claimsOf, valid]
  rfl

/-- With a valid token its subject decides; everything else is refused before. -/
theorem Verifier.authenticate_cases (v : Verifier) (header : String) :
    (∃ token c, Carries header token ∧ v.validate token = .ok c ∧
      v.authenticate (some header) = c.user) ∨
      ∃ message, v.authenticate (some header) = .error (.auth message) := by
  cases hbearer : bearer? header with
  | none =>
    rw [authenticate, Option.bind_some, hbearer]
    exact .inr ⟨_, rfl⟩
  | some token =>
    have carries := bearer?_eq_some.mp hbearer
    cases valid : v.validate token with
    | error r =>
      rw [authenticate_some carries, claimsOf, valid]
      exact .inr ⟨_, rfl⟩
    | ok c => exact .inl ⟨token, c, carries, valid, authenticate_valid carries valid⟩

theorem Verifier.authenticate_eq_ok :
    v.authenticate (some header) = .ok user ↔ v.LetsIn header user := by
  constructor
  · intro h
    obtain ⟨token, c, carries, valid, hauth⟩ | ⟨message, hauth⟩ := v.authenticate_cases header
    · exact ⟨token, c, carries, valid, Claims.user_eq_ok.mp (hauth.symm.trans h)⟩
    · cases hauth.symm.trans h
  · rintro ⟨token, c, carries, valid, names⟩
    rw [authenticate_valid carries valid]
    exact Claims.user_eq_ok.mpr names

theorem Verifier.authenticate_refused (nobody : ∀ user, ¬ v.LetsIn header user) :
    ∃ message, v.authenticate (some header) = .error (.auth message) := by
  obtain ⟨token, c, carries, valid, hauth⟩ | refused := v.authenticate_cases header
  · have unnamed : ∀ user, ¬ c.Names user :=
      fun user names => nobody user ⟨token, c, carries, valid, names⟩
    exact ⟨_, hauth.trans (Claims.user_refused unnamed)⟩
  · exact refused

/-- The header carries a valid token whose subject is the text of an integer of 64 bits. -/
structure Verifier.Bears (v : Verifier) (header : String) (n : Int) : Prop where
  signed : ∃ token c, Carries header token ∧ v.validate token = .ok c ∧ c.subject = toString n
  least : -(Nat.pow 2 63 : Int) ≤ n
  greatest : n ≤ (Nat.pow 2 63 : Int) - 1

theorem Verifier.Bears.letsIn_iff {n user : Int} (h : v.Bears header n) :
    v.LetsIn header user ↔ user = n ∧ 0 < n := by
  obtain ⟨token, c, carries, valid, hsubject⟩ := h.signed
  have hread : readDecimal (.signed 64) c.subject = .ok n :=
    readDecimal_signed.mpr ⟨⟨h.least, h.greatest⟩, hsubject ▸ writes_toString n⟩
  rw [← authenticate_eq_ok, authenticate_valid carries valid, Claims.user_eq_ok, Claims.names_iff,
    hread, Except.ok.injEq]
  constructor
  · rintro ⟨rfl, pos⟩
    exact ⟨rfl, pos⟩
  · rintro ⟨rfl, pos⟩
    exact ⟨rfl, pos⟩

/-- Who is let in, and that all others are refused as unauthorised. -/
structure Verifier.Exact (v : Verifier) : Prop where
  letsIn : ∀ header user, v.authenticate (some header) = .ok user ↔ v.LetsIn header user
  refuses : ∀ header, (∀ user, ¬ v.LetsIn header user) →
    ∃ message, v.authenticate (some header) = .error (.auth message)
  missing : ∃ message, v.authenticate none = .error (.auth message)
  positive : ∀ header n, v.Bears header n → 0 < n → v.authenticate (some header) = .ok n
  nonpositive : ∀ header n, v.Bears header n → n ≤ 0 →
    ∃ message, v.authenticate (some header) = .error (.auth message)

/-- Whatever the secret and the time, a header lets in exactly the user whom its token names. -/
theorem Verifier.authenticate_exact (v : Verifier) : v.Exact where
  letsIn _ _ := authenticate_eq_ok
  refuses _ := authenticate_refused
  missing := ⟨_, rfl⟩
  positive _ _ bears pos := authenticate_eq_ok.mpr (bears.letsIn_iff.mpr ⟨rfl, pos⟩)
  nonpositive _ _ bears nonpos :=
    authenticate_refused fun _ letsIn => absurd (bears.letsIn_iff.mp letsIn).2 (Int.not_lt.mpr nonpos)

/-! Tokens with the subjects `+007` and `-7`. -/

def clerk : Verifier := ⟨"secret", 0⟩

def padded : String :=
  "eyJ0eXAiOiJKV1QiLCJhbGciOiJIUzI1NiJ9." ++ "eyJzdWIiOiIrMDA3IiwiZXhwIjo5LCJpYXQiOjB9." ++
  "nqrd6kXiG6KEnzNRYA1y-Yi_Dvdz1kG1gf1iCJB2vsY"

def negated : String :=
  "eyJ0eXAiOiJKV1QiLCJhbGciOiJIUzI1NiJ9." ++ "eyJzdWIiOiItNyIsImV4cCI6OSwiaWF0IjowfQ." ++
  "73Qk3XN7Z8m6hE5DF-5GYNyBZsdiv5yxmdvMFTV5R8c"

theorem Verifier.authenticate_padded :
    clerk.authenticate (some ("Bearer " ++ (" " ++ padded))) = .ok 7 ∧
      ∃ message, clerk.authenticate (some ("Bearer " ++ negated)) = .error (.auth message) := by
  have spaced : Carries ("Bearer " ++ (" " ++ padded)) padded :=
    ⟨_, rfl, by decide +kernel, by decide +kernel⟩
  have plus : clerk.validate padded = .ok ⟨"+007", 9, 0⟩ := by decide +kernel
  have named : Claims.Names ⟨"+007", 9, 0⟩ 7 :=
    ⟨['0', '0', '7'], 7, .inr (by decide), ⟨by simp, by simp, by decide⟩, rfl, by decide,
      by decide⟩
  have carried : Carries ("Bearer " ++ negated) negated :=
    ⟨_, rfl, by decide +kernel, by decide +kernel⟩
  have minus : clerk.validate negated = .ok ⟨"-7", 9, 0⟩ := by decide +kernel
  have bears : clerk.Bears ("Bearer " ++ negated) (-7) :=
    ⟨⟨negated, _, carried, minus, by decide⟩, by decide, by decide⟩
  exact ⟨(clerk.authenticate_exact.letsIn _ 7).mpr ⟨padded, _, spaced, plus, named⟩,
    clerk.authenticate_exact.nonpositive _ (-7) bears (by decide)⟩

end Token

end BookExchange
