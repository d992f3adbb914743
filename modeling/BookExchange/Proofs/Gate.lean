import BookExchange.Http.Service
import BookExchange.Proofs.Authority

/-! The service from outside. A request that leaves another store has been answered with success, and
it either registers a user or comes with a token; the user whom the token names is the one who acts.
Every refusal, wherever it comes from, leaves the store as it was. -/
namespace BookExchange
open Call

/-- The operation concerns genres, which belong to nobody. -/
def Market.Operation.isOfGenres : Market.Operation → Bool
  | .createGenre _ | .deleteGenre _ => true
  | _ => false

namespace Token

theorem Claims.user_pos {c : Claims} {user : UserId} (h : c.user = .ok user) : 0 < user := by
  unfold Claims.user at h
  split at h
  · split at h
    · cases h
      assumption
    · cases h
  · cases h

theorem Verifier.authenticate_pos {v : Verifier} {authorization : Option String} {user : UserId}
    (h : v.authenticate authorization = .ok user) : 0 < user := by
  unfold Verifier.authenticate at h
  split at h
  · cases h
  · obtain ⟨c, -, hc⟩ := except_bind_eq_ok.mp h
    exact Claims.user_pos hc

theorem Verifier.not_authenticate_none {v : Verifier} {user : UserId} :
    v.authenticate none ≠ .ok user := by
  simp [Verifier.authenticate]

end Token

theorem Market.Operation.Reaches.isQuery {summarize : String → String} {s : Store}
    {op : Market.Operation} {p : Market.Port} (h : op.Reaches summarize s p) : op.isQuery = false := by
  cases h <;> rfl

namespace Http
open Market
variable {v : Token.Verifier} {q : Request} {op : Operation} {e : Endpoint} {segment : String}

/-- The request may ask for the operation: anybody may register, and everything else that writes is
for the user whom the token names. -/
inductive Request.Admits (v : Token.Verifier) (q : Request) : Operation → Prop where
  | registers {r : User.Registration} (method : q.method = "POST") (path : q.path = "/users") :
      Admits v q (.createUser r)
  | bears {op : Operation} {header : String} {user : UserId} (given : q.authorization = some header)
      (named : v.authenticate (some header) = .ok user) (positive : 0 < user)
      (acts : op.actor? = some user ∨ op.isOfGenres) : Admits v q op

/-- The token of a request names the user who acts. -/
theorem Request.admits_of_actor {user : UserId} (named : actor v q = .ok user)
    (acts : op.actor? = some user ∨ op.isOfGenres) : q.Admits v op := by
  unfold actor at named
  cases hgiven : q.authorization.filter readableHeader with
  | none => exact absurd (hgiven ▸ named) Token.Verifier.not_authenticate_none
  | some header =>
    rw [hgiven] at named
    exact .bears (Option.filter_eq_some_iff.mp hgiven).1 named (Token.Verifier.authenticate_pos named) acts

/-- What an endpoint asks for only looks, registers a user, or is asked for by the bearer of a token. -/
theorem Endpoint.operation_cases (h : e.operation v q segment = .ok op) :
    op.isQuery ∨ e = .createUser ∨
      ∃ user, actor v q = .ok user ∧ (op.actor? = some user ∨ op.isOfGenres) := by
  cases e with
  | createUser => exact .inr (.inl rfl)
  | updateUser | updateBook =>
    obtain ⟨user, hactor, h⟩ := except_bind_eq_ok.mp h
    obtain ⟨id, -, h⟩ := except_bind_eq_ok.mp h
    obtain ⟨change, -, h⟩ := except_bind_eq_ok.mp h
    cases h
    exact .inr (.inr ⟨user, hactor, .inl rfl⟩)
  | deleteUser | createBook | deleteBook | createExchange | acceptExchange | completeExchange
  | cancelExchange | createReview | deleteReview =>
    obtain ⟨user, hactor, h⟩ := except_bind_eq_ok.mp h
    obtain ⟨asked, -, h⟩ := except_bind_eq_ok.mp h
    cases h
    exact .inr (.inr ⟨user, hactor, .inl rfl⟩)
  | createGenre | deleteGenre =>
    obtain ⟨user, hactor, h⟩ := except_bind_eq_ok.mp h
    obtain ⟨asked, -, h⟩ := except_bind_eq_ok.mp h
    cases h
    exact .inr (.inr ⟨user, hactor, .inr rfl⟩)
  | userBooks | userExchanges =>
    obtain ⟨id, -, h⟩ := except_bind_eq_ok.mp h
    obtain ⟨status, -, h⟩ := except_bind_eq_ok.mp h
    cases h
    exact .inl rfl
  | listUsers | getUser | userProfile | userReviews | searchBooks | availableBooks | getBook
  | bookReviews | getExchange | getGenre =>
    obtain ⟨asked, -, h⟩ := except_bind_eq_ok.mp h
    cases h
    exact .inl rfl
  | listExchanges | listGenres =>
    cases h
    exact .inl rfl

theorem Endpoint.operation_createUser (h : Endpoint.createUser.operation v q segment = .ok op) :
    ∃ r, op = .createUser r := by
  obtain ⟨r, -, h⟩ := except_bind_eq_ok.mp h
  cases h
  exact ⟨r, rfl⟩

/-- Registration is offered at one path and under one method. -/
theorem createUser_offered {names : List String} {r : Resource} {method : String}
    (found : find? names = some r) (offered : (method, .endpoint .createUser) ∈ r.methods) :
    names = ["users"] ∧ method = "POST" := by
  unfold find? at found
  split at found <;> cases found <;> simp [Resource.of] at offered
  exact ⟨rfl, offered⟩

theorem createUser_target {names : List String} {r : Resource} {method : String}
    (found : find? names = some r) (target : r.target? method = some (.endpoint .createUser)) :
    names = ["users"] ∧ method = "POST" := by
  obtain ⟨before, after, hmethods, -⟩ := List.lookup_eq_some_iff.mp target
  have offered : (if method = "HEAD" then "GET" else method, .endpoint .createUser) ∈ r.methods := by
    rw [hmethods]
    simp
  obtain ⟨hnames, hmethod⟩ := createUser_offered found offered
  refine ⟨hnames, ?_⟩
  split at hmethod
  · simp at hmethod
  · exact hmethod

theorem eq_of_segments? {path name : String} (h : segments? path = some [name]) :
    path.toList = '/' :: name.toList := by
  have hjoin : ['/'].intercalate (path.toList.splitOn '/') = path.toList :=
    List.intercalate_splitOn '/'
  unfold segments? at h
  split at h
  · rename_i rest hsplit
    obtain ⟨piece, rfl, rfl⟩ : ∃ piece, rest = [piece] ∧ String.ofList piece = name := by
      simpa [List.map_eq_singleton_iff] using h
    rw [hsplit] at hjoin
    simpa [List.intercalate] using hjoin.symm
  · cases h

theorem Endpoint.report_status (a : Answer) (e : Endpoint) :
    200 ≤ (e.report a).status ∧ (e.report a).status < 300 := by
  cases e <;> simp [report, confirmation, Response.json, Response.empty]

namespace Service
variable {w : Service} {s : Store}

/-- A request that leaves another store has reached an endpoint. -/
theorem handle_reaches (changed : (w.handle q s).2 ≠ s) :
    ∃ r e, segments? q.path >>= find? = some r ∧ r.target? q.method = some (.endpoint e) ∧
      (w.handle q s).2 = (w.serve q r.id e s).2 ∧
      (w.handle q s).1.status = (w.serve q r.id e s).1.status := by
  unfold handle at changed ⊢
  by_cases hoptions : q.method = "OPTIONS"
  · simp [hoptions] at changed
  · simp only [hoptions, ↓reduceIte] at changed ⊢
    cases hroute : segments? q.path >>= find? with
    | none => simp [hroute] at changed
    | some r =>
      cases htarget : r.target? q.method with
      | none => simp [hroute, htarget] at changed
      | some target =>
        cases target with
        | health => simp [hroute, htarget] at changed
        | endpoint e =>
          refine ⟨r, e, rfl, htarget, by simp [htarget], ?_⟩
          simp only [htarget]
          split <;> rfl

/-- An endpoint that leaves another store carries out an operation with success. -/
theorem serve_carries_out (changed : (w.serve q segment e s).2 ≠ s) :
    ∃ op a, e.operation w.verifier q segment = .ok op ∧ op.isQuery = false ∧
      (w.serve q segment e s).2 = (Command.service w.summarize op).after s ∧
      (w.serve q segment e s).1 = e.report a := by
  unfold serve at changed ⊢
  cases hop : e.operation w.verifier q segment with
  | error f => simp [hop] at changed
  | ok op =>
    have hafter : (Command.service w.summarize op).after s = (perform w.summarize op s).2 := rfl
    have hanswer : (Command.service w.summarize op).answer s = (perform w.summarize op s).1 := rfl
    cases hp : perform w.summarize op s with
    | mk answer t =>
      rw [hp] at hafter hanswer
      cases answer with
      | error f =>
        have hunchanged := Command.failed_unchanged (by simp) hanswer
        simp only [hop, hp] at changed
        exact absurd (hafter.symm.trans hunchanged) changed
      | ok a =>
        simp only [hop, hp] at changed ⊢
        refine ⟨op, a, rfl, ?_, hafter.symm, rfl⟩
        obtain unchanged | ⟨p, calls, -⟩ := (Command.service w.summarize op).after_cases s
        · exact absurd (hafter.symm.trans unchanged) changed
        · cases calls with
          | service reached => exact reached.isQuery

theorem handle_admits (changed : (w.handle q s).2 ≠ s) :
    200 ≤ (w.handle q s).1.status ∧ (w.handle q s).1.status < 300 ∧
      ∃ op, q.Admits w.verifier op ∧
        (w.handle q s).2 = (Command.service w.summarize op).after s := by
  obtain ⟨r, e, hroute, htarget, hstore, hstatus⟩ := handle_reaches changed
  obtain ⟨op, a, hop, hwrites, hafter, hreport⟩ := serve_carries_out (hstore ▸ changed)
  obtain ⟨hleast, hless⟩ := Endpoint.report_status a e
  rw [hstatus, hreport]
  refine ⟨hleast, hless, op, ?_, hstore.trans hafter⟩
  obtain hquery | rfl | ⟨user, hactor, acts⟩ := Endpoint.operation_cases hop
  · simp [hwrites] at hquery
  · obtain ⟨registration, rfl⟩ := Endpoint.operation_createUser hop
    obtain ⟨names, hnames, found⟩ := Option.bind_eq_some_iff.mp hroute
    obtain ⟨rfl, hmethod⟩ := createUser_target found htarget
    exact .registers hmethod (String.toList_inj.mp (eq_of_segments? hnames))
  · exact Request.admits_of_actor hactor acts

/-- The gate of the service, for every request and every store: only success writes, and only for
somebody who registers or who is named by a token. -/
theorem handle_gated (w : Service) (q : Request) (s : Store) :
    ((w.handle q s).2 ≠ s →
      200 ≤ (w.handle q s).1.status ∧ (w.handle q s).1.status < 300 ∧
        ∃ op, q.Admits w.verifier op ∧
          (w.handle q s).2 = (Command.service w.summarize op).after s) ∧
      (400 ≤ (w.handle q s).1.status → (w.handle q s).2 = s) := by
  refine ⟨handle_admits, fun refused => ?_⟩
  by_contra changed
  have hless := (handle_admits changed).2.1
  omega

/-! A genre is asked for in the name of the seventh user, and then in nobody's. -/

def desk : Service := ⟨⟨"secret", 0⟩, fun text => text⟩

def seventh : String :=
  "eyJ0eXAiOiJKV1QiLCJhbGciOiJIUzI1NiJ9." ++ "eyJzdWIiOiI3IiwiZXhwIjo5LCJpYXQiOjB9." ++
  "aomKsRyUChMUS4OBOjqILPnM7ghmJv8OW4gB-owKHcA"

def genreRequest (authorization : Option String) : Request where
  method := "POST"
  target := "/genres"
  authorization
  contentType := some "application/json"
  body := Text.encodeUtf8 "[\"Prose\"]"

theorem handle_gated_genreRequest :
    (desk.handle (genreRequest (some ("Bearer " ++ seventh))) .fresh).2 ≠ .fresh ∧
      (desk.handle (genreRequest (some ("Bearer " ++ seventh))) .fresh).1.status < 300 ∧
      (desk.handle (genreRequest none) .fresh).1.status = 401 ∧
      (desk.handle (genreRequest none) .fresh).2 = .fresh := by
  have changed : (desk.handle (genreRequest (some ("Bearer " ++ seventh))) .fresh).2 ≠ .fresh := by
    decide +kernel
  have refused : (desk.handle (genreRequest none) .fresh).1.status = 401 := by decide +kernel
  exact ⟨changed, ((handle_gated desk _ .fresh).1 changed).2.1, refused,
    (handle_gated desk _ .fresh).2 (by rw [refused]; decide)⟩

end Service

end Http

end BookExchange
