import BookExchange.Http.Extract

/-! The service: each request is answered, and leaves a store. -/
namespace BookExchange.Http

/-- The body that confirms a step of an exchange. -/
def confirmation (text : String) : Response := .json 200 (.object [("message", .text text)])

/-- How an endpoint reports what its operation answered. -/
def Endpoint.report (a : Market.Answer) : Endpoint → Response
  | .createUser | .createBook | .createExchange | .createGenre | .createReview =>
    .json 201 (Wire.answer a)
  | .deleteUser | .deleteBook | .deleteGenre | .deleteReview => .empty 204
  | .acceptExchange => confirmation "Exchange accepted successfully"
  | .completeExchange => confirmation "Exchange completed successfully"
  | .cancelExchange => confirmation "Exchange cancelled successfully"
  | _ => .json 200 (Wire.answer a)

structure Service where
  verifier : Token.Verifier
  summarize : String → String

namespace Service

def serve (v : Service) (q : Request) (segment : String) (e : Endpoint) (s : Store) :
    Response × Store :=
  match e.operation v.verifier q segment with
  | .error f => (.ofFailure f, s)
  | .ok op => match Market.perform v.summarize op s with
    | (.ok a, s') => (e.report a, s')
    | (.error f, s') => (.ofFailure f, s')

/-- OPTIONS is granted everywhere; the answer to HEAD has no body. -/
def handle (v : Service) (q : Request) (s : Store) : Response × Store :=
  if q.method = "OPTIONS" then (.empty 200, s)
  else match segments? q.path >>= find? with
    | none => (.empty 404, s)
    | some r => match r.target? q.method with
      | none => (.empty 405, s)
      | some target =>
        let (answer, s') : Response × Store := match target with
          | .health => (.json 200 (.object [("status", .text "healthy")]), s)
          | .endpoint e => v.serve q r.id e s
        (if q.method = "HEAD" then .empty answer.status else answer, s')

end Service

end BookExchange.Http
