import BookExchange.Data.Record
import BookExchange.Failure
import BookExchange.Json.Value
import BookExchange.Text.Blank
import BookExchange.Token.Base64Url
import BookExchange.Token.Sha256

/-! Bearer tokens: signed by another service with a shared secret, verified here. A token is three
parts in base 64 between points: a header, the claims, and the signature of both. -/
namespace BookExchange.Token

open Data Text

inductive Rejection where
  | invalidToken
  | base64
  | json
  | invalidAlgorithm
  | invalidSignature
  | expired
  | audience
deriving DecidableEq, Repr

def Rejection.message : Rejection → String
  | .invalidToken => "InvalidToken"
  | .base64 => "Base64 error"
  | .json => "JSON error"
  | .invalidAlgorithm => "InvalidAlgorithm"
  | .invalidSignature => "InvalidSignature"
  | .expired => "ExpiredSignature"
  | .audience => "InvalidAudience"

structure Claims where
  subject : String
  expiry : Nat
  issued : Nat
deriving DecidableEq, Repr

def seconds : Width := .natural 64

def claims : Record Claims :=
  (Record.cons (.required "sub" Tree.readText) <|
    .cons (.required "exp" (Tree.readNat seconds)) <|
    .cons (.defaulted "iat" (Tree.readNat seconds) 0) .unit).map
  fun (subject, expiry, issued, _) => ⟨subject, expiry, issued⟩

def algorithms : List String :=
  ["HS256", "HS384", "HS512", "ES256", "ES384", "RS256", "RS384", "RS512", "PS256", "PS384",
   "PS512", "EdDSA"]

/-- One of some names, which may also be written as a table with null for its only member. -/
def readName (names : List String) : Reader String
  | .text (some s) | .table [(some s, .null)] true => if s ∈ names then .ok s else .error .unfit
  | t => .error t.fault

def curves : List String := ["P-256", "P-384", "P-521", "Ed25519"]

/-- What a public key in a header may hold beside its parameters. -/
def keyProperties : Record Unit :=
  (Record.cons (.optional "use" Tree.readText) <|
    .cons (.optional "key_ops" (Tree.readList Tree.readText)) <|
    .cons (.optional "kid" Tree.readText) <|
    .cons (.optional "x5u" Tree.readText) <|
    .cons (.optional "x5c" (Tree.readList Tree.readText)) <|
    .cons (.optional "x5t" Tree.readText) <|
    .cons (.optional "x5t#S256" Tree.readText) .unit).map fun _ => ()

def ellipticCurve : Record Unit :=
  (Record.cons (.required "kty" (readName ["EC"])) <|
    .cons (.required "crv" (readName curves)) <|
    .cons (.required "x" Tree.readText) <|
    .cons (.required "y" Tree.readText) .unit).map fun _ => ()

def rsa : Record Unit :=
  (Record.cons (.required "kty" (readName ["RSA"])) <|
    .cons (.required "n" Tree.readText) <|
    .cons (.required "e" Tree.readText) .unit).map fun _ => ()

def octets : Record Unit :=
  (Record.cons (.required "kty" (readName ["oct"])) <|
    .cons (.required "k" Tree.readText) .unit).map fun _ => ()

def octetPair : Record Unit :=
  (Record.cons (.required "kty" (readName ["OKP"])) <|
    .cons (.required "crv" (readName curves)) <|
    .cons (.required "x" Tree.readText) .unit).map fun _ => ()

/-- A key of any of the known types. -/
def readKey : Reader Unit
  | t@(.table _ _) => do
    keyProperties.read t
    if [ellipticCurve, rsa, octets, octetPair].any fun r => (r.read t).toOption.isSome then
      return ()
    else throw .unfit
  | t => .error t.fault

/-- The header, of which only the algorithm matters. -/
def header : Record String :=
  (Record.cons (.optional "typ" Tree.readText) <|
    .cons (.required "alg" (readName algorithms)) <|
    .cons (.optional "cty" Tree.readText) <|
    .cons (.optional "jku" Tree.readText) <|
    .cons (.optional "jwk" readKey) <|
    .cons (.optional "kid" Tree.readText) <|
    .cons (.optional "x5u" Tree.readText) <|
    .cons (.optional "x5c" (Tree.readList Tree.readText)) <|
    .cons (.optional "x5t" Tree.readText) <|
    .cons (.optional "x5t#S256" Tree.readText) .unit).map fun (_, algorithm, _) => algorithm

/-- A part of the token read as a record that is its whole text. -/
def readPart (r : Record α) (bytes : List UInt8) : Except Rejection (Tree × α) :=
  match Json.readWhole? bytes with
  | none => .error .json
  | some t => match r.read t with
    | .ok a => .ok (t, a)
    | .error _ => .error .json

def decodePart (part : List Char) : Except Rejection (List UInt8) :=
  match Base64Url.decode part with
  | some bytes => .ok bytes
  | none => .error .base64

/-- What stands before and behind the last point. -/
def splitLast? (cs : List Char) : Option (List Char × List Char) :=
  let back := cs.reverse
  match back.dropWhile (· ≠ '.') with
  | [] => none
  | _ :: before => some (before.reverse, (back.takeWhile (· ≠ '.')).reverse)

/-- A list of texts, or a text, names an audience; a value of another kind names none. -/
def isAudience : Tree → Bool
  | .text (some _) => true
  | .list items true => items.all fun | .text (some _) => true | _ => false
  | _ => false

/-- A list or table where a time should stand cannot be passed over unless it is empty. -/
def passable : Tree → Bool
  | .list [] true | .table [] true => true
  | .list _ _ | .table _ _ => false
  | _ => true

def members (t : Tree) (name : String) : List Tree :=
  match t with
  | .table ms _ => (ms.filter (·.1 == some name)).map (·.2)
  | _ => []

/-- How long after its expiry a token is still taken, in seconds. -/
def leeway : Nat := 60

/-- Checks what the claims say about their use: none may be repeated, the token must not have
expired, and it must not be meant for a particular audience. -/
def checkClaims (now : Nat) (t : Tree) (c : Claims) : Except Rejection Unit := do
  if ["nbf", "iss", "aud"].any fun name => 1 < (members t name).length then throw .json
  if !(members t "nbf").all passable then throw .json
  match t with
  | .table _ _ => pure ()
  | _ => throw .json
  if c.expiry < now - leeway then throw .expired
  if (members t "aud").any isAudience then throw .audience

/-- A shared secret, and the present time in seconds. -/
structure Verifier where
  secret : String
  now : Nat

namespace Verifier

def sign (v : Verifier) (message : List Char) : List Char :=
  Base64Url.encode (hmac (encodeUtf8 v.secret) (encodeUtf8 (String.ofList message)))

def encodePart (part : Json) : List Char := Base64Url.encode (encodeUtf8 part.print)

/-- A token for these claims. -/
def issue (v : Verifier) (c : Claims) : String :=
  let header := Json.object [("typ", .text "JWT"), ("alg", .text "HS256")]
  let payload := Json.object
    [("sub", .text c.subject), ("exp", .nat c.expiry), ("iat", .nat c.issued)]
  let message := encodePart header ++ '.' :: encodePart payload
  String.ofList (message ++ '.' :: v.sign message)

/-- The claims of a token whose signature is right and that has not expired. -/
def validate (v : Verifier) (token : String) : Except Rejection Claims := do
  match splitLast? token.toList with
  | none => throw .invalidToken
  | some (message, signature) =>
    match splitLast? message with
    | none => throw .invalidToken
    | some (head, payload) =>
      let (_, algorithm) ← readPart header (← decodePart head)
      if algorithm ≠ "HS256" then throw .invalidAlgorithm
      if signature ≠ v.sign message then throw .invalidSignature
      let (t, c) ← readPart claims (← decodePart payload)
      checkClaims v.now t c
      return c

end Verifier

/-- The user a token speaks for: its subject as a positive decimal number. -/
def Claims.user (c : Claims) : Except Failure UserId :=
  match readDecimal (.signed 64) c.subject with
  | .ok id => if 0 < id then .ok id else .error (.auth s!"Invalid subject: {c.subject}")
  | .error _ => .error (.auth s!"Invalid subject: {c.subject}")

namespace Verifier

def claimsOf (v : Verifier) (token : String) : Except Failure Claims :=
  match v.validate token with
  | .ok c => .ok c
  | .error r => .error (.auth ("Invalid JWT: " ++ r.message))

/-- The token of an authorization header. -/
def bearer? (text : String) : Option String :=
  match text.toList with
  | 'B' :: 'e' :: 'a' :: 'r' :: 'e' :: 'r' :: ' ' :: rest => nonBlank? (String.ofList rest)
  | _ => none

/-- The user that an authorization header names. -/
def authenticate (v : Verifier) (authorization : Option String) : Except Failure UserId :=
  match authorization.bind bearer? with
  | none => .error (.auth "Missing bearer token")
  | some token => do (← v.claimsOf token).user

end Verifier

end BookExchange.Token
