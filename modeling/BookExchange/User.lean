import BookExchange.Failure
import BookExchange.Text.Blank

/-! Users: what they register, what they may change, and what others see of them. -/
namespace BookExchange

open Text

structure User where
  id : UserId
  name : String
  email : String
  city : String
  address : String
  createdAt : Time
deriving DecidableEq, Repr, Inhabited

namespace User

def checkName (name : String) : Except Failure Unit :=
  if trim name = "" then .error (.invalidUser "name is required") else .ok ()

def checkEmail (email : String) : Except Failure Unit :=
  if '@' ∈ (trim email).toList then .ok () else .error (.invalidUser "email is invalid")

structure Registration where
  name : String
  email : String
  city : String
  address : String
deriving DecidableEq, Repr

def Registration.validate (r : Registration) : Except Failure Unit := do
  checkName r.name
  checkEmail r.email

/-- The new values of some fields; absent fields keep their values. -/
structure Change where
  name : Option String
  email : Option String
  city : Option String
  address : Option String
deriving DecidableEq, Repr

namespace Change

def validate (c : Change) : Except Failure Unit := do
  if let some name := c.name then checkName name
  if let some email := c.email then checkEmail email

def apply (c : Change) (u : User) : User :=
  { u with
    name := (c.name.map trim).getD u.name
    email := (c.email.map trim).getD u.email
    city := (c.city.map trim).getD u.city
    address := (c.address.map trim).getD u.address }

end Change

end User

end BookExchange
