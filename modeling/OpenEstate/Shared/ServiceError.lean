/-
The errors a service call can answer: the exceptions the services throw, and any other error
(one that the HTTP layer reports as an internal one).
-/

import Mathlib.Tactic.TypeStar

namespace OpenEstate

inductive ServiceError
  | badRequest (message : String)
  | notFound (message : String)
  | conflict (message : String)
  | unauthorized (message : String)
  | forbidden (message : String)
  | tooManyRequests (message : String)
  | error (message : String)
  deriving DecidableEq

end OpenEstate
