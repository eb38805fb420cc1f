import Mathlib

namespace RetailApp

/-- What a service call raises: an AppException, or an error of the database or the
interpreter that no handler of the service turns into one. -/
inductive Raised where
  | validation (message : String)
  | authentication (message : String)
  | authorization (message : String)
  | notFound (message : String)
  | conflict (message : String)
  | security (message : String)
  | integrityError (constraint : String)
  | dataError (column : String)
  | pendingRollbackError
  | objectDeletedError
  | zeroDivisionError
  | attributeError
  deriving DecidableEq, Repr

end RetailApp
