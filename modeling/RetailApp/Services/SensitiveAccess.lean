import RetailApp.Services.AuthService
import RetailApp.Services.Dependencies

/-! `reveal_sensitive_contact` and the column it reads, which a registration fills. -/

namespace RetailApp

open Transaction

/-- The tables, with `contact_info_encrypted` of the users under their keys. -/
structure ContactDb where
  auth : AuthDb
  contacts : Table (Option String)
  sensitiveAccessLogs : Table SensitiveAccessLog

abbrev ContactService (α : Type) := Session ContactDb Raised α

/-- `create_user`, which writes the encrypted contact with the row. -/
def createContact (env : RegistrationEnv) (payload : UserCreateRequest)
    (actorUserId : Option Nat) : ContactService Nat := fun db =>
  match createUser env payload actorUserId db.auth with
  | .ok created written =>
      .ok created.1 { db with
        auth := written, contacts := db.contacts.insert created.2.contactInfoEncrypted }
  | .error raised written => .error raised { db with auth := written }

def decryptField (decrypt : String → Option String) (value : Option String) :
    Except Raised (Option String) :=
  match value with
  | none => .ok none
  | some token => (orRaise (decrypt token) (.security "Unable to decrypt field")).map some

def recordSensitiveAccess (actorUserId targetUserId : Option Nat) (fieldName action : String)
    (reason : Option String) : ContactService Unit := do
  let stored ← attempt (nullableVarchar "reason" 255 reason)
  modify fun db =>
    { db with
      sensitiveAccessLogs :=
        db.sensitiveAccessLogs.insert ⟨actorUserId, targetUserId, fieldName, action, stored⟩ }

def revealSensitiveContact (decrypt : String → Option String) (actor : User) (targetUserId : Nat)
    (reason : String) : ContactService (Option String) := do
  let db ← get
  let target ← attempt (orRaise (db.contacts.get? targetUserId) (.notFound "User not found"))
  let plaintext ← attempt (decryptField decrypt target)
  transactional
    (recordSensitiveAccess (some actor.id) (some targetUserId) "contact_info" "read" (some reason))
  return plaintext

def readSensitiveContactEndpoint (decrypt : String → Option String) (actor : User)
    (targetUserId : Nat) (reason : String) : ContactService (Option String) := do
  let user ← attempt (requireSuperuser actor)
  let user ← attempt (requirePermission "auth:sensitive:read" user)
  revealSensitiveContact decrypt user targetUserId reason

end RetailApp
