import RetailApp.Library.Base64
import RetailApp.Schemas
import RetailApp.Services.Dependencies
import RetailApp.Session

namespace RetailApp

open Transaction

/-- The table of the attachment subsystem, with the ids of the users it refers to. -/
structure AttachmentDb where
  userIds : List Nat
  attachments : Table Attachment
  deriving DecidableEq

def AttachmentDb.start (userIds : List Nat) : AttachmentDb := ⟨userIds, Table.empty⟩

abbrev AttachmentService (α : Type) := Session AttachmentDb Raised α

abbrev Sha256 := List UInt8 → {digest : String // digest.length = 64}

def allowedContentTypes : List String := ["application/pdf", "image/jpeg", "image/png"]

def maxAttachmentSizeBytes : Int := 20 * 1024 * 1024

def toAttachmentResponse (entity : Nat × Attachment) : AttachmentResponse where
  id := entity.1
  ownerUserId := entity.2.ownerUserId
  entityType := entity.2.entityType
  entityId := entity.2.entityId
  fileName := entity.2.fileName.1
  contentType := entity.2.contentType
  fileSizeBytes := entity.2.fileSizeBytes
  fingerprintSha256 := entity.2.fingerprintSha256
  createdAt := entity.2.createdAt

def decodeBase64Content (data : String) : Except Raised (List UInt8) :=
  orRaise (Base64.decode data.toList) (.validation "Invalid base64 attachment content")

def validateAttachmentMetadata (payload : AttachmentCreateRequest) (rawContent : List UInt8) :
    Except Raised Unit := do
  raiseIf (payload.contentType ∉ allowedContentTypes)
    (.validation "Unsupported file type; allowed types are PDF, JPG, PNG")
  raiseIf (payload.fileSizeBytes > maxAttachmentSizeBytes)
    (.validation "Attachment exceeds max size of 20MB")
  raiseIf ((rawContent.length : Int) ≠ payload.fileSizeBytes)
    (.validation "file_size_bytes does not match provided file content")

/-- The other texts fit their columns: the name and the content type by the checks in front, the
fingerprint and the storage key by their lengths. -/
def insertAttachment (row : Attachment) : AttachmentService Nat := do
  let entityType ← attempt (nullableVarchar "entity_type" 64 row.entityType)
  let entityId ← attempt (nullableVarchar "entity_id" 64 row.entityId)
  let db ← get
  attempt (raiseIf
    (db.attachments.rows.any (·.fingerprintSha256 == row.fingerprintSha256) = true)
    (.integrityError "uq_attachments_fingerprint_sha256"))
  attempt (raiseIf (row.ownerUserId ∉ db.userIds)
    (.integrityError "attachments_owner_user_id_fkey"))
  set { db with
    attachments := db.attachments.insert { row with entityType := entityType, entityId := entityId } }
  return db.attachments.nextKey

def newAttachment (now : Time) (sha256 : Sha256) (actor : User)
    (payload : AttachmentCreateRequest) (rawContent : List UInt8) : Attachment where
  ownerUserId := actor.id
  entityType := payload.entityType
  entityId := payload.entityId
  fileName := stripped payload.fileName
  contentType := payload.contentType
  fileSizeBytes := payload.fileSizeBytes
  fingerprintSha256 := (sha256 rawContent).1
  storageKey := some ("offline://attachments/" ++ (sha256 rawContent).1)
  isActive := true
  isDeleted := false
  createdAt := now

/-- A commit expires what the session holds, so the response is read back. -/
def refreshAttachment (attachmentId : Nat) : AttachmentService AttachmentResponse := do
  let db ← get
  let row ← attempt (orRaise (db.attachments.get? attachmentId) .objectDeletedError)
  return toAttachmentResponse (attachmentId, row)

def createAttachment (now : Time) (sha256 : Sha256) (actor : User)
    (payload : AttachmentCreateRequest) : AttachmentService AttachmentResponse := do
  let rawContent ← attempt (decodeBase64Content payload.fileContentBase64)
  attempt (validateAttachmentMetadata payload rawContent)
  let attachmentId ← transactional
    (insertAttachment (newAttachment now sha256 actor payload rawContent))
  refreshAttachment attachmentId

def getAttachment (db : AttachmentDb) (actor : User) (attachmentId : Nat) :
    Except Raised AttachmentResponse := do
  let attachment ← orRaise
    ((db.attachments.get? attachmentId).filter (·.isDeleted == false))
    (.notFound "Attachment not found")
  raiseIf (attachment.ownerUserId ≠ actor.id ∧ actor.isSuperuser = false)
    (.authorization "Attachment access denied")
  return toAttachmentResponse (attachmentId, attachment)

def createAttachmentEndpoint (now : Time) (sha256 : Sha256) (actor : User)
    (payload : AttachmentCreateRequest) : AttachmentService AttachmentResponse := do
  let user ← attempt (requirePermission "attachment:manage" actor)
  createAttachment now sha256 user payload

def getAttachmentEndpoint (db : AttachmentDb) (actor : User) (attachmentId : Nat) :
    Except Raised AttachmentResponse := do
  let user ← requirePermission "attachment:read" actor
  getAttachment db user attachmentId

end RetailApp
