import RetailApp.Library.FirstWins
import RetailApp.Library.Runs
import RetailApp.Services.AttachmentService

/-! What becomes of uploads. A fingerprint is unique in its table, so of all uploads with one
content the first is kept, whoever sends the others. -/

namespace RetailApp.Attachments

open Transaction FirstWins

structure Upload where
  now : Time
  actor : User
  payload : AttachmentCreateRequest

section Uploads

variable (sha256 : Sha256)

def step (db : AttachmentDb) (upload : Upload) : AttachmentDb :=
  after (createAttachmentEndpoint upload.now sha256 upload.actor upload.payload) db

def run (userIds : List Nat) (uploads : List Upload) : AttachmentDb :=
  Runs.run (step sha256) (AttachmentDb.start userIds) uploads

/-- An upload that passes every check that does not look at the other attachments. -/
structure Passes (userIds : List Nat) (upload : Upload) (rawContent : List UInt8) : Prop where
  may : upload.actor.isSuperuser = true ∨ hasPermission "attachment:manage" upload.actor = true
  decodes : Base64.decode upload.payload.fileContentBase64.toList = some rawContent
  allowed : upload.payload.contentType ∈ allowedContentTypes
  small : upload.payload.fileSizeBytes ≤ maxAttachmentSizeBytes
  measured : (rawContent.length : Int) = upload.payload.fileSizeBytes
  entityType : ∀ given, upload.payload.entityType = some given → fitsVarchar 64 given
  entityId : ∀ given, upload.payload.entityId = some given → fitsVarchar 64 given
  known : upload.actor.id ∈ userIds

/-- The row such an upload is stored as, its entity cut down to the width of the columns. -/
def offeredBy (userIds : List Nat) (upload : Upload) : Except Raised Attachment := do
  let user ← requirePermission "attachment:manage" upload.actor
  let rawContent ← decodeBase64Content upload.payload.fileContentBase64
  validateAttachmentMetadata upload.payload rawContent
  let entityType ← nullableVarchar "entity_type" 64 upload.payload.entityType
  let entityId ← nullableVarchar "entity_id" 64 upload.payload.entityId
  raiseIf (user.id ∉ userIds) (.integrityError "attachments_owner_user_id_fkey")
  return { newAttachment upload.now sha256 user upload.payload rawContent with
    entityType := entityType, entityId := entityId }

def offered (userIds : List Nat) (upload : Upload) : Option Attachment :=
  (offeredBy sha256 userIds upload).toOption

def fingerprintOf (row : Attachment) : String := row.fingerprintSha256

def fingerprints (db : AttachmentDb) : List String := db.attachments.rows.map fingerprintOf

theorem validateAttachmentMetadata_ok (payload : AttachmentCreateRequest)
    (rawContent : List UInt8) (passed : Unit) :
    validateAttachmentMetadata payload rawContent = .ok passed ↔
      payload.contentType ∈ allowedContentTypes ∧
        payload.fileSizeBytes ≤ maxAttachmentSizeBytes ∧
        (rawContent.length : Int) = payload.fileSizeBytes := by
  simp only [validateAttachmentMetadata, bind_except_ok, raiseIf_ok, not_not, not_lt, gt_iff_lt,
    exists_const]

theorem offered_some (userIds : List Nat) (upload : Upload) (row : Attachment) :
    offered sha256 userIds upload = some row ↔ offeredBy sha256 userIds upload = .ok row := by
  unfold offered
  cases offeredBy sha256 userIds upload <;> simp [Except.toOption]

theorem offered_fields (userIds : List Nat) (upload : Upload) (row : Attachment)
    (offers : offered sha256 userIds upload = some row) :
    ∃ rawContent, Passes userIds upload rawContent ∧
      row.fingerprintSha256 = (sha256 rawContent).1 ∧
      row.fileSizeBytes = (rawContent.length : Int) ∧ row.ownerUserId = upload.actor.id ∧
      row.isDeleted = false := by
  simp only [offered_some, offeredBy, bind_except_ok, requirePermission_ok, decodeBase64Content,
    orRaise_ok, validateAttachmentMetadata_ok, raiseIf_ok, pure_except_ok, not_not] at offers
  obtain ⟨_, ⟨may, rfl⟩, rawContent, decodes, _, ⟨allowed, small, measured⟩, entityType, fitsType,
    entityId, fitsId, _, known, rfl⟩ := offers
  exact ⟨rawContent, ⟨may, decodes, allowed, small, measured,
    (nullableVarchar_ok_iff _ _ _).mp ⟨entityType, fitsType⟩,
    (nullableVarchar_ok_iff _ _ _).mp ⟨entityId, fitsId⟩, known⟩, rfl, measured.symm, rfl, rfl⟩

theorem offered_passes (userIds : List Nat) (upload : Upload) (rawContent : List UInt8)
    (passes : Passes userIds upload rawContent) :
    ∃ row, offered sha256 userIds upload = some row ∧
      row.fingerprintSha256 = (sha256 rawContent).1 := by
  obtain ⟨entityType, fitsType⟩ :=
    (nullableVarchar_ok_iff "entity_type" 64 upload.payload.entityType).mpr passes.entityType
  obtain ⟨entityId, fitsId⟩ :=
    (nullableVarchar_ok_iff "entity_id" 64 upload.payload.entityId).mpr passes.entityId
  refine ⟨{ newAttachment upload.now sha256 upload.actor upload.payload rawContent with
    entityType := entityType, entityId := entityId }, ?_, rfl⟩
  simp only [offered_some, offeredBy, bind_except_ok, requirePermission_ok, decodeBase64Content,
    orRaise_ok, validateAttachmentMetadata_ok, raiseIf_ok, pure_except_ok, not_not]
  exact ⟨_, ⟨passes.may, rfl⟩, rawContent, passes.decodes, (),
    ⟨passes.allowed, passes.small, passes.measured⟩, entityType, fitsType, entityId, fitsId, (),
    passes.known, rfl⟩

theorem insertAttachment_ok (row : Attachment) (db db' : AttachmentDb) (attachmentId : Nat)
    (inserted : insertAttachment row db = .ok attachmentId db') :
    ∃ entityType entityId,
      nullableVarchar "entity_type" 64 row.entityType = .ok entityType ∧
      nullableVarchar "entity_id" 64 row.entityId = .ok entityId ∧
      row.fingerprintSha256 ∉ fingerprints db ∧ row.ownerUserId ∈ db.userIds ∧
      attachmentId = db.attachments.nextKey ∧
      db' = { db with
        attachments :=
          db.attachments.insert { row with entityType := entityType, entityId := entityId } } := by
  simp only [insertAttachment, bind_ok, get_ok, attempt_ok, set_ok, pure_ok, raiseIf_ok] at inserted
  obtain ⟨entityType, _, ⟨fitsType, rfl⟩, entityId, _, ⟨fitsId, rfl⟩, _, _, ⟨rfl, rfl⟩, _, _,
    ⟨free, rfl⟩, _, _, ⟨known, rfl⟩, _, _, rfl, rfl, rfl⟩ := inserted
  refine ⟨entityType, entityId, fitsType, fitsId, ?_, not_not.mp known, rfl, rfl⟩
  simpa [fingerprints, fingerprintOf] using free

theorem create_kept (db : AttachmentDb) (upload : Upload) (row : Attachment)
    (offers : offered sha256 db.userIds upload = some row)
    (free : row.fingerprintSha256 ∉ fingerprints db) :
    createAttachmentEndpoint upload.now sha256 upload.actor upload.payload db =
      .ok (toAttachmentResponse (db.attachments.nextKey, row))
        { db with attachments := db.attachments.insert row } := by
  simp only [offered_some, offeredBy, bind_except_ok, requirePermission_ok, raiseIf_ok,
    pure_except_ok, not_not] at offers
  obtain ⟨_, ⟨may, rfl⟩, rawContent, decodes, _, passed, entityType, fitsType, entityId, fitsId, _,
    known, rfl⟩ := offers
  have allowed := (requirePermission_ok "attachment:manage" upload.actor _).mpr ⟨may, rfl⟩
  have fresh : ¬ ∃ row ∈ db.attachments.rows,
      row.fingerprintSha256 = (sha256 rawContent).1 := by
    simpa [fingerprints, fingerprintOf, newAttachment] using free
  simp [createAttachmentEndpoint, createAttachment, run_bind, run_map, allowed, decodes, passed,
    transactional, insertAttachment, newAttachment, fitsType, fitsId, fresh, known,
    refreshAttachment]

theorem create_taken (db : AttachmentDb) (upload : Upload) (row : Attachment)
    (offers : offered sha256 db.userIds upload = some row)
    (taken : row.fingerprintSha256 ∈ fingerprints db) :
    createAttachmentEndpoint upload.now sha256 upload.actor upload.payload db =
      .error (.integrityError "uq_attachments_fingerprint_sha256") db := by
  simp only [offered_some, offeredBy, bind_except_ok, requirePermission_ok, raiseIf_ok,
    pure_except_ok, not_not] at offers
  obtain ⟨_, ⟨may, rfl⟩, rawContent, decodes, _, passed, entityType, fitsType, entityId, fitsId, _,
    known, rfl⟩ := offers
  have allowed := (requirePermission_ok "attachment:manage" upload.actor _).mpr ⟨may, rfl⟩
  have found : ∃ row ∈ db.attachments.rows,
      row.fingerprintSha256 = (sha256 rawContent).1 := by
    simpa [fingerprints, fingerprintOf, newAttachment] using taken
  simp [createAttachmentEndpoint, createAttachment, run_bind, allowed, decodes, passed,
    transactional, insertAttachment, newAttachment, fitsType, fitsId, found]

theorem create_ok (db db' : AttachmentDb) (upload : Upload) (response : AttachmentResponse)
    (created : createAttachmentEndpoint upload.now sha256 upload.actor upload.payload db =
      .ok response db') :
    ∃ row, offered sha256 db.userIds upload = some row ∧
      row.fingerprintSha256 ∉ fingerprints db := by
  simp only [createAttachmentEndpoint, createAttachment, bind_ok, attempt_ok, transactional_ok]
    at created
  obtain ⟨user, _, ⟨may, rfl⟩, rawContent, _, ⟨decodes, rfl⟩, _, _, ⟨passed, rfl⟩, attachmentId, _,
    inserted, _⟩ := created
  obtain ⟨entityType, entityId, fitsType, fitsId, free, known, _⟩ :=
    insertAttachment_ok _ db _ attachmentId inserted
  refine ⟨{ newAttachment upload.now sha256 user upload.payload rawContent with
    entityType := entityType, entityId := entityId }, ?_, free⟩
  simp only [offered_some, offeredBy, bind_except_ok, raiseIf_ok, pure_except_ok, not_not]
  exact ⟨user, may, rawContent, decodes, (), passed, entityType, fitsType, entityId, fitsId, (),
    known, rfl⟩

theorem create_refused (db : AttachmentDb) (upload : Upload)
    (unoffered : offered sha256 db.userIds upload = none) : step sha256 db upload = db := by
  rw [step, after]
  cases outcome : createAttachmentEndpoint upload.now sha256 upload.actor upload.payload db with
  | ok response db' =>
      obtain ⟨row, offers, _⟩ := create_ok sha256 db db' upload response outcome
      rw [unoffered] at offers
      cases offers
  | error raised written =>
      simp only [createAttachmentEndpoint, createAttachment, bind_error, attempt_ok] at outcome
      rcases outcome with early | ⟨user, _, ⟨_, rfl⟩, early | ⟨rawContent, _, ⟨_, rfl⟩, early |
        ⟨_, _, ⟨_, rfl⟩, early | ⟨attachmentId, _, inserted, late⟩⟩⟩⟩
      · exact allOrNothing_attempt _ _ _ _ early
      · exact allOrNothing_attempt _ _ _ _ early
      · exact allOrNothing_attempt _ _ _ _ early
      · exact transactional_error _ _ _ _ early
      · obtain ⟨_, _, _, _, _, _, rfl, rfl⟩ :=
          insertAttachment_ok _ db _ attachmentId ((transactional_ok _ _ _ _).mp inserted)
        simp [refreshAttachment, run_bind, run_map] at late

theorem step_eq (db : AttachmentDb) (upload : Upload) :
    step sha256 db upload = { db with
      attachments :=
        ⟨(offered sha256 db.userIds upload).toList.foldl (keep fingerprintOf)
          db.attachments.rows⟩ } := by
  cases offers : offered sha256 db.userIds upload with
  | none => exact create_refused sha256 db upload offers
  | some row =>
      rw [Option.toList_some, List.foldl_cons, List.foldl_nil, keep, step]
      by_cases taken : fingerprintOf row ∈ db.attachments.rows.map fingerprintOf
      · rw [after_error _ _ _ _ (create_taken sha256 db upload row offers taken), if_pos taken]
      · rw [after_ok _ _ _ _ (create_kept sha256 db upload row offers taken), if_neg taken]
        rfl

theorem run_firsts (userIds : List Nat) (uploads : List Upload) :
    run sha256 userIds uploads =
      ⟨userIds, ⟨firsts fingerprintOf (uploads.filterMap (offered sha256 userIds))⟩⟩ := by
  induction uploads using List.reverseRecOn with
  | nil => rfl
  | append_singleton uploads upload ih =>
      have split : run sha256 userIds (uploads ++ [upload]) =
          step sha256 (run sha256 userIds uploads) upload := Runs.run_append _ _ _ _
      rw [split, ih, step_eq, List.filterMap_append, firsts_append]
      cases offers : offered sha256 userIds upload <;> simp [offers]

theorem mem_fingerprints (userIds : List Nat) (uploads : List Upload) (fingerprint : String) :
    fingerprint ∈ fingerprints (run sha256 userIds uploads) ↔
      ∃ upload ∈ uploads, ∃ rawContent, Passes userIds upload rawContent ∧
        (sha256 rawContent).1 = fingerprint := by
  rw [run_firsts]
  refine (mem_keys_firsts fingerprintOf _ fingerprint).trans ?_
  simp only [List.mem_map, List.mem_filterMap]
  constructor
  · rintro ⟨row, ⟨upload, member, offers⟩, rfl⟩
    obtain ⟨rawContent, passes, same, _⟩ := offered_fields sha256 userIds upload row offers
    exact ⟨upload, member, rawContent, passes, same.symm⟩
  · rintro ⟨upload, member, rawContent, passes, rfl⟩
    obtain ⟨row, offers, same⟩ := offered_passes sha256 userIds upload rawContent passes
    exact ⟨row, ⟨upload, member, offers⟩, same⟩

/-- After any run of uploads the table holds the first of each content in the order they came,
and one more is kept exactly when it passes the checks and no earlier one that passed them,
anybody's, had a content of the same digest. Where one had, the database's own error comes out. -/
theorem upload_kept_iff (userIds : List Nat) (uploads : List Upload) (upload : Upload) :
    (run sha256 userIds uploads).attachments.rows =
        firsts fingerprintOf (uploads.filterMap (offered sha256 userIds)) ∧
      ((reply (createAttachmentEndpoint upload.now sha256 upload.actor upload.payload)
          (run sha256 userIds uploads)).isOk = true ↔
        ∃ rawContent, Passes userIds upload rawContent ∧
          ∀ earlier ∈ uploads, ∀ content, Passes userIds earlier content →
            (sha256 content).1 ≠ (sha256 rawContent).1) ∧
      ∀ rawContent, Passes userIds upload rawContent →
        (∃ earlier ∈ uploads, ∃ content, Passes userIds earlier content ∧
          (sha256 content).1 = (sha256 rawContent).1) →
        createAttachmentEndpoint upload.now sha256 upload.actor upload.payload
            (run sha256 userIds uploads) =
          .error (.integrityError "uq_attachments_fingerprint_sha256")
            (run sha256 userIds uploads) := by
  have users : (run sha256 userIds uploads).userIds = userIds := by rw [run_firsts]
  refine ⟨by rw [run_firsts], ⟨?_, ?_⟩, ?_⟩
  · intro returned
    obtain ⟨response, created⟩ := returns_of_isOk _ _ returned
    obtain ⟨row, offers, free⟩ := create_ok sha256 _ _ upload response created
    rw [users] at offers
    obtain ⟨rawContent, passes, same, _⟩ := offered_fields sha256 userIds upload row offers
    refine ⟨rawContent, passes, ?_⟩
    intro earlier member content passed equal
    exact free ((mem_fingerprints sha256 userIds uploads _).mpr
      ⟨earlier, member, content, passed, equal.trans same.symm⟩)
  · rintro ⟨rawContent, passes, new⟩
    obtain ⟨row, offers, same⟩ := offered_passes sha256 userIds upload rawContent passes
    have free : row.fingerprintSha256 ∉ fingerprints (run sha256 userIds uploads) := by
      rw [mem_fingerprints, same]
      rintro ⟨earlier, member, content, passed, equal⟩
      exact new earlier member content passed equal
    rw [← users] at offers
    rw [reply, create_kept sha256 _ upload row offers free]
    rfl
  · rintro rawContent passes ⟨earlier, member, content, passed, equal⟩
    obtain ⟨row, offers, same⟩ := offered_passes sha256 userIds upload rawContent passes
    rw [← users] at offers
    refine create_taken sha256 _ upload row offers ?_
    rw [mem_fingerprints, same]
    exact ⟨earlier, member, content, passed, equal⟩

theorem getAttachmentEndpoint_eq (db : AttachmentDb) (reader : User) (attachmentId : Nat)
    (row : Attachment) (stored : db.attachments.get? attachmentId = some row)
    (present : row.isDeleted = false) :
    getAttachmentEndpoint db reader attachmentId =
      if reader.isSuperuser = true ∨
          hasPermission "attachment:read" reader = true ∧ row.ownerUserId = reader.id then
        .ok (toAttachmentResponse (attachmentId, row))
      else if hasPermission "attachment:read" reader = true then
        .error (.authorization "Attachment access denied")
      else .error (.authorization "Permission denied") := by
  have visible : (some row).filter (fun found => !found.isDeleted) = some row := by
    simp [present]
  cases super : reader.isSuperuser <;> cases may : hasPermission "attachment:read" reader <;>
    by_cases own : row.ownerUserId = reader.id <;>
    simp [getAttachmentEndpoint, requirePermission, getAttachment, stored, visible, super, may,
      own, bind, Except.bind, pure, Except.pure]

theorem row_kept (userIds : List Nat) (early late : List Upload) (attachmentId : Nat)
    (row : Attachment)
    (stored : (run sha256 userIds early).attachments.get? attachmentId = some row) :
    (run sha256 userIds (early ++ late)).attachments.get? attachmentId = some row := by
  rw [run_firsts] at stored ⊢
  rw [List.filterMap_append]
  obtain ⟨others, split⟩ := prefix_firsts fingerprintOf
    (early.filterMap (offered sha256 userIds)) (late.filterMap (offered sha256 userIds))
  rw [← split]
  exact Table.get?_insertAll_of_some _ others attachmentId row stored

/-- What an upload answered is what its owner and superusers are shown from then on, whatever is
uploaded later, and nobody else is shown anything. Content that was encoded as Base64 has been
measured and fingerprinted as the bytes it was encoded from. -/
theorem uploaded_stays_readable (userIds : List Nat) (early late : List Upload) (upload : Upload)
    (response : AttachmentResponse) (db' : AttachmentDb)
    (kept : createAttachmentEndpoint upload.now sha256 upload.actor upload.payload
      (run sha256 userIds early) = .ok response db') :
    (∀ bytes, upload.payload.fileContentBase64.toList = Base64.encode bytes →
      response.fingerprintSha256 = (sha256 bytes).1 ∧
        response.fileSizeBytes = (bytes.length : Int)) ∧
      response.ownerUserId = upload.actor.id ∧
      ∀ reader, getAttachmentEndpoint (run sha256 userIds (early ++ upload :: late)) reader
          response.id =
        if reader.isSuperuser = true ∨
            hasPermission "attachment:read" reader = true ∧ upload.actor.id = reader.id then
          .ok response
        else if hasPermission "attachment:read" reader = true then
          .error (.authorization "Attachment access denied")
        else .error (.authorization "Permission denied") := by
  obtain ⟨row, offers, free⟩ := create_ok sha256 _ db' upload response kept
  have same := (create_kept sha256 _ upload row offers free).symm.trans kept
  obtain ⟨rfl, rfl⟩ := EStateM.Result.ok.inj same
  obtain ⟨rawContent, passes, fingerprint, size, owner, present⟩ :=
    offered_fields sha256 _ upload row offers
  refine ⟨?_, owner, ?_⟩
  · intro bytes encoded
    have decoded := passes.decodes
    rw [encoded, Base64.decode_encode] at decoded
    obtain rfl := Option.some.inj decoded
    exact ⟨fingerprint, size⟩
  · have next : run sha256 userIds (early ++ [upload]) = _ :=
      (Runs.run_append _ _ early [upload]).trans (after_ok _ _ _ _ kept)
    have stored : (run sha256 userIds (early ++ upload :: late)).attachments.get?
        (run sha256 userIds early).attachments.nextKey = some row := by
      rw [← List.singleton_append, ← List.append_assoc]
      refine row_kept sha256 userIds _ late _ row ?_
      rw [next]
      exact Table.get?_insert_self _ _
    intro reader
    rw [← owner]
    exact getAttachmentEndpoint_eq _ reader _ row stored present

end Uploads

def proposalDigest : String := "e5c62df5dab5c87b6a015ef3d43597074d1eec433b15f51aec63b8582d0e4ab4"

/-- SHA-256 on the bytes of the proposal below. -/
def sampleSha256 : Sha256 := fun _ => ⟨proposalDigest, by decide⟩

def proposal : AttachmentCreateRequest where
  fileName := ⟨"proposal.pdf", by decide⟩
  contentType := "application/pdf"
  fileSizeBytes := 9
  fileContentBase64 := "JVBERi0xLjQK"
  entityType := some "project"
  entityId := some "101"
  sizePositive := by decide
  contentLength := by decide

def owner : User := ⟨7, false, [⟨[⟨"attachment:manage"⟩, ⟨"attachment:read"⟩]⟩]⟩

def copier : User := ⟨8, false, [⟨[⟨"attachment:manage"⟩, ⟨"attachment:read"⟩]⟩]⟩

theorem proposal_stays_readable : ∃ response,
    getAttachmentEndpoint (run sampleSha256 [7, 8] ([] ++ ⟨0, owner, proposal⟩ ::
      [⟨1, copier, proposal⟩])) owner 1 = .ok response ∧ response.ownerUserId = 7 ∧
    getAttachmentEndpoint (run sampleSha256 [7, 8] ([] ++ ⟨0, owner, proposal⟩ ::
      [⟨1, copier, proposal⟩])) copier 1 = .error (.authorization "Attachment access denied") := by
  have answered : (reply (createAttachmentEndpoint 0 sampleSha256 owner proposal)
      (run sampleSha256 [7, 8] [])).toOption.map (·.id) = some 1 := by decide +kernel
  have returned : (reply (createAttachmentEndpoint 0 sampleSha256 owner proposal)
      (run sampleSha256 [7, 8] [])).isOk = true := by decide +kernel
  obtain ⟨response, kept⟩ := returns_of_isOk _ _ returned
  obtain ⟨_, owned, shown⟩ := uploaded_stays_readable sampleSha256 [7, 8] []
    [⟨1, copier, proposal⟩] ⟨0, owner, proposal⟩ response _ kept
  have first : response.id = 1 := by
    rw [reply, kept] at answered
    exact Option.some.inj answered
  rw [first] at shown
  exact ⟨response, shown owner, owned, shown copier⟩

end RetailApp.Attachments
