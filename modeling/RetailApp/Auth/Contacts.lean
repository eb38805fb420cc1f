import RetailApp.Library.Runs
import RetailApp.Services.SensitiveAccess
import RetailApp.Validation.Minimums

/-! Contacts that registrations encrypt and superusers have revealed to them, each time on
record. -/

namespace RetailApp.Contacts

open Transaction

inductive Call where
  | register (env : RegistrationEnv) (payload : UserCreateRequest) (actorUserId : Option Nat)
  | reveal (actor : User) (targetUserId : Nat) (reason : String)

section Contacts

variable (decrypt : String → Option String)

def step (db : ContactDb) : Call → ContactDb
  | .register env payload actorUserId => after (createContact env payload actorUserId) db
  | .reveal actor targetUserId reason =>
      after (readSensitiveContactEndpoint decrypt actor targetUserId reason) db

def registered (db : ContactDb) : Call → List (Nat × Option String)
  | .register env payload actorUserId =>
      match reply (createContact env payload actorUserId) db with
      | .ok userId => [(userId, payload.contactInfo)]
      | .error _ => []
  | .reveal _ _ _ => []

def recorded (db : ContactDb) : Call → List SensitiveAccessLog
  | .register _ _ _ => []
  | .reveal actor targetUserId reason =>
      match reply (readSensitiveContactEndpoint decrypt actor targetUserId reason) db with
      | .ok _ => [⟨some actor.id, some targetUserId, "contact_info", "read",
          (varchar "reason" 255 reason).toOption⟩]
      | .error _ => []

/-- Fernet as documented: what it encrypts it gives back. -/
def Decrypts : Call → Prop
  | .register env _ _ => ∀ value, decrypt (env.encrypt value) = some value
  | .reveal _ _ _ => True

/-- The column holds the contacts under the ids that were returned with them. -/
structure Holds (db : ContactDb) (given : List (Nat × Option String)) : Prop where
  inStep : db.contacts.nextKey = db.auth.users.nextKey
  shown : List.Forall₂ (fun entry contact =>
    entry.1 = contact.1 ∧ decryptField decrypt entry.2 = .ok contact.2) db.contacts.entries given

theorem createContact_cases (env : RegistrationEnv) (payload : UserCreateRequest)
    (actorUserId : Option Nat) (db : ContactDb) :
    (reply (createContact env payload actorUserId) db = .ok db.auth.users.nextKey ∧
      ∃ auth, auth.users.nextKey = db.auth.users.nextKey + 1 ∧
        after (createContact env payload actorUserId) db = { db with
          auth := auth, contacts := db.contacts.insert (payload.contactInfo.map env.encrypt) }) ∨
    ((∃ raised, reply (createContact env payload actorUserId) db = .error raised) ∧
      after (createContact env payload actorUserId) db = db) := by
  rcases outcome_cases (createUser env payload actorUserId) db.auth with
    ⟨created, returned, _⟩ | ⟨raised, failed, _⟩
  · left
    obtain ⟨_, _, made, wrote⟩ := Auth.createUser_ok env payload actorUserId _ _ created returned
    subst made
    refine ⟨by rw [reply, createContact, returned],
      after (createUser env payload actorUserId) db.auth, ?_, ?_⟩
    · rw [wrote]
      exact Table.nextKey_insert _ _
    · rw [after, createContact, returned]
      rfl
  · right
    have same := Validation.createUser_allOrNothing env payload actorUserId _ _ raised failed
    refine ⟨⟨raised, by rw [reply, createContact, failed]⟩, ?_⟩
    rw [after, createContact, failed, same]

theorem readSensitiveContactEndpoint_eq (actor : User) (targetUserId : Nat) (reason : String)
    (db : ContactDb) :
    readSensitiveContactEndpoint decrypt actor targetUserId reason db =
      if actor.isSuperuser = false then .error (.authorization "Admin permission required") db
      else
        match db.contacts.get? targetUserId with
        | none => .error (.notFound "User not found") db
        | some stored =>
            match decryptField decrypt stored with
            | .error raised => .error raised db
            | .ok contact =>
                match varchar "reason" 255 reason with
                | .error raised => .error raised db
                | .ok kept => .ok contact { db with
                    sensitiveAccessLogs := db.sensitiveAccessLogs.insert
                      ⟨some actor.id, some targetUserId, "contact_info", "read", some kept⟩ } := by
  cases super : actor.isSuperuser with
  | false => simp [readSensitiveContactEndpoint, requireSuperuser, run_bind, super]
  | true =>
      cases found : db.contacts.get? targetUserId with
      | none =>
          simp [readSensitiveContactEndpoint, requireSuperuser, requirePermission, run_bind, super,
            revealSensitiveContact, found]
      | some stored =>
          cases plain : decryptField decrypt stored with
          | error raised =>
              simp [readSensitiveContactEndpoint, requireSuperuser, requirePermission, run_bind,
                super, revealSensitiveContact, found, plain]
          | ok contact =>
              cases fits : varchar "reason" 255 reason <;>
                simp [readSensitiveContactEndpoint, requireSuperuser, requirePermission, run_bind,
                  run_map, super, revealSensitiveContact, found, plain, transactional,
                  recordSensitiveAccess, nullableVarchar, Except.map, fits]

theorem reveal_after (actor : User) (targetUserId : Nat) (reason : String) (db : ContactDb) :
    after (readSensitiveContactEndpoint decrypt actor targetUserId reason) db =
      { db with
        sensitiveAccessLogs := db.sensitiveAccessLogs.insertAll
          (recorded decrypt db (.reveal actor targetUserId reason)) } := by
  have outcome := readSensitiveContactEndpoint_eq decrypt actor targetUserId reason db
  rw [recorded, after, reply, outcome]
  cases actor.isSuperuser with
  | false => simp
  | true =>
      cases db.contacts.get? targetUserId with
      | none => simp
      | some stored =>
          cases plain : decryptField decrypt stored with
          | error raised => simp [plain]
          | ok contact =>
              cases fits : varchar "reason" 255 reason with
              | error raised => simp [plain]
              | ok kept => simp [plain, Except.toOption, Table.insert, Table.insertAll]

theorem step_recorded (db : ContactDb) (call : Call) :
    (step decrypt db call).sensitiveAccessLogs.rows =
      db.sensitiveAccessLogs.rows ++ recorded decrypt db call := by
  cases call with
  | register env payload actorUserId =>
      rw [recorded, List.append_nil, step]
      rcases createContact_cases env payload actorUserId db with ⟨_, _, _, wrote⟩ | ⟨_, same⟩
      · rw [wrote]
      · rw [same]
  | reveal actor targetUserId reason =>
      rw [step, reveal_after]
      rfl

theorem step_holds (db : ContactDb) (call : Call) (given : List (Nat × Option String))
    (fernet : Decrypts decrypt call) (holds : Holds decrypt db given) :
    Holds decrypt (step decrypt db call) (given ++ registered db call) := by
  cases call with
  | reveal actor targetUserId reason =>
      rw [step, reveal_after, registered, List.append_nil]
      exact ⟨holds.inStep, holds.shown⟩
  | register env payload actorUserId =>
      rw [step, registered]
      rcases createContact_cases env payload actorUserId db with
        ⟨returned, auth, next, wrote⟩ | ⟨⟨raised, failed⟩, same⟩
      · rw [returned, wrote]
        refine ⟨?_, ?_⟩
        · rw [Table.nextKey_insert, next, holds.inStep]
        · rw [Table.entries_insert, holds.inStep]
          refine List.rel_append holds.shown (.cons ⟨rfl, ?_⟩ .nil)
          cases payload.contactInfo with
          | none => rfl
          | some contact =>
              rw [Option.map_some, decryptField, fernet contact]
              rfl
      · rw [failed, same, List.append_nil]
        exact holds

theorem run_holds (db : ContactDb) (calls : List Call) (given : List (Nat × Option String))
    (fernet : ∀ call ∈ calls, Decrypts decrypt call) (holds : Holds decrypt db given) :
    Holds decrypt (Runs.run (step decrypt) db calls)
      (given ++ Runs.outputs (step decrypt) registered db calls) := by
  induction calls generalizing db given with
  | nil =>
      rw [Runs.outputs, List.append_nil]
      exact holds
  | cons call calls ih =>
      obtain ⟨first, rest⟩ := List.forall_mem_cons.mp fernet
      rw [Runs.outputs, ← List.append_assoc]
      exact ih (step decrypt db call) _ rest (step_holds decrypt db call given first holds)

end Contacts

def empty : ContactDb := ⟨AuthDb.start Table.empty, Table.empty, Table.empty⟩

def run (decrypt : String → Option String) (calls : List Call) : ContactDb :=
  Runs.run (step decrypt) empty calls

/-- The contacts that were given to the registrations of a run, under the ids these returned. -/
def givenContacts (decrypt : String → Option String) (calls : List Call) :
    List (Nat × Option String) := Runs.outputs (step decrypt) registered empty calls

/-- After any run the access log has one row for every contact that was revealed, in order, and
none besides. A contact is revealed to superusers alone, with a reason that fits its column, and
is then the very text that the registration of its user was given. -/
theorem contacts_revealed_on_record (decrypt : String → Option String) (calls : List Call)
    (fernet : ∀ call ∈ calls, Decrypts decrypt call) :
    (run decrypt calls).sensitiveAccessLogs.rows =
        Runs.outputs (step decrypt) (recorded decrypt) empty calls ∧
      ∀ actor targetUserId reason,
        reply (readSensitiveContactEndpoint decrypt actor targetUserId reason)
            (run decrypt calls) =
          if actor.isSuperuser = false then .error (.authorization "Admin permission required")
          else
            match (givenContacts decrypt calls).lookup targetUserId with
            | none => .error (.notFound "User not found")
            | some contact => (varchar "reason" 255 reason).map (fun _ => contact) := by
  refine ⟨?_, ?_⟩
  · exact Runs.run_appends (step decrypt) (recorded decrypt) (·.sensitiveAccessLogs.rows)
      (step_recorded decrypt) empty calls
  · intro actor targetUserId reason
    have holds : Holds decrypt (run decrypt calls) (givenContacts decrypt calls) :=
      run_holds decrypt empty calls [] fernet ⟨rfl, .nil⟩
    have related := Table.related_lookup (fun stored contact =>
      decryptField decrypt stored = .ok contact) _ _ holds.shown targetUserId
    rw [Table.lookup_entries] at related
    rw [reply, readSensitiveContactEndpoint_eq]
    cases actor.isSuperuser with
    | false => rfl
    | true =>
        rw [if_neg (by decide), if_neg (by decide)]
        generalize (run decrypt calls).contacts.get? targetUserId = stored at related ⊢
        generalize (givenContacts decrypt calls).lookup targetUserId = contact at related ⊢
        cases related with
        | none => rfl
        | some plain =>
            simp only [plain]
            cases varchar "reason" 255 reason <;> rfl

def contactCalls : List Call :=
  [.register Auth.sampleTools
      ⟨⟨"maya", by decide⟩, ⟨"till-pass-7", by decide⟩, none, some "+251911223344"⟩ none,
    .reveal ⟨9, true, []⟩ 1 "callback"]

def sampleDecrypt (token : String) : Option String :=
  if token.toList.take 6 = "gAAAAA".toList then some (String.ofList (token.toList.drop 6)) else none

theorem sampleDecrypt_encrypt (value : String) :
    sampleDecrypt (Auth.sampleTools.encrypt value) = some value := by
  have letters : ("gAAAAA" ++ value).toList = ['g', 'A', 'A', 'A', 'A', 'A'] ++ value.toList :=
    String.toList_append
  rw [sampleDecrypt, Auth.sampleTools, letters, if_pos (by rfl)]
  exact congrArg some String.ofList_toList

theorem maya_revealed_on_record :
    (run sampleDecrypt contactCalls).sensitiveAccessLogs.rows =
        [⟨some 9, some 1, "contact_info", "read", some "callback"⟩] ∧
      reply (readSensitiveContactEndpoint sampleDecrypt ⟨9, true, []⟩ 1 "callback")
        (run sampleDecrypt contactCalls) = .ok (some "+251911223344") := by
  have fernet : ∀ call ∈ contactCalls, Decrypts sampleDecrypt call := by
    intro call member
    simp only [contactCalls, List.mem_cons, List.not_mem_nil, or_false] at member
    rcases member with rfl | rfl
    · exact sampleDecrypt_encrypt
    · trivial
  obtain ⟨logged, revealed⟩ := contacts_revealed_on_record sampleDecrypt contactCalls fernet
  refine ⟨?_, ?_⟩
  · rw [logged]
    decide +kernel
  · rw [revealed]
    decide +kernel

end RetailApp.Contacts
