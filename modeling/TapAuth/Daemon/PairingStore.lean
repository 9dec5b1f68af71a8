import TapAuth.Daemon.AdminReload

/-!
# The store of the paired phones over whole histories

Three requests write the map of paired servers: a pairing is completed, a user removes a
phone, the client symmetric key is rotated.  `StoreEffect` says what one of them can do to
the map, whatever fails on the way, and no later proof looks at the handlers again.

`pairings_of_history` is the result: the map stays well filed over every history, and a
removal takes exactly one user from exactly one phone.
-/

namespace TapAuth.Daemon

open Shared

/-- `handle_remove_device`. -/
def handleRemoveDevice (d : Disk) (readFault : Option IoFault) (writeFault : Option WriteFault)
    (username publicKey : String) : AdminResponse × Disk :=
  match d.removeUserFromPairing readFault writeFault publicKey username with
  | (.ok _, d) => (emptySuccess, d)
  | (.error e, d) => (removeDeviceFailed e, d)

/-- A request that writes the map, with what it meets on the way. -/
inductive StoreRequest where
  | completePairing (slot : Option PairingState) (username : String) (port : UInt32)
      (io : CompletionIo)
  | removeDevice (username publicKey : String) (readFault : Option IoFault)
      (writeFault : Option WriteFault)
  | rotateCsk (clearFault : Option IoFault) (fresh : Option ClientSymmetricKey)
      (fault : Option WriteFault)

/-- The handler of a request, from its first read to its last write. -/
def StoreRequest.handle (P : Primitives) (d : Disk) : StoreRequest → AdminResponse × Disk
  | .completePairing slot username port io =>
    let (response, d, _) := handleCompletePairing P d slot username port io
    (response, d)
  | .removeDevice username publicKey readFault writeFault =>
    handleRemoveDevice d readFault writeFault username publicKey
  | .rotateCsk clearFault fresh fault => handleRotateCsk d clearFault fresh fault

/-- The state directory after a history of requests, one after another. -/
def history (P : Primitives) (d : Disk) (requests : List StoreRequest) : Disk :=
  requests.foldl (fun d request ↦ (request.handle P d).2) d

/-! ## What a request does to the map -/

/-- The entry without a user, or none if nobody is left. -/
def withoutUserEntry (server : PairedServer) (username : String) : Option PairedServer :=
  let allowedUsers := server.allowedUsers.filter fun u ↦ u ≠ username
  if allowedUsers = [] then none else some { server with allowedUsers }

variable {servers : ServerMap} {edited : ServerMap × Bool} {id username : String}

theorem lookup_withoutUser (h : Disk.withoutUser servers id username = some edited) (id' : String) :
    edited.1.lookup id' =
      if id' = id then (servers.lookup id).bind fun server ↦ withoutUserEntry server username
      else servers.lookup id' := by
  obtain ⟨server, hlookup, rfl⟩ := Option.map_eq_some_iff.mp h
  simp only [hlookup, Option.bind_some, withoutUserEntry]
  by_cases hid : id' = id
  · subst hid
    split <;> simp
  · split <;> simp [hid, AList.lookup_insert_ne, AList.lookup_erase_ne]

/-- What a request can make of the map. -/
inductive StoreEffect (before : ServerMap) : ServerMap → Prop
  | kept : StoreEffect before before
  | paired (server : PairedServer) (husers : server.allowedUsers ≠ []) :
      StoreEffect before (before.insert server.publicKey server)
  | removed {id username : String} {edited : ServerMap × Bool}
      (h : Disk.withoutUser before id username = some edited) : StoreEffect before edited.1
  | cleared : StoreEffect before ∅

/-- A save that fails early keeps the map. -/
theorem StoreEffect.save {d : Disk} (h : StoreEffect d.pairedServers servers)
    (fault : Option WriteFault) :
    StoreEffect d.pairedServers (d.savePairedServers fault servers).2.pairedServers := by
  rw [pairedServers_savePairedServers]
  split
  · exact h
  · exact .kept

theorem addPairedServer_effect (d : Disk) (readFault : Option IoFault)
    (writeFault : Option WriteFault) (server : PairedServer) (husers : server.allowedUsers ≠ []) :
    StoreEffect d.pairedServers
      (d.addPairedServer readFault writeFault server.publicKey server).2.pairedServers := by
  unfold Disk.addPairedServer
  cases hload : d.loadPairedServers readFault with
  | error e => exact .kept
  | ok servers =>
    rw [Disk.loadPairedServers_eq_ok hload]
    exact (StoreEffect.paired server husers).save writeFault

theorem completePairing_effect (P : Primitives) (d : Disk) (active : ActivePairing)
    (username : String) (io : CompletionIo) :
    StoreEffect d.pairedServers (completePairing P d active username io).2.pairedServers := by
  unfold completePairing
  cases pairingCsk d io.loadCsk io.generated with
  | error message => exact .kept
  | ok csk =>
    cases hfinish : active.session.finishPairing P io.nonce csk username io.complete with
    | error e => simpa only [hfinish] using StoreEffect.kept
    | ok u =>
      have hservers := pairedServers_saveCsk d io.saveCsk csk
      simp only [hfinish]
      split
      · rename_i e d₁ hsave
        rw [hsave] at hservers
        exact hservers ▸ .kept
      · rename_i d₁ hsave
        rw [hsave] at hservers
        have hadd := addPairedServer_effect d₁ io.loadServers io.saveServers
          (newPairedServer active username io.now) (List.cons_ne_nil _ _)
        rw [hservers] at hadd
        split <;> rename_i hadded <;> exact (congrArg Prod.snd hadded) ▸ hadd

theorem removeUserFromPairing_effect (d : Disk) (readFault : Option IoFault)
    (writeFault : Option WriteFault) (id username : String) :
    StoreEffect d.pairedServers
      (d.removeUserFromPairing readFault writeFault id username).2.pairedServers := by
  unfold Disk.removeUserFromPairing
  cases hload : d.loadPairedServers readFault with
  | error e => exact .kept
  | ok servers =>
    rw [Disk.loadPairedServers_eq_ok hload]
    cases hedited : Disk.withoutUser d.pairedServers id username with
    | none => simpa only [hedited] using StoreEffect.kept
    | some edited => simpa only [hedited] using (StoreEffect.removed hedited).save writeFault

theorem rotateCsk_effect (d : Disk) (clearFault : Option IoFault)
    (fresh : Option ClientSymmetricKey) (fault : Option WriteFault) :
    StoreEffect d.pairedServers (d.rotateCsk clearFault fresh fault).2.pairedServers := by
  rw [Disk.rotateCsk, pairedServers_generateAndSaveCsk]
  rcases d.pairedServers_clearPairedServers clearFault with h | h <;> rw [h]
  · exact .kept
  · exact .cleared

/-- The step: whatever a request meets, it has one of the four effects. -/
theorem StoreRequest.effect (P : Primitives) (d : Disk) (request : StoreRequest) :
    StoreEffect d.pairedServers (request.handle P d).2.pairedServers := by
  cases request with
  | completePairing slot username port io =>
    rcases slot with - | (pairing | active)
    · exact .kept
    · exact .kept
    · simp only [handle, handleCompletePairing]
      split
      · exact .kept
      · exact completePairing_effect P d active username io
  | removeDevice username publicKey readFault writeFault =>
    have heffect := removeUserFromPairing_effect d readFault writeFault publicKey username
    simp only [handle, handleRemoveDevice]
    split <;> rename_i hremoved <;> simpa only [hremoved] using heffect
  | rotateCsk clearFault fresh fault =>
    have heffect := rotateCsk_effect d clearFault fresh fault
    simp only [handle, handleRotateCsk]
    split <;> rename_i hrotated <;> simpa only [hrotated] using heffect

/-! ## The map over a history -/

/-- Every phone is filed under its own key, and none is kept without a user. -/
structure WellFiled (servers : ServerMap) : Prop where
  publicKey : ∀ id server, servers.lookup id = some server → server.publicKey = id
  allowedUsers : ∀ id server, servers.lookup id = some server → server.allowedUsers ≠ []

theorem WellFiled.empty : WellFiled ∅ where
  publicKey id server h := by simp at h
  allowedUsers id server h := by simp at h

theorem WellFiled.insert (h : WellFiled servers) (server : PairedServer)
    (husers : server.allowedUsers ≠ []) : WellFiled (servers.insert server.publicKey server) := by
  have hlookup : ∀ id found, (servers.insert server.publicKey server).lookup id = some found →
      (id = server.publicKey ∧ found = server) ∨ servers.lookup id = some found := by
    intro id found hfound
    by_cases hid : id = server.publicKey
    · subst hid
      rw [AList.lookup_insert, Option.some.injEq] at hfound
      exact .inl ⟨rfl, hfound.symm⟩
    · exact .inr (AList.lookup_insert_ne hid ▸ hfound)
  constructor
  · intro id found hfound
    obtain ⟨rfl, rfl⟩ | hold := hlookup id found hfound
    · rfl
    · exact h.publicKey id found hold
  · intro id found hfound
    obtain ⟨rfl, rfl⟩ | hold := hlookup id found hfound
    · exact husers
    · exact h.allowedUsers id found hold

theorem withoutUserEntry_eq_some {server kept : PairedServer} {username : String} :
    withoutUserEntry server username = some kept ↔
      kept.allowedUsers ≠ [] ∧
        kept = { server with allowedUsers := server.allowedUsers.filter fun u ↦ u ≠ username } := by
  simp only [withoutUserEntry]
  constructor
  · intro h
    split at h
    · cases h
    · rename_i hne
      cases h
      exact ⟨hne, rfl⟩
  · rintro ⟨hne, rfl⟩
    exact if_neg hne

theorem withoutUserEntry_eq_none {server : PairedServer} {username : String} :
    withoutUserEntry server username = none ↔ ∀ u ∈ server.allowedUsers, u = username := by
  simp [withoutUserEntry, List.filter_eq_nil_iff]

theorem WellFiled.withoutUser (h : WellFiled servers)
    (hedited : Disk.withoutUser servers id username = some edited) : WellFiled edited.1 := by
  have hlookup : ∀ id' found, edited.1.lookup id' = some found →
      (∃ server, servers.lookup id' = some server ∧
        withoutUserEntry server username = some found) ∨ servers.lookup id' = some found := by
    intro id' found hfound
    rw [lookup_withoutUser hedited] at hfound
    split at hfound
    · rename_i hid
      exact .inl (hid ▸ Option.bind_eq_some_iff.mp hfound)
    · exact .inr hfound
  constructor
  · intro id' found hfound
    obtain ⟨server, hserver, hkept⟩ | hold := hlookup id' found hfound
    · rw [(withoutUserEntry_eq_some.mp hkept).2]
      exact h.publicKey id' server hserver
    · exact h.publicKey id' found hold
  · intro id' found hfound
    obtain ⟨server, -, hkept⟩ | hold := hlookup id' found hfound
    · exact (withoutUserEntry_eq_some.mp hkept).1
    · exact h.allowedUsers id' found hold

theorem StoreEffect.wellFiled {before after : ServerMap} (heffect : StoreEffect before after)
    (h : WellFiled before) : WellFiled after := by
  cases heffect with
  | kept => exact h
  | paired server husers => exact h.insert server husers
  | removed hedited => exact h.withoutUser hedited
  | cleared => exact .empty

/-- The run: the map stays well filed over every history. -/
theorem WellFiled.history {P : Primitives} {d : Disk} (h : WellFiled d.pairedServers)
    (requests : List StoreRequest) : WellFiled (history P d requests).pairedServers := by
  induction requests generalizing d with
  | nil => exact h
  | cons request requests ih => exact ih ((request.effect P d).wellFiled h)

/-! ## What a removal takes away -/

/-- The phone filed under `id` may authenticate `user`. -/
def Allows (servers : ServerMap) (id user : String) : Prop :=
  ∃ server, servers.lookup id = some server ∧ user ∈ server.allowedUsers

/-- One user of one phone is gone.  The phone goes with its last user, and otherwise only
its list of users changes. -/
structure RemovesExactly (before after : ServerMap) (id user : String) : Prop where
  allows : ∀ id' user', Allows after id' user' ↔
    Allows before id' user' ∧ ¬ (id' = id ∧ user' = user)
  deleted : ∀ server, before.lookup id = some server →
    (after.lookup id = none ↔ ∀ user' ∈ server.allowedUsers, user' = user)
  kept : ∀ server', after.lookup id = some server' → ∃ server, before.lookup id = some server ∧
    server' = { server with allowedUsers := server.allowedUsers.filter fun u ↦ u ≠ user }
  others : ∀ id', id' ≠ id → after.lookup id' = before.lookup id'

theorem exists_mem_withoutUserEntry {server : PairedServer} {username user : String} :
    (∃ kept, withoutUserEntry server username = some kept ∧ user ∈ kept.allowedUsers) ↔
      user ∈ server.allowedUsers ∧ user ≠ username := by
  simp only [withoutUserEntry_eq_some]
  constructor
  · rintro ⟨kept, ⟨-, rfl⟩, huser⟩
    simpa using huser
  · intro huser
    have hmem : user ∈ server.allowedUsers.filter fun u ↦ u ≠ username := by simpa using huser
    exact ⟨_, ⟨List.ne_nil_of_mem hmem, rfl⟩, hmem⟩

theorem removesExactly_withoutUser (h : Disk.withoutUser servers id username = some edited) :
    RemovesExactly servers edited.1 id username := by
  obtain ⟨server, hserver, -⟩ := Option.map_eq_some_iff.mp h
  have hself : edited.1.lookup id = withoutUserEntry server username := by
    rw [lookup_withoutUser h, if_pos rfl, hserver, Option.bind_some]
  have hothers : ∀ id', id' ≠ id → edited.1.lookup id' = servers.lookup id' :=
    fun id' hid ↦ by rw [lookup_withoutUser h, if_neg hid]
  refine ⟨fun id' user ↦ ?_, fun found hfound ↦ ?_, fun kept hkept ↦ ?_, hothers⟩
  · by_cases hid : id' = id
    · subst hid
      simp [Allows, hself, hserver, exists_mem_withoutUserEntry]
    · simp [Allows, hothers id' hid, hid]
  · obtain rfl : server = found := Option.some.inj (hserver.symm.trans hfound)
    rw [hself, withoutUserEntry_eq_none]
  · rw [hself, withoutUserEntry_eq_some] at hkept
    exact ⟨server, hserver, hkept.2⟩

/-- On a phone that is not stored there is nothing to remove. -/
theorem removesExactly_of_absent {id : String} (h : servers.lookup id = none) (username : String) :
    RemovesExactly servers servers id username where
  allows id' user' := by
    refine ⟨fun hallows ↦ ⟨hallows, ?_⟩, And.left⟩
    rintro ⟨rfl, -⟩
    obtain ⟨server, hserver, -⟩ := hallows
    rw [h] at hserver
    cases hserver
  deleted server hserver := by rw [h] at hserver; cases hserver
  kept server hserver := by rw [h] at hserver; cases hserver
  others _ _ := rfl

/-- A removal that is reported as done has been made. -/
theorem handleRemoveDevice_removes {d : Disk} {readFault : Option IoFault}
    {writeFault : Option WriteFault} {username publicKey : String}
    (h : (handleRemoveDevice d readFault writeFault username publicKey).1.status = .success) :
    RemovesExactly d.pairedServers
      (handleRemoveDevice d readFault writeFault username publicKey).2.pairedServers
      publicKey username := by
  unfold handleRemoveDevice Disk.removeUserFromPairing at h ⊢
  cases hload : d.loadPairedServers readFault with
  | error e =>
    rw [hload] at h
    cases h
  | ok servers =>
    rw [hload, Disk.loadPairedServers_eq_ok hload] at h
    rw [Disk.loadPairedServers_eq_ok hload]
    cases hedited : Disk.withoutUser d.pairedServers publicKey username with
    | none =>
      simp only [hedited]
      exact removesExactly_of_absent (Option.map_eq_none_iff.mp hedited) username
    | some edited =>
      simp only [hedited] at h ⊢
      rcases writeFault with - | (fault | fault)
      · exact removesExactly_withoutUser hedited
      · cases h
      · cases h

/-- **The store over every history.**  From a well filed map, pairings, removals by any user
and rotations, in any order and whatever fails in them, keep the map well filed; and in every
state they reach, a removal by `username` on `publicKey` that succeeds takes exactly that user
from exactly that phone. -/
theorem pairings_of_history (P : Primitives) {d : Disk} (h : WellFiled d.pairedServers)
    (requests : List StoreRequest) :
    WellFiled (history P d requests).pairedServers ∧
      ∀ username publicKey readFault writeFault,
        (handleRemoveDevice (history P d requests) readFault writeFault username
            publicKey).1.status = .success →
          RemovesExactly (history P d requests).pairedServers
            (handleRemoveDevice (history P d requests) readFault writeFault username
              publicKey).2.pairedServers publicKey username :=
  ⟨h.history requests, fun _ _ _ _ ↦ handleRemoveDevice_removes⟩

open PairingSample

namespace StoreSample

def phoneId : String := hexEncode phoneKey.bytes

/-- A phone that two users share. -/
def sharedPhone : PairedServer := ⟨"phone", phoneId, ["alice", "bob"], 0⟩

def disk : Disk where
  cskFile := some csk.bytes
  serversFile := some (.servers ((∅ : ServerMap).insert phoneId sharedPhone))

/-- Alice pairs the phone anew, and a key rotation follows that cannot remove the file. -/
def requests : List StoreRequest :=
  [.completePairing (some (.active active)) "alice" 4000 io,
    .rotateCsk (some .insufficientPermissions) (some csk) none]

theorem wellFiled_disk : WellFiled disk.pairedServers :=
  WellFiled.empty.insert sharedPhone (List.cons_ne_nil _ _)

end StoreSample

open StoreSample

theorem pairings_of_history_sample :
    WellFiled (history primitives disk
        requests).pairedServers ∧
      RemovesExactly (history primitives disk
          requests).pairedServers
        (handleRemoveDevice (history primitives disk
          requests) none none "alice" phoneId).2.pairedServers
        phoneId "alice" := by
  obtain ⟨hfiled, hremoves⟩ := pairings_of_history primitives
    wellFiled_disk requests
  refine ⟨hfiled, hremoves "alice" phoneId none none ?_⟩
  decide +kernel

end TapAuth.Daemon
