import Mathlib.Data.Fintype.Basic
import TapAuth.Lib.Pool
import TapAuth.Phone.AuthRequestManager

/-!
# Submissions and cancels that overlap

`submitRequest` and `cancelRequestsByChallenge` of `AuthRequestManager` cut at each of
their operations on the concurrent maps and on the sets that the indexes hold.  A
submission first asks whether its challenge was cancelled and publishes the request
later; a cancel first looks for requests and remembers the challenge last.  Not interrupted,
they are the operations of `AuthRequestManager` (`reaches_submitted`, `reaches_cancelled`).

`no_pending_while_remembered` says that a challenge whose cancel has returned has no
pending request while the cancel is remembered, provided that no submission and no cancel
of one challenge overlap: from the question of the submission to its entry in the index,
and from the look at the index to the mark of the cancel.  Without that a submission can
cross a cancel and stay (`pending_after_cancel`).

A set in an index is an object of its own, which a thread may still hold when the index
no longer does; sets are named by the key they were made for and a number.  The clock is
read with the operation that uses its value.
-/

namespace TapAuth.Phone

open Shared AuthRequestManager Function

/-- A key of `challengeIndex` or of `bleDeviceRequests`. -/
inductive IndexKey where
  | challenge (challenge : Bytes)
  | address (bleDeviceAddress : String)
  deriving DecidableEq

structure ManagerMaps where
  elapsedRealtime : Nat
  pendingRequests : AList fun _ : String ↦ PendingAuthRequest
  /-- The two indexes: which of the sets made for a key is filed under it. -/
  index : IndexKey → Option Nat
  /-- The sets. -/
  sets : IndexKey → Nat → List String
  /-- How many sets were made for a key. -/
  made : IndexKey → Nat
  cancelledChallenges : Bytes → Option Nat
  callbacks : List AuthResponse

namespace ManagerMaps

def setIndex (s : ManagerMaps) (key : IndexKey) (set : Option Nat) : ManagerMaps :=
  { s with index := update s.index key set }

def setSet (s : ManagerMaps) (key : IndexKey) (set : Nat) (ids : List String) : ManagerMaps :=
  { s with sets := update s.sets key (update (s.sets key) set ids) }

def addToSet (s : ManagerMaps) (key : IndexKey) (set : Nat) (requestId : String) : ManagerMaps :=
  s.setSet key set ((s.sets key set).insert requestId)

def setCancelled (s : ManagerMaps) (challenge : Bytes) (ts : Option Nat) : ManagerMaps :=
  { s with cancelledChallenges := update s.cancelledChallenges challenge ts }

/-- The set that is filed under a key. -/
def filed (s : ManagerMaps) (key : IndexKey) : Option (List String) :=
  (s.index key).map (s.sets key)

/-- The manager whose operations are atomic, with these maps. -/
def atomic (s : ManagerMaps) : AuthRequestManager where
  pendingRequests := s.pendingRequests
  challengeIndex := s.filed ∘ .challenge
  bleDeviceRequests := s.filed ∘ .address
  cancelledChallenges := s.cancelledChallenges
  elapsedRealtime := s.elapsedRealtime
  cleanups := []
  submitted := []
  callbacks := s.callbacks

def prune (s : ManagerMaps) : ManagerMaps :=
  { s with cancelledChallenges := s.atomic.pruneCancelledChallenges.cancelledChallenges }

/-- `putIfAbsent` of an empty set: the set that is filed then. -/
def putSet (s : ManagerMaps) (key : IndexKey) : ManagerMaps × Nat :=
  match s.index key with
  | some set => (s, set)
  | none =>
    ({ s.setSet key (s.made key) [] with
        made := update s.made key (s.made key + 1) }.setIndex key (some (s.made key)),
      s.made key)

def startCallback (s : ManagerMaps) (requestId : String) : ManagerMaps :=
  { s with callbacks := cancelledResponse requestId :: s.callbacks }

end ManagerMaps

open ManagerMaps

def PendingAuthRequest.requestId (r : PendingAuthRequest) : String := r.authRequest.requestId

def PendingAuthRequest.challenge (r : PendingAuthRequest) : Bytes := r.authRequest.challenge

/-- The removal of a request from its address: get the set, remove the request from it, get
the set again, look whether it is empty, remove the entry. -/
inductive Untracking where
  | get
  | discard (set : Nat)
  | getAgain
  | test (set : Nat)
  | drop
  deriving DecidableEq

/-- Where a thread stands, with what it has read.  One more thread stands for the clock. -/
inductive Operation where
  | surroundings
  | submitting (r : PendingAuthRequest)
  | checking (r : PendingAuthRequest)
  | comparing (r : PendingAuthRequest) (ts : Nat)
  | forgetting (r : PendingAuthRequest)
  | publishing (r : PendingAuthRequest)
  | indexing (r : PendingAuthRequest)
  | creating (r : PendingAuthRequest)
  | adding (r : PendingAuthRequest) (set : Nat)
  | tracking (r : PendingAuthRequest)
  | trackCreating (r : PendingAuthRequest) (address : String)
  | trackAdding (r : PendingAuthRequest) (address : String) (set : Nat)
  | submitted (r : PendingAuthRequest)
  | dropped (r : PendingAuthRequest)
  | cancelling (challenge : Bytes)
  | listing (challenge : Bytes) (set : Nat)
  | scanning (challenge : Bytes)
  | removing (challenge : Bytes) (ids : List String)
  | untracking (challenge : Bytes) (ids : List String) (address requestId : String)
      (stage : Untracking)
  | pruning (challenge : Bytes) (ts : Nat)
  /-- The cancel has returned; its mark was made at `ts`. -/
  | cancelled (challenge : Bytes) (ts : Nat)
  deriving DecidableEq

/-- A thread does its next operation, or time passes. -/
inductive ManagerAction where
  | run
  | tick (ms : Nat)
  deriving DecidableEq

def untrackStep (s : ManagerMaps) (address requestId : String) :
    Untracking → ManagerMaps × Option Untracking
  | .get =>
    match s.index (.address address) with
    | some set => (s, some (.discard set))
    | none => (s, some .getAgain)
  | .discard set =>
    (s.setSet (.address address) set ((s.sets (.address address) set).erase requestId),
      some .getAgain)
  | .getAgain =>
    match s.index (.address address) with
    | some set => (s, some (.test set))
    | none => (s, none)
  | .test set => (s, if s.sets (.address address) set = [] then some .drop else none)
  | .drop => (s.setIndex (.address address) none, none)

def operationStep (s : ManagerMaps) : Operation → ManagerAction → Option (ManagerMaps × Operation)
  | .surroundings, .tick ms =>
    some ({ s with elapsedRealtime := s.elapsedRealtime + ms }, .surroundings)
  | .submitting r, .run => some (s.prune, .checking r)
  | .checking r, .run =>
    match s.cancelledChallenges r.challenge with
    | some ts => some (s, .comparing r ts)
    | none => some (s, .publishing r)
  | .comparing r ts, .run =>
    if forgotten s.elapsedRealtime ts then some (s, .forgetting r)
    else some (s.startCallback r.requestId, .dropped r)
  | .forgetting r, .run => some (s.setCancelled r.challenge none, .publishing r)
  | .publishing r, .run =>
    some ({ s with pendingRequests := s.pendingRequests.insert r.requestId r },
      .indexing r)
  | .indexing r, .run =>
    match s.index (.challenge r.challenge) with
    | some set => some (s, .adding r set)
    | none => some (s, .creating r)
  | .creating r, .run =>
    let filed := s.putSet (.challenge r.challenge)
    some (filed.1, .adding r filed.2)
  | .adding r set, .run => some (s.addToSet (.challenge r.challenge) set r.requestId, .tracking r)
  | .tracking r, .run =>
    match r.bleDeviceAddress with
    | none => some (s, .submitted r)
    | some address =>
      match s.index (.address address) with
      | some set => some (s, .trackAdding r address set)
      | none => some (s, .trackCreating r address)
  | .trackCreating r address, .run =>
    let filed := s.putSet (.address address)
    some (filed.1, .trackAdding r address filed.2)
  | .trackAdding r address set, .run =>
    some (s.addToSet (.address address) set r.requestId, .submitted r)
  | .cancelling challenge, .run =>
    let s' := s.setIndex (.challenge challenge) none
    match s.index (.challenge challenge) with
    | some set => some (s', .listing challenge set)
    | none => some (s', .scanning challenge)
  | .listing challenge set, .run =>
    let requestIds := s.sets (.challenge challenge) set
    if requestIds ≠ [] then some (s, .removing challenge requestIds)
    else some (s, .scanning challenge)
  | .scanning challenge, .run =>
    some (s, .removing challenge (s.atomic.withChallenge challenge))
  | .removing challenge (requestId :: ids), .run =>
    let s' := { s with pendingRequests := s.pendingRequests.erase requestId }
    match s.pendingRequests.lookup requestId with
    | none => some (s, .removing challenge ids)
    | some r =>
      match r.bleDeviceAddress with
      | none => some (s'.startCallback requestId, .removing challenge ids)
      | some address =>
        some (s'.startCallback requestId, .untracking challenge ids address requestId .get)
  | .untracking challenge ids address requestId stage, .run =>
    match untrackStep s address requestId stage with
    | (s', some stage') => some (s', .untracking challenge ids address requestId stage')
    | (s', none) => some (s', .removing challenge ids)
  | .removing challenge [], .run =>
    some (s.setCancelled challenge (some s.elapsedRealtime), .pruning challenge s.elapsedRealtime)
  | .pruning challenge ts, .run => some (s.prune, .cancelled challenge ts)
  | _, _ => none

/-- All interleavings. -/
def operations : Threads ManagerMaps Operation ManagerAction := ⟨operationStep⟩

/-! ## Operations that are not interrupted

A thread that runs alone does what the operation of the atomic manager does. -/

section

variable {s t u : ManagerMaps} {l l' k : Operation} {ids : Option (List String)}

/-- A thread alone gets from one stage to another. -/
def Reaches (s : ManagerMaps) (l : Operation) (t : ManagerMaps) (l' : Operation) : Prop :=
  ∃ n, operations.solo.exec (s, l) (List.replicate n .run) = some (t, l')

theorem Reaches.trans (h : Reaches s l t l') (h' : Reaches t l' u k) : Reaches s l u k := by
  obtain ⟨n, hn⟩ := h
  obtain ⟨n', hn'⟩ := h'
  exact ⟨n + n', by rw [List.replicate_add, operations.solo.exec_append hn, hn']⟩

@[simp] theorem operations_solo_next (a : ManagerAction) :
    operations.solo.next (s, l) a = operationStep s l a := rfl

namespace ManagerMaps

theorem filed_setIndex (s : ManagerMaps) (key : IndexKey) :
    (s.setIndex key none).filed = update s.filed key none := by
  funext other
  by_cases h : other = key
  · subst h
    simp [filed, setIndex]
  · simp [filed, setIndex, h]

theorem filed_setSet {key : IndexKey} {set : Nat} (hset : s.index key = some set)
    (ids : List String) : (s.setSet key set ids).filed = update s.filed key (some ids) := by
  funext other
  by_cases h : other = key
  · subst h
    simp [filed, setSet, hset]
  · simp [filed, setSet, h]

/-- The set of a key, made if need be, gets a request. -/
def file (s : ManagerMaps) (key : IndexKey) (requestId : String) : ManagerMaps :=
  (s.putSet key).1.addToSet key (s.putSet key).2 requestId

theorem filed_file (s : ManagerMaps) (key : IndexKey) (requestId : String) :
    (s.file key requestId).filed =
      update s.filed key (some (((s.filed key).getD []).insert requestId)) := by
  unfold file putSet
  cases hindex : s.index key with
  | some set => simp [addToSet, filed_setSet hindex, filed, hindex]
  | none =>
    funext other
    by_cases h : other = key
    · subst h
      simp [filed, addToSet, setIndex, setSet, hindex]
    · simp [filed, addToSet, setIndex, setSet, h]

/-- Only what is filed under a key changes.  The other fields stand as those of `s`, to which
they reduce where this is used. -/
theorem atomic_of_filed {key : IndexKey} (h : t.filed = update s.filed key ids) :
    { t.atomic with
        pendingRequests := s.pendingRequests, cancelledChallenges := s.cancelledChallenges
        elapsedRealtime := s.elapsedRealtime, callbacks := s.callbacks } =
      match key with
      | .challenge challenge =>
        { s.atomic with challengeIndex := update s.atomic.challengeIndex challenge ids }
      | .address address =>
        { s.atomic with bleDeviceRequests := update s.atomic.bleDeviceRequests address ids } := by
  cases key
  · simp only [atomic, h, update_comp_eq_of_injective _ fun _ _ ↦ IndexKey.challenge.inj]
    rw [update_comp_eq_of_forall_ne _ _ (by simp)]
  · simp only [atomic, h, update_comp_eq_of_injective _ fun _ _ ↦ IndexKey.address.inj]
    rw [update_comp_eq_of_forall_ne _ _ (by simp)]

theorem atomic_file (s : ManagerMaps) (key : IndexKey) (requestId : String) :
    (s.file key requestId).atomic =
      match key with
      | .challenge challenge =>
        { s.atomic with challengeIndex := s.atomic.challengeIndex.add challenge requestId }
      | .address address =>
        { s.atomic with
          bleDeviceRequests := s.atomic.bleDeviceRequests.add address requestId } := by
  have hfiled := s.filed_file key requestId
  unfold file putSet at hfiled ⊢
  cases hindex : s.index key
  all_goals
    rw [hindex] at hfiled
    cases key <;> exact atomic_of_filed hfiled

end ManagerMaps

theorem reaches_untracked (s : ManagerMaps) (challenge : Bytes) (ids : List String)
    (address requestId : String) :
    ∃ t, Reaches s (.untracking challenge ids address requestId .get) t (.removing challenge ids) ∧
      t.atomic = { s.atomic with
        bleDeviceRequests := s.atomic.bleDeviceRequests.remove address requestId } := by
  have hfiled : s.atomic.bleDeviceRequests address = s.filed (.address address) := rfl
  unfold KeyIndex.remove
  cases hindex : s.index (.address address) with
  | none =>
    refine ⟨s, ⟨2, ?_⟩, ?_⟩
    · simp [operationStep, untrackStep, hindex]
    · simp [hfiled, filed, hindex]
  | some set =>
    simp only [hfiled, filed, hindex, Option.map_some]
    set left := (s.sets (.address address) set).erase requestId with hleft
    have hset := filed_setSet hindex left
    by_cases hempty : left = []
    · have hnone := (s.setSet (.address address) set left).filed_setIndex (.address address)
      rw [hset, update_idem] at hnone
      rw [if_pos hempty]
      refine ⟨(s.setSet (.address address) set left).setIndex (.address address) none, ⟨5, ?_⟩,
        atomic_of_filed hnone⟩
      simp [operationStep, untrackStep, hindex, setSet, ← hleft, hempty]
    · rw [if_neg hempty]
      refine ⟨s.setSet (.address address) set left, ⟨4, ?_⟩, atomic_of_filed hset⟩
      simp [operationStep, untrackStep, hindex, setSet, ← hleft, hempty]

theorem reaches_removed (s : ManagerMaps) (challenge : Bytes) (ids : List String) :
    ∃ t, Reaches s (.removing challenge ids) t (.removing challenge []) ∧
      t.atomic = cancelEach unindexBle s.atomic ids := by
  induction ids generalizing s with
  | nil => exact ⟨s, ⟨0, rfl⟩, rfl⟩
  | cons requestId ids ih =>
    -- one request, and then the rest
    suffices hone : ∃ t, Reaches s (.removing challenge (requestId :: ids)) t
        (.removing challenge ids) ∧
          t.atomic = s.atomic.settle unindexBle (cancelledResponse requestId) by
      obtain ⟨t, hone, ht⟩ := hone
      obtain ⟨u, hrest, hu⟩ := ih t
      exact ⟨u, hone.trans hrest, by rw [hu, ht, cancelEach]⟩
    cases hlookup : s.pendingRequests.lookup requestId with
    | none =>
      refine ⟨s, ⟨1, by simp [operationStep, hlookup]⟩, ?_⟩
      rw [settle_of_not_pending (show s.atomic.pendingRequests.lookup _ = _ from hlookup)]
    | some r =>
      let erased := { s with pendingRequests := s.pendingRequests.erase requestId }.startCallback
        requestId
      have hsettle : s.atomic.settle unindexBle (cancelledResponse requestId) =
          erased.atomic.unindexBle requestId r := by
        simp only [settle, atomic, cancelledResponse, hlookup]
        rfl
      rw [hsettle, unindexBle]
      cases haddress : r.bleDeviceAddress with
      | none => exact ⟨erased, ⟨1, by simp [operationStep, hlookup, haddress, erased]⟩, rfl⟩
      | some address =>
        obtain ⟨t, huntracked, ht⟩ := reaches_untracked erased challenge ids address requestId
        exact ⟨t, .trans ⟨1, by simp [operationStep, hlookup, haddress, erased]⟩ huntracked, ht⟩

/-- A cancel that is not interrupted is `cancelRequestsByChallenge`. -/
theorem reaches_cancelled (s : ManagerMaps) (challenge : Bytes) :
    ∃ t ts, Reaches s (.cancelling challenge) t (.cancelled challenge ts) ∧
      t.atomic = (s.atomic.cancelRequestsByChallenge challenge).2 := by
  let taken := s.setIndex (.challenge challenge) none
  have htaken : Reaches s (.cancelling challenge) taken
      (.removing challenge (s.atomic.idsToCancel challenge)) := by
    have hids : s.atomic.idsToCancel challenge = if (s.filed (.challenge challenge)).getD [] ≠ []
      then (s.filed (.challenge challenge)).getD [] else taken.atomic.withChallenge challenge := rfl
    rw [hids, filed]
    cases hindex : s.index (.challenge challenge) with
    | none => exact ⟨2, by simp [operationStep, hindex, taken]⟩
    | some set =>
      have hsets : (s.setIndex (.challenge challenge) none).sets = s.sets := rfl
      by_cases hempty : s.sets (.challenge challenge) set = []
      · exact ⟨3, by simp [operationStep, hindex, hsets, hempty, taken]⟩
      · exact ⟨2, by simp [operationStep, hindex, hsets, hempty, taken]⟩
  obtain ⟨t, hremoved, hatomic⟩ := reaches_removed taken challenge (s.atomic.idsToCancel challenge)
  have hdropped : taken.atomic =
      { s.atomic with challengeIndex := s.atomic.challengeIndex.drop challenge } :=
    atomic_of_filed (s.filed_setIndex (.challenge challenge))
  refine ⟨_, _, htaken.trans (hremoved.trans ⟨2, rfl⟩), ?_⟩
  rw [cancelRequestsByChallenge, ← hdropped, ← hatomic]
  rfl

theorem reaches_stored (s : ManagerMaps) (authRequest : AuthRequest) (address : Option String) :
    ∃ t, Reaches s (.publishing ⟨authRequest, address⟩) t (.submitted ⟨authRequest, address⟩) ∧
      t.atomic = s.atomic.store authRequest address := by
  set r : PendingAuthRequest := ⟨authRequest, address⟩ with hr
  let indexed := { s with pendingRequests := s.pendingRequests.insert r.requestId r }.file
    (.challenge r.challenge) r.requestId
  have hindexed : Reaches s (.publishing r) indexed (.tracking r) := by
    unfold indexed file putSet
    cases hindex : s.index (.challenge r.challenge) with
    | none => exact ⟨4, by simp [operationStep, putSet, hindex]⟩
    | some set => exact ⟨3, by simp [operationStep, hindex]⟩
  cases address with
  | none =>
    refine ⟨indexed, hindexed.trans ⟨1, by simp [operationStep, hr]⟩, ?_⟩
    rw [atomic_file]
    rfl
  | some address =>
    refine ⟨indexed.file (.address address) r.requestId, hindexed.trans ?_, ?_⟩
    · unfold file putSet
      cases hindex : indexed.index (.address address) with
      | none => exact ⟨3, by simp [operationStep, putSet, hr, hindex]⟩
      | some set => exact ⟨2, by simp [operationStep, hr, hindex]⟩
    · rw [atomic_file, atomic_file]
      rfl

/-- The manager without what is not cut into operations here: the clean-ups that wait, and
the identifiers that were returned. -/
def AuthRequestManager.maps (m : AuthRequestManager) : AuthRequestManager :=
  { m with cleanups := [], submitted := [] }

theorem maps_isChallengeCancelled (m : AuthRequestManager) (challenge : Bytes) :
    m.maps.isChallengeCancelled challenge =
      ((m.isChallengeCancelled challenge).1, (m.isChallengeCancelled challenge).2.maps) := by
  have hpruned : m.maps.pruneCancelledChallenges = m.pruneCancelledChallenges.maps := rfl
  rw [isChallengeCancelled, isChallengeCancelled, hpruned]
  cases h : m.pruneCancelledChallenges.cancelledChallenges challenge with
  | none => simp [maps, h]
  | some ts =>
    by_cases hforgotten : forgotten m.pruneCancelledChallenges.elapsedRealtime ts
    all_goals simp [maps, h, hforgotten]

theorem maps_submitRequest (m : AuthRequestManager) (S : Submission) :
    (m.submitRequest S).maps =
      match m.maps.isChallengeCancelled S.authRequest.challenge with
      | (true, m) =>
        { m with callbacks := cancelledResponse S.authRequest.requestId :: m.callbacks }
      | (false, m) => m.store S.authRequest S.bleDeviceAddress := by
  let issued := { m with submitted := S.authRequest.requestId :: m.submitted }
  rw [show m.maps = issued.maps from rfl, maps_isChallengeCancelled, submitRequest]
  rcases issued.isChallengeCancelled S.authRequest.challenge with ⟨_ | _, m⟩
  · unfold scheduleCleanup store indexBle
    dsimp only
    split_ifs <;> cases S.bleDeviceAddress <;> rfl
  · rfl

/-- A submission that is not interrupted is `submitRequest`, but for the clean-up that it
schedules. -/
theorem reaches_submitted (s : ManagerMaps) (S : Submission) :
    ∃ t l, Reaches s (.submitting ⟨S.authRequest, S.bleDeviceAddress⟩) t l ∧
      (l = .submitted ⟨S.authRequest, S.bleDeviceAddress⟩ ∨
        l = .dropped ⟨S.authRequest, S.bleDeviceAddress⟩) ∧
      t.atomic = (s.atomic.submitRequest S).maps := by
  have hpruned : s.atomic.maps.pruneCancelledChallenges = s.prune.atomic := rfl
  have hmap : s.prune.atomic.cancelledChallenges = s.prune.cancelledChallenges := rfl
  have hclock : s.prune.atomic.elapsedRealtime = s.prune.elapsedRealtime := rfl
  rw [maps_submitRequest, isChallengeCancelled, hpruned, hmap, hclock]
  cases hcancelled : s.prune.cancelledChallenges S.authRequest.challenge with
  | none =>
    obtain ⟨t, hreaches, ht⟩ := reaches_stored s.prune S.authRequest S.bleDeviceAddress
    refine ⟨t, _, .trans ⟨2, ?_⟩ hreaches, .inl rfl, ht⟩
    simp [operationStep, PendingAuthRequest.challenge, hcancelled]
  | some ts =>
    by_cases hforgotten : forgotten s.prune.elapsedRealtime ts
    · obtain ⟨t, hreaches, ht⟩ := reaches_stored
        (s.prune.setCancelled S.authRequest.challenge none) S.authRequest S.bleDeviceAddress
      refine ⟨t, _, .trans ⟨4, ?_⟩ hreaches, .inl rfl, ?_⟩
      · simp [operationStep, PendingAuthRequest.challenge, hcancelled, hforgotten]
      · simp only [hforgotten, if_true]
        exact ht
    · refine ⟨s.prune.startCallback S.authRequest.requestId, _, ⟨3, ?_⟩, .inr rfl, ?_⟩
      · simp [operationStep, PendingAuthRequest.challenge, hcancelled, hforgotten]
        rfl
      · simp only [hforgotten]
        rfl

end

/-- The parts of an operation that the others have to know of: a submission that has asked and
has not published, one that is about to file its request, a cancel that has looked at the
index. -/
inductive Part where
  | asking (challenge : Bytes)
  | filing (challenge : Bytes) (requestId : String)
  | taking (challenge : Bytes)
  | outside

def Operation.part : Operation → Part
  | .checking r | .comparing r _ | .forgetting r | .publishing r => .asking r.challenge
  | .indexing r | .creating r | .adding r _ => .filing r.challenge r.requestId
  | .listing c _ | .scanning c | .removing c _ | .untracking c _ _ _ _ => .taking c
  | _ => .outside

/-- A submission of the challenge has asked whether it was cancelled, and its request is not
in the index yet. -/
def Operation.Submits (challenge : Bytes) (l : Operation) : Prop :=
  match l.part with
  | .asking c | .filing c _ => c = challenge
  | _ => False

/-- A cancel of the challenge has looked at the index, and has not made its mark yet. -/
def Operation.Cancels (challenge : Bytes) (l : Operation) : Prop :=
  match l.part with
  | .taking c => c = challenge
  | _ => False

open Operation

instance (challenge : Bytes) (l : Operation) : Decidable (l.Submits challenge) := by
  unfold Submits
  split <;> infer_instance

instance (challenge : Bytes) (l : Operation) : Decidable (l.Cancels challenge) := by
  unfold Cancels
  split <;> infer_instance

/-- A submission and a cancel of one challenge do not overlap: neither begins while the
other is under way. -/
def Apart {ι : Type} (p : Pool ι ManagerMaps Operation) (label : ι × ManagerAction) : Prop :=
  match p.locals label.1 with
  | .submitting r => ∀ j, ¬ (p.locals j).Cancels r.challenge
  | .cancelling challenge => ∀ j, ¬ (p.locals j).Submits challenge
  | _ => True

instance {ι : Type} [Fintype ι] (p : Pool ι ManagerMaps Operation) (label : ι × ManagerAction) :
    Decidable (Apart p label) := by
  unfold Apart
  split <;> infer_instance

/-! ## What holds at each stage -/

/-- A cancel of the challenge is remembered. -/
def ManagerMaps.Remembered (s : ManagerMaps) (challenge : Bytes) : Prop :=
  ∃ ts, s.cancelledChallenges challenge = some ts ∧ forgotten s.elapsedRealtime ts = false

/-- The pending requests of the challenge are among `ids`. -/
def ManagerMaps.PendingIn (s : ManagerMaps) (challenge : Bytes) (ids : List String) : Prop :=
  ∀ requestId r, s.pendingRequests.lookup requestId = some r → r.challenge = challenge →
    requestId ∈ ids

/-- The index by challenge lists the request. -/
def ManagerMaps.Filed (s : ManagerMaps) (challenge : Bytes) (requestId : String) : Prop :=
  ∃ set, s.index (.challenge challenge) = some set ∧ requestId ∈ s.sets (.challenge challenge) set

/-- A cancel that made its mark at `ts` is kept: while it is remembered, the mark is there or
a later one, and nothing is pending. -/
def ManagerMaps.Kept (s : ManagerMaps) (challenge : Bytes) (ts : Nat) : Prop :=
  ts ≤ s.elapsedRealtime ∧
    (forgotten s.elapsedRealtime ts = false →
      (∃ ts', s.cancelledChallenges challenge = some ts' ∧ ts ≤ ts') ∧ s.PendingIn challenge [])

def Operation.Asserts (s : ManagerMaps) : Operation → Prop
  | .comparing r ts =>
    ∀ ts', s.cancelledChallenges r.challenge = some ts' →
      forgotten s.elapsedRealtime ts' = false → ts' = ts
  | .forgetting r | .publishing r => ¬ s.Remembered r.challenge
  | .adding r set => s.index (.challenge r.challenge) = some set
  | .listing challenge set =>
    s.index (.challenge challenge) = none ∧
      s.PendingIn challenge (s.sets (.challenge challenge) set)
  | .scanning challenge => s.index (.challenge challenge) = none
  | .removing challenge ids | .untracking challenge ids _ _ _ =>
    s.index (.challenge challenge) = none ∧ s.PendingIn challenge ids
  | .pruning challenge ts | .cancelled challenge ts => s.Kept challenge ts
  | _ => True

/-- The challenge an operation is about. -/
def Operation.challenge? : Operation → Option Bytes
  | .surroundings => none
  | .submitting r | .checking r | .comparing r _ | .forgetting r | .publishing r | .indexing r
  | .creating r | .adding r _ | .tracking r | .trackCreating r _ | .trackAdding r _ _
  | .submitted r | .dropped r => some r.challenge
  | .cancelling challenge | .listing challenge _ | .scanning challenge | .removing challenge _
  | .untracking challenge _ _ _ _ | .pruning challenge _ | .cancelled challenge _ => some challenge

theorem forgotten_mono {now now' ts : Nat} (hle : now ≤ now')
    (h : forgotten now' ts = false) : forgotten now ts = false := by
  simp only [forgotten, gt_iff_lt, decide_eq_false_iff_not] at h ⊢
  omega

theorem forgotten_later {now ts ts' : Nat} (hle : ts ≤ ts') (h : forgotten now ts = false) :
    forgotten now ts' = false := by
  simp only [forgotten, gt_iff_lt, decide_eq_false_iff_not] at h ⊢
  omega

/-- What a step leaves alone of one challenge: no request of it becomes pending, its index
entry stays as it is, and no cancel of it is forgotten before its time. -/
structure Frames (challenge : Bytes) (s s' : ManagerMaps) : Prop where
  pending : ∀ requestId r, s'.pendingRequests.lookup requestId = some r → r.challenge = challenge →
    s.pendingRequests.lookup requestId = some r
  index : s'.index (.challenge challenge) = s.index (.challenge challenge)
  sets : s'.sets (.challenge challenge) = s.sets (.challenge challenge)
  cancelled : s'.cancelledChallenges challenge = s.cancelledChallenges challenge ∨
    s'.cancelledChallenges challenge = none ∧ ¬ s.Remembered challenge
  time : s.elapsedRealtime ≤ s'.elapsedRealtime

section

variable {s s' : ManagerMaps} {challenge : Bytes}

theorem Frames.refl : Frames challenge s s :=
  ⟨fun _ _ h _ ↦ h, rfl, rfl, .inl rfl, le_refl _⟩

theorem Frames.remembered (h : Frames challenge s s') (hrem : s'.Remembered challenge) :
    s.Remembered challenge := by
  obtain ⟨ts, hts, hold⟩ := hrem
  obtain hsame | ⟨hnone, -⟩ := h.cancelled
  · exact ⟨ts, hsame ▸ hts, forgotten_mono h.time hold⟩
  · simp [hnone] at hts

theorem Frames.pendingIn (h : Frames challenge s s') {ids : List String}
    (hin : s.PendingIn challenge ids) : s'.PendingIn challenge ids :=
  fun requestId r hlookup hr ↦ hin requestId r (h.pending requestId r hlookup hr) hr

theorem Frames.kept (h : Frames challenge s s') {ts : Nat} (hkept : s.Kept challenge ts) :
    s'.Kept challenge ts := by
  refine ⟨hkept.1.trans h.time, fun hold ↦ ?_⟩
  have hold := forgotten_mono h.time hold
  obtain ⟨⟨ts', hts', hle⟩, hin⟩ := hkept.2 hold
  refine ⟨?_, h.pendingIn hin⟩
  obtain hsame | ⟨-, hnot⟩ := h.cancelled
  · exact ⟨ts', hsame.trans hts', hle⟩
  · exact absurd ⟨ts', hts', forgotten_later hle hold⟩ hnot

/-- What a thread has found out about a challenge survives the steps that leave the challenge
alone. -/
theorem Frames.asserts {l : Operation} (hframes : ∀ c, l.challenge? = some c → Frames c s s')
    (h : l.Asserts s) : l.Asserts s' := by
  cases l with
  | comparing r ts =>
    have hframe := hframes r.challenge rfl
    intro ts' hts' hold
    obtain hsame | ⟨hnone, -⟩ := hframe.cancelled
    · exact h ts' (hsame ▸ hts') (forgotten_mono hframe.time hold)
    · simp [hnone] at hts'
  | forgetting r | publishing r =>
    exact fun hrem ↦ h ((hframes r.challenge rfl).remembered hrem)
  | adding r set => exact (hframes r.challenge rfl).index.trans h
  | listing c set =>
    have hframe := hframes c rfl
    refine ⟨hframe.index.trans h.1, ?_⟩
    rw [hframe.sets]
    exact hframe.pendingIn h.2
  | scanning c => exact (hframes c rfl).index.trans h
  | removing c ids | untracking c ids address requestId stage =>
    have hframe := hframes c rfl
    exact ⟨hframe.index.trans h.1, hframe.pendingIn h.2⟩
  | pruning c ts | cancelled c ts => exact (hframes c rfl).kept h
  | _ => trivial

end

/-! ## What a step does to the challenges -/

section

variable {s : ManagerMaps}

theorem frames_prune (c : Bytes) : Frames c s s.prune := by
  refine ⟨fun _ _ h _ ↦ h, rfl, rfl, ?_, le_refl _⟩
  simp only [prune, pruneCancelledChallenges, atomic,
    Remembered]
  cases hts : s.cancelledChallenges c with
  | none => exact .inl rfl
  | some ts => cases hold : forgotten s.elapsedRealtime ts <;> simp [Option.filter_some, hold]

theorem frames_forget {challenge : Bytes} (hnot : ¬ s.Remembered challenge) (c : Bytes) :
    Frames c s (s.setCancelled challenge none) := by
  refine ⟨fun _ _ h _ ↦ h, rfl, rfl, ?_, le_refl _⟩
  simp only [setCancelled, update_apply]
  split
  case isTrue hc => exact .inr ⟨rfl, hc ▸ hnot⟩
  case isFalse => exact .inl rfl

theorem frames_erase (requestId : String) (c : Bytes) :
    Frames c s ({ s with pendingRequests := s.pendingRequests.erase requestId }.startCallback
      requestId) := by
  refine ⟨fun other r h _ ↦ ?_, rfl, rfl, .inl rfl, le_refl _⟩
  by_cases hid : other = requestId
  · subst hid
    simp [startCallback] at h
  · exact (AList.lookup_erase_ne hid).symm.trans h

theorem frames_setSet_address (address : String) (set : Nat) (ids : List String) (c : Bytes) :
    Frames c s (s.setSet (.address address) set ids) :=
  ⟨fun _ _ h _ ↦ h, rfl, by simp [setSet], .inl rfl, le_refl _⟩

theorem frames_setIndex_address (address : String) (set : Option Nat) (c : Bytes) :
    Frames c s (s.setIndex (.address address) set) :=
  ⟨fun _ _ h _ ↦ h, by simp [setIndex], rfl, .inl rfl, le_refl _⟩

open Frames

theorem frames_putSet_address (address : String) (c : Bytes) :
    Frames c s (s.putSet (.address address)).1 := by
  unfold putSet
  cases s.index (.address address) with
  | some set => exact refl
  | none =>
    exact ⟨fun _ _ h _ ↦ h, by simp [setIndex, setSet],
      by simp [setIndex, setSet], .inl rfl, le_refl _⟩

theorem frames_untrackStep (address requestId : String) (stage : Untracking) (c : Bytes) :
    Frames c s (untrackStep s address requestId stage).1 := by
  cases stage with
  | get | getAgain =>
    simp only [untrackStep]
    split <;> exact refl
  | discard set => exact frames_setSet_address address set _ c
  | test set => exact refl
  | drop => exact frames_setIndex_address address none c

/-- The submission is about to file its request in the index by challenge. -/
def Operation.Indexes (challenge : Bytes) (requestId : String) (l : Operation) : Prop :=
  match l.part with
  | .filing c id => c = challenge ∧ id = requestId
  | _ => False

theorem Operation.Indexes.submits {challenge : Bytes} {l : Operation}
    (h : l.Indexes challenge requestId) : l.Submits challenge := by
  cases l <;> first | exact h.1 | exact h.elim

namespace Operation

variable {l : Operation} {c : Bytes} {requestId : String}

theorem submits_iff : l.Submits c ↔ l.part = .asking c ∨ ∃ id, l.part = .filing c id := by
  unfold Submits
  cases l.part <;> simp

theorem cancels_iff : l.Cancels c ↔ l.part = .taking c := by
  unfold Cancels
  cases l.part <;> simp

theorem indexes_iff : l.Indexes c requestId ↔ l.part = .filing c requestId := by
  unfold Indexes
  cases l.part <;> simp

end Operation

/-- What a step can do: leave all challenges alone, or publish, file, take or mark one. -/
inductive OperationStep (s : ManagerMaps) : Operation → ManagerMaps → Operation → Prop
  | quiet {l l' : Operation} {s' : ManagerMaps} (hframes : ∀ c, Frames c s s')
      (hasserts : l'.Asserts s')
      (hsubmits : ∀ c, l'.Submits c → l.Submits c ∨ ∃ r, l = .submitting r ∧ r.challenge = c)
      (hcancels : ∀ c, l'.Cancels c ↔ l.Cancels c)
      (hindexes : ∀ c requestId, l.Indexes c requestId → l'.Indexes c requestId) :
      OperationStep s l s' l'
  | publish (r : PendingAuthRequest) :
      OperationStep s (.publishing r)
        { s with pendingRequests := s.pendingRequests.insert r.requestId r } (.indexing r)
  | create (r : PendingAuthRequest) (hnone : s.index (.challenge r.challenge) = none) :
      OperationStep s (.creating r) (s.putSet (.challenge r.challenge)).1
        (.adding r (s.made (.challenge r.challenge)))
  | add (r : PendingAuthRequest) (set : Nat) :
      OperationStep s (.adding r set) (s.addToSet (.challenge r.challenge) set r.requestId)
        (.tracking r)
  | take {challenge : Bytes} {l' : Operation}
      (hl' : (∃ set, s.index (.challenge challenge) = some set ∧ l' = .listing challenge set) ∨
        s.index (.challenge challenge) = none ∧ l' = .scanning challenge) :
      OperationStep s (.cancelling challenge) (s.setIndex (.challenge challenge) none) l'
  | mark (challenge : Bytes) :
      OperationStep s (.removing challenge [])
        (s.setCancelled challenge (some s.elapsedRealtime)) (.pruning challenge s.elapsedRealtime)

/-- Time alone. -/
theorem operationStep_tick {ms : Nat} (h : operationStep s l (.tick ms) = some (s', l')) :
    OperationStep s l s' l' := by
  cases l with
  | surroundings =>
    cases h
    exact .quiet (fun c ↦ ⟨fun _ _ h _ ↦ h, rfl, rfl, .inl rfl, Nat.le_add_right _ _⟩) trivial
      (fun _ h ↦ h.elim) (fun _ ↦ Iff.rfl) fun _ _ h ↦ h.elim
  | removing challenge ids => cases ids <;> cases h
  | _ => cases h

/-- A step that reads, or writes where no challenge is, and goes on in the same part of its
operation. -/
theorem OperationStep.of_part (hframes : ∀ c, Frames c s s') (hasserts : l'.Asserts s')
    (hpart : l'.part = l.part) :
    OperationStep s l s' l' := by
  refine .quiet hframes hasserts (fun c hc ↦ .inl ?_) (fun c ↦ ?_) fun c requestId h ↦ ?_
  · rw [submits_iff] at hc ⊢
    rwa [← hpart]
  · rw [cancels_iff, cancels_iff, hpart]
  · rw [indexes_iff] at h ⊢
    rwa [hpart]

/-- The steps of a submission that asks whether it was cancelled, and publishes. -/
theorem operationStep_asking (hl : l.part = .asking c) (hasserts : l.Asserts s)
    (h : operationStep s l .run = some (s', l')) : OperationStep s l s' l' := by
  cases l with
  | checking r =>
    simp only [operationStep] at h
    cases hts : s.cancelledChallenges r.challenge with
    | some ts =>
      rw [hts] at h
      cases h
      refine .of_part (fun _ ↦ refl) (fun ts' hts' _ ↦ ?_) rfl
      exact Option.some.inj (hts'.symm.trans hts)
    | none =>
      rw [hts] at h
      cases h
      refine .of_part (fun _ ↦ refl) ?_ rfl
      rintro ⟨ts, hsome, -⟩
      simp [hts] at hsome
  | comparing r ts =>
    simp only [operationStep] at h
    split at h
    case isTrue hold =>
      cases h
      refine .of_part (fun _ ↦ refl) ?_ rfl
      rintro ⟨ts', hts', hnew⟩
      rw [hasserts ts' hts' hnew] at hnew
      exact Bool.false_ne_true (hnew.symm.trans hold)
    case isFalse =>
      cases h
      exact .quiet (fun _ ↦ ⟨fun _ _ h _ ↦ h, rfl, rfl, .inl rfl, le_refl _⟩) trivial
        (fun _ h ↦ h.elim) (fun _ ↦ Iff.rfl) fun _ _ h ↦ h.elim
  | forgetting r =>
    cases h
    have hframes := frames_forget (s := s) hasserts
    refine .of_part hframes ?_ rfl
    exact fun hrem ↦ hasserts ((hframes r.challenge).remembered hrem)
  | publishing r =>
    cases h
    exact .publish r
  | _ => cases hl

/-- The steps of a submission that files its request. -/
theorem operationStep_filing (hl : l.part = .filing c requestId)
    (h : operationStep s l .run = some (s', l')) : OperationStep s l s' l' := by
  cases l with
  | indexing r =>
    simp only [operationStep] at h
    cases hset : s.index (.challenge r.challenge) with
    | some set =>
      rw [hset] at h
      cases h
      exact .of_part (fun _ ↦ refl) hset rfl
    | none =>
      rw [hset] at h
      cases h
      exact .of_part (fun _ ↦ refl) trivial rfl
  | creating r =>
    cases h
    cases hset : s.index (.challenge r.challenge) with
    | some set =>
      have hput : s.putSet (.challenge r.challenge) = (s, set) := by
        rw [putSet, hset]
      rw [hput]
      exact .of_part (fun _ ↦ refl) hset rfl
    | none =>
      have hput : (s.putSet (.challenge r.challenge)).2 = s.made (.challenge r.challenge) := by
        rw [putSet, hset]
      rw [hput]
      exact .create r hset
  | adding r set =>
    cases h
    exact .add r set
  | _ => cases hl

/-- The first and the last steps of the operations. -/
theorem operationStep_outside (hl : l.part = .outside) (hasserts : l.Asserts s)
    (h : operationStep s l .run = some (s', l')) : OperationStep s l s' l' := by
  cases l with
  | submitting r =>
    cases h
    exact .quiet frames_prune trivial (fun c hc ↦ .inr ⟨r, rfl, hc⟩) (fun _ ↦ Iff.rfl)
      fun _ _ h ↦ h.elim
  | tracking r =>
    simp only [operationStep] at h
    cases haddress : r.bleDeviceAddress with
    | none =>
      rw [haddress] at h
      cases h
      exact .of_part (fun _ ↦ refl) trivial rfl
    | some address =>
      rw [haddress] at h
      dsimp only at h
      split at h <;> cases h <;>
        exact .of_part (fun _ ↦ refl) trivial rfl
  | trackCreating r address =>
    cases h
    exact .of_part (frames_putSet_address address) trivial rfl
  | trackAdding r address set =>
    cases h
    exact .of_part (frames_setSet_address address set _) trivial rfl
  | cancelling c =>
    simp only [operationStep] at h
    cases hset : s.index (.challenge c) with
    | some set =>
      rw [hset] at h
      cases h
      exact .take (.inl ⟨set, hset, rfl⟩)
    | none =>
      rw [hset] at h
      cases h
      exact .take (.inr ⟨hset, rfl⟩)
  | pruning c ts =>
    cases h
    exact .of_part frames_prune ((frames_prune c).kept hasserts) rfl
  | surroundings | submitted r | dropped r | cancelled c ts => cases h
  | _ => cases hl

/-- The steps of a cancel that has looked at the index. -/
theorem operationStep_taking (hl : l.part = .taking c) (hasserts : l.Asserts s)
    (h : operationStep s l .run = some (s', l')) : OperationStep s l s' l' := by
  cases l with
  | listing c set =>
    simp only [operationStep] at h
    split at h <;> cases h
    · exact .of_part (fun _ ↦ refl) hasserts rfl
    · exact .of_part (fun _ ↦ refl) hasserts.1 rfl
  | scanning c =>
    cases h
    refine .of_part (fun _ ↦ refl) ⟨hasserts, fun requestId r hlookup hr ↦ ?_⟩ rfl
    exact mem_withChallenge.mpr (by simp [challengeOf, atomic, hlookup, ← hr]; rfl)
  | removing c ids =>
    cases ids with
    | nil =>
      cases h
      exact .mark c
    | cons first ids =>
      simp only [operationStep] at h
      -- once the first is gone, the rest are all that is left
      have hrest : ∀ {s' : ManagerMaps}, Frames c s s' →
          s'.pendingRequests.lookup first = none →
          s'.index (.challenge c) = none ∧ s'.PendingIn c ids := by
        intro s' hframe hnone
        refine ⟨hframe.index.trans hasserts.1, fun requestId r hlookup hr ↦ ?_⟩
        have hmem := hframe.pendingIn hasserts.2 requestId r hlookup hr
        refine (List.mem_cons.mp hmem).resolve_left ?_
        rintro rfl
        simp [hnone] at hlookup
      have hgone : ({ s with pendingRequests := s.pendingRequests.erase first }.startCallback
          first).pendingRequests.lookup first = none := AList.lookup_erase _ _
      cases hlookup : s.pendingRequests.lookup first with
      | none =>
        rw [hlookup] at h
        cases h
        exact .of_part (fun _ ↦ refl) (hrest refl hlookup) rfl
      | some r =>
        rw [hlookup] at h
        dsimp only at h
        split at h <;> cases h <;>
          exact .of_part (frames_erase first) (hrest (frames_erase first c) hgone) rfl
  | untracking c ids address requestId stage =>
    have hframes := frames_untrackStep (s := s) address requestId stage
    simp only [operationStep] at h
    generalize untrackStep s address requestId stage = moved at h hframes
    have hnext : moved.1.index (.challenge c) = none ∧ moved.1.PendingIn c ids :=
      ⟨(hframes c).index.trans hasserts.1, (hframes c).pendingIn hasserts.2⟩
    obtain ⟨s'', _ | stage'⟩ := moved <;> cases h <;>
      exact .of_part hframes hnext rfl
  | _ => cases hl

theorem operationStep_eq_some {a : ManagerAction} (hasserts : l.Asserts s)
    (h : operationStep s l a = some (s', l')) :
    OperationStep s l s' l' := by
  cases a with
  | tick ms => exact operationStep_tick h
  | run =>
    cases hl : l.part with
    | asking c => exact operationStep_asking hl hasserts h
    | filing c requestId => exact operationStep_filing hl h
    | taking c => exact operationStep_taking hl hasserts h
    | outside => exact operationStep_outside hl hasserts h

/-! ## What a step does to the other threads -/

theorem frames_publish {r : PendingAuthRequest} (hc : c ≠ r.challenge) :
    Frames c s { s with pendingRequests := s.pendingRequests.insert r.requestId r } := by
  refine ⟨fun requestId other hlookup hother ↦ ?_, rfl, rfl, .inl rfl, le_refl _⟩
  by_cases hid : requestId = r.requestId
  · subst hid
    rw [AList.lookup_insert] at hlookup
    cases hlookup
    exact absurd hother.symm hc
  · rwa [AList.lookup_insert_ne hid] at hlookup

theorem putSet_of_none {key : IndexKey} (hnone : s.index key = none) :
    (s.putSet key).1 = { s.setSet key (s.made key) [] with
      made := update s.made key (s.made key + 1) }.setIndex key (some (s.made key)) := by
  rw [putSet, hnone]

theorem frames_create {challenge c : Bytes} (hc : c ≠ challenge)
    (hnone : s.index (.challenge challenge) = none) :
    Frames c s (s.putSet (.challenge challenge)).1 := by
  rw [putSet_of_none hnone]
  exact ⟨fun _ _ h _ ↦ h, by simp [setIndex, setSet, hc],
    by simp [setIndex, setSet, hc], .inl rfl, le_refl _⟩

theorem frames_add {challenge c : Bytes} (hc : c ≠ challenge) (set : Nat) (requestId : String) :
    Frames c s (s.addToSet (.challenge challenge) set requestId) :=
  ⟨fun _ _ h _ ↦ h, rfl, by simp [addToSet, setSet, hc], .inl rfl,
    le_refl _⟩

theorem frames_take {challenge c : Bytes} (hc : c ≠ challenge) :
    Frames c s (s.setIndex (.challenge challenge) none) :=
  ⟨fun _ _ h _ ↦ h, by simp [setIndex, hc], rfl, .inl rfl, le_refl _⟩

theorem frames_mark {challenge c : Bytes} (hc : c ≠ challenge) (ts : Option Nat) :
    Frames c s (s.setCancelled challenge ts) :=
  ⟨fun _ _ h _ ↦ h, rfl, rfl, .inl (by simp [setCancelled, hc]), le_refl _⟩

section

variable {m : Operation}

variable {challenge : Bytes}

/-- A step about one challenge leaves alone what a thread has found out about the others. -/
theorem Frames.asserts_of_ne {s' : ManagerMaps} (hframes : ∀ c, c ≠ challenge → Frames c s s')
    (hm : m.Asserts s) (hsame : m.challenge? = some challenge → m.Asserts s') : m.Asserts s' := by
  by_cases hc : m.challenge? = some challenge
  · exact hsame hc
  · apply asserts _ hm
    intro c hsome
    apply hframes
    rintro rfl
    exact hc hsome

theorem asserts_publish {r : PendingAuthRequest} (hfresh : ¬ s.Remembered r.challenge)
    (hm : m.Asserts s) (hnot : ¬ m.Cancels r.challenge) :
    m.Asserts { s with pendingRequests := s.pendingRequests.insert r.requestId r } := by
  refine asserts_of_ne (fun c ↦ frames_publish) hm fun hc ↦ ?_
  cases m with
  | listing c _ | scanning c | removing c _ | untracking c _ _ _ _ =>
    exact absurd (Option.some.inj hc) hnot
  | pruning c ts | cancelled c ts =>
    cases hc
    -- nothing of the challenge is remembered, so its cancel is over
    refine ⟨hm.1, fun hold ↦ absurd ?_ hfresh⟩
    obtain ⟨⟨ts', hts', hle⟩, -⟩ := hm.2 hold
    exact ⟨ts', hts', forgotten_later hle hold⟩
  | _ => exact hm

theorem asserts_create (hnone : s.index (.challenge challenge) = none) (hm : m.Asserts s)
    (hnot : ¬ m.Cancels challenge) :
    m.Asserts (s.putSet (.challenge challenge)).1 := by
  refine asserts_of_ne (fun c hc ↦ frames_create hc hnone) hm fun hc ↦ ?_
  rw [putSet_of_none hnone]
  cases m with
  | listing c _ | scanning c | removing c _ | untracking c _ _ _ _ =>
    exact absurd (Option.some.inj hc) hnot
  | adding other set =>
    have hsame : other.challenge = challenge := Option.some.inj hc
    have hset : s.index (.challenge other.challenge) = some set := hm
    rw [hsame, hnone] at hset
    cases hset
  | _ => exact hm

theorem asserts_add (set : Nat) (requestId : String) (hm : m.Asserts s)
    (hnot : ¬ m.Cancels challenge) :
    m.Asserts (s.addToSet (.challenge challenge) set requestId) := by
  refine asserts_of_ne (fun c hc ↦ frames_add hc set requestId) hm fun hc ↦ ?_
  cases m with
  | listing c _ | scanning c | removing c _ | untracking c _ _ _ _ =>
    exact absurd (Option.some.inj hc) hnot
  | _ => exact hm

theorem asserts_take (hm : m.Asserts s) (hnot : ¬ m.Submits challenge) :
    m.Asserts (s.setIndex (.challenge challenge) none) := by
  refine asserts_of_ne (fun c ↦ frames_take) hm fun hc ↦ ?_
  cases m with
  | comparing r _ | forgetting r | publishing r | adding r _ =>
    exact absurd (Option.some.inj hc) hnot
  | listing c set | removing c ids | untracking c ids _ _ _ =>
    cases hc
    exact ⟨by simp [setIndex], hm.2⟩
  | scanning c =>
    cases hc
    simp [Asserts, setIndex]
  | _ => exact hm

theorem asserts_mark (hm : m.Asserts s) (hnot : ¬ m.Submits challenge) :
    m.Asserts (s.setCancelled challenge (some s.elapsedRealtime)) := by
  refine asserts_of_ne (fun c hc ↦ frames_mark hc _) hm fun hc ↦ ?_
  cases m with
  | comparing r _ | forgetting r | publishing r | adding r _ =>
    exact absurd (Option.some.inj hc) hnot
  | pruning c ts | cancelled c ts =>
    cases hc
    refine ⟨hm.1, fun hold ↦ ⟨⟨s.elapsedRealtime, ?_, hm.1⟩, (hm.2 hold).2⟩⟩
    simp [setCancelled]
  | _ => exact hm

end

/-- What a thread has found out survives the steps of another, if the two are not a submission
and a cancel of one challenge. -/
theorem OperationStep.asserts_other {l l' m : Operation} (hstep : OperationStep s l s' l')
    (hl : l.Asserts s) (hm : m.Asserts s) (hsubmits : ∀ c, l.Submits c → ¬ m.Cancels c)
    (hcancels : ∀ c, l = .cancelling c ∨ l.Cancels c → ¬ m.Submits c) : m.Asserts s' := by
  cases hstep with
  | quiet hframes => exact asserts (fun c _ ↦ hframes c) hm
  | publish r => exact asserts_publish hl hm (hsubmits r.challenge rfl)
  | create r hnone => exact asserts_create hnone hm (hsubmits r.challenge rfl)
  | add r set => exact asserts_add set r.requestId hm (hsubmits r.challenge rfl)
  | @take challenge _ hl' => exact asserts_take hm (hcancels challenge (.inl rfl))
  | mark challenge => exact asserts_mark hm (hcancels challenge (.inr rfl))

/-! ## What a step does to its own thread -/

/-- A submission is under way if it was or if this was its first step. -/
theorem OperationStep.submits (hstep : OperationStep s l s' l') (hl' : l'.Submits c) :
    l.Submits c ∨ ∃ r, l = .submitting r ∧ r.challenge = c := by
  cases hstep with
  | quiet _ _ hsubmits => exact hsubmits c hl'
  | publish r | create r => exact .inl hl'
  | add | mark => exact hl'.elim
  | take hnext => obtain ⟨_, -, rfl⟩ | ⟨-, rfl⟩ := hnext <;> exact hl'.elim

/-- A cancel is under way if it was or if this was its first step. -/
theorem OperationStep.cancels (hstep : OperationStep s l s' l') (hl' : l'.Cancels c) :
    l.Cancels c ∨ l = .cancelling c := by
  cases hstep with
  | quiet _ _ _ hcancels => exact .inl ((hcancels c).mp hl')
  | publish | create | add | mark => exact hl'.elim
  | take hnext =>
    obtain ⟨_, -, rfl⟩ | ⟨-, rfl⟩ := hnext <;>
    · cases hl'
      exact .inr rfl

theorem Operation.not_submits_and_cancels {l : Operation} (hsubmits : l.Submits c)
    (hcancels : l.Cancels c) : False := by
  cases l <;> first | exact hsubmits | exact hcancels

/-- The thread that moves knows afterwards what its next stage needs. -/
theorem OperationStep.asserts_self (hstep : OperationStep s l s' l') (hl : l.Asserts s)
    (htake : ∀ c set, l = .cancelling c → s.index (.challenge c) = some set →
      s.PendingIn c (s.sets (.challenge c) set)) : l'.Asserts s' := by
  cases hstep with
  | quiet _ hasserts => exact hasserts
  | publish | add => trivial
  | create r hnone =>
    rw [putSet_of_none hnone]
    simp [Asserts, setIndex]
  | @take challenge _ hnext =>
    obtain ⟨set, hset, rfl⟩ | ⟨-, rfl⟩ := hnext
    · exact ⟨by simp [setIndex], htake challenge set rfl hset⟩
    · simp [Asserts, setIndex]
  | mark challenge =>
    refine ⟨le_refl _, fun _ ↦ ⟨⟨s.elapsedRealtime, ?_, le_refl _⟩, hl.2⟩⟩
    simp [setCancelled]

/-- A request that is pending after a step was pending before, or is the one published. -/
theorem OperationStep.pending (hstep : OperationStep s l s' l') {r : PendingAuthRequest}
    (hlookup : s'.pendingRequests.lookup requestId = some r) :
    s.pendingRequests.lookup requestId = some r ∨ l'.Indexes r.challenge requestId := by
  cases hstep with
  | quiet hframes => exact .inl ((hframes r.challenge).pending requestId r hlookup rfl)
  | publish other =>
    by_cases hid : requestId = other.requestId
    · subst hid
      rw [AList.lookup_insert] at hlookup
      cases hlookup
      exact .inr ⟨rfl, rfl⟩
    · rw [AList.lookup_insert_ne hid] at hlookup
      exact .inl hlookup
  | create other hnone =>
    rw [putSet_of_none hnone] at hlookup
    exact .inl hlookup
  | add | take | mark => exact .inl hlookup

/-- What the index lists it goes on to list, but for the challenge that is taken. -/
theorem OperationStep.filed (hstep : OperationStep s l s' l') (hfiled : s.Filed c requestId)
    (hc : ¬ l'.Cancels c ∨ l.Cancels c) : s'.Filed c requestId := by
  obtain ⟨set, hset, hmem⟩ := hfiled
  cases hstep with
  | quiet hframes => exact ⟨set, (hframes c).index.trans hset, (hframes c).sets ▸ hmem⟩
  | publish | mark => exact ⟨set, hset, hmem⟩
  | create r hnone =>
    by_cases hsame : c = r.challenge
    · subst hsame
      rw [hnone] at hset
      cases hset
    · have hframe := frames_create hsame hnone
      exact ⟨set, hframe.index.trans hset, hframe.sets ▸ hmem⟩
  | add r other =>
    by_cases hsame : c = r.challenge
    · subst hsame
      refine ⟨set, hset, ?_⟩
      by_cases hother : set = other
      · subst hother
        simp [addToSet, setSet, hmem]
      · simp [addToSet, setSet, hother, hmem]
    · have hframe := frames_add (s := s) hsame other r.requestId
      exact ⟨set, hframe.index.trans hset, hframe.sets ▸ hmem⟩
  | @take challenge _ hnext =>
    have hsame : c ≠ challenge := by
      rintro rfl
      obtain ⟨_, -, rfl⟩ | ⟨-, rfl⟩ := hnext <;> exact hc.elim (fun h ↦ h rfl) id
    have hframe := frames_take (s := s) hsame
    exact ⟨set, hframe.index.trans hset, hframe.sets ▸ hmem⟩

/-- A submission that is about to file its request still is, or has. -/
theorem OperationStep.indexes (hstep : OperationStep s l s' l') (hl : l.Asserts s)
    (hindexes : l.Indexes c requestId) : l'.Indexes c requestId ∨ s'.Filed c requestId := by
  cases hstep with
  | quiet _ _ _ _ hkeep => exact .inl (hkeep c requestId hindexes)
  | publish | take | mark => exact hindexes.elim
  | create r => exact .inl hindexes
  | add r set =>
    obtain ⟨rfl, rfl⟩ := hindexes
    exact .inr ⟨set, hl, by simp [addToSet, setSet]⟩

end

/-! ## All threads -/

section

variable {ι : Type}

/-- What holds of all threads together. -/
structure Orderly (p : Pool ι ManagerMaps Operation) : Prop where
  apart : ∀ i j c, (p.locals i).Submits c → ¬ (p.locals j).Cancels c
  asserts : ∀ i, (p.locals i).Asserts p.shared
  /-- Unless a cancel is at work, a pending request is in the index or about to be. -/
  filed : ∀ c, (∀ j, ¬ (p.locals j).Cancels c) → ∀ requestId r,
    p.shared.pendingRequests.lookup requestId = some r → r.challenge = c →
      p.shared.Filed c requestId ∨ ∃ j, (p.locals j).Indexes c requestId

/-- All threads are about to begin, and the index lists what is pending already. -/
structure Beginning (p : Pool ι ManagerMaps Operation) : Prop where
  locals : ∀ i, p.locals i = .surroundings ∨ (∃ r, p.locals i = .submitting r) ∨
    ∃ challenge, p.locals i = .cancelling challenge
  filed : ∀ requestId r, p.shared.pendingRequests.lookup requestId = some r →
    p.shared.Filed r.challenge requestId

theorem Beginning.orderly {p : Pool ι ManagerMaps Operation} (h : Beginning p) : Orderly p := by
  refine ⟨fun i j c hsubmits _ ↦ ?_, fun i ↦ ?_, fun c _ requestId r hlookup hr ↦ ?_⟩
  · obtain hi | ⟨r, hi⟩ | ⟨c', hi⟩ := h.locals i <;> rw [hi] at hsubmits <;> exact hsubmits
  · obtain hi | ⟨r, hi⟩ | ⟨c, hi⟩ := h.locals i <;> rw [hi] <;> trivial
  · exact .inl (hr ▸ h.filed requestId r hlookup)

/-- While a cancel is at work, the index has no entry for its challenge. -/
theorem Operation.Cancels.index_eq_none {s : ManagerMaps} {l : Operation} {c : Bytes}
    (h : l.Cancels c) (hasserts : l.Asserts s) : s.index (.challenge c) = none := by
  cases l with
  | listing | removing | untracking => exact h ▸ hasserts.1
  | scanning => exact h ▸ hasserts
  | _ => exact h.elim

/-- A cancel that is no longer at work has made its mark, and left nothing. -/
theorem OperationStep.pendingIn_of_mark {s s' : ManagerMaps} {l l' : Operation}
    (hstep : OperationStep s l s' l') (hl : l.Asserts s) {c : Bytes} (hbefore : l.Cancels c)
    (hafter : ¬ l'.Cancels c) : s'.PendingIn c [] := by
  cases hstep with
  | quiet _ _ _ hcancels => exact absurd ((hcancels c).mpr hbefore) hafter
  | publish | create | add | take => exact hbefore.elim
  | mark challenge =>
    cases hbefore
    exact hl.2

variable [DecidableEq ι]

section

variable {p q : Pool ι ManagerMaps Operation} {i : ι}

omit [DecidableEq ι] in
/-- Submissions and cancels stay apart if neither begins under the other. -/
theorem Orderly.apart_step (h : Orderly p)
    (hstep : OperationStep p.shared (p.locals i) q.shared (q.locals i))
    (hother : ∀ j, j ≠ i → q.locals j = p.locals j)
    (hbegin : ∀ r, p.locals i = .submitting r → ∀ j, ¬ (p.locals j).Cancels r.challenge)
    (htake : ∀ c, p.locals i = .cancelling c → ∀ j, ¬ (p.locals j).Submits c) (j k : ι)
    (c : Bytes) (hsubmits : (q.locals j).Submits c) : ¬ (q.locals k).Cancels c := by
  intro hcancels
  by_cases hj : j = i <;> by_cases hk : k = i
  · subst hj hk
    exact not_submits_and_cancels hsubmits hcancels
  · subst hj
    rw [hother k hk] at hcancels
    obtain hbefore | ⟨r, hr, rfl⟩ := hstep.submits hsubmits
    · exact h.apart j k c hbefore hcancels
    · exact hbegin r hr k hcancels
  · subst hk
    rw [hother j hj] at hsubmits
    obtain hbefore | hc := hstep.cancels hcancels
    · exact h.apart j k c hsubmits hbefore
    · exact htake c hc j hsubmits
  · rw [hother j hj] at hsubmits
    rw [hother k hk] at hcancels
    exact h.apart j k c hsubmits hcancels

omit [DecidableEq ι] in
/-- A cancel that finds an entry is alone, and nothing is about to be filed: the entry lists all
that is pending. -/
theorem Orderly.pendingIn_of_index (h : Orderly p) {c : Bytes} {set : Nat}
    (hset : p.shared.index (.challenge c) = some set)
    (hnot : ∀ j, ¬ (p.locals j).Submits c) :
    p.shared.PendingIn c (p.shared.sets (.challenge c) set) := by
  intro requestId r hlookup hr
  have hnone : ∀ k, ¬ (p.locals k).Cancels c := by
    intro k hk
    rw [hk.index_eq_none (h.asserts k)] at hset
    cases hset
  obtain ⟨set', hset', hmem⟩ | ⟨k, hk⟩ := h.filed c hnone requestId r hlookup hr
  · rw [hset] at hset'
    cases hset'
    exact hmem
  · exact absurd hk.submits (hnot k)

omit [DecidableEq ι] in
/-- A pending request stays in the index or about to be. -/
theorem Orderly.filed_step (h : Orderly p)
    (hstep : OperationStep p.shared (p.locals i) q.shared (q.locals i))
    (hother : ∀ j, j ≠ i → q.locals j = p.locals j) (c : Bytes)
    (hnone : ∀ j, ¬ (q.locals j).Cancels c) (requestId : String) (r : PendingAuthRequest)
    (hlookup : q.shared.pendingRequests.lookup requestId = some r) (hr : r.challenge = c) :
    q.shared.Filed c requestId ∨ ∃ j, (q.locals j).Indexes c requestId := by
  by_cases hcancels : (p.locals i).Cancels c
  · have hleft := hstep.pendingIn_of_mark (h.asserts i) hcancels (hnone i)
    cases hleft requestId r hlookup hr
  · have hbefore : ∀ j, ¬ (p.locals j).Cancels c := by
      intro j
      by_cases hj : j = i
      · rwa [hj]
      · rw [← hother j hj]
        exact hnone j
    obtain hlookup | hnew := hstep.pending hlookup
    · obtain hfiled | ⟨j, hj⟩ := h.filed c hbefore requestId r hlookup hr
      · exact .inl (hstep.filed hfiled (.inl (hnone i)))
      · by_cases hji : j = i
        · subst hji
          obtain hkeep | hfiled := hstep.indexes (h.asserts j) hj
          · exact .inr ⟨j, hkeep⟩
          · exact .inl hfiled
        · exact .inr ⟨j, by rwa [hother j hji]⟩
    · exact .inr ⟨i, hr ▸ hnew⟩

theorem Orderly.step (h : Orderly p) {label : ι × ManagerAction} (hapart : Apart p label)
    (hnext : operations.pool.next p label = some q) : Orderly q := by
  obtain ⟨i, a⟩ := label
  obtain ⟨hmoved, hother⟩ := operations.step_of_pool_next hnext
  have hstep : OperationStep p.shared (p.locals i) q.shared (q.locals i) :=
    operationStep_eq_some (h.asserts i) hmoved
  -- neither a submission nor a cancel begins under the other
  have hbegin : ∀ r, p.locals i = .submitting r → ∀ j, ¬ (p.locals j).Cancels r.challenge := by
    intro r hi
    simpa only [Apart, hi] using hapart
  have htake : ∀ c, p.locals i = .cancelling c → ∀ j, ¬ (p.locals j).Submits c := by
    intro c hi
    simpa only [Apart, hi] using hapart
  refine ⟨h.apart_step hstep hother hbegin htake, ?_, h.filed_step hstep hother⟩
  intro j
  by_cases hj : j = i
  · subst hj
    apply hstep.asserts_self (h.asserts j)
    intro c set hl hset
    exact h.pendingIn_of_index hset (htake c hl)
  · rw [hother j hj]
    refine hstep.asserts_other (h.asserts i) (h.asserts j) (fun c hc ↦ h.apart i j c hc) ?_
    rintro c (hc | hc) hsubmits
    · exact htake c hc j hsubmits
    · exact h.apart j i c hsubmits hc

end

/-- From the moment a cancel has returned until its mark is forgotten, no request of its
challenge is pending, if no submission and no cancel of one challenge overlapped. -/
theorem no_pending_while_remembered {p q : Pool ι ManagerMaps Operation} (hp : Beginning p)
    {labels : List (ι × ManagerAction)} (hrun : operations.pool.exec p labels = some q)
    (hapart : operations.pool.Along Apart p labels) {i : ι} {challenge : Bytes} {ts : Nat}
    (hreturned : q.locals i = .cancelled challenge ts)
    (hremembered : forgotten q.shared.elapsedRealtime ts = false) :
    ∀ requestId r, q.shared.pendingRequests.lookup requestId = some r →
      r.challenge ≠ challenge := by
  have horderly : Orderly q :=
    operations.pool.invariant_along (fun _ _ _ h hapart hnext ↦ h.step hapart hnext) hp.orderly
      hrun hapart
  have hkept := horderly.asserts i
  rw [hreturned] at hkept
  intro requestId r hlookup hr
  cases (hkept.2 hremembered).2 requestId r hlookup hr

end

namespace InterleavingSample

def maps : ManagerMaps where
  elapsedRealtime := 5000
  pendingRequests := ∅
  index _ := none
  sets _ _ := []
  made _ := 0
  cancelledChallenges _ := none
  callbacks := []

def request (requestId : String) : PendingAuthRequest :=
  ⟨⟨requestId, "desk", "Desk", "alice", "host", [1], 1000000, .ble⟩, some "AA"⟩

/-- The clock, two submissions and a cancel of the same challenge. -/
def start : Pool (Fin 4) ManagerMaps Operation :=
  { shared := maps
    locals := fun
      | 0 => .surroundings
      | 1 => .submitting (request "a")
      | 2 => .submitting (request "b")
      | 3 => .cancelling [1] }

def turns (n : Nat) (i : Fin 4) : List (Fin 4 × ManagerAction) := List.replicate n (i, .run)

/-- The first submission asks, the cancel runs, the submission publishes. -/
def crossed : List (Fin 4 × ManagerAction) := turns 2 1 ++ turns 4 3 ++ turns 7 1

/-- The first submission runs, then the cancel, then after a while the second submission. -/
def apart : List (Fin 4 × ManagerAction) :=
  turns 9 1 ++ turns 10 3 ++ [(0, .tick 9000)] ++ turns 3 2

theorem beginning : Beginning start where
  locals
    | 0 => .inl rfl
    | 1 => .inr (.inl ⟨_, rfl⟩)
    | 2 => .inr (.inl ⟨_, rfl⟩)
    | 3 => .inr (.inr ⟨_, rfl⟩)
  filed requestId r hlookup := by simp [start, maps] at hlookup

end InterleavingSample

open InterleavingSample

/-- The cancel has returned and is remembered, and the request that crossed it is pending. -/
theorem pending_after_cancel :
    Beginning start ∧
      ¬ ∀ labels q, operations.pool.exec start labels = some q →
        ∀ i ts, q.locals i = .cancelled [1] ts →
          forgotten q.shared.elapsedRealtime ts = false →
          ∀ requestId r, q.shared.pendingRequests.lookup requestId = some r →
            r.challenge ≠ [1] := by
  refine ⟨beginning, fun h ↦ ?_⟩
  have hrun : (operations.pool.exec start crossed).map
      (fun q ↦ (q.locals 3, q.shared.elapsedRealtime, q.shared.pendingRequests.lookup "a")) =
      some (.cancelled [1] 5000, 5000, some (request "a")) := by
    decide +kernel
  obtain ⟨q, hq, hend⟩ := Option.map_eq_some_iff.mp hrun
  simp only [Prod.mk.injEq] at hend
  obtain ⟨hcancelled, htime, hpending⟩ := hend
  exact h _ q hq 3 5000 hcancelled (by rw [htime]; rfl) "a" _ hpending rfl

/-- A cancel between two submissions: the first request goes, the second is dropped. -/
theorem no_pending_between_submissions :
    ∃ q, operations.pool.exec start apart = some q ∧
      q.locals 3 = .cancelled [1] 5000 ∧ q.locals 2 = .dropped (request "b") ∧
      ∀ requestId r, q.shared.pendingRequests.lookup requestId = some r → r.challenge ≠ [1] := by
  have hrun : (operations.pool.exec start apart).map
      (fun q ↦ (q.locals 3, q.locals 2, q.shared.elapsedRealtime)) =
      some (.cancelled [1] 5000, .dropped (request "b"), 14000) := by
    decide +kernel
  obtain ⟨q, hq, hend⟩ := Option.map_eq_some_iff.mp hrun
  simp only [Prod.mk.injEq] at hend
  obtain ⟨hcancelled, hdropped, htime⟩ := hend
  refine ⟨q, hq, hcancelled, hdropped, ?_⟩
  exact no_pending_while_remembered beginning hq (by decide +kernel) hcancelled
    (by rw [htime]; rfl)

end TapAuth.Phone
