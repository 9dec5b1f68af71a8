import TapAuth.Lib.Pool
import TapAuth.Phone.TemporalIds
import TapAuth.Shared.Transparent

/-!
# Refreshing the identifier cache while packets arrive

Every change of the device list triggers a refresh of `TemporalIdCache`.  A refresh reads the
list, and later installs what it has read under the cache's lock; nothing keeps the refreshes
in order.  A packet looks an identifier up: it reads the clock, sees to it that the cache is
that of the minute, loading the list if it has never been loaded, and reads the map.

The tasks run as a pool.  `version` counts the writes of the list and says of every copy of the
list how old it is.  If no refresh installs a list that is older than the one installed last,
then after all refreshes the cache has the stored devices, and a lookup accepts exactly their
identifiers (`lookup_exact_of_inOrder`).  Two refreshes that overtake each other leave the
cache without a device that is stored (`paired_device_unknown`).
-/

namespace TapAuth.Phone

open Shared

/-- `refreshDeviceList`, from the lock on. -/
def TemporalIdCache.install (P : Primitives) (devices : DeviceList) (now : Int64) :
    TemporalIdCache :=
  let mapped := devices.devices.map PairedDevice.cached
  ⟨computeValidIds P mapped (now / timeWindowMs), mapped, now / timeWindowMs, true⟩

structure CacheShared where
  stored : DeviceList
  cache : TemporalIdCache
  /-- A lookup that loads the list holds the lock from its read on. -/
  locked : Bool
  /-- How often the list has been written. -/
  version : Nat
  /-- The version of the list that the cache was given last. -/
  installed : Nat

/-- A change of the list with the refresh it triggers, or a lookup. -/
inductive CacheTask where
  | idle
  /-- The list is written; its refresh has not read it yet. -/
  | triggered
  | read (devices : DeviceList) (version : Nat)
  | finished
  | checking (now : Int64) (id : Bytes)
  | loading (now : Int64) (id : Bytes) (devices : DeviceList) (version : Nat)
  | ensured (now : Int64) (id : Bytes)
  | answered (now : Int64) (id : Bytes) (result : Option String)
  deriving DecidableEq

inductive CacheAct where
  /-- An addition or a removal writes the list it has made.  It made it from a read of its
  own, which may be old, so this can be any list. -/
  | write (devices : DeviceList)
  | read
  | install (now : Int64)
  /-- The refresh could not read the list. -/
  | fail
  | lookup (now : Int64) (id : Bytes)
  | ensure
  | load
  | answer

def cacheStep (P : Primitives) (s : CacheShared) :
    CacheTask → CacheAct → Option (CacheShared × CacheTask)
  | .idle, .write devices =>
    some ({ s with stored := devices, version := s.version + 1 }, .triggered)
  | .triggered, .read => some (s, .read s.stored s.version)
  | .triggered, .fail => some (s, .finished)
  | .read devices version, .install now =>
    if s.locked then none
    else some ({ s with cache := .install P devices now, installed := version }, .finished)
  | .idle, .lookup now id =>
    some (s, if id.length = 16 then .checking now id else .answered now id none)
  | .checking now id, .ensure =>
    if now / timeWindowMs = s.cache.lastComputedWindow ∧ s.cache.devicesLoaded then
      some (s, .ensured now id)
    else if s.locked then none
    else if s.cache.devicesLoaded then
      some ({ s with cache := s.cache.recomputeCache P s.stored (now / timeWindowMs) },
        .ensured now id)
    else some ({ s with locked := true }, .loading now id s.stored s.version)
  | .loading now id devices version, .load =>
    some ({ s with
      cache := s.cache.recomputeCache P devices (now / timeWindowMs)
      locked := false
      installed := version }, .ensured now id)
  | .ensured now id, .answer => some (s, .answered now id (s.cache.isValidTemporalId id))
  | _, _ => none

def cacheTasks (P : Primitives) : Threads CacheShared CacheTask CacheAct := ⟨cacheStep P⟩

variable {P : Primitives}

/-- What a task can do. -/
inductive CacheStep (P : Primitives) (s : CacheShared) :
    CacheTask → CacheAct → CacheShared → CacheTask → Prop
  | write (devices : DeviceList) :
      CacheStep P s .idle (.write devices)
        { s with stored := devices, version := s.version + 1 } .triggered
  | read : CacheStep P s .triggered .read s (.read s.stored s.version)
  | fail : CacheStep P s .triggered .fail s .finished
  | install {devices : DeviceList} {version : Nat} (now : Int64) (hfree : s.locked = false) :
      CacheStep P s (.read devices version) (.install now)
        { s with cache := .install P devices now, installed := version } .finished
  | lookup (now : Int64) {id : Bytes} (hid : id.length = 16) :
      CacheStep P s .idle (.lookup now id) s (.checking now id)
  | refuse (now : Int64) {id : Bytes} (hid : id.length ≠ 16) :
      CacheStep P s .idle (.lookup now id) s (.answered now id none)
  | current {now : Int64} {id : Bytes} (hloaded : s.cache.devicesLoaded = true) :
      CacheStep P s (.checking now id) .ensure s (.ensured now id)
  | recompute {now : Int64} {id : Bytes} (hfree : s.locked = false)
      (hloaded : s.cache.devicesLoaded = true) :
      CacheStep P s (.checking now id) .ensure
        { s with cache := s.cache.recomputeCache P s.stored (now / timeWindowMs) }
        (.ensured now id)
  | lock {now : Int64} {id : Bytes} (hfree : s.locked = false)
      (hloaded : s.cache.devicesLoaded = false) :
      CacheStep P s (.checking now id) .ensure { s with locked := true }
        (.loading now id s.stored s.version)
  | load {now : Int64} {id : Bytes} {devices : DeviceList} {version : Nat} :
      CacheStep P s (.loading now id devices version) .load
        { s with
          cache := s.cache.recomputeCache P devices (now / timeWindowMs)
          locked := false
          installed := version } (.ensured now id)
  | answer {now : Int64} {id : Bytes} :
      CacheStep P s (.ensured now id) .answer s
        (.answered now id (s.cache.isValidTemporalId id))

theorem CacheStep.of_step {s s' : CacheShared} {l l' : CacheTask} {a : CacheAct}
    (h : cacheStep P s l a = some (s', l')) : CacheStep P s l a s' l' := by
  cases l with
  | idle =>
    cases a with
    | write devices =>
      cases h
      exact .write devices
    | lookup now id =>
      by_cases hid : id.length = 16
      · rw [cacheStep, if_pos hid] at h
        cases h
        exact .lookup now hid
      · rw [cacheStep, if_neg hid] at h
        cases h
        exact .refuse now hid
    | _ => cases h
  | triggered =>
    cases a with
    | read =>
      cases h
      exact .read
    | fail =>
      cases h
      exact .fail
    | _ => cases h
  | read devices version =>
    cases a with
    | install now =>
      obtain ⟨hfree, h⟩ := Option.ite_none_left_eq_some.mp h
      cases h
      exact .install now (Bool.eq_false_iff.mpr hfree)
    | _ => cases h
  | checking now id =>
    cases a with
    | ensure =>
      simp only [cacheStep] at h
      split_ifs at h with hcurrent hlocked hloaded
      · cases h
        exact .current hcurrent.2
      · cases h
        exact .recompute (Bool.eq_false_iff.mpr hlocked) hloaded
      · cases h
        exact .lock (Bool.eq_false_iff.mpr hlocked) (Bool.eq_false_iff.mpr hloaded)
    | _ => cases h
  | loading now id devices version =>
    cases a with
    | load =>
      cases h
      exact .load
    | _ => cases h
  | ensured now id =>
    cases a with
    | answer =>
      cases h
      exact .answer
    | _ => cases h
  | finished | answered => cases h

/-- A step of the pool, by what its task does. -/
theorem CacheStep.of_pool_next {ι : Type} [DecidableEq ι] {p q : Pool ι CacheShared CacheTask}
    {i : ι} {a : CacheAct} (h : (cacheTasks P).pool.next p (i, a) = some q) :
    CacheStep P p.shared (p.locals i) a q.shared (q.locals i) ∧
      ∀ j, j ≠ i → q.locals j = p.locals j := by
  obtain ⟨hstep, hother⟩ := (cacheTasks P).step_of_pool_next h
  exact ⟨.of_step hstep, hother⟩

/-- Without interruption a lookup brings the map up to date as `ensureCacheIsCurrent` does. -/
theorem ensure_alone (s : CacheShared) (hfree : s.locked = false) (now : Int64) (id : Bytes) :
    ∃ acts t, (cacheTasks P).solo.exec (s, .checking now id) acts = some (t, .ensured now id) ∧
      t.cache = s.cache.ensureCacheIsCurrent P s.stored now := by
  have hunlocked : ¬s.locked = true := Bool.not_eq_true _ ▸ hfree
  by_cases hcurrent : now / timeWindowMs = s.cache.lastComputedWindow ∧
      s.cache.devicesLoaded = true
  · have hstep : cacheStep P s (.checking now id) .ensure = some (s, .ensured now id) :=
      if_pos hcurrent
    have hcache : s.cache.ensureCacheIsCurrent P s.stored now = s.cache :=
      if_neg (by simp [hcurrent])
    exact ⟨[.ensure], s, congrArg (Option.bind · _) hstep, hcache.symm⟩
  · have hcache : s.cache.ensureCacheIsCurrent P s.stored now =
        s.cache.recomputeCache P s.stored (now / timeWindowMs) :=
      if_pos (by rwa [not_and_or, Bool.not_eq_true] at hcurrent)
    rw [hcache]
    cases hloaded : s.cache.devicesLoaded with
    | true =>
      have hstep : cacheStep P s (.checking now id) .ensure =
          some ({ s with cache := s.cache.recomputeCache P s.stored (now / timeWindowMs) },
            .ensured now id) :=
        (if_neg hcurrent).trans ((if_neg hunlocked).trans (if_pos hloaded))
      exact ⟨[.ensure], _, congrArg (Option.bind · _) hstep, rfl⟩
    | false =>
      -- the list is read while the lock is held
      have hstep : cacheStep P s (.checking now id) .ensure =
          some ({ s with locked := true }, .loading now id s.stored s.version) :=
        (if_neg hcurrent).trans ((if_neg hunlocked).trans (if_neg (by simp [hloaded])))
      exact ⟨[.ensure, .load], _, congrArg (Option.bind · _) hstep, rfl⟩

/-- Without interruption a lookup is `ensureCacheIsCurrent`, and then a look into the map. -/
theorem lookup_alone (s : CacheShared) (hfree : s.locked = false) (now : Int64) {id : Bytes}
    (hid : id.length = 16) :
    ∃ acts t, (cacheTasks P).solo.exec (s, .idle) acts =
        some (t, .answered now id ((s.cache.ensureCacheIsCurrent P s.stored now).isValidTemporalId
          id)) ∧
      t.cache = s.cache.ensureCacheIsCurrent P s.stored now := by
  obtain ⟨acts, t, hrun, hcache⟩ := ensure_alone (P := P) s hfree now id
  have hlookup : (cacheTasks P).solo.next (s, .idle) (.lookup now id) =
      some (s, .checking now id) := congrArg (fun task ↦ some (s, task)) (if_pos hid)
  refine ⟨CacheAct.lookup now id :: (acts ++ [CacheAct.answer]), t, ?_, hcache⟩
  rw [Machine.exec_cons, hlookup, Option.bind_some, Machine.exec_append _ hrun, ← hcache]
  rfl

/-! ## What the copies of the list are -/

/-- A copy of the list that a task has read, and its version. -/
def CacheTask.copy? : CacheTask → Option (DeviceList × Nat)
  | .read devices version => some (devices, version)
  | .loading _ _ devices version => some (devices, version)
  | _ => none

def CacheTask.IsLoading : CacheTask → Prop
  | .loading .. => True
  | _ => False

def CacheTask.isRefresh : CacheTask → Bool
  | .triggered => true
  | .read .. => true
  | _ => false

/-- What was computed last is the identifiers of the devices in the cache. -/
def TemporalIdCache.Computed (P : Primitives) (cache : TemporalIdCache) : Prop :=
  cache.devicesLoaded → cache.validIds =
    computeValidIds P cache.cachedDevices cache.lastComputedWindow

namespace CacheShared

/-- A copy is no newer than the list, and the list itself if it is as new. -/
def IsCopy (s : CacheShared) (devices : DeviceList) (version : Nat) : Prop :=
  version ≤ s.version ∧ (version = s.version → devices = s.stored)

structure Consistent (P : Primitives) (s : CacheShared) : Prop where
  computed : s.cache.Computed P
  le : s.installed ≤ s.version
  cached : s.cache.devicesLoaded → s.installed = s.version →
    s.cache.cachedDevices = s.stored.devices.map PairedDevice.cached
  unloaded : s.cache.devicesLoaded = false → s.installed = 0

end CacheShared

def CacheTask.Asserts (s : CacheShared) (l : CacheTask) : Prop :=
  (∀ devices version, l.copy? = some (devices, version) → s.IsCopy devices version) ∧
    (l.IsLoading → s.locked = true ∧ s.cache.devicesLoaded = false)

theorem CacheTask.asserts_of_copy?_eq_none {s : CacheShared} {l : CacheTask}
    (hcopy : l.copy? = none) : l.Asserts s := by
  refine ⟨fun devices version h ↦ ?_, fun h ↦ ?_⟩
  · rw [hcopy] at h
    cases h
  · cases l with
    | loading => cases hcopy
    | _ => cases h

section

variable {s s' : CacheShared} {l l' : CacheTask} {a : CacheAct}

theorem CacheStep.computed (h : CacheStep P s l a s' l') (hs : s.cache.Computed P) :
    s'.cache.Computed P := by
  cases h with
  | install | recompute | load => exact fun _ ↦ rfl
  | _ => exact hs

theorem CacheStep.devicesLoaded (h : CacheStep P s l a s' l') (hs : s.cache.devicesLoaded) :
    s'.cache.devicesLoaded := by
  cases h with
  | install | recompute | load => rfl
  | _ => exact hs

theorem CacheStep.consistent (h : CacheStep P s l a s' l') (hs : s.Consistent P)
    (hl : l.Asserts s) : s'.Consistent P := by
  have hcomputed := h.computed hs.computed
  have hfilled {installed : Nat} (hunloaded : true = false) : installed = 0 :=
    absurd hunloaded.symm Bool.false_ne_true
  cases h with
  | write devices =>
    refine ⟨hcomputed, Nat.le_succ_of_le hs.le, fun _ hnew ↦ ?_, hs.unloaded⟩
    exact absurd hs.le (by simp only at hnew; omega)
  | install now hfree =>
    obtain ⟨hle, hsame⟩ := hl.1 _ _ rfl
    refine ⟨hcomputed, hle, fun _ hnew ↦ ?_, hfilled⟩
    rw [← hsame hnew]
    rfl
  | recompute hfree hloaded =>
    refine ⟨hcomputed, hs.le, fun _ hnew ↦ ?_, hfilled⟩
    rw [← hs.cached hloaded hnew]
    simp [TemporalIdCache.recomputeCache, hloaded]
  | lock hfree hloaded => exact ⟨hcomputed, hs.le, hs.cached, hs.unloaded⟩
  | load =>
    obtain ⟨hle, hsame⟩ := hl.1 _ _ rfl
    have hunloaded := (hl.2 trivial).2
    refine ⟨hcomputed, hle, fun _ hnew ↦ ?_, hfilled⟩
    rw [← hsame hnew]
    simp [TemporalIdCache.recomputeCache, hunloaded]
  | read | fail | lookup | refuse | current | answer => exact hs

theorem CacheStep.asserts (h : CacheStep P s l a s' l') : l'.Asserts s' := by
  cases h with
  | read =>
    refine ⟨?_, nofun⟩
    rintro devices version ⟨⟩
    exact ⟨le_rfl, fun _ ↦ rfl⟩
  | lock hfree hloaded =>
    refine ⟨?_, fun _ ↦ ⟨rfl, hloaded⟩⟩
    rintro devices version ⟨⟩
    exact ⟨le_rfl, fun _ ↦ rfl⟩
  | _ => exact CacheTask.asserts_of_copy?_eq_none rfl

/-- No step breaks what is known of the copies of the others. -/
theorem CacheStep.asserts_other (h : CacheStep P s l a s' l') {m : CacheTask}
    (hm : m.Asserts s) (hloading : l.IsLoading → ¬ m.IsLoading) : m.Asserts s' := by
  cases h with
  | write devices =>
    refine ⟨fun devices version hcopy ↦ ?_, hm.2⟩
    have hle := (hm.1 devices version hcopy).1
    exact ⟨Nat.le_succ_of_le hle, fun hnew ↦ absurd hle (by simp only at hnew; omega)⟩
  | install now hfree =>
    refine ⟨hm.1, fun h ↦ ?_⟩
    rw [(hm.2 h).1] at hfree
    cases hfree
  | recompute hfree hloaded =>
    refine ⟨hm.1, fun h ↦ ?_⟩
    rw [(hm.2 h).2] at hloaded
    cases hloaded
  | lock hfree hloaded => exact ⟨hm.1, fun h ↦ ⟨rfl, (hm.2 h).2⟩⟩
  | load => exact ⟨hm.1, fun h ↦ absurd h (hloading trivial)⟩
  | read | fail | lookup | refuse | current | answer => exact hm

/-- Only the lock lets a task load. -/
theorem CacheStep.free_of_loading (h : CacheStep P s l a s' l') (hl' : l'.IsLoading) :
    s.locked = false := by
  cases h with
  | lock hfree hloaded => exact hfree
  | _ => cases hl'

end

namespace CacheRefresh

variable {ι : Type} [DecidableEq ι] {p q : Pool ι CacheShared CacheTask} {i : ι} {a : CacheAct}

/-- The copies that the tasks have, and that one task at most is loading. -/
abbrev CopiesHold (P : Primitives) (p : Pool ι CacheShared CacheTask) : Prop :=
  Threads.Holds (CacheShared.Consistent P) (fun s l ↦ l.Asserts s) (fun _ l ↦ l.IsLoading) p

theorem CopiesHold.next (h : CopiesHold P p) (hnext : (cacheTasks P).pool.next p (i, a) = some q) :
    CopiesHold P q := by
  refine Threads.Holds.next h hnext (fun s l hstep ↦ ?_) fun j s l hj hstep ↦ ?_
  · have hstep' := CacheStep.of_step hstep
    refine ⟨hstep'.consistent h.shared (h.locals i), hstep'.asserts, fun hl j _ hj ↦ ?_⟩
    have hlocked := ((h.locals j).2 hj).1
    rw [hstep'.free_of_loading hl] at hlocked
    cases hlocked
  · refine ⟨(CacheStep.of_step hstep).asserts_other (h.locals j) fun hi hloading ↦ ?_, id⟩
    exact hj (h.exclusive j i hloading hi)

/-! ## Refreshes that are still to come -/

/-- The task is a refresh that has still to install the list as it is. -/
def Owes (s : CacheShared) (l : CacheTask) : Prop :=
  l = .triggered ∨ ∃ devices, l = .read devices s.version

theorem Owes.isRefresh {s : CacheShared} {l : CacheTask} (h : Owes s l) : l.isRefresh = true := by
  obtain rfl | ⟨devices, rfl⟩ := h <;> rfl

def Pending (p : Pool ι CacheShared CacheTask) : Prop := ∃ i, Owes p.shared (p.locals i)

/-- A copy does no harm: it is the list, or the list will be installed. -/
def Covered (p : Pool ι CacheShared CacheTask) (version : Nat) : Prop :=
  version = p.shared.version ∨ Pending p

structure Awaited (p : Pool ι CacheShared CacheTask) : Prop where
  cache : p.shared.cache.devicesLoaded → Covered p p.shared.installed
  copies : ∀ i devices version, (p.locals i).copy? = some (devices, version) →
    p.shared.installed ≤ version → Covered p version

/-- No refresh fails, and none installs a list that is older than the one installed last. -/
def inOrder (s : CacheShared) : CacheTask → CacheAct → Bool
  | .read _ version, .install _ => s.installed ≤ version
  | _, .fail => false
  | _, _ => true

def InOrder (p : Pool ι CacheShared CacheTask) (label : ι × CacheAct) : Prop :=
  inOrder p.shared (p.locals label.1) label.2

instance (p : Pool ι CacheShared CacheTask) (label : ι × CacheAct) :
    Decidable (InOrder p label) := inferInstanceAs (Decidable (_ = true))

section

omit [DecidableEq ι]

/-- What is pending stays so when another task moves. -/
theorem Pending.next (h : Pending p) (hversion : q.shared.version = p.shared.version)
    (hother : ∀ j, j ≠ i → q.locals j = p.locals j)
    (hi : Owes p.shared (p.locals i) → Owes q.shared (q.locals i)) : Pending q := by
  obtain ⟨j, hj⟩ := h
  by_cases hji : j = i
  · subst hji
    exact ⟨j, hi hj⟩
  · refine ⟨j, ?_⟩
    rw [hother j hji, Owes, hversion]
    exact hj

theorem Covered.next {version : Nat} (h : Covered p version)
    (hversion : q.shared.version = p.shared.version)
    (hother : ∀ j, j ≠ i → q.locals j = p.locals j)
    (hi : Owes p.shared (p.locals i) → Owes q.shared (q.locals i)) : Covered q version := by
  obtain rfl | hpending := h
  · exact .inl hversion.symm
  · exact .inr (hpending.next hversion hother hi)

theorem Awaited.of_pending (h : Pending p) : Awaited p :=
  ⟨fun _ ↦ .inr h, fun _ _ _ _ _ ↦ .inr h⟩

/-- A step that installs nothing, and after which the moving task has at most a new copy. -/
theorem Awaited.keep (h : Awaited p) (hother : ∀ j, j ≠ i → q.locals j = p.locals j)
    (hversion : q.shared.version = p.shared.version)
    (hinstalled : q.shared.installed = p.shared.installed)
    (hloaded : q.shared.cache.devicesLoaded → p.shared.cache.devicesLoaded)
    (hi : Owes p.shared (p.locals i) → Owes q.shared (q.locals i))
    (hcopy : ∀ devices version, (q.locals i).copy? = some (devices, version) →
      version = q.shared.version) : Awaited q := by
  refine ⟨fun hq ↦ ?_, fun j devices version hj hle ↦ ?_⟩
  · rw [hinstalled]
    exact (h.cache (hloaded hq)).next hversion hother hi
  · by_cases hji : j = i
    · subst hji
      exact .inl (hcopy devices version hj)
    · rw [hother j hji] at hj
      rw [hinstalled] at hle
      exact (h.copies j devices version hj hle).next hversion hother hi

/-- A refresh installs a copy that is not older than the one installed last. -/
theorem Awaited.install (h : Awaited p) (hq : CopiesHold P q) {devices : DeviceList}
    {version : Nat} (hl : p.locals i = .read devices version)
    (horder : p.shared.installed ≤ version) (hother : ∀ j, j ≠ i → q.locals j = p.locals j)
    (hversion : q.shared.version = p.shared.version)
    (hinstalled : q.shared.installed = version) : Awaited q := by
  by_cases hnew : version = p.shared.version
  · -- the list itself is installed, and no copy is newer
    refine ⟨fun _ ↦ .inl ?_, fun j devices' version' hj hle ↦ .inl ?_⟩
    · rw [hinstalled, hversion, hnew]
    · have hbound := ((hq.locals j).1 devices' version' hj).1
      omega
  · -- the list is still to be installed, by another task
    have hcovered := h.copies i devices version (by rw [hl]; rfl) horder
    refine .of_pending ((hcovered.resolve_left hnew).next hversion hother fun howes ↦ ?_)
    rw [hl] at howes
    obtain heq | ⟨_, heq⟩ := howes <;> cases heq
    exact absurd rfl hnew

/-- A lookup installs the copy it has loaded.  Nothing was installed before. -/
theorem Awaited.load (h : Awaited p) (hp : CopiesHold P p) {now : Int64} {id : Bytes}
    {devices : DeviceList} {version : Nat} (hl : p.locals i = .loading now id devices version)
    (hl' : q.locals i = .ensured now id) (hother : ∀ j, j ≠ i → q.locals j = p.locals j)
    (hversion : q.shared.version = p.shared.version)
    (hinstalled : q.shared.installed = version) : Awaited q := by
  have hzero : p.shared.installed = 0 := by
    refine hp.shared.unloaded ((hp.locals i).2 ?_).2
    rw [hl]
    trivial
  have hkeep {v : Nat} (hv : Covered p v) : Covered q v := by
    refine hv.next hversion hother fun howes ↦ ?_
    rw [hl] at howes
    cases howes.isRefresh
  refine ⟨fun _ ↦ ?_, fun j devices' version' hj _ ↦ ?_⟩
  · rw [hinstalled]
    exact hkeep (h.copies i devices version (by rw [hl]; rfl) (by omega))
  · by_cases hji : j = i
    · subst hji
      rw [hl'] at hj
      cases hj
    · rw [hother j hji] at hj
      exact hkeep (h.copies j devices' version' hj (by omega))

end

theorem Awaited.next (h : Awaited p) (hp : CopiesHold P p) (horder : InOrder p (i, a))
    (hnext : (cacheTasks P).pool.next p (i, a) = some q) : Awaited q := by
  obtain ⟨hstep, hother⟩ := CacheStep.of_pool_next hnext
  have hq := CopiesHold.next hp hnext
  unfold InOrder at horder
  generalize hl : p.locals i = l, hl' : q.locals i = l', hs : q.shared = s' at *
  cases hstep with
  | write devices => exact .of_pending ⟨i, .inl hl'⟩
  | read =>
    refine h.keep hother (by rw [hs]) (by rw [hs]) (by rw [hs]; exact id) (fun _ ↦ ?_) ?_
    · rw [hl', hs]
      exact .inr ⟨_, rfl⟩
    · rw [hl', hs]
      rintro devices version ⟨⟩
      rfl
  | fail => cases horder
  | install now hfree =>
    exact h.install hq hl (of_decide_eq_true horder) hother (by rw [hs]) (by rw [hs])
  | load => exact h.load hp hl hl' hother (by rw [hs]) (by rw [hs])
  | lock hfree hloaded =>
    refine h.keep hother (by rw [hs]) (by rw [hs]) (by rw [hs]; exact id) (fun howes ↦ ?_) ?_
    · rw [hl] at howes
      cases howes.isRefresh
    · rw [hl', hs]
      rintro devices version ⟨⟩
      rfl
  | recompute hfree hloaded =>
    refine h.keep hother (by rw [hs]) (by rw [hs]) (fun _ ↦ hloaded) (fun howes ↦ ?_) ?_
    · rw [hl] at howes
      cases howes.isRefresh
    · rw [hl']
      nofun
  | lookup | refuse | current | answer =>
    refine h.keep hother (by rw [hs]) (by rw [hs]) (by rw [hs]; exact id) (fun howes ↦ ?_) ?_
    · rw [hl] at howes
      cases howes.isRefresh
    · rw [hl']
      nofun

/-! ## Lookups after the refreshes -/

/-- The service has started: its own refresh may be among those triggered. -/
structure Started (p : Pool ι CacheShared CacheTask) : Prop where
  cache : p.shared.cache = .stopped
  version : p.shared.version = 0
  installed : p.shared.installed = 0
  locals : ∀ i, p.locals i = .idle ∨ p.locals i = .triggered

/-- All refreshes that were triggered have finished. -/
def Refreshed (p : Pool ι CacheShared CacheTask) : Prop := ∀ i, (p.locals i).isRefresh = false

omit [DecidableEq ι] in
theorem Started.copy?_eq_none (h : Started p) (i : ι) : (p.locals i).copy? = none := by
  obtain hi | hi := h.locals i <;> rw [hi] <;> rfl

omit [DecidableEq ι] in
theorem Started.copiesHold (h : Started p) : CopiesHold P p where
  shared := by
    refine ⟨fun hloaded ↦ ?_, by rw [h.installed, h.version], fun hloaded ↦ ?_, fun _ ↦ h.installed⟩
    · rw [h.cache] at hloaded
      cases hloaded
    · rw [h.cache] at hloaded
      cases hloaded
  locals i := CacheTask.asserts_of_copy?_eq_none (h.copy?_eq_none i)
  exclusive i j hi _ := by
    obtain hidle | hidle := h.locals i <;> rw [hidle] at hi <;> cases hi

omit [DecidableEq ι] in
theorem Started.awaited (h : Started p) : Awaited p where
  cache hloaded := by
    rw [h.cache] at hloaded
    cases hloaded
  copies i devices version hcopy := by
    rw [h.copy?_eq_none i] at hcopy
    cases hcopy

/-- The cache, and what is still being loaded, is made from these devices, and no refresh is
under way.  The lookup of task `i` has an answer only if it is the one for these devices. -/
structure Settled (P : Primitives) (list : DeviceList) (i : ι)
    (p : Pool ι CacheShared CacheTask) : Prop where
  stored : p.shared.stored = list
  refreshed : Refreshed p
  computed : p.shared.cache.Computed P
  cached : p.shared.cache.devicesLoaded →
    p.shared.cache.cachedDevices = list.devices.map PairedDevice.cached
  copies : ∀ j devices version, (p.locals j).copy? = some (devices, version) → devices = list
  ensured : ∀ now id, p.locals i = .ensured now id → p.shared.cache.devicesLoaded
  answered : ∀ now id result, p.locals i = .answered now id result →
    result = if id.length = 16 then
      computeValidIds P (list.devices.map PairedDevice.cached) (now / timeWindowMs)
        (hexEncode id) else none

/-- In order, the refreshes leave the cache with the list as it is stored. -/
theorem settled_of_inOrder {start : Pool ι CacheShared CacheTask} {labels : List (ι × CacheAct)}
    (hstart : Started start) (hrun : (cacheTasks P).pool.exec start labels = some p)
    (horder : (cacheTasks P).pool.Along InOrder start labels) (hrefreshed : Refreshed p)
    (hidle : p.locals i = .idle) : Settled P p.shared.stored i p := by
  obtain ⟨hcopies, hawaited⟩ : CopiesHold P p ∧ Awaited p := by
    refine (cacheTasks P).pool.invariant_along (I := fun p ↦ CopiesHold P p ∧ Awaited p) ?_
      ⟨hstart.copiesHold, hstart.awaited⟩ hrun horder
    rintro s ⟨j, b⟩ t ⟨hcopies, hawaited⟩ hordered hnext
    exact ⟨CopiesHold.next hcopies hnext, hawaited.next hcopies hordered hnext⟩
  have hnone : ¬ Pending p := by
    rintro ⟨j, hj⟩
    have hnot := hrefreshed j
    rw [hj.isRefresh] at hnot
    cases hnot
  refine ⟨rfl, hrefreshed, hcopies.shared.computed, fun hloaded ↦ ?_,
    fun j devices version hcopy ↦ ?_, ?_, ?_⟩
  · exact hcopies.shared.cached hloaded ((hawaited.cache hloaded).resolve_right hnone)
  · -- the task is loading, so nothing has been installed yet
    have hloading : (p.locals j).IsLoading := by
      have hnot := hrefreshed j
      cases hj : p.locals j with
      | read =>
        rw [hj] at hnot
        cases hnot
      | loading => trivial
      | _ =>
        rw [hj] at hcopy
        cases hcopy
    have hzero := hcopies.shared.unloaded ((hcopies.locals j).2 hloading).2
    refine ((hcopies.locals j).1 devices version hcopy).2 ?_
    exact (hawaited.copies j devices version hcopy (by omega)).resolve_right hnone
  · rw [hidle]
    nofun
  · rw [hidle]
    nofun

/-- The list is not written, and when the lookup of task `i` reads the map, it is that of the
minute in which the lookup read the clock. -/
def calm (s : CacheShared) (own : Bool) : CacheTask → CacheAct → Bool
  | _, .write _ => false
  | .ensured now _, .answer => own → s.cache.lastComputedWindow = now / timeWindowMs
  | _, _ => true

def Calm (i : ι) (p : Pool ι CacheShared CacheTask) (label : ι × CacheAct) : Prop :=
  calm p.shared (label.1 = i) (p.locals label.1) label.2

instance (i : ι) (p : Pool ι CacheShared CacheTask) (label : ι × CacheAct) :
    Decidable (Calm i p label) := inferInstanceAs (Decidable (_ = true))

/-- A step that neither writes nor refreshes leaves the devices in the cache as they are. -/
theorem cached_of_step {s s' : CacheShared} {l l' : CacheTask} {list : DeviceList}
    (hstep : CacheStep P s l a s' l') (hwrite : ∀ devices, a ≠ .write devices)
    (hrefresh : l.isRefresh = false) (hstored : s.stored = list)
    (hcached : s.cache.devicesLoaded →
      s.cache.cachedDevices = list.devices.map PairedDevice.cached)
    (hcopies : ∀ devices version, l.copy? = some (devices, version) → devices = list) :
    s'.stored = list ∧ l'.isRefresh = false ∧
      (s'.cache.devicesLoaded →
        s'.cache.cachedDevices = list.devices.map PairedDevice.cached) ∧
      ∀ devices version, l'.copy? = some (devices, version) → devices = list := by
  have hnone {devices : DeviceList} {version : Nat}
      (hcopy : none = some (devices, version)) : devices = list :=
    absurd hcopy.symm (Option.some_ne_none _)
  cases hstep with
  | write devices => exact absurd rfl (hwrite devices)
  | read | fail | install => cases hrefresh
  | recompute hfree hloaded =>
    refine ⟨hstored, rfl, fun _ ↦ ?_, fun _ _ ↦ hnone⟩
    simp [TemporalIdCache.recomputeCache, hloaded, hcached]
  | lock hfree hloaded =>
    refine ⟨hstored, rfl, hcached, ?_⟩
    rintro devices version ⟨⟩
    exact hstored
  | @load now identifier devices version =>
    refine ⟨hstored, rfl, fun _ ↦ ?_, fun _ _ ↦ hnone⟩
    obtain rfl := hcopies devices version rfl
    by_cases hloaded : s.cache.devicesLoaded
    · simp [TemporalIdCache.recomputeCache, hloaded, hcached]
    · simp [TemporalIdCache.recomputeCache, hloaded]
  | lookup | refuse | current | answer => exact ⟨hstored, rfl, hcached, fun _ _ ↦ hnone⟩

theorem Settled.next {list : DeviceList} {j : ι} (h : Settled P list i p)
    (hcalm : Calm i p (j, a)) (hnext : (cacheTasks P).pool.next p (j, a) = some q) :
    Settled P list i q := by
  obtain ⟨hstep, hother⟩ := CacheStep.of_pool_next hnext
  have hwrite : ∀ devices, a ≠ .write devices := by
    rintro devices rfl
    simp [Calm, calm] at hcalm
  obtain ⟨hstored, hrefresh, hcached, hcopies⟩ :=
    cached_of_step hstep hwrite (h.refreshed j) h.stored h.cached (h.copies j)
  refine ⟨hstored, fun k ↦ ?_, hstep.computed h.computed, hcached,
    fun k devices version hk ↦ ?_, fun now id hi ↦ ?_, fun now id result hi ↦ ?_⟩
  · by_cases hkj : k = j
    · exact hkj ▸ hrefresh
    · rw [hother k hkj]
      exact h.refreshed k
  · by_cases hkj : k = j
    · subst hkj
      exact hcopies devices version hk
    · rw [hother k hkj] at hk
      exact h.copies k devices version hk
  · by_cases hij : i = j
    · subst hij
      rw [hi] at hstep
      generalize p.locals i = l, q.shared = s' at hstep
      cases hstep with
      | current hloaded => exact hloaded
      | recompute | load => rfl
    · rw [hother i hij] at hi
      exact hstep.devicesLoaded (h.ensured now id hi)
  · by_cases hij : i = j
    · subst hij
      have hensured := h.ensured now id
      unfold Calm at hcalm
      rw [hi] at hstep
      generalize p.locals i = l, q.shared = s' at *
      cases hstep with
      | refuse _ hid => rw [if_neg hid]
      | answer =>
        have hloaded := hensured rfl
        have hwindow := of_decide_eq_true hcalm (decide_eq_true rfl)
        rw [TemporalIdCache.isValidTemporalId, h.computed hloaded, h.cached hloaded, hwindow]
    · rw [hother i hij] at hi
      exact h.answered now id result hi

/-- **Lookups after the refreshes.**  If the refreshes installed in the order in which they read
the list, then after they have all finished a lookup accepts the identifiers of the stored
devices for its minute and the one before, names the device, and accepts no others. -/
theorem lookup_exact_of_inOrder {start : Pool ι CacheShared CacheTask}
    {labels rest : List (ι × CacheAct)} {now : Int64} {id : Bytes} {result : Option String}
    (hstart : Started start) (hrun : (cacheTasks P).pool.exec start labels = some p)
    (horder : (cacheTasks P).pool.Along InOrder start labels) (hrefreshed : Refreshed p)
    (hidle : p.locals i = .idle) (hrest : (cacheTasks P).pool.exec p rest = some q)
    (hcalm : (cacheTasks P).pool.Along (Calm i) p rest)
    (hanswer : q.locals i = .answered now id result)
    (hcollision : NoCollision P (q.shared.stored.devices.map PairedDevice.cached)
      (now / timeWindowMs)) (deviceId : String) :
    result = some deviceId ↔ ∃ device ∈ q.shared.stored, device.deviceId = deviceId ∧
      HasId P device.csk (now / timeWindowMs) id := by
  have hsettled : Settled P p.shared.stored i q := by
    refine (cacheTasks P).pool.invariant_along ?_
      (settled_of_inOrder hstart hrun horder hrefreshed hidle) hrest hcalm
    rintro s ⟨j, b⟩ t hs hcalm hnext
    exact hs.next hcalm hnext
  rw [hsettled.answered now id result hanswer]
  rw [hsettled.stored] at hcollision ⊢
  constructor
  · intro h
    split_ifs at h with hid
    obtain ⟨cached, hmem, hname, hhas⟩ := (computeValidIds_eq_some_iff hcollision).mp h
    obtain ⟨device, hdevice, rfl⟩ := List.mem_map.mp hmem
    exact ⟨device, hdevice, hname, hhas⟩
  · rintro ⟨device, hmem, hname, hhas⟩
    rw [if_pos hhas.length]
    exact (computeValidIds_eq_some_iff hcollision).mpr
      ⟨device.cached, List.mem_map_of_mem hmem, hname, hhas⟩

open Transparent

namespace Sample

open IdSample

/-- The refresh of the start, a pairing, and a packet. -/
inductive Task where
  | start
  | pairing
  | packet
  deriving DecidableEq

def started : Pool Task CacheShared CacheTask where
  shared := ⟨.empty, .stopped, false, 0, 0⟩
  locals
    | .start => .triggered
    | _ => .idle

theorem started_started : Started started where
  cache := rfl
  version := rfl
  installed := rfl
  locals i := by
    cases i with
    | start => exact .inr rfl
    | pairing | packet => exact .inl rfl

/-- The refresh of the start reads the empty list and installs it last. -/
def overtaken : List (Task × CacheAct) :=
  [(.start, .read), (.pairing, .write paired), (.pairing, .read), (.pairing, .install 120000),
    (.start, .install 120100)]

def inTurn : List (Task × CacheAct) :=
  [(.start, .read), (.pairing, .write paired), (.pairing, .read), (.start, .install 120000),
    (.pairing, .install 120100)]

/-- The desktop's identifier of the third minute. -/
def desktopId : Bytes := (generateTemporalId primitives desktop.csk 120).getD []

def lookup : List (Task × CacheAct) :=
  [(.packet, .lookup 121000 desktopId), (.packet, .ensure), (.packet, .answer)]

def after (labels : List (Task × CacheAct)) : Option (Pool Task CacheShared CacheTask) :=
  (cacheTasks primitives).pool.exec started labels

def refreshed : Pool Task CacheShared CacheTask := (after inTurn).get (by decide +kernel)

theorem after_inTurn : after inTurn = some refreshed := (Option.some_get _).symm

def answered : Pool Task CacheShared CacheTask :=
  ((cacheTasks primitives).pool.exec refreshed lookup).get (by decide +kernel)

theorem exec_lookup :
    (cacheTasks primitives).pool.exec refreshed lookup = some answered :=
  (Option.some_get _).symm

theorem noCollision_paired (window : Int64) :
    NoCollision primitives (paired.devices.map PairedDevice.cached) window := by
  intro d hd d' hd' id _ _
  rw [List.mem_singleton.mp hd, List.mem_singleton.mp hd']

end Sample

open Sample

/-- All refreshes have finished, the desktop is paired, and its identifier is not known. -/
theorem paired_device_unknown :
    ∃ p q, after overtaken = some p ∧ Refreshed p ∧
      (cacheTasks primitives).pool.exec p lookup = some q ∧
      q.shared.stored = IdSample.paired ∧
      q.locals .packet = .answered 121000 desktopId none ∧
      HasId primitives IdSample.desktop.csk (121000 / timeWindowMs)
        desktopId := by
  refine ⟨_, _, rfl, fun i ↦ ?_, rfl, rfl, by decide +kernel, by decide +kernel⟩
  cases i <;> rfl

theorem lookup_exact_of_inOrder_inTurn :
    answered.locals .packet = .answered 121000 desktopId (some "d") ∧
      ∃ device ∈ answered.shared.stored, device.deviceId = "d" ∧
        HasId primitives device.csk (121000 / timeWindowMs) desktopId := by
  have hanswer : answered.locals .packet =
      .answered 121000 desktopId (some "d") := by decide +kernel
  have hcollision : NoCollision primitives
      (answered.shared.stored.devices.map PairedDevice.cached) (121000 / timeWindowMs) := by
    rw [show answered.shared.stored = IdSample.paired by decide +kernel]
    exact noCollision_paired _
  refine ⟨hanswer, (lookup_exact_of_inOrder started_started after_inTurn
    (by decide +kernel) (fun i ↦ ?_) (by decide +kernel) exec_lookup (by decide +kernel)
    hanswer hcollision "d").mp rfl⟩
  cases i <;> decide +kernel

end CacheRefresh

end TapAuth.Phone
