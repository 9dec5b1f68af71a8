import TapAuth.Shared.Firewall

/-!
# Locks of the firewall guards

A destructor holds the lock of its port while it has a temporary strong reference, made by
the upgrade of the weak one.  As long as that is not the last reference when it goes
(`keepsOther`), a thread is in one call at a time, holds no lock where it waits for one, and
every call comes to its end (`every_drop_finishes`).

If all others are dropped in between, the temporary is the last: the destructor of that guard
then runs inside of the first one and waits for the lock the thread holds
(`drop_waits_for_itself`).
-/

namespace TapAuth.Shared.Firewall

variable {ι : Type}

/-- The temporary of a destructor is not the last strong reference. -/
def keepsOther (p : Pool ι State (List Frame)) (label : ι × Action) : Bool :=
  match (p.locals label.1).head? with
  | some (.closeRelease _ temporary) => p.shared.strong temporary ≠ 1
  | _ => true

/-! ## Steps to the end of a call -/

def Frame.rank : Frame → Nat
  | .newMap .. => 7
  | .newEntry .. => 6
  | .newLock .. => 5
  | .newUpgrade .. => 4
  | .newOpen .. => 3
  | .newStore .. => 2
  | .newReturn .. => 1
  | .closeMap .. => 6
  | .closeEntry .. => 5
  | .closeLock .. => 4
  | .closeUpgrade .. => 3
  | .closeRelease .. => 2
  | .closeClose .. => 2
  | .closeUnlock .. => 1

/-- The steps that are left to a thread. -/
def remaining : List Frame → Nat
  | [] => 0
  | frame :: rest => frame.rank + remaining rest

theorem remaining_append (frames rest : List Frame) :
    remaining (frames ++ rest) = remaining frames + remaining rest := by
  induction frames with
  | nil => exact (Nat.zero_add _).symm
  | cons frame frames ih => rw [List.cons_append, remaining, remaining, ih, Nat.add_assoc]

theorem Frame.rank_le (frame : Frame) : frame.rank ≤ 7 := by
  cases frame <;> simp [Frame.rank]

theorem remaining_le {frames : List Frame} (hlength : frames.length ≤ 1) :
    remaining frames ≤ 7 := by
  match frames, hlength with
  | [], _ => exact Nat.zero_le 7
  | [frame], _ => exact frame.rank_le

theorem Frame.rank_of_acquires {frame next : Frame} {lock : Lock}
    (h : frame.acquires = some (lock, next)) : next.rank < frame.rank := by
  cases frame <;> cases h <;> exact Nat.lt_succ_self _

theorem State.length_release_le (s : State) (id : Nat) : (s.release id).2.length ≤ 1 := by
  unfold State.release
  split
  · cases s.arcs[id]? <;> simp
  · exact Nat.zero_le 1

theorem State.release_eq_nil {s : State} {id : Nat} (h : s.strong id ≠ 1) :
    (s.release id).2 = [] := if_neg h

section

variable {s s' : State} {command : Command} {frame : Frame} {frames : List Frame}

/-- A call stays one call or ends, and is nearer to its end. -/
theorem Frame.Ran.length_le_and_remaining_lt (h : frame.Ran s command s' frames)
    (hkeeps : ∀ port temporary, frame = .closeRelease port temporary → s.strong temporary ≠ 1) :
    frames.length ≤ 1 ∧ remaining frames < frame.rank := by
  cases h with
  | acquired h => exact ⟨Nat.le_refl 1, Frame.rank_of_acquires h⟩
  | released port temporary =>
    rw [State.release_eq_nil (hkeeps port temporary rfl)]
    exact ⟨Nat.le_refl 1, Nat.lt_succ_self _⟩
  | _ => simp [remaining, Frame.rank]

/-- A call can go on unless it waits for a lock. -/
theorem Frame.isSome_run (h : ∀ lock next, frame.acquires = some (lock, next) →
    s.locked lock = false) : (frame.run s command).isSome := by
  cases hacquires : frame.acquires with
  | some acquired =>
    obtain ⟨lock, next⟩ := acquired
    rw [Frame.run_of_acquires hacquires, State.acquire, h lock next hacquires]
    rfl
  | none =>
    cases frame <;> simp only [Frame.run] <;> try cases hacquires
    all_goals repeat' split
    all_goals rfl

end

/-! ## Runs -/

theorem keepsOther_iff {p : Pool ι State (List Frame)} {label : ι × Action} :
    keepsOther p label = true ↔ ∀ port temporary,
      (p.locals label.1).head? = some (.closeRelease port temporary) →
        p.shared.strong temporary ≠ 1 := by
  unfold keepsOther
  split
  next port temporary hhead => simp [hhead]
  next hhead => exact iff_of_true rfl fun port temporary h ↦ absurd h (hhead port temporary)

/-- A thread in one call, or in none, stays so. -/
theorem Stepped.length_le {s s' : State} {frames frames' : List Frame} {action : Action}
    (h : Stepped s frames action s' frames') (hlength : frames.length ≤ 1)
    (hkeeps : ∀ port temporary, frames.head? = some (.closeRelease port temporary) →
      s.strong temporary ≠ 1) :
    frames'.length ≤ 1 := by
  cases h with
  | called | cloned => simp
  | dropped => exact State.length_release_le _ _
  | ran rest h =>
    have hrest : rest = [] := by simpa using hlength
    subst hrest
    rw [List.append_nil]
    exact (h.length_le_and_remaining_lt fun port temporary heq ↦
      hkeeps port temporary (congrArg some heq)).1

theorem Stepped.remaining_lt {s s' : State} {frames frames' : List Frame} {command : Command}
    (h : Stepped s frames (.run command) s' frames')
    (hkeeps : ∀ port temporary, frames.head? = some (.closeRelease port temporary) →
      s.strong temporary ≠ 1) :
    remaining frames' < remaining frames := by
  cases h with
  | ran rest h =>
    have hlt := (h.length_le_and_remaining_lt fun port temporary heq ↦
      hkeeps port temporary (congrArg some heq)).2
    rw [remaining_append, remaining]
    exact Nat.add_lt_add_right hlt _

section

variable [DecidableEq ι] {p q : Pool ι State (List Frame)} {labels : List (ι × Action)}

theorem length_le_along (hrun : threads.pool.exec (initial ι) labels = some p)
    (hkeeps : threads.pool.Along (fun p label ↦ keepsOther p label = true) (initial ι) labels) :
    ∀ i, (p.locals i).length ≤ 1 := by
  have hinitial : ∀ i : ι, ((initial ι).locals i).length ≤ 1 := fun _ ↦ Nat.zero_le 1
  refine threads.pool.invariant_along (I := fun p ↦ ∀ i, (p.locals i).length ≤ 1) ?_ hinitial
    hrun hkeeps
  rintro p ⟨i, action⟩ q hlength hkeeps hnext j
  obtain ⟨hstep, hother⟩ := threads.step_of_pool_next hnext
  by_cases hj : j = i
  · subst hj
    exact (stepped hstep).length_le (hlength j) (keepsOther_iff.mp hkeeps)
  · rw [hother j hj]
    exact hlength j

/-- A thread that starts no new call takes at most the steps that are left to it. -/
theorem steps_add_remaining_le {i : ι} {more : List (ι × Action)}
    (hrun : threads.pool.exec p more = some q)
    (hkeeps : threads.pool.Along (fun p label ↦ keepsOther p label = true) p more)
    (hown : ∀ label ∈ more, label.1 = i → ∃ command, label.2 = .run command) :
    (more.filter (·.1 = i)).length + remaining (q.locals i) ≤ remaining (p.locals i) := by
  induction more generalizing p with
  | nil =>
    cases hrun
    simp
  | cons label more ih =>
    obtain ⟨r, hnext, hrun⟩ := threads.pool.exec_cons_eq_some.mp hrun
    obtain ⟨hfirst, hown⟩ := List.forall_mem_cons.mp hown
    have hrest := ih hrun (hkeeps.2 r hnext) hown
    obtain ⟨j, action⟩ := label
    obtain ⟨hstep, hother⟩ := threads.step_of_pool_next hnext
    by_cases hj : j = i
    · subst hj
      obtain ⟨command, rfl⟩ := hfirst rfl
      have hlt := (stepped hstep).remaining_lt (keepsOther_iff.mp hkeeps.1)
      rw [List.filter_cons_of_pos (by simp), List.length_cons]
      omega
    · rw [List.filter_cons_of_neg (by simpa using hj)]
      rwa [hother i (Ne.symm hj)] at hrest

/-- A thread in one call does not hold a lock where it waits for one. -/
theorem held_eq_nil {frames : List Frame} {lock : Lock} (hlength : frames.length ≤ 1)
    (hwants : locking.wants frames = some lock) : locking.held frames = [] := by
  match frames, hlength with
  | [frame], _ =>
    obtain ⟨⟨_, next⟩, hacquires, rfl⟩ := Option.map_eq_some_iff.mp hwants
    simp [locking, (Frame.holds_of_acquires hacquires).1]

theorem isSome_next {i : ι} (hbusy : p.locals i ≠ [])
    (hfree : ∀ lock, locking.wants (p.locals i) = some lock → p.shared.locked lock = false)
    (command : Command) : (threads.pool.next p (i, .run command)).isSome := by
  obtain ⟨frame, rest, hframes⟩ := List.exists_cons_of_ne_nil hbusy
  rw [hframes] at hfree
  have hrun : (frame.run p.shared command).isSome := Frame.isSome_run fun lock next hacquires ↦
    hfree lock (by simp [locking, hacquires])
  change (Option.map _ (step p.shared (p.locals i) (.run command))).isSome = true
  rw [hframes, Option.isSome_map]
  change (Option.map _ (frame.run p.shared command)).isSome = true
  rw [Option.isSome_map]
  exact hrun

omit [DecidableEq ι] in
theorem not_waits_of_waits {i j k : ι} (hlength : ∀ i, (p.locals i).length ≤ 1)
    (hwaits : locking.Waits p i j) : ¬locking.Waits p j k := by
  rintro ⟨lock, hwants, -⟩
  obtain ⟨_, -, hheld⟩ := hwaits
  rw [held_eq_nil (hlength j) hwants] at hheld
  cases hheld

/-- A call goes on, or the one does that holds its lock. -/
theorem isSome_next_or_waits {i : ι} (hok : locking.Ok p) (hlength : ∀ i, (p.locals i).length ≤ 1)
    (hbusy : p.locals i ≠ []) (command : Command) :
    (threads.pool.next p (i, .run command)).isSome ∨
      ∃ j, locking.Waits p i j ∧ (threads.pool.next p (j, .run command)).isSome := by
  by_cases hfree : ∀ lock, locking.wants (p.locals i) = some lock → p.shared.locked lock = false
  · exact .inl (isSome_next hbusy hfree command)
  · simp only [not_forall, Bool.not_eq_false] at hfree
    obtain ⟨lock, hwants, hlocked⟩ := hfree
    obtain ⟨j, hj⟩ := hok.exists_waits hwants hlocked
    refine .inr ⟨j, hj, isSome_next ?_ ?_ command⟩
    · obtain ⟨_, -, hheld⟩ := hj
      rintro hidle
      rw [hidle] at hheld
      cases hheld
    · -- the holder waits for nothing
      intro lock hwants
      by_contra hlocked
      obtain ⟨k, hk⟩ := hok.exists_waits hwants (Bool.not_eq_false _ ▸ hlocked)
      exact not_waits_of_waits hlength hj hk

/-- As long as no destructor's temporary is the last reference, no thread waits for a lock that
it holds or for a thread that waits; a call goes on, or the thread it waits for does, and it
ends after at most seven steps of its own. -/
theorem every_drop_finishes (hrun : threads.pool.exec (initial ι) labels = some p)
    (hkeeps : threads.pool.Along (fun p label ↦ keepsOther p label = true) (initial ι) labels) :
    (∀ i, ¬locking.Waits p i i) ∧
      (∀ i j k, locking.Waits p i j → ¬locking.Waits p j k) ∧
      (∀ i, p.locals i ≠ [] → ∀ command,
        (threads.pool.next p (i, .run command)).isSome ∨
          ∃ j, locking.Waits p i j ∧ (threads.pool.next p (j, .run command)).isSome) ∧
      ∀ i more q, threads.pool.exec p more = some q →
        threads.pool.Along (fun p label ↦ keepsOther p label = true) p more →
        (∀ label ∈ more, label.1 = i → ∃ command, label.2 = .run command) →
        (more.filter (·.1 = i)).length ≤ 7 := by
  have hok : locking.Ok p := (ok_initial ι).exec disciplined hrun
  have hlength := length_le_along hrun hkeeps
  refine ⟨fun i h ↦ not_waits_of_waits hlength h h, fun i j k ↦ not_waits_of_waits hlength,
    fun i hbusy command ↦ isSome_next_or_waits hok hlength hbusy command, ?_⟩
  intro i more q hmore hkeeps hown
  have hsteps := steps_add_remaining_le hmore hkeeps hown
  have hremaining := remaining_le (hlength i)
  omega

end

/-! ## A destructor in a destructor -/

/-- Steps of one thread while all commands succeed. -/
def Sample.steps (thread : Bool) (n : Nat) : List (Bool × Action) :=
  List.replicate n (thread, .run ⟨true, .success⟩)

/-- One thread has dropped the only guard of a port and has not come to its lock, another one has
made the next guard. -/
def Sample.dropping : List (Bool × Action) :=
  (false, .callNew 4000 .tcp) :: steps false 7 ++
    (false, .drop ⟨0, 4000, .tcp⟩) :: (true, .callNew 4000 .tcp) :: steps true 7 ++ steps false 4

def Sample.upgraded : Pool Bool State (List Frame) :=
  (threads.pool.exec (initial Bool) dropping).get rfl

theorem every_drop_finishes_sample :
    (∀ i, ¬locking.Waits Sample.upgraded i i) ∧
      ∀ more q, threads.pool.exec Sample.upgraded more = some q →
        threads.pool.Along (fun p label ↦ keepsOther p label = true) Sample.upgraded more →
        (∀ label ∈ more, label.1 = false → ∃ command, label.2 = .run command) →
        (more.filter (·.1 = false)).length ≤ 7 := by
  have hrun : threads.pool.exec (initial Bool) Sample.dropping = some Sample.upgraded := rfl
  obtain ⟨hself, -, -, hends⟩ := every_drop_finishes hrun (by decide)
  exact ⟨hself, fun more q ↦ hends false more q⟩

/-- The other guard is dropped while the first thread has its temporary, which then is the last
reference. -/
def Sample.deadlock : List (Bool × Action) :=
  dropping ++ (true, .drop ⟨1, 4000, .tcp⟩) :: steps false 3

/-- The thread waits for the lock it holds, whatever happens then. -/
theorem drop_waits_for_itself :
    ∃ p, threads.pool.exec (initial Bool) Sample.deadlock = some p ∧ locking.Waits p false false ∧
      ∀ more q, threads.pool.exec p more = some q → q.locals false ≠ [] := by
  have hsome : (threads.pool.exec (initial Bool) Sample.deadlock).isSome := rfl
  obtain ⟨p, hrun⟩ := Option.isSome_iff_exists.mp hsome
  have hlocals : (threads.pool.exec (initial Bool) Sample.deadlock).map (·.locals false) =
      some [.closeLock 4000 .tcp, .closeUnlock 4000] := rfl
  rw [hrun] at hlocals
  have hframes : p.locals false = [.closeLock 4000 .tcp, .closeUnlock 4000] :=
    Option.some.inj hlocals
  have hwaits : locking.Waits p false false := by
    refine ⟨.port 4000, ?_, ?_⟩
    · rw [hframes]
      rfl
    · rw [hframes]
      exact List.mem_singleton_self _
  have hok : locking.Ok p := (ok_initial Bool).exec disciplined hrun
  refine ⟨p, hrun, hwaits, fun more q hmore ↦ ?_⟩
  rw [hok.stuck disciplined blocking hwaits hmore, hframes]
  exact List.cons_ne_nil _ _

end TapAuth.Shared.Firewall
