import TapAuth.Lib.Locks

/-!
# Firewall guards

`FirewallGuard::new` hands out one shared guard for each port: the entry of the port in
`GUARDS` has a weak reference to the guard and a flag for the rule.  The destructor of a
guard closes the port unless the weak reference can be upgraded.

Any number of threads create, clone and drop guards.  A thread is the stack of the calls it
is in: a destructor runs where the last strong reference goes, which may be inside of
another destructor.  The steps of a thread are those between which others can act: a lock is
taken or freed, a weak reference is upgraded, a strong one goes, a command has run.
-/

namespace TapAuth.Shared.Firewall

open Function

inductive Protocol where
  | tcp
  | udp
  deriving DecidableEq

def Protocol.display : Protocol → String
  | .tcp => "tcp"
  | .udp => "udp"

/-! ## Commands -/

inductive FirewallError where
  | iptables (message : String)
  | firewallCmd (message : String)
  | io (error : String)
  deriving DecidableEq

def FirewallError.display : FirewallError → String
  | .iptables message => "iptables command failed: " ++ message
  | .firewallCmd message => "firewall-cmd failed: " ++ message
  | .io error => "IO error: " ++ error

/-- How a command of the host ends. -/
inductive CommandResult where
  | success
  | failure (status stdout stderr : String)
  | io (notFound : Bool) (error : String)
  deriving DecidableEq

/-- What the host answers to one call of `open_port` or `close_port`. -/
structure Command where
  isFirewalldRunning : Bool
  result : CommandResult
  deriving DecidableEq

/-- The rules of the host: the ports of firewalld, and how often iptables has a rule. -/
structure Rules where
  firewalld : UInt16 × Protocol → Bool
  iptables : UInt16 × Protocol → Nat

namespace Rules

def isOpen (rules : Rules) (port : UInt16) (protocol : Protocol) : Bool :=
  rules.firewalld (port, protocol) || decide (0 < rules.iptables (port, protocol))

def runFirewalldPortAction (actionFlag : String) : CommandResult → Except FirewallError Unit
  | .success => .ok ()
  | .failure status stdout stderr =>
    .error (.firewallCmd ("firewall-cmd " ++ actionFlag ++ " failed with status: " ++ status ++
      " — stdout: " ++ stdout ++ " — stderr: " ++ stderr))
  | .io _ error => .error (.firewallCmd ("Failed to execute firewall-cmd: " ++ error))

def openPort (rules : Rules) (port : UInt16) (protocol : Protocol) (command : Command) :
    Except FirewallError Rules :=
  if command.isFirewalldRunning then do
    runFirewalldPortAction "--add-port" command.result
    return { rules with firewalld := update rules.firewalld (port, protocol) true }
  else
    match command.result with
    | .success =>
      .ok { rules with
        iptables := update rules.iptables (port, protocol)
          (rules.iptables (port, protocol) + 1) }
    | .failure status _ _ => .error (.iptables ("command failed with status: " ++ status))
    | .io true _ => .ok rules
    | .io false error => .error (.io error)

def closePort (rules : Rules) (port : UInt16) (protocol : Protocol) (command : Command) :
    Except FirewallError Rules :=
  if command.isFirewalldRunning then
    match runFirewalldPortAction "--remove-port" command.result with
    | .error e =>
      .error (.firewallCmd ("Failed to close firewall port " ++ toString port.toNat ++ "/" ++
        protocol.display ++ ": " ++ e.display))
    | .ok () =>
      .ok { rules with firewalld := update rules.firewalld (port, protocol) false }
  else
    match command.result with
    | .success =>
      .ok { rules with
        iptables := update rules.iptables (port, protocol)
          (rules.iptables (port, protocol) - 1) }
    | .failure status _ _ =>
      .error (.iptables ("iptables -D failed with exit status: " ++ status))
    | .io true _ => .ok rules
    | .io false error => .error (.io error)

end Rules

/-! ## Guards -/

structure FirewallGuard where
  port : UInt16
  protocol : Protocol
  deriving DecidableEq

/-- The entry of a port; the weak reference is the number of an allocation, if it is not that
of `Weak::new`. -/
structure PortControl where
  weak : Option Nat
  isOpen : Bool

inductive Lock where
  | map
  | port (port : UInt16)
  deriving DecidableEq

/-- An `Arc` that a call `new(port, protocol)` has returned, or a clone of one. -/
structure Handle where
  id : Nat
  port : UInt16
  protocol : Protocol
  deriving DecidableEq

structure State where
  /-- All guards that were ever allocated. -/
  arcs : List FirewallGuard
  strong : Nat → Nat
  guards : UInt16 → Option PortControl
  locked : Lock → Bool
  rules : Rules
  handles : List Handle

/-- Where a call of `new` or of `do_drop_close` stands. -/
inductive Frame where
  | newMap (port : UInt16) (protocol : Protocol)
  | newEntry (port : UInt16) (protocol : Protocol)
  | newLock (port : UInt16) (protocol : Protocol)
  | newUpgrade (port : UInt16) (protocol : Protocol)
  | newOpen (port : UInt16) (protocol : Protocol)
  | newStore (port : UInt16) (protocol : Protocol)
  | newReturn (port : UInt16) (protocol : Protocol) (result : Except FirewallError Nat)
  | closeMap (port : UInt16) (protocol : Protocol)
  | closeEntry (port : UInt16) (protocol : Protocol)
  | closeLock (port : UInt16) (protocol : Protocol)
  | closeUpgrade (port : UInt16) (protocol : Protocol)
  /-- With the temporary that the upgrade has made. -/
  | closeRelease (port : UInt16) (temporary : Nat)
  | closeClose (port : UInt16) (protocol : Protocol)
  | closeUnlock (port : UInt16)
  deriving DecidableEq

inductive Action where
  | callNew (port : UInt16) (protocol : Protocol)
  | clone (handle : Handle)
  | drop (handle : Handle)
  /-- A step of the call that the thread is in; the command is read where one is run. -/
  | run (command : Command)
  deriving DecidableEq

namespace State

variable (s : State)

def control (port : UInt16) : PortControl := (s.guards port).getD ⟨none, false⟩

def setControl (port : UInt16) (control : PortControl) : State :=
  { s with guards := update s.guards port (some control) }

def setLocked (lock : Lock) (locked : Bool) : State :=
  { s with locked := update s.locked lock locked }

/-- One more strong reference. -/
def retain (id : Nat) : State :=
  { s with strong := update s.strong id (s.strong id + 1) }

/-- One strong reference less, and the destructor if it was the last. -/
def release (id : Nat) : State × List Frame :=
  ({ s with strong := update s.strong id (s.strong id - 1) },
    if s.strong id = 1 then
      (s.arcs[id]?).toList.map fun guard ↦ .closeMap guard.port guard.protocol
    else [])

/-- A new guard, to which the weak reference of its port then points. -/
def store (port : UInt16) (protocol : Protocol) : State :=
  { s with
      arcs := s.arcs ++ [⟨port, protocol⟩]
      strong := update s.strong s.arcs.length 1
      guards := update s.guards port
        (some { s.control port with weak := some s.arcs.length }) }

/-- The caller of `new` gets the guard. -/
def handOut (port : UInt16) (protocol : Protocol) (result : Except FirewallError Nat) : State :=
  { s with
      handles := (result.toOption.toList.map fun id ↦ ⟨id, port, protocol⟩) ++ s.handles }

/-- The guard to which the weak reference of a port can be upgraded. -/
def upgrade (port : UInt16) : Option Nat := (s.control port).weak.filter (0 < s.strong ·)

/-- Take a lock that is free. -/
def acquire (lock : Lock) (next : Frame) : Option (State × List Frame) :=
  if s.locked lock then none else some (s.setLocked lock true, [next])

end State

/-- One step of a call, and the calls that then stand in its place. -/
def Frame.run (s : State) (command : Command) : Frame → Option (State × List Frame)
  | .newMap port protocol => s.acquire .map (.newEntry port protocol)
  | .newEntry port protocol =>
    some ((s.setControl port (s.control port)).setLocked .map false, [.newLock port protocol])
  | .newLock port protocol => s.acquire (.port port) (.newUpgrade port protocol)
  | .newUpgrade port protocol =>
    match s.upgrade port with
    | some existing => some (s.retain existing, [.newReturn port protocol (.ok existing)])
    | none => some (s, [.newOpen port protocol])
  | .newOpen port protocol =>
    if (s.control port).isOpen then some (s, [.newStore port protocol])
    else
      match s.rules.openPort port protocol command with
      | .error e => some (s, [.newReturn port protocol (.error e)])
      | .ok rules =>
        some ({ s with rules }.setControl port { s.control port with isOpen := true },
          [.newStore port protocol])
  | .newStore port protocol =>
    some (s.store port protocol, [.newReturn port protocol (.ok s.arcs.length)])
  | .newReturn port protocol result =>
    some ((s.handOut port protocol result).setLocked (.port port) false, [])
  | .closeMap port protocol => s.acquire .map (.closeEntry port protocol)
  | .closeEntry port protocol =>
    some (s.setLocked .map false,
      (s.guards port).toList.map fun _ ↦ .closeLock port protocol)
  | .closeLock port protocol => s.acquire (.port port) (.closeUpgrade port protocol)
  | .closeUpgrade port protocol =>
    match s.upgrade port with
    | some temporary => some (s.retain temporary, [.closeRelease port temporary])
    | none => some (s, [.closeClose port protocol])
  | .closeRelease port temporary =>
    some ((s.release temporary).1, (s.release temporary).2 ++ [.closeUnlock port])
  | .closeClose port protocol =>
    if (s.control port).isOpen then
      -- an error of the command is only logged
      let rules := (s.rules.closePort port protocol command).toOption.getD s.rules
      some ({ s with rules }.setControl port { s.control port with isOpen := false },
        [.closeUnlock port])
    else some (s, [.closeUnlock port])
  | .closeUnlock port => some (s.setLocked (.port port) false, [])

def step (s : State) : List Frame → Action → Option (State × List Frame)
  | [], .callNew port protocol => some (s, [.newMap port protocol])
  | [], .clone handle =>
    if handle ∈ s.handles then
      some ({ s.retain handle.id with handles := handle :: s.handles }, [])
    else none
  | [], .drop handle =>
    if handle ∈ s.handles then
      some ({ s with handles := s.handles.erase handle }.release handle.id)
    else none
  | frame :: rest, .run command =>
    (frame.run s command).map fun moved ↦ (moved.1, moved.2 ++ rest)
  | _, _ => none

def threads : Threads State (List Frame) Action := ⟨step⟩

def State.empty : State where
  arcs := []
  strong := fun _ ↦ 0
  guards := fun _ ↦ none
  locked := fun _ ↦ false
  rules := ⟨fun _ ↦ false, fun _ ↦ 0⟩
  handles := []

/-- No guards and no calls. -/
def initial (ι : Type) : Pool ι State (List Frame) := ⟨.empty, fun _ ↦ []⟩

/-! ## What a step can do -/

/-- The lock that a call is about to take, and where it then stands. -/
def Frame.acquires : Frame → Option (Lock × Frame)
  | .newMap port protocol => some (.map, .newEntry port protocol)
  | .newLock port protocol => some (.port port, .newUpgrade port protocol)
  | .closeMap port protocol => some (.map, .closeEntry port protocol)
  | .closeLock port protocol => some (.port port, .closeUpgrade port protocol)
  | _ => none

/-- The outcomes of a step of a call. -/
inductive Frame.Ran (s : State) (command : Command) : Frame → State → List Frame → Prop
  | acquired {frame next : Frame} {lock : Lock} (h : frame.acquires = some (lock, next))
      (hfree : s.locked lock = false) : Ran s command frame (s.setLocked lock true) [next]
  | inserted (port : UInt16) (protocol : Protocol) :
      Ran s command (.newEntry port protocol)
        ((s.setControl port (s.control port)).setLocked .map false) [.newLock port protocol]
  | shared {port : UInt16} (protocol : Protocol) {id : Nat} (h : s.upgrade port = some id) :
      Ran s command (.newUpgrade port protocol) (s.retain id) [.newReturn port protocol (.ok id)]
  | unshared {port : UInt16} (protocol : Protocol) (h : s.upgrade port = none) :
      Ran s command (.newUpgrade port protocol) s [.newOpen port protocol]
  | wasOpen {port : UInt16} (protocol : Protocol) (h : (s.control port).isOpen = true) :
      Ran s command (.newOpen port protocol) s [.newStore port protocol]
  | notOpened {port : UInt16} {protocol : Protocol} {e : FirewallError}
      (h : (s.control port).isOpen = false)
      (herror : s.rules.openPort port protocol command = .error e) :
      Ran s command (.newOpen port protocol) s [.newReturn port protocol (.error e)]
  | opened {port : UInt16} {protocol : Protocol} {rules : Rules}
      (h : (s.control port).isOpen = false)
      (hok : s.rules.openPort port protocol command = .ok rules) :
      Ran s command (.newOpen port protocol)
        ({ s with rules }.setControl port { s.control port with isOpen := true })
        [.newStore port protocol]
  | stored (port : UInt16) (protocol : Protocol) :
      Ran s command (.newStore port protocol) (s.store port protocol)
        [.newReturn port protocol (.ok s.arcs.length)]
  | returned (port : UInt16) (protocol : Protocol) (result : Except FirewallError Nat) :
      Ran s command (.newReturn port protocol result)
        ((s.handOut port protocol result).setLocked (.port port) false) []
  | missing {port : UInt16} (protocol : Protocol) (h : s.guards port = none) :
      Ran s command (.closeEntry port protocol) (s.setLocked .map false) []
  | found {port : UInt16} (protocol : Protocol) {control : PortControl}
      (h : s.guards port = some control) :
      Ran s command (.closeEntry port protocol) (s.setLocked .map false)
        [.closeLock port protocol]
  | upgraded {port : UInt16} (protocol : Protocol) {id : Nat} (h : s.upgrade port = some id) :
      Ran s command (.closeUpgrade port protocol) (s.retain id) [.closeRelease port id]
  | expired {port : UInt16} (protocol : Protocol) (h : s.upgrade port = none) :
      Ran s command (.closeUpgrade port protocol) s [.closeClose port protocol]
  | released (port : UInt16) (temporary : Nat) :
      Ran s command (.closeRelease port temporary) (s.release temporary).1
        ((s.release temporary).2 ++ [.closeUnlock port])
  | closed {port : UInt16} (protocol : Protocol) (h : (s.control port).isOpen = true) :
      Ran s command (.closeClose port protocol)
        ({ s with rules := (s.rules.closePort port protocol command).toOption.getD s.rules
          }.setControl port { s.control port with isOpen := false })
        [.closeUnlock port]
  | wasClosed {port : UInt16} (protocol : Protocol) (h : (s.control port).isOpen = false) :
      Ran s command (.closeClose port protocol) s [.closeUnlock port]
  | unlocked (port : UInt16) :
      Ran s command (.closeUnlock port) (s.setLocked (.port port) false) []

section

variable {s s' : State} {command : Command} {frame : Frame} {frames : List Frame}

theorem Frame.ran_of_acquire {next : Frame} {lock : Lock}
    (hrun : s.acquire lock next = some (s', frames))
    (h : frame.acquires = some (lock, next)) : frame.Ran s command s' frames := by
  unfold State.acquire at hrun
  split_ifs at hrun with hlocked
  cases hrun
  exact .acquired h (Bool.not_eq_true _ ▸ hlocked)

theorem Frame.ran (hrun : frame.run s command = some (s', frames)) :
    Frame.Ran s command frame s' frames := by
  cases frame <;> simp only [Frame.run] at hrun
  case newMap | newLock | closeMap | closeLock => exact ran_of_acquire hrun rfl
  case newEntry => cases hrun; exact .inserted ..
  case newStore => cases hrun; exact .stored ..
  case newReturn => cases hrun; exact .returned ..
  case closeRelease => cases hrun; exact .released ..
  case closeUnlock => cases hrun; exact .unlocked ..
  case newUpgrade port protocol =>
    split at hrun
    next id hid => cases hrun; exact .shared protocol hid
    next hnone => cases hrun; exact .unshared protocol hnone
  case newOpen port protocol =>
    split_ifs at hrun with hopen
    · cases hrun
      exact .wasOpen protocol hopen
    · have hclosed := Bool.not_eq_true _ ▸ hopen
      split at hrun
      next e herror => cases hrun; exact .notOpened hclosed herror
      next rules hok => cases hrun; exact .opened hclosed hok
  case closeEntry port protocol =>
    cases hrun
    cases hentry : s.guards port with
    | none => exact .missing protocol hentry
    | some control => exact .found protocol hentry
  case closeUpgrade port protocol =>
    split at hrun
    next id hid => cases hrun; exact .upgraded protocol hid
    next hnone => cases hrun; exact .expired protocol hnone
  case closeClose port protocol =>
    split_ifs at hrun with hopen
    · cases hrun
      exact .closed protocol hopen
    · cases hrun
      exact .wasClosed protocol (Bool.not_eq_true _ ▸ hopen)

end

/-- The outcomes of a step of a thread. -/
inductive Stepped (s : State) : List Frame → Action → State → List Frame → Prop
  | called (port : UInt16) (protocol : Protocol) :
      Stepped s [] (.callNew port protocol) s [.newMap port protocol]
  | cloned {handle : Handle} (h : handle ∈ s.handles) :
      Stepped s [] (.clone handle) { s.retain handle.id with handles := handle :: s.handles } []
  | dropped {handle : Handle} (h : handle ∈ s.handles) :
      Stepped s [] (.drop handle)
        ({ s with handles := s.handles.erase handle }.release handle.id).1
        ({ s with handles := s.handles.erase handle }.release handle.id).2
  | ran {frame : Frame} {command : Command} {s' : State} {frames : List Frame}
      (rest : List Frame) (h : frame.Ran s command s' frames) :
      Stepped s (frame :: rest) (.run command) s' (frames ++ rest)

theorem stepped {s s' : State} {frames frames' : List Frame} {action : Action}
    (hstep : threads.step s frames action = some (s', frames')) :
    Stepped s frames action s' frames' := by
  change step s frames action = some (s', frames') at hstep
  unfold step at hstep
  split at hstep
  · cases hstep
    exact .called ..
  · split_ifs at hstep with hmem
    cases hstep
    exact .cloned hmem
  · split_ifs at hstep with hmem
    cases hstep
    exact .dropped hmem
  · obtain ⟨⟨t, next⟩, hrun, hmoved⟩ := Option.map_eq_some_iff.mp hstep
    cases hmoved
    exact .ran _ (Frame.ran hrun)
  · cases hstep

/-! ## Locks -/

/-- The lock that a call holds. -/
def Frame.holds : Frame → Option Lock
  | .newMap .. | .newLock .. | .closeMap .. | .closeLock .. => none
  | .newEntry .. | .closeEntry .. => some .map
  | .newUpgrade port _ | .newOpen port _ | .newStore port _ | .newReturn port _ _
  | .closeUpgrade port _ | .closeRelease port _ | .closeClose port _ | .closeUnlock port =>
    some (.port port)

def locking : Locking State (List Frame) Lock where
  locked := State.locked
  held frames := frames.filterMap Frame.holds
  wants frames := (frames.head?.bind Frame.acquires).map Prod.fst

/-- A destructor starts without a lock. -/
theorem State.filterMap_holds_release (s : State) (id : Nat) :
    (s.release id).2.filterMap Frame.holds = [] := by
  unfold State.release
  split
  · cases s.arcs[id]? <;> rfl
  · rfl

theorem Frame.holds_of_acquires {frame next : Frame} {lock : Lock}
    (h : frame.acquires = some (lock, next)) : frame.holds = none ∧ next.holds = some lock := by
  cases frame <;> cases h <;> exact ⟨rfl, rfl⟩

theorem Frame.Ran.lock_step {s s' : State} {command : Command} {frame : Frame}
    {frames : List Frame} (h : frame.Ran s command s' frames) (rest : List Frame) :
    locking.Step s (frame :: rest) s' (frames ++ rest) := by
  cases h with
  | acquired h hfree =>
    obtain ⟨hframe, hnext⟩ := Frame.holds_of_acquires h
    refine .take _ hfree rfl ?_
    simp [locking, hframe, hnext]
  | inserted | missing | found => exact .free .map rfl rfl
  | returned port | unlocked port => exact .free (.port port) rfl rfl
  | released port temporary =>
    refine .keep rfl ?_
    simp [locking, State.filterMap_holds_release, Frame.holds]
  | shared | unshared | wasOpen | notOpened | opened | stored | upgraded | expired | closed
  | wasClosed => exact .keep rfl rfl

theorem disciplined : locking.Disciplined threads := by
  intro s frames action s' frames' hstep
  cases stepped hstep with
  | called | cloned => exact .keep rfl rfl
  | dropped => exact .keep rfl (State.filterMap_holds_release _ _)
  | ran rest h => exact h.lock_step rest

theorem Frame.run_of_acquires {frame next : Frame} {lock : Lock}
    (h : frame.acquires = some (lock, next)) (s : State) (command : Command) :
    frame.run s command = s.acquire lock next := by
  cases frame <;> cases h <;> rfl

theorem blocking : locking.Blocking threads := by
  intro s frames action lock hwants hlocked
  match frames, action with
  | [], _ => cases hwants
  | frame :: rest, .run command =>
    obtain ⟨⟨_, next⟩, hacquires, rfl⟩ := Option.map_eq_some_iff.mp hwants
    have hnone : s.acquire _ next = none := if_pos hlocked
    change (frame.run s command).map _ = none
    rw [Frame.run_of_acquires hacquires, hnone]
    rfl
  | _ :: _, .callNew .. | _ :: _, .clone _ | _ :: _, .drop _ => rfl

theorem ok_initial (ι : Type) : locking.Ok (initial ι) :=
  ⟨fun _ ↦ List.nodup_nil, nofun, nofun, nofun⟩

end TapAuth.Shared.Firewall
