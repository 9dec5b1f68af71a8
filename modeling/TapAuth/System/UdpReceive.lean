import TapAuth.Lib.Reactor
import TapAuth.Lib.IpAddress
import TapAuth.System.SharedSocket

/-!
# Receiving over UDP

`receive_udp_packet` reads its socket until a datagram comes that is not the host's own:
it drops what comes from a loopback address or an address of a local interface, drops
what is too large, and returns the first datagram left, decoded, or the error of decoding
it.  The addresses of the interfaces are kept for a second in a cache that all tasks
share.

The socket is dual-stack, so a source is normalized before it is compared, with
`Ipv6Addr::to_ipv4`.  That function also takes the addresses of `::/96` for IPv4
addresses: `::1` becomes `0.0.0.1`, which is neither a loopback address nor one of an
interface.  For sources outside `::/96` the normalized source is the one that is meant
(`normalize_eq_canonical`), and the cache never matters (`isLocalIp_eq`).
`receivesRight_iff` says exactly which sequences of datagrams are received as they should be.
-/

namespace TapAuth.System

open Shared Daemon

/-! ## Local addresses -/

/-- `INTERFACE_CACHE_TTL`, in milliseconds. -/
def interfaceCacheTtl : Nat := 1000

structure InterfaceCache where
  addresses : List IpAddr
  lastRefresh : Nat

/-- What a call of `is_local_ip` meets: the lock, the clock and the interfaces. -/
structure Lookup where
  poisoned : Bool
  readAt : Nat
  writeAt : Nat
  getIfAddrs : Except String (List IpAddr)
  refreshedAt : Nat

/-- The addresses without repetitions. -/
def distinct (addrs : List IpAddr) : List IpAddr :=
  addrs.foldl (fun addresses ip ↦ if ip ∈ addresses then addresses else addresses ++ [ip]) []

/-- The cache under the write lock: refreshed if it is old or empty. -/
def InterfaceCache.refresh (cache : InterfaceCache) (lookup : Lookup) : InterfaceCache :=
  if interfaceCacheTtl ≤ lookup.writeAt - cache.lastRefresh ∨ cache.addresses = [] then
    match lookup.getIfAddrs with
    | .ok addrs => ⟨distinct addrs, lookup.refreshedAt⟩
    | .error _ => { cache with lastRefresh := lookup.refreshedAt }
  else cache

/-- The answer, and the cache afterwards. -/
def isLocalIp (lookup : Lookup) (cache : InterfaceCache) (addr : IpAddr) :
    Bool × InterfaceCache :=
  if addr.isLoopback then (true, cache)
  else if !lookup.poisoned ∧ lookup.readAt - cache.lastRefresh < interfaceCacheTtl ∧
      cache.addresses ≠ [] then
    (decide (addr ∈ cache.addresses), cache)
  else
    let refreshed := cache.refresh lookup
    (decide (addr ∈ refreshed.addresses), refreshed)

/-- Other tasks look addresses up too. -/
def lookUpAll (cache : InterfaceCache) (calls : List (IpAddr × Lookup)) : InterfaceCache :=
  calls.foldl (fun cache call ↦ (isLocalIp call.2 cache call.1).2) cache

/-! ## The loop -/

/-- The source of a datagram. -/
structure Source where
  ip : IpAddr
  port : UInt16
  deriving DecidableEq

def normalize : IpAddr → IpAddr
  | .v6 addr =>
    match addr.toIpv4 with
    | some mapped => .v4 mapped
    | none => .v6 addr
  | .v4 addr => .v4 addr

/-- A datagram, the two lookups that are made for it, and what other tasks look up before
each of them. -/
structure Arrived where
  source : Source
  bytes : Bytes
  beforeEcho : List (IpAddr × Lookup)
  echo : Lookup
  beforeFilter : List (IpAddr × Lookup)
  filter : Lookup

/-- What `recv_from` answers. -/
inductive Reception where
  | failed (text : String)
  | datagram (arrived : Arrived)

abbrev UdpResult := Except NetworkError (EncryptedPacket × Source)

section

variable (P : Primitives) (localPort : Option UInt16)

/-- What becomes of a datagram that is not the host's own. -/
def acceptDatagram (source : Source) (bytes : Bytes) : Option UdpResult :=
  if maxUdpMessageSize < bytes.length then none
  else
    match P.packetFormat.decode bytes with
    | .error text => some (.error (.decode text))
    | .ok packet => some (.ok (packet, source))

/-- A datagram from the port of the socket itself and from this host is its echo. -/
def echoCheck (cache : InterfaceCache) (arrived : Arrived) : Bool × InterfaceCache :=
  if localPort = some arrived.source.port then
    isLocalIp arrived.echo (lookUpAll cache arrived.beforeEcho) (normalize arrived.source.ip)
  else (false, cache)

/-- The filter of a production build. -/
def localFilter (cache : InterfaceCache) (arrived : Arrived) : Bool × InterfaceCache :=
  isLocalIp arrived.filter (lookUpAll cache arrived.beforeFilter) (normalize arrived.source.ip)

def udpTurn (cache : InterfaceCache) : Reception → InterfaceCache ⊕ UdpResult
  | .failed text => .inr (.error (.io text))
  | .datagram arrived =>
    let echo := echoCheck localPort cache arrived
    if echo.1 then .inl echo.2
    else
      let filter := localFilter echo.2 arrived
      if filter.1 then .inl filter.2
      else
        match acceptDatagram P arrived.source arrived.bytes with
        | none => .inl filter.2
        | some result => .inr result

def receiveUdpPacket : Reactor InterfaceCache Reception UdpResult where
  turn := udpTurn P localPort

end

/-! ## The cache -/

section

variable (interfaces : List IpAddr)

/-- The interfaces can be read, and their addresses are `interfaces`. -/
def Lookup.Reads (lookup : Lookup) : Prop :=
  ∃ addrs, lookup.getIfAddrs = .ok addrs ∧ ∀ ip, ip ∈ addrs ↔ ip ∈ interfaces

/-- The cache is empty or has the addresses of the interfaces. -/
def InterfaceCache.Ok (cache : InterfaceCache) : Prop :=
  cache.addresses = [] ∨ ∀ ip, ip ∈ cache.addresses ↔ ip ∈ interfaces

/-- Every lookup that is made for a datagram or before it reads the interfaces. -/
structure Arrived.Reads (arrived : Arrived) : Prop where
  beforeEcho : ∀ call ∈ arrived.beforeEcho, call.2.Reads interfaces
  echo : arrived.echo.Reads interfaces
  beforeFilter : ∀ call ∈ arrived.beforeFilter, call.2.Reads interfaces
  filter : arrived.filter.Reads interfaces

end

variable {interfaces : List IpAddr} {cache : InterfaceCache}

theorem mem_distinct (addrs : List IpAddr) (ip : IpAddr) : ip ∈ distinct addrs ↔ ip ∈ addrs := by
  have hfold : ∀ (addrs addresses : List IpAddr),
      ip ∈ addrs.foldl (fun addresses ip ↦
        if ip ∈ addresses then addresses else addresses ++ [ip]) addresses ↔
        ip ∈ addresses ∨ ip ∈ addrs := by
    intro addrs
    induction addrs with
    | nil => simp
    | cons other addrs ih =>
      intro addresses
      rw [List.foldl_cons, ih, List.mem_cons]
      split_ifs with hmem
      · constructor
        · rintro (h | h)
          · exact .inl h
          · exact .inr (.inr h)
        · rintro (h | rfl | h)
          · exact .inl h
          · exact .inl hmem
          · exact .inr h
      · rw [List.mem_append, List.mem_singleton, or_assoc]
  rw [distinct, hfold]
  simp

theorem InterfaceCache.Ok.refresh {lookup : Lookup} (hcache : cache.Ok interfaces)
    (hreads : lookup.Reads interfaces) :
    ∀ ip, ip ∈ (cache.refresh lookup).addresses ↔ ip ∈ interfaces := by
  obtain ⟨addrs, haddrs, hmem⟩ := hreads
  intro ip
  unfold InterfaceCache.refresh
  split_ifs with hstale
  · rw [haddrs]
    exact (mem_distinct addrs ip).trans (hmem ip)
  · rcases hcache with hempty | hcache
    · exact absurd (.inr hempty) hstale
    · exact hcache ip

/-- What `is_local_ip` is asked. -/
def isLocalAddress (interfaces : List IpAddr) (addr : IpAddr) : Bool :=
  addr.isLoopback || decide (addr ∈ interfaces)

/-- The cache never matters. -/
theorem isLocalIp_eq {lookup : Lookup} (hcache : cache.Ok interfaces)
    (hreads : lookup.Reads interfaces) (addr : IpAddr) :
    (isLocalIp lookup cache addr).1 = isLocalAddress interfaces addr ∧
      (isLocalIp lookup cache addr).2.Ok interfaces := by
  unfold isLocalIp isLocalAddress
  split_ifs with hloopback hfresh
  · exact ⟨by rw [hloopback, Bool.true_or], hcache⟩
  · obtain ⟨-, -, hne⟩ := hfresh
    have hmem := hcache.resolve_left hne addr
    exact ⟨by simp [hloopback, hmem], hcache⟩
  · have hmem := hcache.refresh hreads
    exact ⟨by simp [hloopback, hmem addr], .inr hmem⟩

theorem lookUpAll_ok {calls : List (IpAddr × Lookup)} (hcache : cache.Ok interfaces)
    (hreads : ∀ call ∈ calls, call.2.Reads interfaces) :
    (lookUpAll cache calls).Ok interfaces := by
  induction calls generalizing cache with
  | nil => exact hcache
  | cons call calls ih =>
    obtain ⟨hcall, hcalls⟩ := List.forall_mem_cons.mp hreads
    exact ih (isLocalIp_eq hcache hcall call.1).2 hcalls

/-! ## Own and foreign sources -/

/-- The source that is meant is a loopback address or an address of an interface. -/
def isOwn (interfaces : List IpAddr) (ip : IpAddr) : Bool :=
  isLocalAddress (interfaces.map IpAddr.canonical) ip.canonical

theorem normalize_eq_canonical {ip : IpAddr} (h : ip.isCompatible = false) :
    normalize ip = ip.canonical := by
  cases ip with
  | v4 addr => rfl
  | v6 addr =>
    unfold normalize IpAddr.canonical
    dsimp only
    rewrite [Ipv6Addr.toIpv4_of_not_compatible h]
    rfl

/-- The source that is compared is such an address: the loop skips the datagram. -/
def isSkipped (interfaces : List IpAddr) (ip : IpAddr) : Bool :=
  isLocalAddress interfaces (normalize ip)

theorem isSkipped_eq_isOwn {ip : IpAddr} (hip : ip.isCompatible = false)
    (hinterfaces : ∀ addr ∈ interfaces, addr.isMapped = false) :
    isSkipped interfaces ip = isOwn interfaces ip := by
  have hmap : interfaces.map IpAddr.canonical = interfaces.map id :=
    List.map_congr_left fun addr hmem ↦ IpAddr.canonical_of_not_mapped (hinterfaces addr hmem)
  rw [isSkipped, isOwn, hmap, List.map_id, normalize_eq_canonical hip]

/-! ## The result of the loop -/

variable {P : Primitives} {localPort : Option UInt16}

variable {arrived : Arrived} {arrivals : List Arrived} {packet : EncryptedPacket} {source : Source}

theorem echoCheck_spec (localPort : Option UInt16) (hcache : cache.Ok interfaces)
    (hreads : arrived.Reads interfaces) :
    ((echoCheck localPort cache arrived).1 = true →
        isSkipped interfaces arrived.source.ip = true) ∧
      (echoCheck localPort cache arrived).2.Ok interfaces := by
  unfold echoCheck
  split_ifs
  · obtain ⟨hanswer, hok⟩ := isLocalIp_eq (lookUpAll_ok hcache hreads.beforeEcho) hreads.echo
      (normalize arrived.source.ip)
    exact ⟨hanswer.symm.trans, hok⟩
  · exact ⟨nofun, hcache⟩

theorem localFilter_spec (hcache : cache.Ok interfaces) (hreads : arrived.Reads interfaces) :
    (localFilter cache arrived).1 = isSkipped interfaces arrived.source.ip ∧
      (localFilter cache arrived).2.Ok interfaces :=
  isLocalIp_eq (lookUpAll_ok hcache hreads.beforeFilter) hreads.filter _

variable (P : Primitives) (localPort : Option UInt16)

/-- A local datagram is dropped. -/
theorem udpTurn_of_local (hcache : cache.Ok interfaces) (hreads : arrived.Reads interfaces)
    (hlocal : isSkipped interfaces arrived.source.ip = true) :
    ∃ next, udpTurn P localPort cache (.datagram arrived) = .inl next ∧ next.Ok interfaces := by
  obtain ⟨-, hok⟩ := echoCheck_spec localPort hcache hreads
  obtain ⟨hanswer, hfiltered⟩ := localFilter_spec hok hreads
  simp only [udpTurn]
  split_ifs with hecho hfilter
  · exact ⟨_, rfl, hok⟩
  · exact ⟨_, rfl, hfiltered⟩
  · exact absurd (hanswer.trans hlocal) hfilter

/-- Another one is accepted, if it can be. -/
theorem udpTurn_of_foreign (hcache : cache.Ok interfaces) (hreads : arrived.Reads interfaces)
    (hforeign : isSkipped interfaces arrived.source.ip = false) :
    ∃ next, next.Ok interfaces ∧
      udpTurn P localPort cache (.datagram arrived) =
        (acceptDatagram P arrived.source arrived.bytes).elim (.inl next) .inr := by
  obtain ⟨hecho, hok⟩ := echoCheck_spec localPort hcache hreads
  obtain ⟨hanswer, hfiltered⟩ := localFilter_spec hok hreads
  have hnoEcho : ¬(echoCheck localPort cache arrived).1 = true := by
    intro h
    rw [hecho h] at hforeign
    cases hforeign
  have hnoFilter : ¬(localFilter (echoCheck localPort cache arrived).2 arrived).1 = true := by
    rw [hanswer, hforeign]
    exact Bool.false_ne_true
  refine ⟨_, hfiltered, ?_⟩
  simp only [udpTurn, if_neg hnoEcho, if_neg hnoFilter]
  cases acceptDatagram P arrived.source arrived.bytes with
  | none => rfl
  | some result => rfl

/-- The datagram comes from another host, is small enough and is a packet. -/
structure Arrived.Decodes (arrived : Arrived) (P : Primitives) (interfaces : List IpAddr)
    (packet : EncryptedPacket) : Prop where
  foreign : isOwn interfaces arrived.source.ip = false
  small : arrived.bytes.length ≤ maxUdpMessageSize
  decodes : P.packetFormat.decode arrived.bytes = .ok packet

/-- The datagram comes from another host, is small enough and is no packet. -/
structure Arrived.FailsToDecode (arrived : Arrived) (P : Primitives) (interfaces : List IpAddr) :
    Prop where
  foreign : isOwn interfaces arrived.source.ip = false
  small : arrived.bytes.length ≤ maxUdpMessageSize
  fails : ∃ text, P.packetFormat.decode arrived.bytes = .error text

/-- What the first datagram gives that is small enough and whose source is not to be skipped. -/
def firstTaken (P : Primitives) (skip : IpAddr → Bool) (arrivals : List Arrived) :
    Option UdpResult :=
  arrivals.findSome? fun arrived ↦
    if skip arrived.source.ip then none else acceptDatagram P arrived.source arrived.bytes

/-- The loop returns exactly that, for the sources it skips. -/
theorem getRight?_run (hcache : cache.Ok interfaces)
    (hreads : ∀ arrived ∈ arrivals, arrived.Reads interfaces) :
    ((receiveUdpPacket P localPort).run cache (arrivals.map .datagram)).getRight? =
      firstTaken P (isSkipped interfaces) arrivals := by
  induction arrivals generalizing cache with
  | nil => rfl
  | cons arrived arrivals ih =>
    obtain ⟨hread, hreads⟩ := List.forall_mem_cons.mp hreads
    rw [List.map_cons, firstTaken, List.findSome?_cons]
    cases hlocal : isSkipped interfaces arrived.source.ip with
    | true =>
      obtain ⟨next, hnext, hok⟩ := udpTurn_of_local P localPort hcache hread hlocal
      rw [Reactor.run_cons_of_inl _ hnext, ih hok hreads]
      rfl
    | false =>
      obtain ⟨next, hok, hnext⟩ := udpTurn_of_foreign P localPort hcache hread hlocal
      cases haccept : acceptDatagram P arrived.source arrived.bytes with
      | none =>
        rw [haccept] at hnext
        rw [Reactor.run_cons_of_inl _ hnext, ih hok hreads]
        rfl
      | some result =>
        rw [haccept] at hnext
        rw [Reactor.run_cons_of_inr _ hnext]
        rfl

/-! ## The first datagram of another host -/

/-- What is returned is not the host's own, and is the first datagram from another host that is
small enough and a packet, unless an earlier one of such a host failed to decode. -/
structure ReceivesRight (interfaces : List IpAddr) (arrivals : List Arrived)
    (returned : Option UdpResult) : Prop where
  foreign : ∀ packet source, returned = some (.ok (packet, source)) →
    isOwn interfaces source.ip = false
  first : ∀ before arrived after packet, arrivals = before ++ arrived :: after →
    arrived.Decodes P interfaces packet →
    (∀ earlier ∈ before, (∀ packet, ¬earlier.Decodes P interfaces packet) ∧
      ¬earlier.FailsToDecode P interfaces) →
    returned = some (.ok (packet, arrived.source))

/-- The sequences that are received so.  Of the datagrams that are small enough, all up to the
first that is not one of the host and skipped as such count.  That one may be misjudged only if
it is no packet, and what that leads to must do no harm either. -/
def WellJudged (interfaces : List IpAddr) : List Arrived → Prop
  | [] => True
  | arrived :: rest =>
    match acceptDatagram P arrived.source arrived.bytes, isOwn interfaces arrived.source.ip,
        isSkipped interfaces arrived.source.ip with
    | none, _, _ => WellJudged interfaces rest
    | some _, true, true => WellJudged interfaces rest
    | some _, false, false => True
    | some (.ok _), _, _ => False
    -- the error is returned, so there must be no packet to return
    | some (.error _), true, false =>
      ∀ packet, firstTaken P (isOwn interfaces) rest ≠ some (.ok packet)
    -- the error is passed over, and what comes next must not be the host's own
    | some (.error _), false, true =>
      ∀ packet source, firstTaken P (isSkipped interfaces) rest = some (.ok (packet, source)) →
        isOwn interfaces source.ip = false

variable {P}

theorem acceptDatagram_eq_ok {bytes : Bytes} {other : Source}
    (h : acceptDatagram P source bytes = some (.ok (packet, other))) :
    other = source := by
  unfold acceptDatagram at h
  split_ifs at h
  split at h
  · cases h
  · cases h
    rfl

theorem firstTaken_cons (skip : IpAddr → Bool) (arrived : Arrived) (rest : List Arrived) :
    firstTaken P skip (arrived :: rest) =
      (if skip arrived.source.ip then none
        else acceptDatagram P arrived.source arrived.bytes).or (firstTaken P skip rest) := by
  rw [firstTaken, List.findSome?_cons, ← firstTaken]
  split <;> rename_i h <;> rw [h] <;> rfl

theorem not_skipped_of_firstTaken {skip : IpAddr → Bool}
    (h : firstTaken P skip arrivals = some (.ok (packet, source))) : skip source.ip = false := by
  obtain ⟨arrived, -, htaken⟩ := List.exists_of_findSome?_eq_some h
  obtain ⟨hskip, haccept⟩ := Option.ite_none_left_eq_some.mp htaken
  rw [acceptDatagram_eq_ok haccept]
  exact Bool.eq_false_iff.mpr hskip

theorem Arrived.decodes_iff :
    arrived.Decodes P interfaces packet ↔
      (if isOwn interfaces arrived.source.ip then none
        else acceptDatagram P arrived.source arrived.bytes) =
          some (.ok (packet, arrived.source)) := by
  constructor
  · rintro ⟨hforeign, hsmall, hdecodes⟩
    simp [hforeign, acceptDatagram, not_lt.mpr hsmall, hdecodes]
  · intro h
    obtain ⟨hforeign, haccept⟩ := Option.ite_none_left_eq_some.mp h
    unfold acceptDatagram at haccept
    split_ifs at haccept with hlarge
    split at haccept
    · cases haccept
    next hdecodes =>
      cases haccept
      exact ⟨Bool.eq_false_iff.mpr hforeign, not_lt.mp hlarge, hdecodes⟩

/-- A datagram that is no packet of another host and does not fail to decode is passed over. -/
theorem Arrived.passed_iff :
    (if isOwn interfaces arrived.source.ip then none
        else acceptDatagram P arrived.source arrived.bytes) = none ↔
      (∀ packet, ¬arrived.Decodes P interfaces packet) ∧
        ¬arrived.FailsToDecode P interfaces := by
  constructor
  · intro h
    refine ⟨fun packet hdecodes ↦ ?_, fun ⟨hforeign, hsmall, text, hfails⟩ ↦ ?_⟩
    · rw [decodes_iff.mp hdecodes] at h
      cases h
    · simp [hforeign, acceptDatagram, not_lt.mpr hsmall, hfails] at h
  · rintro ⟨hno, hnoError⟩
    unfold acceptDatagram
    split_ifs with hown hlarge
    · rfl
    · rfl
    · have hforeign := Bool.eq_false_iff.mpr hown
      cases hdecode : P.packetFormat.decode arrived.bytes with
      | error text => exact absurd ⟨hforeign, not_lt.mp hlarge, text, hdecode⟩ hnoError
      | ok packet => exact absurd ⟨hforeign, not_lt.mp hlarge, hdecode⟩ (hno packet)

/-- The packet that should be returned is what the first datagram gives that is not skipped, if
the host's own are. -/
theorem receivesRight_iff_firstTaken {returned : Option UdpResult} :
    ReceivesRight P interfaces arrivals returned ↔
      (∀ packet source, returned = some (.ok (packet, source)) →
        isOwn interfaces source.ip = false) ∧
      ∀ packet, firstTaken P (isOwn interfaces) arrivals = some (.ok packet) →
        returned = some (.ok packet) := by
  constructor
  · rintro ⟨hforeign, hfirst⟩
    refine ⟨hforeign, fun ⟨packet, source⟩ htaken ↦ ?_⟩
    obtain ⟨before, arrived, after, hsplit, haccept, hbefore⟩ :=
      List.findSome?_eq_some_iff.mp htaken
    obtain rfl := acceptDatagram_eq_ok (Option.ite_none_left_eq_some.mp haccept).2
    exact hfirst before arrived after packet hsplit (Arrived.decodes_iff.mpr haccept)
      fun earlier hmem ↦ Arrived.passed_iff.mp (hbefore earlier hmem)
  · rintro ⟨hforeign, hfirst⟩
    refine ⟨hforeign, fun before arrived after packet hsplit hdecodes hbefore ↦ hfirst _ ?_⟩
    exact List.findSome?_eq_some_iff.mpr ⟨before, arrived, after, hsplit,
      Arrived.decodes_iff.mp hdecodes, fun earlier hmem ↦ Arrived.passed_iff.mpr (hbefore _ hmem)⟩

/-- Induction on the datagrams: the first that is small enough and not skipped by both decides. -/
theorem receivesRight_firstTaken_iff (arrivals : List Arrived) :
    ReceivesRight P interfaces arrivals (firstTaken P (isSkipped interfaces) arrivals) ↔
      WellJudged P interfaces arrivals := by
  rw [receivesRight_iff_firstTaken]
  induction arrivals with
  | nil => simp [firstTaken, WellJudged]
  | cons arrived rest ih =>
    rw [firstTaken_cons, firstTaken_cons, WellJudged]
    cases haccept : acceptDatagram P arrived.source arrived.bytes with
    | none => simpa using ih
    | some result =>
      cases hown : isOwn interfaces arrived.source.ip <;>
        cases hskip : isSkipped interfaces arrived.source.ip
      · -- a datagram of another host that is not skipped is the one to return
        simp only [Bool.false_eq_true, if_false, Option.some_or, iff_true]
        refine ⟨?_, fun _ h ↦ h⟩
        rintro packet source ⟨⟩
        rw [acceptDatagram_eq_ok haccept, hown]
      · cases result with
        | ok packet =>
          simp only [Bool.false_eq_true, if_true, if_false, Option.none_or, Option.some_or,
            iff_false, not_and]
          intro _ hfirst
          have hsource : packet.2 = arrived.source := acceptDatagram_eq_ok haccept
          have hnot := not_skipped_of_firstTaken (hfirst packet rfl)
          rw [hsource, hskip] at hnot
          cases hnot
        | error e => simp
      · cases result with
        | ok packet =>
          simp only [Bool.false_eq_true, if_true, if_false, Option.none_or, Option.some_or,
            iff_false, not_and]
          intro hforeign
          have hsource : packet.2 = arrived.source := acceptDatagram_eq_ok haccept
          have hnot := hforeign packet.1 packet.2 rfl
          rw [hsource, hown] at hnot
          cases hnot
        | error e => simp
      · simpa using ih

variable {localPort}

/-- **What is received.**  A call returns what it should iff no datagram is misjudged that
matters; and only a source in `::/96` or an interface with a mapped address leads to a
misjudgement. -/
theorem receivesRight_iff {arrivals : List Arrived} (hcache : cache.Ok interfaces)
    (hreads : ∀ arrived ∈ arrivals, arrived.Reads interfaces) :
    (ReceivesRight P interfaces arrivals
        ((receiveUdpPacket P localPort).run cache (arrivals.map .datagram)).getRight? ↔
      WellJudged P interfaces arrivals) ∧
    ∀ ip : IpAddr, isSkipped interfaces ip ≠ isOwn interfaces ip →
      ip.isCompatible = true ∨ ∃ addr ∈ interfaces, addr.isMapped = true := by
  rw [getRight?_run P localPort hcache hreads]
  refine ⟨receivesRight_firstTaken_iff arrivals, fun ip hne ↦ ?_⟩
  by_contra hnone
  simp only [not_or, not_exists, not_and, Bool.not_eq_true] at hnone
  exact hne (isSkipped_eq_isOwn hnone.1 hnone.2)

namespace ReceiveSample

open Daemon.Sample

def lo : IpAddr := .v4 ⟨127, 0, 0, 1⟩

def lo6 : IpAddr := .v6 .loopback

def ethernet : IpAddr := .v4 ⟨192, 168, 0, 5⟩

def host : List IpAddr := [lo, lo6, ethernet]

def lookup : Lookup := ⟨false, 5000, 5000, .ok host, 5000⟩

theorem lookup_reads : lookup.Reads host := ⟨host, rfl, fun _ ↦ Iff.rfl⟩

/-- No address has been looked up. -/
def empty : InterfaceCache := ⟨[], 4000⟩

/-- A packet from an address, while another task looks an address up. -/
def packetFrom (ip : IpAddr) : Arrived :=
  ⟨⟨ip, 36692⟩, primitives.packetFormat.encode (grant 5), [], lookup, [(lo, lookup)], lookup⟩

theorem packetFrom_reads (ip : IpAddr) : (packetFrom ip).Reads host where
  beforeEcho := nofun
  echo := lookup_reads
  beforeFilter := List.forall_mem_singleton.mpr lookup_reads
  filter := lookup_reads

theorem accept_packetFrom (ip : IpAddr) :
    acceptDatagram primitives (packetFrom ip).source (packetFrom ip).bytes =
      some (.ok (grant 5, ⟨ip, 36692⟩)) := by
  have hlarge : ¬maxUdpMessageSize < (primitives.packetFormat.encode (grant 5)).length := by
    decide +kernel
  simp only [packetFrom, acceptDatagram, if_neg hlarge, primitives.packetFormat.decode_encode]

/-- The host's own address and that of a phone, as the socket reports them. -/
def own : IpAddr := .v6 ⟨0, 0, 0, 0, 0, 0xffff, 0xc0a8, 5⟩

def phoneAddr : IpAddr := .v6 ⟨0, 0, 0, 0, 0, 0xffff, 0xc0a8, 7⟩

end ReceiveSample

open ReceiveSample Daemon.Sample in
/-- The host's own packet is dropped and that of the phone returned, whatever comes after. -/
theorem receivesRight_iff_phone :
    isOwn host own = true ∧ isOwn host phoneAddr = false ∧
    ReceivesRight primitives host [packetFrom own, packetFrom phoneAddr, packetFrom lo6]
      ((receiveUdpPacket primitives (some 36692)).run empty
        ([packetFrom own, packetFrom phoneAddr, packetFrom lo6].map .datagram)).getRight? := by
  have hreads : ∀ arrived ∈ [packetFrom own, packetFrom phoneAddr, packetFrom lo6],
      arrived.Reads host := by
    simpa using ⟨packetFrom_reads own, packetFrom_reads phoneAddr, packetFrom_reads lo6⟩
  refine ⟨by decide, by decide, (receivesRight_iff (.inl rfl) hreads).1.mpr ?_⟩
  have hown : isOwn host (packetFrom own).source.ip = true ∧
      isSkipped host (packetFrom own).source.ip = true := by decide
  have hphone : isOwn host (packetFrom phoneAddr).source.ip = false ∧
      isSkipped host (packetFrom phoneAddr).source.ip = false := by decide
  simp only [WellJudged, accept_packetFrom, hown, hphone]

open ReceiveSample Daemon.Sample in
/-- A packet from `::1` is returned. -/
theorem receiveUdpPacket_loopback :
    isOwn host lo6 = true ∧ lo6.isLoopback = true ∧
    (receiveUdpPacket primitives (some 36692)).run empty [.datagram (packetFrom lo6)] =
      .inr (.ok (grant 5, ⟨lo6, 36692⟩)) := by
  refine ⟨by decide, by decide, Sum.getRight?_eq_some_iff.mp ?_⟩
  have hempty : empty.Ok host := .inl rfl
  have hrun := getRight?_run primitives (some 36692) hempty
    (List.forall_mem_singleton.mpr (packetFrom_reads lo6))
  rw [List.map_singleton] at hrun
  rw [hrun, firstTaken_cons, accept_packetFrom, if_neg (by decide)]
  rfl

/-! ## The socket of the sessions -/

/-- The source as the sessions see it. -/
def Source.toSocketAddr (source : Source) : SocketAddr := ⟨source.ip.octets, source.port⟩

def toReceived : UdpResult → Except TransportError ReceiveResult
  | .error error => .error (.network error)
  | .ok (packet, source) => .ok (.response packet source.toSocketAddr)

/-- What a session's loop makes of a datagram is what the turn of `receive_udp_packet` makes
of it, if both take the same sources for local. -/
theorem receiveDatagram_eq (P : Primitives) {skip : SocketAddr → Bool}
    (hskip : skip source.toSocketAddr = isSkipped interfaces source.ip) (bytes : Bytes) :
    receiveDatagram P skip ⟨bytes, source.toSocketAddr⟩ =
      if isSkipped interfaces source.ip then none
      else (acceptDatagram P source bytes).map toReceived := by
  unfold receiveDatagram acceptDatagram
  rw [hskip]
  split_ifs
  · rfl
  · rfl
  · dsimp only
    cases P.packetFormat.decode bytes with
    | error text => rfl
    | ok packet => rfl

end TapAuth.System
