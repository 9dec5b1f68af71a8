import TapAuth.Lib.Pool
import TapAuth.System.GrantDelivery

/-!
# Sessions that read one socket

The daemon has one UDP socket.  Every session that runs reads it with a loop of its own,
so a datagram goes to whichever loop asks first, and that loop decides on it alone: a grant
for another session is a message that is to be ignored, and nobody else sees it.

The machine is the socket's queue with any number of loops.  `heard_iff` says what becomes
of a valid grant that is taken from the queue while its session runs: the session succeeds
if it was its own loop that took it, and goes on waiting if it was another.  So a run loses no
grant iff every grant is read by its own loop, and no order of reads loses one iff there is no
other loop (`grants_heard_iff`).
-/

namespace TapAuth.System

open Shared Daemon Phone Function

/-- `MAX_UDP_MESSAGE_SIZE`. -/
def maxUdpMessageSize : Nat := 16 * 1024

structure Datagram where
  bytes : Bytes
  addr : SocketAddr
  deriving DecidableEq

/-- A session's loop over UDP, or the network. -/
inductive UdpLoop where
  | network
  | notStarted (A : AuthParams)
  | top (A : AuthParams) (s : LoopState)
  | waiting (A : AuthParams) (s : LoopState)
  | returned (A : AuthParams) (result : Except AuthHandlerError Unit)
  | aborted (A : AuthParams)

inductive SocketEvent where
  | arrives (datagram : Datagram)
  | start
  /-- The top of the loop; sending over UDP does not fail. -/
  | top (elapsed : Nat)
  /-- The loop takes the first datagram. -/
  | read (env : Ambient)
  | timeout (env : Ambient)
  | abort

section

variable (P : Primitives) (isLocal : SocketAddr → Bool)

/-- `receive_udp_packet` on one datagram: `none` if it waits for the next one. -/
def receiveDatagram (datagram : Datagram) : Option (Except TransportError ReceiveResult) :=
  if isLocal datagram.addr then none
  else if maxUdpMessageSize < datagram.bytes.length then none
  else
    match P.packetFormat.decode datagram.bytes with
    | .error text => some (.error (.network (.decode text)))
    | .ok packet => some (.ok (.response packet datagram.addr))

/-- The loop after a wait. -/
def UdpLoop.after (A : AuthParams) : LoopState ⊕ Daemon.Outcome → UdpLoop
  | .inl s => .top A s
  | .inr outcome => .returned A outcome.result

def socketStep (queue : List Datagram) :
    UdpLoop → SocketEvent → Option (List Datagram × UdpLoop)
  | .network, .arrives datagram => some (queue ++ [datagram], .network)
  | .notStarted A, .start => some (queue, .top A .start)
  | .top A s, .top elapsed =>
    match loopTop elapsed (.ok ()) with
    | some outcome => some (queue, .returned A outcome.result)
    | none => some (queue, .waiting A s)
  | .waiting A s, .read env =>
    match queue with
    | [] => none
    | datagram :: rest =>
      match receiveDatagram P isLocal datagram with
      | none => some (rest, .waiting A s)
      | some received => some (rest, .after A (loopReceive P A s received env))
  | .waiting A s, .timeout env => some (queue, .after A (loopReceive P A s (.ok .timeout) env))
  | .top A _, .abort => some (queue, .aborted A)
  | .waiting A _, .abort => some (queue, .aborted A)
  | _, _ => none

/-- The loops of all sessions over the socket's queue. -/
def socketLoops : Threads (List Datagram) UdpLoop SocketEvent where
  step := socketStep P isLocal

/-- The session's loop has begun and has not ended. -/
def UdpLoop.Running (A : AuthParams) (l : UdpLoop) : Prop :=
  ∃ s, l = .top A s ∨ l = .waiting A s

def UdpLoop.result? : UdpLoop → Option (Except AuthHandlerError Unit)
  | .returned _ result => some result
  | _ => none

/-- The loop waits for a datagram. -/
def UdpLoop.isWaiting : UdpLoop → Bool
  | .waiting _ _ => true
  | _ => false

/-- The loop never waits for a datagram again. -/
def UdpLoop.isOver : UdpLoop → Bool
  | .notStarted _ | .top _ _ | .waiting _ _ => false
  | .network | .returned _ _ | .aborted _ => true

/-- A grant for the session: a datagram that is not skipped and opens under the CSK to a
message that the stored keys take for a grant of the challenge. -/
structure ValidGrant (A : AuthParams) (datagram : Datagram) : Prop where
  remote : isLocal datagram.addr = false
  small : datagram.bytes.length ≤ maxUdpMessageSize
  opens : ∃ packet wrapper, P.packetFormat.decode datagram.bytes = .ok packet ∧
    decryptEncryptedPacketWithCskNonce P A.csk packet = .ok wrapper ∧
    verdictOf P (storedKeys A.pairedServers) A.challenge wrapper = some (.ok ())

/-- A packet, if it is one, has an identifier of 16 bytes. -/
def WellFormed (datagram : Datagram) : Prop :=
  ∀ packet, P.packetFormat.decode datagram.bytes = .ok packet →
    packet.temporalIdentifier.length = 16

section

variable {ι : Type}

/-- The datagrams that arrive are so. -/
def Formed (labels : List (ι × SocketEvent)) : Prop :=
  ∀ i datagram, (i, .arrives datagram) ∈ labels → WellFormed P datagram

variable [DecidableEq ι]

/-- The step takes a valid grant for the session of `i` from the socket while that loop runs. -/
structure TakesGrant (p : Pool ι (List Datagram) UdpLoop) (label : ι × SocketEvent)
    (q : Pool ι (List Datagram) UdpLoop) (i : ι) (A : AuthParams) : Prop where
  reads : ∃ env, label.2 = .read env
  next : (socketLoops P isLocal).pool.next p label = some q
  running : (p.locals i).Running A
  valid : ∃ datagram, p.shared.head? = some datagram ∧ ValidGrant P isLocal A datagram

/-- If the step takes a grant, the session it is for succeeds. -/
def Heard (p : Pool ι (List Datagram) UdpLoop) (label : ι × SocketEvent) : Prop :=
  ∀ q i A, TakesGrant P isLocal p label q i A → q.locals i = .returned A (.ok ())

/-- If the step takes a grant, it is one of the loop that the grant is for. -/
def OwnReads (p : Pool ι (List Datagram) UdpLoop) (label : ι × SocketEvent) : Prop :=
  ∀ q i A, TakesGrant P isLocal p label q i A → label.1 = i

/-- Whatever follows and in whichever order it is read, a grant for the session that is taken
while its loop runs makes it succeed. -/
def HeardInEveryOrder (p : Pool ι (List Datagram) UdpLoop) (i : ι) (A : AuthParams) : Prop :=
  ∀ order p' label q, Formed P order → (socketLoops P isLocal).pool.exec p order = some p' →
    TakesGrant P isLocal p' label q i A → q.locals i = .returned A (.ok ())

end

/-- Only packets that were to be ignored are in a loop's cache. -/
def UdpLoop.CacheOk : UdpLoop → Prop
  | .top A s => System.CacheOk P A s
  | .waiting A s => System.CacheOk P A s
  | _ => True

variable {P isLocal}

/-! ## What a step keeps -/

variable {datagram : Datagram}

theorem receiveDatagram_wellFormed (h : WellFormed P datagram) {packet : EncryptedPacket}
    {addr : SocketAddr}
    (hreceived : receiveDatagram P isLocal datagram = some (.ok (.response packet addr))) :
    packet.temporalIdentifier.length = 16 := by
  unfold receiveDatagram at hreceived
  split_ifs at hreceived
  split at hreceived
  · cases hreceived
  next other hdecode =>
    cases hreceived
    exact h packet hdecode

theorem cacheOk_after {A : AuthParams} {s : LoopState} (hs : CacheOk P A s)
    {received : Except TransportError ReceiveResult}
    (hlength : ∀ packet addr, received = .ok (.response packet addr) →
      packet.temporalIdentifier.length = 16) (env : Ambient) :
    (UdpLoop.after A (loopReceive P A s received env)).CacheOk P := by
  rcases received with e | (⟨packet, addr⟩ | -)
  · trivial
  · rw [loopReceive_response]
    split_ifs
    · exact hs
    · cases hdecrypt : decryptEncryptedPacketWithCskNonce P A.csk packet with
      | error e => trivial
      | ok wrapper =>
        cases hverdict : verdictOf P (storedKeys A.pairedServers) A.challenge wrapper with
        | some result =>
          simp only [hverdict]
          trivial
        | none =>
          simp only [hverdict]
          intro f hf
          obtain rfl | hf := List.mem_cons.mp hf
          · exact ⟨packet, ⟨hlength packet addr rfl, wrapper, hdecrypt, hverdict⟩, rfl⟩
          · exact hs f hf
  · exact hs

theorem socketStep_keeps {queue queue' : List Datagram} {l l' : UdpLoop} {e : SocketEvent}
    (hqueue : ∀ datagram ∈ queue, WellFormed P datagram) (hl : l.CacheOk P)
    (he : ∀ datagram, e = .arrives datagram → WellFormed P datagram)
    (h : socketStep P isLocal queue l e = some (queue', l')) :
    (∀ datagram ∈ queue', WellFormed P datagram) ∧ l'.CacheOk P := by
  unfold socketStep at h
  split at h
  next datagram =>
    cases h
    refine ⟨fun other hother ↦ ?_, trivial⟩
    obtain hold | hnew := List.mem_append.mp hother
    · exact hqueue other hold
    · rw [List.mem_singleton.mp hnew]
      exact he datagram rfl
  · cases h
    exact ⟨hqueue, fun _ hf ↦ (List.not_mem_nil hf).elim⟩
  · split at h
    · cases h
      exact ⟨hqueue, trivial⟩
    · cases h
      exact ⟨hqueue, hl⟩
  · split at h
    · cases h
    next datagram rest =>
      have hrest : ∀ other ∈ rest, WellFormed P other :=
        fun other hother ↦ hqueue other (List.mem_cons_of_mem _ hother)
      split at h
      · cases h
        exact ⟨hrest, hl⟩
      · next received hreceived =>
          cases h
          refine ⟨hrest, cacheOk_after hl ?_ _⟩
          rintro packet addr rfl
          exact receiveDatagram_wellFormed (hqueue datagram List.mem_cons_self) hreceived
  · cases h
    exact ⟨hqueue, cacheOk_after hl (by rintro packet addr ⟨⟩) _⟩
  · cases h
    exact ⟨hqueue, trivial⟩
  · cases h
    exact ⟨hqueue, trivial⟩
  · cases h

/-! ## Who takes a grant -/

/-- The loop of the session the grant is for returns success on it. -/
theorem socketStep_validGrant {queue queue' rest : List Datagram} {A : AuthParams} {s : LoopState}
    {env : Ambient} {l : UdpLoop} (hqueue : queue = datagram :: rest) (hs : CacheOk P A s)
    (hformed : WellFormed P datagram) (hvalid : ValidGrant P isLocal A datagram)
    (h : socketStep P isLocal queue (.waiting A s) (.read env) = some (queue', l)) :
    l = .returned A (.ok ()) := by
  obtain ⟨packet, wrapper, hdecode, hdecrypt, hverdict⟩ := hvalid.opens
  have hreceived : receiveDatagram P isLocal datagram =
      some (.ok (.response packet datagram.addr)) := by
    simp [receiveDatagram, hvalid.remote, hvalid.small, hdecode]
  have hnew : nonceFingerprint packet ∉ s.nonceCache :=
    fingerprint_not_mem hs (hformed packet hdecode) hdecrypt (by rw [hverdict]; nofun)
  simp only [socketStep, hqueue, hreceived, loopReceive_response, if_neg hnew, hdecrypt, hverdict,
    Option.some.injEq, Prod.mk.injEq] at h
  exact h.2.symm

variable {ι : Type} [DecidableEq ι] {p q start : Pool ι (List Datagram) UdpLoop}
  {labels : List (ι × SocketEvent)}

/-- Nothing has come yet, and no session runs. -/
structure AtRest (start : Pool ι (List Datagram) UdpLoop) : Prop where
  queue : start.shared = []
  loops : ∀ i, start.locals i = .network ∨ ∃ A, start.locals i = .notStarted A

theorem invariant_of_atRest (hstart : AtRest start) (hformed : Formed P labels)
    (hrun : (socketLoops P isLocal).pool.exec start labels = some p) :
    (∀ datagram ∈ p.shared, WellFormed P datagram) ∧ ∀ i, (p.locals i).CacheOk P := by
  refine (socketLoops P isLocal).invariant_along
    (G := fun _ label ↦ ∀ datagram, label.2 = .arrives datagram → WellFormed P datagram)
    (J := fun queue ↦ ∀ datagram ∈ queue, WellFormed P datagram) (K := fun _ l ↦ l.CacheOk P)
    ?_ ?_ ?_ ?_ hrun ?_
  · intro p i e queue l hJ hl he hstep
    exact socketStep_keeps hJ hl he hstep
  · intro p i e queue l m _ _ hm _ _
    exact hm
  · rw [hstart.queue]
    exact fun _ h ↦ (List.not_mem_nil h).elim
  · intro i
    obtain h | ⟨A, h⟩ := hstart.loops i <;> rw [h] <;> trivial
  · refine (socketLoops P isLocal).pool.along_of_mem (fun label hlabel _ datagram he ↦ ?_) start
    exact hformed label.1 datagram (he ▸ hlabel)

variable {i j : ι} {A : AuthParams} {e : SocketEvent}

/-- **Whose loop takes it.**  A valid grant is taken from the socket while its session's loop
runs: the session has succeeded afterwards iff the loop that took it was its own. -/
theorem heard_iff (hstart : AtRest start) (hformed : Formed P labels)
    (hrun : (socketLoops P isLocal).pool.exec start labels = some p)
    (htakes : TakesGrant P isLocal p (j, e) q i A) :
    q.locals i = .returned A (.ok ()) ↔ j = i := by
  obtain ⟨⟨env, rfl⟩, hread, ⟨s, hrunning⟩, datagram, hhead, hvalid⟩ := htakes
  obtain ⟨rest, hhead⟩ := List.head?_eq_some_iff.mp hhead
  obtain ⟨hqueue, hcaches⟩ := invariant_of_atRest hstart hformed hrun
  obtain ⟨hstep, hothers⟩ := (socketLoops P isLocal).step_of_pool_next hread
  constructor
  · intro hreturned
    by_contra hne
    rw [hothers i (Ne.symm hne)] at hreturned
    obtain htop | hwaiting := hrunning
    · rw [htop] at hreturned
      cases hreturned
    · rw [hwaiting] at hreturned
      cases hreturned
  · rintro rfl
    obtain htop | hwaiting := hrunning
    · rw [htop] at hstep
      cases hstep
    · have hcache := hcaches j
      rw [hwaiting] at hstep hcache
      exact socketStep_validGrant hhead hcache (hqueue datagram (by rw [hhead]; simp)) hvalid hstep

/-! ## Every order of reads -/

theorem isOver_of_exec (hrun : (socketLoops P isLocal).pool.exec p labels = some q)
    (hover : (p.locals i).isOver) : (q.locals i).isOver := by
  refine (socketLoops P isLocal).pool.invariant (I := fun p ↦ (p.locals i).isOver) ?_ hover hrun
  rintro p ⟨j, e⟩ q hover hnext
  obtain ⟨hstep, hothers⟩ := (socketLoops P isLocal).step_of_pool_next hnext
  by_cases hji : i = j
  · subst hji
    cases hlocal : p.locals i with
    | network =>
      rw [hlocal] at hstep
      cases e with
      | arrives datagram =>
        have hnetwork : q.locals i = .network := (Prod.ext_iff.mp (Option.some.inj hstep)).2.symm
        rw [hnetwork]
        rfl
      | _ => cases hstep
    | returned A result =>
      rw [hlocal] at hstep
      cases hstep
    | aborted A =>
      rw [hlocal] at hstep
      cases hstep
    | _ =>
      rw [hlocal] at hover
      cases hover
  · rwa [hothers i hji]

/-- A loop that is over reads nothing. -/
theorem not_isOver_of_read (htakes : TakesGrant P isLocal p (j, e) q i A) :
    (p.locals j).isOver = false := by
  obtain ⟨⟨env, rfl⟩, hread, -⟩ := htakes
  obtain ⟨hstep, -⟩ := (socketLoops P isLocal).step_of_pool_next hread
  cases hlocal : p.locals j with
  | waiting A s => rfl
  | _ =>
    rw [hlocal] at hstep
    cases hstep

variable (P isLocal A) in
/-- Any other loop gets to wait with nothing taken from the socket, the others standing still. -/
theorem exists_waiting (hover : (p.locals j).isOver = false) :
    ∃ order B s, Formed P order ∧ (socketLoops P isLocal).pool.exec p order =
        some ⟨p.shared, update p.locals j (.waiting B s)⟩ ∧
      ((p.locals j).Running A → A = B) := by
  have hformed (order : List SocketEvent) (h : ∀ e ∈ order, e = .start ∨ e = .top 0) :
      Formed P (order.map (Prod.mk j)) := by
    intro k datagram hmem
    obtain ⟨e, he, heq⟩ := List.mem_map.mp hmem
    obtain rfl | rfl := h e he <;> cases heq
  have htop : loopTop 0 (.ok ()) = none := rfl
  cases hlocal : p.locals j with
  | notStarted B =>
    refine ⟨_, B, .start, hformed [.start, .top 0] (by simp), ?_, ?_⟩
    · simp [Threads.pool, socketLoops, hlocal, socketStep, htop]
    · rintro ⟨s, h | h⟩ <;> cases h
  | top B s =>
    refine ⟨_, B, s, hformed [.top 0] (by simp), ?_, ?_⟩
    · simp [Threads.pool, socketLoops, hlocal, socketStep, htop]
    · rintro ⟨s, h | h⟩ <;> cases h
      rfl
  | waiting B s =>
    refine ⟨_, B, s, hformed [] (by simp), ?_, ?_⟩
    · rw [← hlocal, update_eq_self]
      rfl
    · rintro ⟨s, h | h⟩ <;> cases h
      rfl
  | _ =>
    rw [hlocal] at hover
    cases hover

/-- So any loop that is not over may be the one that takes the first datagram. -/
theorem exists_takesGrant (hhead : p.shared.head? = some datagram)
    (hrunning : (p.locals i).Running A) (hvalid : ValidGrant P isLocal A datagram)
    (hover : (p.locals j).isOver = false) :
    ∃ order p' e q, Formed P order ∧ (socketLoops P isLocal).pool.exec p order = some p' ∧
      TakesGrant P isLocal p' (j, e) q i A := by
  obtain ⟨order, B, s, hformed, hrun, hsame⟩ := exists_waiting P isLocal A hover
  obtain ⟨rest, hqueue⟩ := List.head?_eq_some_iff.mp hhead
  have hread : ∃ q, (socketLoops P isLocal).pool.next
      ⟨p.shared, update p.locals j (.waiting B s)⟩ (j, .read ⟨none, none⟩) = some q := by
    simp only [Threads.pool, socketLoops, update_self, hqueue, socketStep]
    cases receiveDatagram P isLocal datagram with
    | none => exact ⟨_, rfl⟩
    | some received => exact ⟨_, rfl⟩
  obtain ⟨q, hread⟩ := hread
  refine ⟨order, _, _, q, hformed, hrun, ⟨_, rfl⟩, hread, ?_, datagram, hhead, hvalid⟩
  by_cases hij : i = j
  · subst hij
    exact ⟨s, .inr (by rw [hsame hrunning]; exact update_self ..)⟩
  · obtain ⟨s, h⟩ := hrunning
    exact ⟨s, by simpa [update_of_ne hij] using h⟩

omit [DecidableEq ι] in
theorem Formed.append {more : List (ι × SocketEvent)} (h : Formed P labels)
    (hmore : Formed P more) : Formed P (labels ++ more) :=
  fun i datagram hmem ↦ (List.mem_append.mp hmem).elim (h i datagram) (hmore i datagram)

/-- **Every order of reads.**  A run loses no grant iff every grant is read by the loop it is for.
With a valid grant first in the socket while its session's loop runs, its session succeeds in
some order, and no order loses a grant for it iff all other loops are over. -/
theorem grants_heard_iff (hstart : AtRest start) (hformed : Formed P labels) :
    ((socketLoops P isLocal).pool.Along (Heard P isLocal) start labels ↔
      (socketLoops P isLocal).pool.Along (OwnReads P isLocal) start labels) ∧
    ∀ p i A datagram, (socketLoops P isLocal).pool.exec start labels = some p →
      p.shared.head? = some datagram → (p.locals i).Running A → ValidGrant P isLocal A datagram →
      (∃ order p' label q, Formed P order ∧
        (socketLoops P isLocal).pool.exec p order = some p' ∧
        TakesGrant P isLocal p' label q i A ∧ q.locals i = .returned A (.ok ())) ∧
      (HeardInEveryOrder P isLocal p i A ↔ ∀ k, k ≠ i → (p.locals k).isOver) := by
  constructor
  · refine (socketLoops P isLocal).pool.along_congr_of_exec ?_
    rintro before ⟨j, e⟩ after p hlabels hrun
    have hbefore : Formed P before := fun i datagram hmem ↦
      hformed i datagram (hlabels ▸ List.mem_append_left _ hmem)
    exact forall_congr' fun q ↦ forall_congr' fun i ↦ forall_congr' fun A ↦
      imp_congr_right fun htakes ↦ heard_iff hstart hbefore hrun htakes
  · intro p i A datagram hrun hhead hrunning hvalid
    have hlater (order : List (ι × SocketEvent)) (p' : Pool ι (List Datagram) UdpLoop)
        (horder : Formed P order) (hrun' : (socketLoops P isLocal).pool.exec p order = some p')
        (j : ι) (e : SocketEvent) (q : Pool ι (List Datagram) UdpLoop)
        (htakes : TakesGrant P isLocal p' (j, e) q i A) :
        q.locals i = .returned A (.ok ()) ↔ j = i :=
      heard_iff hstart (hformed.append horder)
        (by rw [(socketLoops P isLocal).pool.exec_append hrun, hrun']) htakes
    constructor
    · have hover : (p.locals i).isOver = false := by
        obtain ⟨s, h | h⟩ := hrunning <;> rw [h] <;> rfl
      obtain ⟨order, p', e, q, horder, hrun', htakes⟩ :=
        exists_takesGrant hhead hrunning hvalid hover
      exact ⟨order, p', _, q, horder, hrun', htakes,
        (hlater order p' horder hrun' i e q htakes).mpr rfl⟩
    · constructor
      · intro hall k hki
        by_contra hover
        obtain ⟨order, p', e, q, horder, hrun', htakes⟩ :=
          exists_takesGrant hhead hrunning hvalid (Bool.eq_false_iff.mpr hover)
        have hheard := hall order p' _ q horder hrun' htakes
        exact hki ((hlater order p' horder hrun' k e q htakes).mp hheard)
      · rintro hall order p' ⟨j, e⟩ q horder hrun' htakes
        refine (hlater order p' horder hrun' j e q htakes).mpr ?_
        by_contra hji
        have hover := isOver_of_exec hrun' (hall j hji)
        rw [not_isOver_of_read htakes] at hover
        cases hover

end

namespace SocketSample

open Daemon.Sample

/-- A second session of the desktop with the same paired phone. -/
def other : AuthParams := { params with challenge := ⟨List.replicate 31 3 ++ [9], by decide⟩ }

def isLocal (addr : SocketAddr) : Bool := addr.octets == [127, 0, 0, 1]

/-- The phone's grant for the first session. -/
def datagram : Datagram := ⟨primitives.packetFormat.encode (grant 5), addr⟩

def start : Pool (Fin 3) (List Datagram) UdpLoop :=
  ⟨[], fun i ↦ if i.val = 0 then .notStarted params else if i.val = 1 then .notStarted other
    else .network⟩

def loop0 : Fin 3 := ⟨0, by decide⟩

def loop1 : Fin 3 := ⟨1, by decide⟩

def network : Fin 3 := ⟨2, by decide⟩

/-- Both loops wait when the grant arrives. -/
def both : List (Fin 3 × SocketEvent) :=
  [(loop0, .start), (loop0, .top 0), (loop1, .start), (loop1, .top 0),
    (network, .arrives datagram)]

/-- The second session has ended when the grant arrives. -/
def alone : List (Fin 3 × SocketEvent) :=
  [(loop1, .start), (loop1, .abort), (loop0, .start), (network, .arrives datagram)]

/-- The grant is in the queue. -/
def arrived : Pool (Fin 3) (List Datagram) UdpLoop :=
  ⟨[datagram], update (update (update
    (update start.locals loop1 (.top other .start)) loop1 (.aborted other))
    loop0 (.top params .start)) network .network⟩

theorem atRest_start : AtRest start := by
  refine ⟨rfl, fun i ↦ ?_⟩
  by_cases hfirst : i.val = 0
  · exact .inr ⟨params, if_pos hfirst⟩
  · by_cases hsecond : i.val = 1
    · exact .inr ⟨other, (if_neg hfirst).trans (if_pos hsecond)⟩
    · exact .inl ((if_neg hfirst).trans (if_neg hsecond))

theorem wellFormed_datagram : WellFormed primitives datagram := by
  intro packet hdecode
  cases (primitives.packetFormat.decode_encode (grant 5)).symm.trans hdecode
  decide +kernel

theorem validGrant_datagram : ValidGrant primitives isLocal params datagram where
  remote := by decide
  small := by decide +kernel
  opens := by
    have hverdict : (decryptEncryptedPacketWithCskNonce primitives params.csk
        (grant 5)).toOption.bind
          (verdictOf primitives (storedKeys params.pairedServers) params.challenge) =
            some (.ok ()) := by
      decide +kernel
    obtain ⟨wrapper, hwrapper, hok⟩ := Option.bind_eq_some_iff.mp hverdict
    exact ⟨grant 5, wrapper, primitives.packetFormat.decode_encode _,
      Except.toOption_eq_some_iff.mp hwrapper, hok⟩

end SocketSample

open SocketSample

open Sample

/-- The loop of the other session takes the grant and ignores it; the session it was for waits
until it times out. -/
theorem grant_taken_by_other :
    other.challenge ≠ params.challenge ∧
      ValidGrant primitives isLocal params datagram ∧
      ((socketLoops primitives isLocal).pool.exec start
        (both ++ [(loop1, .read env)])).map
          (fun q ↦ (q.shared, (q.locals loop0).isWaiting,
            (q.locals loop1).result?)) = some ([], true, none) ∧
      ((socketLoops primitives isLocal).pool.exec start
        (both ++ [(loop1, .read env),
          (loop0, .timeout env), (loop0, .top 120000)])).map
          (fun q ↦ (q.locals loop0).result?) = some (some (.error .timeout)) :=
  ⟨by decide, validGrant_datagram, by decide +kernel, by decide +kernel⟩

/-- With the other session at its end, the grant is heard. -/
theorem grants_heard_iff_sample :
    ∃ p, (socketLoops primitives isLocal).pool.exec start
        alone = some p ∧
      (∃ order p' label q, Formed primitives order ∧
        (socketLoops primitives isLocal).pool.exec p order = some p' ∧
        TakesGrant primitives isLocal p' label q loop0
          params ∧
        q.locals loop0 = .returned params (.ok ())) ∧
      HeardInEveryOrder primitives isLocal p loop0
        params := by
  have hrun : (socketLoops primitives isLocal).pool.exec start
      alone = some arrived := rfl
  have hformed : Formed primitives alone := by
    intro i datagram hmem
    simp only [alone, List.mem_cons, Prod.mk.injEq, reduceCtorEq, and_false,
      SocketEvent.arrives.injEq, List.not_mem_nil, or_false, false_or] at hmem
    rw [hmem.2]
    exact wellFormed_datagram
  obtain ⟨hsome, hevery⟩ := (grants_heard_iff atRest_start hformed).2 _
    loop0 _ _ hrun rfl ⟨.start, .inl rfl⟩ validGrant_datagram
  exact ⟨_, hrun, hsome, hevery.mpr (by decide)⟩

end TapAuth.System
