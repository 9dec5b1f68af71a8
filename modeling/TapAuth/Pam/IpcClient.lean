import Mathlib.Data.List.ReduceOption
import TapAuth.Lib.Codec
import TapAuth.Lib.Framing

/-!
# Reading the daemon's responses

`IpcClient` has two readers for the frames the daemon writes.  `recv_response` blocks until it
has a frame.  `try_read_response_nonblocking` takes what the socket has into a buffer and
remembers, between its calls, the length of a frame whose beginning it has seen.

What the socket gives to a call is a list of results of `read`.  A call stops
at the first that is not data; a list that ends is a socket that would block.  An `Arrival`
is such a list by what it brings: bytes in portions, and then none.  The blocking reader reads
from all the bytes that ever arrive.

Both readers are described by `Framing.read`: the buffered one because the length it remembers
is that of the frame at the head of its buffer (`IpcClient.Consistent`).  `expected` says
what the calls should answer, in terms of how many bytes have arrived.
-/

namespace TapAuth.Pam

open Framing

/-! ## Messages -/

/-- The message `PamAuthenticateResponse`; the outcome is the raw number. -/
structure IpcResponse where
  outcome : Int32
  detail : String
  challenge : Bytes
  deriving DecidableEq

/-- The alternatives of an `IpcEnvelope`.  Those the PAM module does not read are left encoded. -/
inductive IpcMsg where
  | pamAuthenticate (body : Bytes)
  | pamCancel (body : Bytes)
  | pamResponse (response : IpcResponse)
  | adminRequest (body : Bytes)
  | adminResponse (body : Bytes)
  deriving DecidableEq

structure IpcEnvelope where
  msg : Option IpcMsg
  deriving DecidableEq

inductive IpcError where
  | io (text : String)
  | decode (text : String)
  | frameTooLarge (len : Nat)
  deriving DecidableEq

/-- 1 MiB. -/
def maxFrameBytes : Nat := 1024 * 1024

/-- The response in the data of a frame. -/
def decodeResponse (format : Format IpcEnvelope) (unexpected : String) (data : Bytes) :
    Except IpcError IpcResponse :=
  match format.decode data with
  | .error text => .error (.decode text)
  | .ok ⟨some (.pamResponse response)⟩ => .ok response
  | .ok _ => .error (.io unexpected)

/-! ## The nonblocking reader -/

/-- Why `read` gives no data. -/
inductive ErrorKind where
  | wouldBlock
  | interrupted
  | other (text : String)
  deriving DecidableEq

/-- What `read` on the socket gives; no data is the end of the stream. -/
abbrev SocketRead := Except ErrorKind Bytes

structure IpcClient where
  readBuf : Bytes
  /-- The four bytes of the length and the payload. -/
  expectedTotal : Option Nat
  deriving DecidableEq

namespace IpcClient

def fresh : IpcClient := ⟨[], none⟩

/-- The loop around `read`. -/
def readLoop (readBuf : Bytes) : List SocketRead → Except IpcError Unit × Bytes
  | [] => (.ok (), readBuf)
  | .ok chunk :: reads =>
    if chunk = [] then (.ok (), readBuf) else readLoop (readBuf ++ chunk) reads
  | .error .wouldBlock :: _ => (.ok (), readBuf)
  | .error .interrupted :: _ => (.ok (), readBuf)
  | .error (.other text) :: _ => (.error (.io text), readBuf)

/-- The frame of which the length is known. -/
def takeBody (format : Format IpcEnvelope) (c : IpcClient) (total : Nat) :
    Except IpcError (Option IpcResponse) × IpcClient :=
  if total ≤ c.readBuf.length then
    ((decodeResponse format "Unexpected IPC message type" ((c.readBuf.take total).drop 4)).map some,
      ⟨c.readBuf.drop total, none⟩)
  else (.ok none, c)

/-- What a call does with its buffer. -/
def takeFrame (format : Format IpcEnvelope) (c : IpcClient) :
    Except IpcError (Option IpcResponse) × IpcClient :=
  match c.expectedTotal with
  | some total => c.takeBody format total
  | none =>
    match length? c.readBuf with
    | none => (.ok none, c)
    | some len =>
      if maxFrameBytes < len then (.error (.frameTooLarge len), c)
      else takeBody format { c with expectedTotal := some (4 + len) } (4 + len)

def tryReadResponseNonblocking (format : Format IpcEnvelope) (c : IpcClient)
    (reads : List SocketRead) : Except IpcError (Option IpcResponse) × IpcClient :=
  match readLoop c.readBuf reads with
  | (.error error, readBuf) => (.error error, { c with readBuf := readBuf })
  | (.ok (), readBuf) => takeFrame format { c with readBuf := readBuf }

/-- The answers of repeated calls. -/
def answers (format : Format IpcEnvelope) :
    IpcClient → List (List SocketRead) → List (Except IpcError (Option IpcResponse))
  | _, [] => []
  | c, reads :: calls =>
    let (answer, c) := c.tryReadResponseNonblocking format reads
    answer :: answers format c calls

/-- The client after repeated calls. -/
def after (format : Format IpcEnvelope) (c : IpcClient) (calls : List (List SocketRead)) :
    IpcClient :=
  calls.foldl (fun c reads ↦ (c.tryReadResponseNonblocking format reads).2) c

end IpcClient

/-! ## The blocking reader -/

/-- The text of `read_exact` where the stream ends. -/
def unexpectedEof : String := "failed to fill whole buffer"

/-- `recv_response`: the response, and what is left of the stream. -/
def recvResponse (format : Format IpcEnvelope) (stream : Bytes) :
    Except IpcError IpcResponse × Bytes :=
  match length? stream with
  | none => (.error (.io unexpectedEof), [])
  | some len =>
    let stream := stream.drop 4
    if maxFrameBytes < len then (.error (.frameTooLarge len), stream)
    else if stream.length < len then (.error (.io unexpectedEof), [])
    else
      (decodeResponse format "Expected PamResponse in IpcEnvelope" (stream.take len),
        stream.drop len)

/-- The answers of `n` calls. -/
def recvResponses (format : Format IpcEnvelope) :
    Nat → Bytes → List (Except IpcError IpcResponse)
  | 0, _ => []
  | n + 1, stream =>
    let (answer, stream) := recvResponse format stream
    answer :: recvResponses format n stream

/-! ## The daemon's frames -/

/-- What `write_framed` writes of a response. -/
def writeFramed (format : Format IpcEnvelope) (response : IpcResponse) : Bytes :=
  encode (format.encode ⟨some (.pamResponse response)⟩)

/-- The frames of the responses, one after the other. -/
def written (format : Format IpcEnvelope) (responses : List IpcResponse) : Bytes :=
  responses.flatMap (writeFramed format)

/-- The envelope of a response is at most 1 MiB. -/
def FitsFrame (format : Format IpcEnvelope) (response : IpcResponse) : Prop :=
  (format.encode ⟨some (.pamResponse response)⟩).length ≤ maxFrameBytes

instance (format : Format IpcEnvelope) (response : IpcResponse) :
    Decidable (FitsFrame format response) := Nat.decLe _ _

/-- What the socket has for a call: data in any portions, and then none. -/
structure Arrival where
  chunks : List Bytes
  nonempty : ∀ chunk ∈ chunks, chunk ≠ []
  /-- Nothing is there, a signal came, or the stream has ended. -/
  stop : SocketRead
  stops : stop = .error .wouldBlock ∨ stop = .error .interrupted ∨ stop = .ok []

namespace Arrival

def reads (a : Arrival) : List SocketRead := a.chunks.map .ok ++ [a.stop]

def bytes (a : Arrival) : Bytes := a.chunks.flatten

end Arrival

/-- What the calls should answer: the next response as soon as its frame has arrived.  The
number is that of the bytes that have arrived and not been used. -/
def expected (format : Format IpcEnvelope) :
    List IpcResponse → Nat → List Arrival → List (Option IpcResponse)
  | _, _, [] => []
  | [], unused, a :: calls => none :: expected format [] (unused + a.bytes.length) calls
  | response :: responses, unused, a :: calls =>
    let arrived := unused + a.bytes.length
    let size := (writeFramed format response).length
    if size ≤ arrived then some response :: expected format responses (arrived - size) calls
    else none :: expected format (response :: responses) arrived calls

/-! ## The readers and `Framing.read` -/

namespace IpcClient

/-- The loop takes all the data there is. -/
theorem readLoop_reads (readBuf : Bytes) (a : Arrival) :
    readLoop readBuf a.reads = (.ok (), readBuf ++ a.bytes) := by
  obtain ⟨chunks, hnonempty, stop, hstop⟩ := a
  simp only [Arrival.reads, Arrival.bytes]
  induction chunks generalizing readBuf with
  | nil => obtain rfl | rfl | rfl := hstop <;> simp [readLoop]
  | cons chunk chunks ih =>
    obtain ⟨hchunk, hchunks⟩ := List.forall_mem_cons.mp hnonempty
    rw [List.map_cons, List.cons_append, readLoop, if_neg hchunk, ih _ hchunks, List.flatten_cons,
      List.append_assoc]

/-- The length that is remembered is that of the frame at the head of the buffer. -/
def Consistent (c : IpcClient) : Prop :=
  ∀ total, c.expectedTotal = some total →
    ∃ len, length? c.readBuf = some len ∧ len ≤ maxFrameBytes ∧ total = 4 + len

variable {format : Format IpcEnvelope} {c : IpcClient}

theorem consistent_of_none {readBuf : Bytes} : Consistent ⟨readBuf, none⟩ := by
  intro total h
  cases h

theorem Consistent.append (h : c.Consistent) (more : Bytes) :
    Consistent { c with readBuf := c.readBuf ++ more } := by
  intro total htotal
  obtain ⟨len, hlen, hle, rfl⟩ := h total htotal
  exact ⟨len, length?_append hlen more, hle, rfl⟩

/-- A call that has seen no length waits. -/
theorem takeFrame_of_length?_eq_none (h : c.Consistent)
    (hlen : length? c.readBuf = none) : c.takeFrame format = (.ok none, c) := by
  cases htotal : c.expectedTotal with
  | none => simp only [takeFrame, htotal, hlen]
  | some total =>
    obtain ⟨len, hsome, -⟩ := h total htotal
    rw [hlen] at hsome
    cases hsome

/-- A call that has seen a length goes by it, remembered or not. -/
theorem takeFrame_of_length? (h : c.Consistent) {len : Nat}
    (hlen : length? c.readBuf = some len) :
    c.takeFrame format =
      if maxFrameBytes < len then (.error (.frameTooLarge len), c)
      else takeBody format { c with expectedTotal := some (4 + len) } (4 + len) := by
  cases htotal : c.expectedTotal with
  | none => simp only [takeFrame, htotal, hlen]
  | some total =>
    obtain ⟨len', hsome, hle, rfl⟩ := h total htotal
    obtain rfl : len = len' := Option.some.inj (hlen ▸ hsome)
    obtain ⟨readBuf, expectedTotal⟩ := c
    cases htotal
    simp only [takeFrame, if_neg (Nat.not_lt.mpr hle)]

theorem takeFrame_of_incomplete (h : c.Consistent)
    (hread : read maxFrameBytes c.readBuf = .incomplete) :
    (c.takeFrame format).1 = .ok none ∧ (c.takeFrame format).2.readBuf = c.readBuf := by
  cases hlen : length? c.readBuf with
  | none => simp [takeFrame_of_length?_eq_none h hlen]
  | some len =>
    rw [read_of_length? hlen] at hread
    split_ifs at hread with hlarge hshort
    simp [takeFrame_of_length? h hlen, hlarge, takeBody, Nat.not_le.mpr hshort]

theorem takeFrame_of_frame (h : c.Consistent) {payload rest : Bytes}
    (hread : read maxFrameBytes c.readBuf = .frame payload rest) :
    c.takeFrame format =
      ((decodeResponse format "Unexpected IPC message type" payload).map some, ⟨rest, none⟩) := by
  cases hlen : length? c.readBuf with
  | none =>
    rw [read_of_length?_eq_none hlen] at hread
    cases hread
  | some len =>
    rw [read_of_length? hlen] at hread
    split_ifs at hread with hlarge hshort
    cases hread
    rw [takeFrame_of_length? h hlen, if_neg hlarge]
    simp only [takeBody, if_pos (Nat.not_lt.mp hshort)]

theorem Consistent.takeFrame (h : c.Consistent) : (c.takeFrame format).2.Consistent := by
  cases hlen : length? c.readBuf with
  | none =>
    rw [takeFrame_of_length?_eq_none h hlen]
    exact h
  | some len =>
    rw [takeFrame_of_length? h hlen]
    split_ifs with hlarge
    · exact h
    · unfold takeBody
      split_ifs
      · exact consistent_of_none
      · rintro total ⟨⟩
        exact ⟨len, hlen, Nat.not_lt.mp hlarge, rfl⟩

theorem tryReadResponseNonblocking_reads (a : Arrival) :
    c.tryReadResponseNonblocking format a.reads =
      takeFrame format { c with readBuf := c.readBuf ++ a.bytes } := by
  rw [tryReadResponseNonblocking, readLoop_reads]

theorem Consistent.tryReadResponseNonblocking (h : c.Consistent) (a : Arrival) :
    (c.tryReadResponseNonblocking format a.reads).2.Consistent := by
  rw [tryReadResponseNonblocking_reads]
  exact (h.append a.bytes).takeFrame

end IpcClient

theorem decodeResponse_encode (format : Format IpcEnvelope) (unexpected : String)
    (response : IpcResponse) :
    decodeResponse format unexpected (format.encode ⟨some (.pamResponse response)⟩) =
      .ok response := by
  rw [decodeResponse, format.decode_encode]

theorem decodeResponse_ne_frameTooLarge {format : Format IpcEnvelope} {unexpected : String}
    {data : Bytes} {len : Nat} :
    decodeResponse format unexpected data ≠ .error (.frameTooLarge len) := by
  unfold decodeResponse
  split <;> simp

/-! ## What the readers answer -/

section

variable {format : Format IpcEnvelope} {c : IpcClient}

/-- A call that finds a part of a frame. -/
theorem call_of_incomplete (format : Format IpcEnvelope) {a : Arrival} (hc : c.Consistent)
    (hread : read maxFrameBytes (c.readBuf ++ a.bytes) = .incomplete) :
    (c.tryReadResponseNonblocking format a.reads).1 = .ok none ∧
      (c.tryReadResponseNonblocking format a.reads).2.readBuf = c.readBuf ++ a.bytes := by
  rw [IpcClient.tryReadResponseNonblocking_reads]
  exact IpcClient.takeFrame_of_incomplete (hc.append a.bytes) hread

/-- A call that finds a frame. -/
theorem call_of_frame (format : Format IpcEnvelope) {a : Arrival} {payload rest : Bytes}
    (hc : c.Consistent) (hread : read maxFrameBytes (c.readBuf ++ a.bytes) = .frame payload rest) :
    c.tryReadResponseNonblocking format a.reads =
      ((decodeResponse format "Unexpected IPC message type" payload).map some, ⟨rest, none⟩) := by
  rw [IpcClient.tryReadResponseNonblocking_reads,
    IpcClient.takeFrame_of_frame (hc.append a.bytes) hread]

theorem answers_cons (c : IpcClient) (reads : List SocketRead) (calls : List (List SocketRead)) :
    c.answers format (reads :: calls) =
      (c.tryReadResponseNonblocking format reads).1 ::
        (c.tryReadResponseNonblocking format reads).2.answers format calls := rfl

variable {responses : List IpcResponse}

/-- The nonblocking reader answers what it should, however the frames arrive. -/
theorem answers_eq_expected {calls : List Arrival} {missing : Bytes}
    (hfits : ∀ response ∈ responses, FitsFrame format response) (hc : c.Consistent)
    (hstream : c.readBuf ++ calls.flatMap Arrival.bytes ++ missing = written format responses) :
    c.answers format (calls.map Arrival.reads) =
      (expected format responses c.readBuf.length calls).map .ok := by
  induction calls generalizing c responses with
  | nil => cases responses <;> rfl
  | cons a calls ih =>
    have hnext : (c.tryReadResponseNonblocking format a.reads).2.Consistent :=
      hc.tryReadResponseNonblocking a
    rw [List.flatMap_cons, ← List.append_assoc, List.append_assoc _ _ missing] at hstream
    rw [List.map_cons, answers_cons]
    cases responses with
    | nil =>
      have hempty : c.readBuf ++ a.bytes = [] := (List.append_eq_nil_iff.mp hstream).1
      obtain ⟨hanswer, hbuf⟩ := call_of_incomplete format hc (by rw [hempty]; rfl)
      rw [hanswer, expected, List.map_cons, ← List.length_append, ← hbuf]
      rw [ih hfits hnext (by rw [hbuf, List.append_assoc]; exact hstream)]
    | cons response responses =>
      have hfit := hfits response List.mem_cons_self
      have hrest : ∀ r ∈ responses, FitsFrame format r :=
        fun r hr ↦ hfits r (List.mem_cons_of_mem _ hr)
      rw [expected, ← List.length_append]
      split_ifs with hlong
      · obtain ⟨rest, hread, happend, hlength⟩ :=
          read_of_long hfit (by decide) hstream hlong
        have hcall := call_of_frame format hc hread
        rw [decodeResponse_encode] at hcall
        rw [hcall] at hnext ⊢
        rw [List.map_cons, ih hrest hnext (by rw [List.append_assoc]; exact happend)]
        rw [hlength, writeFramed, Nat.add_sub_cancel_left]
        rfl
      · obtain ⟨hanswer, hbuf⟩ := call_of_incomplete format hc
          (read_of_short hfit (by decide) hstream (Nat.not_le.mp hlong))
        rw [hanswer, List.map_cons, ← hbuf]
        rw [ih hfits hnext (by rw [hbuf, List.append_assoc]; exact hstream)]

/-! ### What is expected -/

theorem expected_nil_reduceOption (unused : Nat) (calls : List Arrival) :
    (expected format [] unused calls).reduceOption = [] := by
  induction calls generalizing unused with
  | nil => rfl
  | cons reads calls ih => exact ih _

/-- Nothing but the responses, and in order. -/
theorem expected_reduceOption_prefix (responses : List IpcResponse) (unused : Nat)
    (calls : List Arrival) :
    (expected format responses unused calls).reduceOption <+: responses := by
  induction calls generalizing responses unused with
  | nil => cases responses <;> exact List.nil_prefix
  | cons reads calls ih =>
    cases responses with
    | nil => simp [expected_nil_reduceOption]
    | cons response responses =>
      rw [expected]
      split_ifs
      · rw [List.reduceOption_cons_of_some]
        exact (List.prefix_cons_inj response).mpr (ih responses _)
      · rw [List.reduceOption_cons_of_none]
        exact ih _ _

/-- When all has arrived, a call for each response is enough. -/
theorem expected_of_arrived {unused : Nat} {calls : List Arrival}
    (harrived : (written format responses).length ≤ unused)
    (hcalls : responses.length ≤ calls.length) :
    (expected format responses unused calls).reduceOption = responses := by
  induction calls generalizing responses unused with
  | nil =>
    obtain rfl := List.eq_nil_of_length_eq_zero (Nat.le_zero.mp hcalls)
    rfl
  | cons reads calls ih =>
    cases responses with
    | nil => exact expected_nil_reduceOption _ _
    | cons response responses =>
      rw [written, List.flatMap_cons, List.length_append, ← written] at harrived
      rw [expected, if_pos (by omega), List.reduceOption_cons_of_some,
        ih (by omega) (Nat.le_of_succ_le_succ hcalls)]

/-- Nothing is lost on the way: once all has arrived, and after a call more for each
response, the responses have been returned. -/
theorem expected_complete {unused : Nat} {calls more : List Arrival}
    (harrived : (written format responses).length ≤
      unused + (calls.flatMap Arrival.bytes).length) (hmore : responses.length ≤ more.length) :
    (expected format responses unused (calls ++ more)).reduceOption = responses := by
  induction calls generalizing responses unused with
  | nil => exact expected_of_arrived harrived hmore
  | cons reads calls ih =>
    rw [List.flatMap_cons, List.length_append] at harrived
    cases responses with
    | nil => exact expected_nil_reduceOption _ _
    | cons response responses =>
      rw [List.cons_append, expected]
      split_ifs with hlong
      · rw [written, List.flatMap_cons, List.length_append, ← written] at harrived
        rw [List.reduceOption_cons_of_some,
          ih (by omega) ((Nat.le_succ _).trans hmore)]
      · rw [List.reduceOption_cons_of_none, ih (by omega) hmore]

/-! ### The blocking reader -/

theorem recvResponse_of_frame {stream payload rest : Bytes}
    (hread : read maxFrameBytes stream = .frame payload rest) :
    recvResponse format stream =
      (decodeResponse format "Expected PamResponse in IpcEnvelope" payload, rest) := by
  cases hlen : length? stream with
  | none =>
    rw [read_of_length?_eq_none hlen] at hread
    cases hread
  | some len =>
    rw [read_of_length? hlen] at hread
    split_ifs at hread with hlarge hshort
    cases hread
    have henough : ¬ (stream.drop 4).length < len := by
      rw [List.length_drop]
      omega
    simp only [recvResponse, hlen, if_neg hlarge, if_neg henough, List.drop_take, List.drop_drop,
      Nat.add_sub_cancel_left]

theorem recvResponses_succ (n : Nat) (stream : Bytes) :
    recvResponses format (n + 1) stream =
      (recvResponse format stream).1 :: recvResponses format n (recvResponse format stream).2 := rfl

/-- The blocking reader returns the responses. -/
theorem recvResponses_written (hfits : ∀ response ∈ responses, FitsFrame format response) :
    recvResponses format responses.length (written format responses) = responses.map .ok := by
  induction responses with
  | nil => rfl
  | cons response responses ih =>
    have hread := read_encode (hfits response List.mem_cons_self) (by decide)
      (written format responses)
    have hrecv : recvResponse format (writeFramed format response ++ written format responses) =
        (.ok response, written format responses) := by
      rw [writeFramed, recvResponse_of_frame hread, decodeResponse_encode]
    have hrest := ih fun r hr ↦ hfits r (List.mem_cons_of_mem _ hr)
    rw [written, List.flatMap_cons, ← written, List.length_cons, recvResponses_succ, hrecv, hrest,
      List.map_cons]

/-! ### Frames that are too large -/

theorem recvResponse_eq_frameTooLarge_iff {stream : Bytes} {len : Nat} :
    (recvResponse format stream).1 = .error (.frameTooLarge len) ↔
      length? stream = some len ∧ maxFrameBytes < len := by
  cases hlen : length? stream with
  | none => simp [recvResponse, hlen, unexpectedEof]
  | some n =>
    simp only [recvResponse, hlen]
    split_ifs with hlarge hshort
    · constructor
      · rintro ⟨⟩
        exact ⟨rfl, hlarge⟩
      · rintro ⟨⟨⟩, -⟩
        rfl
    · constructor
      · rintro ⟨⟩
      · rintro ⟨⟨⟩, h⟩
        exact absurd h hlarge
    · constructor
      · exact fun h ↦ absurd h decodeResponse_ne_frameTooLarge
      · rintro ⟨⟨⟩, h⟩
        exact absurd h hlarge

theorem takeFrame_eq_frameTooLarge_iff (hc : c.Consistent) {len : Nat} :
    (c.takeFrame format).1 = .error (.frameTooLarge len) ↔
      length? c.readBuf = some len ∧ maxFrameBytes < len := by
  cases hlen : length? c.readBuf with
  | none => simp [IpcClient.takeFrame_of_length?_eq_none hc hlen]
  | some n =>
    rw [IpcClient.takeFrame_of_length? hc hlen]
    split_ifs with hlarge
    · constructor
      · rintro ⟨⟩
        exact ⟨rfl, hlarge⟩
      · rintro ⟨⟨⟩, -⟩
        rfl
    · constructor
      · intro h
        unfold IpcClient.takeBody at h
        split_ifs at h
        · cases hdecoded : decodeResponse format "Unexpected IPC message type"
              ((c.readBuf.take (4 + n)).drop 4) with
          | ok response => rw [hdecoded] at h; cases h
          | error error =>
            rw [hdecoded] at h
            cases h
            exact absurd hdecoded decodeResponse_ne_frameTooLarge
      · rintro ⟨⟨⟩, h⟩
        exact absurd h hlarge

/-- The answer to a frame that was taken from the stream. -/
def tookFrame : Except IpcError (Option IpcResponse) → Bool
  | .ok none => false
  | .error (.frameTooLarge _) => false
  | _ => true

theorem tookFrame_map_some {unexpected : String} {data : Bytes} :
    tookFrame ((decodeResponse format unexpected data).map some) = true := by
  unfold decodeResponse
  split <;> rfl

/-- A call takes the frame at the head of what it has, or leaves all there. -/
theorem call_cases (format : Format IpcEnvelope) (a : Arrival) (hc : c.Consistent) :
    (∃ payload rest, read maxFrameBytes (c.readBuf ++ a.bytes) = .frame payload rest ∧
        tookFrame (c.tryReadResponseNonblocking format a.reads).1 = true ∧
        (c.tryReadResponseNonblocking format a.reads).2.readBuf = rest) ∨
      tookFrame (c.tryReadResponseNonblocking format a.reads).1 = false ∧
        (c.tryReadResponseNonblocking format a.reads).2.readBuf = c.readBuf ++ a.bytes := by
  cases hread : read maxFrameBytes (c.readBuf ++ a.bytes) with
  | incomplete =>
    obtain ⟨hanswer, hbuf⟩ := call_of_incomplete format hc hread
    rw [hanswer]
    exact .inr ⟨rfl, hbuf⟩
  | frame payload rest =>
    rw [call_of_frame format hc hread]
    exact .inl ⟨payload, rest, rfl, tookFrame_map_some, rfl⟩
  | tooLong =>
    cases hlen : length? (c.readBuf ++ a.bytes) with
    | none =>
      rw [read_of_length?_eq_none hlen] at hread
      cases hread
    | some len =>
      rw [read_of_length? hlen] at hread
      split_ifs at hread with hlarge
      rw [IpcClient.tryReadResponseNonblocking_reads,
        IpcClient.takeFrame_of_length? (hc.append a.bytes) hlen, if_pos hlarge]
      exact .inr ⟨rfl, rfl⟩

/-- The buffer holds the stream after the frames that were taken. -/
theorem afterFrames_eq_readBuf (format : Format IpcEnvelope) (calls : List Arrival) (more : Bytes)
    (hc : c.Consistent) :
    afterFrames maxFrameBytes
        ((c.answers format (calls.map Arrival.reads)).countP tookFrame)
        (c.readBuf ++ (calls.flatMap Arrival.bytes ++ more)) =
      some ((c.after format (calls.map Arrival.reads)).readBuf ++ more) ∧
    (c.after format (calls.map Arrival.reads)).Consistent := by
  induction calls generalizing c with
  | nil => exact ⟨rfl, hc⟩
  | cons a calls ih =>
    have hnext : (c.tryReadResponseNonblocking format a.reads).2.Consistent :=
      hc.tryReadResponseNonblocking a
    obtain ⟨hframes, hafter⟩ := ih hnext
    refine ⟨?_, hafter⟩
    rw [List.map_cons, answers_cons, List.countP_cons, List.flatMap_cons, List.append_assoc,
      ← List.append_assoc c.readBuf]
    obtain ⟨payload, rest, hread, htook, hbuf⟩ | ⟨hleft, hbuf⟩ := call_cases format a hc
    · rw [hbuf] at hframes
      rw [htook, if_pos rfl, afterFrames, read_append hread]
      exact hframes
    · rw [hbuf] at hframes
      rw [hleft]
      exact hframes

/-- The blocking reader refuses the frame after those it has read iff it is too large. -/
theorem recvResponses_eq_frameTooLarge_iff {n : Nat} {stream rest : Bytes} {len : Nat}
    (h : afterFrames maxFrameBytes n stream = some rest) :
    (recvResponses format (n + 1) stream)[n]? = some (.error (.frameTooLarge len)) ↔
      length? rest = some len ∧ maxFrameBytes < len := by
  induction n generalizing stream with
  | zero =>
    cases h
    rw [recvResponses_succ, List.getElem?_cons_zero, Option.some.injEq]
    exact recvResponse_eq_frameTooLarge_iff
  | succ n ih =>
    rw [afterFrames] at h
    split at h
    next hread =>
      rw [recvResponses_succ, List.getElem?_cons_succ, recvResponse_of_frame hread]
      exact ih h
    · cases h

end

/-- The responses the daemon has written, in whatever portions their frames arrive: each call of
the nonblocking reader returns the next response if its frame has arrived and nothing if it has
not, so that the responses are returned in order and none is lost, as by the blocking reader.
Of any stream, the frame after those that a reader has taken is refused as too large iff its
length is above 1 MiB. -/
theorem readers_of_written (format : Format IpcEnvelope) :
    (∀ responses : List IpcResponse, (∀ response ∈ responses, FitsFrame format response) →
      (∀ (calls : List Arrival) (missing : Bytes),
        calls.flatMap Arrival.bytes ++ missing = written format responses →
          IpcClient.fresh.answers format (calls.map Arrival.reads) =
              (expected format responses 0 calls).map .ok ∧
            (expected format responses 0 calls).reduceOption <+: responses) ∧
      (∀ calls more : List Arrival, calls.flatMap Arrival.bytes = written format responses →
        more.flatMap Arrival.bytes = [] → responses.length ≤ more.length →
          ∃ returned : List (Option IpcResponse),
            IpcClient.fresh.answers format ((calls ++ more).map Arrival.reads) =
                returned.map .ok ∧
              returned.reduceOption = responses) ∧
      recvResponses format responses.length (written format responses) = responses.map .ok) ∧
    (∀ (calls : List Arrival) (a : Arrival) (len : Nat), ∃ rest,
      afterFrames maxFrameBytes
          ((IpcClient.fresh.answers format (calls.map Arrival.reads)).countP tookFrame)
          (calls.flatMap Arrival.bytes ++ a.bytes) = some rest ∧
        (((IpcClient.fresh.after format (calls.map Arrival.reads)).tryReadResponseNonblocking format
            a.reads).1 = .error (.frameTooLarge len) ↔
          length? rest = some len ∧ maxFrameBytes < len)) ∧
    (∀ (n : Nat) (stream rest : Bytes) (len : Nat),
      afterFrames maxFrameBytes n stream = some rest →
        ((recvResponses format (n + 1) stream)[n]? = some (.error (.frameTooLarge len)) ↔
          length? rest = some len ∧ maxFrameBytes < len)) := by
  refine ⟨fun responses hfits ↦ ⟨?_, ?_, recvResponses_written hfits⟩, ?_, ?_⟩
  · intro calls missing hstream
    exact ⟨answers_eq_expected hfits IpcClient.consistent_of_none hstream,
      expected_reduceOption_prefix responses 0 calls⟩
  · intro calls more harrived hnothing hmore
    have hstream : IpcClient.fresh.readBuf ++ (calls ++ more).flatMap Arrival.bytes ++ [] =
        written format responses := by
      rw [List.flatMap_append, harrived, hnothing, List.append_nil, List.append_nil]
      rfl
    exact ⟨_, answers_eq_expected hfits IpcClient.consistent_of_none hstream,
      expected_complete (by rw [harrived]; exact Nat.le_add_left _ _) hmore⟩
  · intro calls a len
    obtain ⟨hframes, hafter⟩ := afterFrames_eq_readBuf format calls a.bytes
      (c := IpcClient.fresh) IpcClient.consistent_of_none
    refine ⟨_, hframes, ?_⟩
    rw [IpcClient.tryReadResponseNonblocking_reads]
    exact takeFrame_eq_frameTooLarge_iff (hafter.append a.bytes)
  · intro n stream rest len h
    exact recvResponses_eq_frameTooLarge_iff h

/-! ## Two frames in three portions -/

namespace IpcSample

def msgCodec : Codec IpcMsg :=
  ((Codec.int32.prod (Codec.string.prod Codec.bytes)).sum (Codec.bytes.sum (Codec.bytes.sum
    (Codec.bytes.sum Codec.bytes)))).map
    (fun
      | .inl response => .pamResponse ⟨response.1, response.2.1, response.2.2⟩
      | .inr (.inl body) => .pamAuthenticate body
      | .inr (.inr (.inl body)) => .pamCancel body
      | .inr (.inr (.inr (.inl body))) => .adminRequest body
      | .inr (.inr (.inr (.inr body))) => .adminResponse body)
    (fun
      | .pamResponse response => .inl (response.outcome, response.detail, response.challenge)
      | .pamAuthenticate body => .inr (.inl body)
      | .pamCancel body => .inr (.inr (.inl body))
      | .adminRequest body => .inr (.inr (.inr (.inl body)))
      | .adminResponse body => .inr (.inr (.inr (.inr body))))
    (by
      intro msg
      cases msg <;> rfl)

def format : Format IpcEnvelope :=
  (msgCodec.option.map IpcEnvelope.mk IpcEnvelope.msg fun _ ↦ rfl).format

def responses : List IpcResponse := [⟨1, "denied", [7]⟩, ⟨0, "", []⟩]

/-- The first six bytes, the rest in two reads of one call, and three calls that find nothing. -/
def calls : List Arrival :=
  [⟨[(written format responses).take 6], by decide +kernel, .error .wouldBlock, .inl rfl⟩,
    ⟨[((written format responses).drop 6).take 20, (written format responses).drop 26],
      by decide +kernel, .error .wouldBlock, .inl rfl⟩]

def laterCalls : List Arrival :=
  [⟨[], by decide, .error .interrupted, .inr (.inl rfl)⟩,
    ⟨[], by decide, .error .wouldBlock, .inl rfl⟩, ⟨[], by decide, .ok [], .inr (.inr rfl)⟩]

end IpcSample

open IpcSample

theorem readers_of_written_sample :
    (IpcClient.fresh.answers format ((calls ++ laterCalls).map Arrival.reads) =
      [.ok none, .ok (some ⟨1, "denied", [7]⟩), .ok (some ⟨0, "", []⟩), .ok none, .ok none]) ∧
    recvResponses format 2 (written format responses) =
      [.ok ⟨1, "denied", [7]⟩, .ok ⟨0, "", []⟩] ∧
    ∃ returned : List (Option IpcResponse), IpcClient.fresh.answers format
        ((calls ++ laterCalls).map Arrival.reads) = returned.map .ok ∧
      returned.reduceOption = responses := by
  obtain ⟨-, hreturned, hrecv⟩ := (readers_of_written format).1 responses (by decide +kernel)
  exact ⟨by decide +kernel, hrecv, hreturned _ _ (by decide +kernel) (by decide +kernel)
    (by decide)⟩

end TapAuth.Pam
