import TapAuth.Lib.Bytes

/-!
# Length-prefixed frames on a byte stream

A frame is the length of its payload in four bytes, high byte first, followed by the
payload.  A reader takes a frame from what has arrived of a stream: it waits while the
frame is not complete, and refuses a length above its limit.

`ByteChannel` is one direction of a connection.  The bytes on their way arrive in order and in
any portions, and `Framing.read_of_content` says that a reader does not notice: of a
stream whose content starts with a frame it reads that frame or waits for it.
-/

/-- The length of a frame in four bytes; a longer one is cut to its low 32 bits. -/
def Framing.lengthBytes (n : Nat) : Bytes :=
  [UInt8.ofNat (n / 16777216), UInt8.ofNat (n / 65536), UInt8.ofNat (n / 256), UInt8.ofNat n]

namespace Framing

def encode (payload : Bytes) : Bytes := lengthBytes payload.length ++ payload

/-- What a reader finds in the bytes that have arrived. -/
inductive Reading where
  | incomplete
  | tooLong
  | frame (payload rest : Bytes)
  deriving DecidableEq

def read (limit : Nat) : Bytes → Reading
  | a :: b :: c :: d :: rest =>
    let length := ((a.toNat * 256 + b.toNat) * 256 + c.toNat) * 256 + d.toNat
    if limit < length then .tooLong
    else if rest.length < length then .incomplete
    else .frame (rest.take length) (rest.drop length)
  | _ => .incomplete

theorem value_lengthBytes {n : Nat} (h : n < 4294967296) :
    (((UInt8.ofNat (n / 16777216)).toNat * 256 + (UInt8.ofNat (n / 65536)).toNat) * 256 +
      (UInt8.ofNat (n / 256)).toNat) * 256 + (UInt8.ofNat n).toNat = n := by
  simp only [UInt8.toNat_ofNat']
  omega

variable {payload rest arrived missing : Bytes} {limit : Nat}

/-- Whatever part of a stream has arrived: a reader gets the frame at its head or waits. -/
theorem read_of_content (hlimit : payload.length ≤ limit) (hsize : limit < 4294967296)
    (h : arrived ++ missing = encode payload ++ rest) :
    read limit arrived = .incomplete ∨
      ∃ rest', read limit arrived = .frame payload rest' ∧ rest' ++ missing = rest := by
  -- the four bytes of the length are there or not
  rcases arrived with _ | ⟨a, _ | ⟨b, _ | ⟨c, _ | ⟨d, tail⟩⟩⟩⟩
  · exact .inl rfl
  · exact .inl rfl
  · exact .inl rfl
  · exact .inl rfl
  simp only [encode, lengthBytes, List.cons_append, List.nil_append, List.cons.injEq] at h
  obtain ⟨rfl, rfl, rfl, rfl, htail⟩ := h
  have hvalue := value_lengthBytes (n := payload.length) (by omega)
  simp only [read, hvalue, if_neg (Nat.not_lt.mpr hlimit)]
  by_cases hshort : tail.length < payload.length
  · exact .inl (if_pos hshort)
  · rw [if_neg hshort]
    obtain ⟨more, rfl⟩ : ∃ more, tail = payload ++ more := by
      have hle : payload.length ≤ tail.length := Nat.not_lt.mp hshort
      obtain ⟨more, hmore⟩ :=
        List.prefix_of_prefix_length_le (List.prefix_append payload rest)
          (htail ▸ List.prefix_append tail missing) hle
      exact ⟨more, hmore.symm⟩
    rw [List.append_assoc] at htail
    refine .inr ⟨more, ?_, List.append_cancel_left htail⟩
    rw [List.take_left, List.drop_left]

/-- A frame that has arrived is read. -/
theorem read_encode {payload : Bytes} (hlimit : payload.length ≤ limit)
    (hsize : limit < 4294967296) (rest : Bytes) :
    read limit (encode payload ++ rest) = .frame payload rest := by
  have hvalue := value_lengthBytes (n := payload.length) (by omega)
  simp only [encode, lengthBytes, List.cons_append, List.nil_append, read, hvalue,
    if_neg (Nat.not_lt.mpr hlimit), List.length_append,
    if_neg (Nat.not_lt.mpr (Nat.le_add_right _ _)), List.take_left, List.drop_left]

/-- A frame of which something is missing is waited for. -/
theorem read_of_short (hlimit : payload.length ≤ limit) (hsize : limit < 4294967296)
    (h : arrived ++ missing = encode payload ++ rest)
    (hshort : arrived.length < (encode payload).length) : read limit arrived = .incomplete := by
  obtain hincomplete | ⟨rest', hread, hrest⟩ := read_of_content hlimit hsize h
  · exact hincomplete
  · rw [← hrest, ← List.append_assoc] at h
    rw [List.append_cancel_right h, List.length_append] at hshort
    omega

/-- A frame that has arrived is read, whatever else has. -/
theorem read_of_long (hlimit : payload.length ≤ limit) (hsize : limit < 4294967296)
    (h : arrived ++ missing = encode payload ++ rest)
    (hlong : (encode payload).length ≤ arrived.length) :
    ∃ rest', read limit arrived = .frame payload rest' ∧ rest' ++ missing = rest ∧
      arrived.length = (encode payload).length + rest'.length := by
  obtain ⟨rest', rfl⟩ : encode payload <+: arrived :=
    List.prefix_of_prefix_length_le (List.prefix_append _ rest) (h ▸ List.prefix_append _ missing)
      hlong
  refine ⟨rest', read_encode hlimit hsize rest', ?_, List.length_append⟩
  rw [List.append_assoc] at h
  exact List.append_cancel_left h

/-- The length a frame says it has. -/
def length? : Bytes → Option Nat
  | a :: b :: c :: d :: _ =>
    some (((a.toNat * 256 + b.toNat) * 256 + c.toNat) * 256 + d.toNat)
  | _ => none

theorem length?_append {arrived : Bytes} {n : Nat} (h : length? arrived = some n) (more : Bytes) :
    length? (arrived ++ more) = some n := by
  rcases arrived with _ | ⟨a, _ | ⟨b, _ | ⟨c, _ | ⟨d, tail⟩⟩⟩⟩
  · cases h
  · cases h
  · cases h
  · cases h
  · exact h

theorem read_of_length?_eq_none {arrived : Bytes} (h : length? arrived = none) (limit : Nat) :
    read limit arrived = .incomplete := by
  rcases arrived with _ | ⟨a, _ | ⟨b, _ | ⟨c, _ | ⟨d, tail⟩⟩⟩⟩
  · rfl
  · rfl
  · rfl
  · rfl
  · cases h

/-- A reader looks at the length first. -/
theorem read_of_length? {arrived : Bytes} {n : Nat} (h : length? arrived = some n) (limit : Nat) :
    read limit arrived =
      if limit < n then .tooLong
      else if arrived.length < 4 + n then .incomplete
      else .frame ((arrived.take (4 + n)).drop 4) (arrived.drop (4 + n)) := by
  rcases arrived with _ | ⟨a, _ | ⟨b, _ | ⟨c, _ | ⟨d, tail⟩⟩⟩⟩
  · cases h
  · cases h
  · cases h
  · cases h
  · simp only [length?, Option.some.injEq] at h
    simp only [read, h, List.length_cons, Nat.add_comm 4 n, List.take_succ_cons,
      List.drop_succ_cons, List.drop_zero, Nat.add_lt_add_iff_right]

/-- A frame that has arrived is read, whatever follows it. -/
theorem read_append {arrived payload rest : Bytes} (h : read limit arrived = .frame payload rest)
    (more : Bytes) :
    read limit (arrived ++ more) = .frame payload (rest ++ more) := by
  cases hlen : length? arrived with
  | none =>
    rw [read_of_length?_eq_none hlen] at h
    cases h
  | some n =>
    rw [read_of_length? hlen] at h
    split_ifs at h with hlarge hshort
    cases h
    have hlong : 4 + n ≤ arrived.length := Nat.not_lt.mp hshort
    rw [read_of_length? (length?_append hlen more), if_neg hlarge,
      if_neg (by rw [List.length_append]; omega), List.take_append_of_le_length hlong,
      List.drop_append_of_le_length hlong]

/-- What follows the first `n` frames of a stream, if they are complete and within the limit. -/
def afterFrames (limit : Nat) : Nat → Bytes → Option Bytes
  | 0, stream => some stream
  | n + 1, stream =>
    match read limit stream with
    | .frame _ rest => afterFrames limit n rest
    | _ => none

end Framing

/-- One direction of a connection. -/
structure ByteChannel where
  arrived : Bytes
  onTheWay : Bytes
  deriving DecidableEq

namespace ByteChannel

def empty : ByteChannel := ⟨[], []⟩

/-- Everything that was sent and not yet read. -/
def content (s : ByteChannel) : Bytes := s.arrived ++ s.onTheWay

def send (s : ByteChannel) (bytes : Bytes) : ByteChannel :=
  { s with onTheWay := s.onTheWay ++ bytes }

/-- The next bytes arrive. -/
def deliver (s : ByteChannel) (n : Nat) : ByteChannel :=
  ⟨s.arrived ++ s.onTheWay.take n, s.onTheWay.drop n⟩

@[simp] theorem content_send (s : ByteChannel) (bytes : Bytes) :
    (s.send bytes).content = s.content ++ bytes := (List.append_assoc ..).symm

@[simp] theorem content_deliver (s : ByteChannel) (n : Nat) :
    (s.deliver n).content = s.content := by
  simp [content, deliver]

@[simp] theorem arrived_deliver_all (s : ByteChannel) :
    (s.deliver s.onTheWay.length).arrived = s.content := by
  simp [content, deliver]

end ByteChannel
