/-
The size of the body of a chunk and its padding, of `sopc_chunks_mgr.c`.

The greatest body is computed by unsigned subtractions that nothing guards: with
headers that leave no room for the sequence header, the signature and the
fields of the padding size, it wraps, and so does the assertion that follows.
Otherwise it is exact, for a padding of at most 65535 bytes.
-/
import Mathlib

namespace S2opc.SecureChannel

open List Option Nat

/-- The parameters of `SC_Chunks_ComputeMaxBodySize`.  The crypto provider gives no block without a
    byte. -/
structure ChunkSizes where
  nonEncryptedHeadersSize : UInt32
  chunkSize : UInt32
  toEncrypt : Bool
  cipherBlockSize : UInt32
  plainBlockSize : UInt32
  toSign : Bool
  signatureSize : UInt32
  plainBlockSize_pos : 0 < plainBlockSize.toNat

/-- An integer as a `uint32_t`. -/
def uint32 (n : Int) : Nat :=
  (n % 2 ^ 32).toNat

/-- What is missing to a whole number of blocks. -/
def missing (block n : Nat) : Nat :=
  if n % block ≠ 0 then block - n % block else 0

theorem dvd_add_missing {block : Nat} (hpos : 0 < block) (n : Nat) : block ∣ n + missing block n := by
  have hdiv := div_add_mod n block
  have hlt := mod_lt n hpos
  unfold missing
  split_ifs with hmod
  · refine ⟨n / block + 1, ?_⟩
    rw [Nat.mul_add]
    omega
  · exact dvd_of_mod_eq_zero (not_not.mp hmod)

theorem missing_lt {block : Nat} (hpos : 0 < block) (n : Nat) : missing block n < block := by
  unfold missing
  split_ifs <;> omega

/-- No other number of blocks is closer. -/
theorem missing_le {block n k : Nat} (hle : n ≤ block * k) : n + missing block n ≤ block * k := by
  have hdiv := div_add_mod n block
  unfold missing
  split_ifs with hmod
  · have hlt : n / block < k :=
      Nat.lt_of_mul_lt_mul_left (show block * (n / block) < block * k by omega)
    have hnext := Nat.mul_le_mul_left block hlt
    rw [mul_succ] at hnext
    omega
  · exact hle

namespace ChunkSizes

variable (c : ChunkSizes)

def chunk : Nat := c.chunkSize.toNat

def headers : Nat := c.nonEncryptedHeadersSize.toNat

/-- Without encryption, the blocks are bytes. -/
def plain : Nat := if c.toEncrypt then c.plainBlockSize.toNat else 1

def cipher : Nat := if c.toEncrypt then c.cipherBlockSize.toNat else 1

def signature : Nat := if c.toSign then c.signatureSize.toNat else 0

/-- `SC_Chunks_Is_ExtraPaddingSizePresent`, for a chunk that is encrypted. -/
def hasExtraPaddingSize : Bool := c.toEncrypt && decide (256 < c.plainBlockSize.toNat)

def paddingSizeFields : Nat :=
  if c.toEncrypt then if c.hasExtraPaddingSize then 2 else 1 else 0

/-- The sequence header, the signature and the fields of the padding size. -/
def overhead : Nat := 8 + c.signature + c.paddingSizeFields

/-- `SC_Chunks_ComputeMaxBodySize`, or `none` when an assertion fails. -/
def computeMaxBodySize : Option Nat :=
  if c.cipher < c.plain then none
  else
    let result := uint32 (c.plain * (uint32 (c.chunk - c.headers) / c.cipher : Nat) - c.overhead)
    if c.chunk < uint32 (c.headers + (result + c.overhead)) then none else some result

/-- `SC_Chunks_GetPaddingSize`: a padding that is too long is left out. -/
def getPaddingSize (bytesToEncrypt : Nat) : Nat :=
  let padding := missing c.plain (bytesToEncrypt + c.signature + c.paddingSizeFields)
  if padding ≤ 65535 then padding else 0

/-- The bytes to encrypt: the sequence header, the body, the padding and the signature. -/
def plainLength (body : Nat) : Nat :=
  8 + body + c.paddingSizeFields + c.getPaddingSize (8 + body) + c.signature

/-- `SOPC_CryptoProvider_AsymmetricGetLength_Encryption`; a symmetric encryption has plain and
    cipher blocks of the same size. -/
def encryptedLength (n : Nat) : Nat :=
  (n / c.plain + if 0 < n % c.plain then 1 else 0) * c.cipher

/-- The size that `SC_Chunks_EncodeMessageSize` writes. -/
def messageSize (body : Nat) : Nat :=
  c.headers + c.encryptedLength (c.plainLength body)

/-- The bytes that fit in the blocks of a chunk. -/
def capacity : Nat :=
  c.plain * ((c.chunk - c.headers) / c.cipher)

/-- A body of at most the maximum gives whole blocks that fit in the chunk, one of a byte more does
    not, and the maximum is computed without a wrap. -/
def CapacityExact : Prop :=
  ∃ max, c.computeMaxBodySize = some max ∧ c.headers ≤ c.chunk ∧ max + c.overhead = c.capacity ∧
    (∀ body ≤ max, c.plain ∣ c.plainLength body ∧ c.messageSize body ≤ c.chunk) ∧
    c.chunk < c.messageSize (max + 1)

theorem plain_pos : 0 < c.plain := by
  unfold plain
  split_ifs
  · exact c.plainBlockSize_pos
  · exact Nat.one_pos

theorem plainLength_eq (body : Nat) :
    c.plainLength body = c.overhead + body + c.getPaddingSize (8 + body) := by
  unfold plainLength overhead
  omega

theorem getPaddingSize_eq (body : Nat) :
    c.getPaddingSize (8 + body) = if missing c.plain (c.overhead + body) ≤ 65535
      then missing c.plain (c.overhead + body) else 0 := by
  unfold getPaddingSize overhead
  rw [show 8 + body + c.signature + c.paddingSizeFields =
    8 + c.signature + c.paddingSizeFields + body by omega]

theorem encryptedLength_of_dvd {n : Nat} (h : c.plain ∣ n) :
    c.encryptedLength n = n / c.plain * c.cipher := by
  rw [encryptedLength, mod_eq_zero_of_dvd h]
  rfl

theorem lt_encryptedLength {q n : Nat} (h : c.plain * q < n) :
    (q + 1) * c.cipher ≤ c.encryptedLength n := by
  apply Nat.mul_le_mul_right
  have hdiv := div_add_mod n c.plain
  have hq : q ≤ n / c.plain := (Nat.le_div_iff_mul_le c.plain_pos).mpr (by rw [Nat.mul_comm]; omega)
  split_ifs with hmod
  · omega
  rcases Nat.lt_or_eq_of_le hq with hlt | heq
  · exact hlt
  · rw [← heq] at hdiv
    omega

/-- The blocks of the capacity fit behind the headers, and there are some. -/
theorem capacity_le (hblocks : c.plain ≤ c.cipher) (hroom : c.overhead ≤ c.capacity) :
    c.headers + c.capacity ≤ c.chunk ∧ 8 ≤ c.overhead := by
  have hle : c.capacity ≤ c.chunk - c.headers :=
    (Nat.mul_le_mul_right _ hblocks).trans (mul_div_le _ _)
  have hoverhead : 8 ≤ c.overhead := by
    unfold overhead
    omega
  omega

theorem computeMaxBodySize_eq (hblocks : c.plain ≤ c.cipher) (hroom : c.overhead ≤ c.capacity) :
    c.computeMaxBodySize = some (c.capacity - c.overhead) := by
  obtain ⟨hcapacity, hoverhead⟩ := c.capacity_le hblocks hroom
  have hchunk : c.chunk < 2 ^ 32 := c.chunkSize.toNat_lt
  have hsub : uint32 (c.chunk - c.headers) = c.chunk - c.headers := by
    unfold uint32
    omega
  have hresult : uint32 ((c.plain * ((c.chunk - c.headers) / c.cipher) : Nat) - c.overhead) =
      c.capacity - c.overhead := by
    change uint32 ((c.capacity : Int) - c.overhead) = _
    unfold uint32
    omega
  unfold computeMaxBodySize
  rw [if_neg (Nat.not_lt.mpr hblocks), hsub, ← Int.natCast_mul, hresult]
  rw [if_neg]
  unfold uint32
  omega

/-- The capacity is exact if the headers leave room for the overhead, and no body needs more padding
    than its size fields can tell. -/
theorem capacityExact_iff :
    c.CapacityExact ↔ c.plain ≤ c.cipher ∧ c.overhead ≤ c.capacity ∧
      (c.plain ≤ 65536 ∨ c.capacity ≤ c.overhead + 65535) := by
  have hdvd : c.plain ∣ c.capacity := Nat.dvd_mul_right _ _
  constructor
  · rintro ⟨max, hmax, -, hcapacity, hfits, -⟩
    refine ⟨?_, by omega, ?_⟩
    · by_contra hblocks
      rw [computeMaxBodySize, if_pos (Nat.not_le.mp hblocks)] at hmax
      cases hmax
    · by_contra hlarge
      -- What is 65536 bytes short of the capacity is not a whole number of blocks
      have hbody := (hfits (max - 65536) (by omega)).1
      rw [plainLength_eq, getPaddingSize_eq] at hbody
      have hzero : ∀ n ≤ 65535, ¬ c.plain ∣ c.overhead + (max - 65536) + n := by
        intro n hn hdvd'
        have hle := Nat.le_of_dvd (by omega) ((Nat.dvd_sub hdvd hdvd'))
        omega
      split_ifs at hbody with hle
      · exact hzero _ hle hbody
      · exact hzero 0 (by omega) hbody
  · rintro ⟨hblocks, hroom, hpadding⟩
    obtain ⟨hheaders, hoverhead⟩ := c.capacity_le hblocks hroom
    have hpos := c.plain_pos
    refine ⟨_, c.computeMaxBodySize_eq hblocks hroom, by omega, by omega, fun body hbody => ?_, ?_⟩
    · have hle : c.overhead + body + missing c.plain (c.overhead + body) ≤ c.capacity :=
        missing_le (by change _ ≤ c.capacity; omega)
      have hlt := missing_lt c.plain_pos (c.overhead + body)
      have haligned := dvd_add_missing c.plain_pos (c.overhead + body)
      rw [messageSize, plainLength_eq, getPaddingSize_eq, if_pos (by omega),
        c.encryptedLength_of_dvd haligned]
      refine ⟨haligned, ?_⟩
      have hblocks' : (c.overhead + body + missing c.plain (c.overhead + body)) / c.plain ≤
          (c.chunk - c.headers) / c.cipher := by
        apply Nat.div_le_of_le_mul
        change _ ≤ c.capacity
        omega
      have hsize := (Nat.mul_le_mul_right c.cipher hblocks').trans (Nat.div_mul_le_self _ _)
      omega
    · have hover : c.capacity < c.plainLength (c.capacity - c.overhead + 1) := by
        rw [plainLength_eq]
        omega
      have hsize := c.lt_encryptedLength hover
      have hchunk := Nat.lt_mul_div_succ (c.chunk - c.headers) (hpos.trans_le hblocks)
      rw [Nat.mul_comm] at hchunk
      unfold messageSize
      omega

/-- Headers of 8189 bytes in a chunk of 8192 ones, neither signed nor encrypted. -/
def narrow : ChunkSizes := ⟨8189, 8192, false, 1, 1, false, 0, by decide⟩

theorem narrow_wraps :
    narrow.computeMaxBodySize = some 4294967291 ∧ narrow.chunk < narrow.messageSize 4294967291 := by
  decide

/-! ## What the receiver removes -/

/-- `SC_Chunks_EncodePadding`, where the data starts with the sequence number. -/
def encodePadding (headers data : List UInt8) : List UInt8 :=
  let size := c.getPaddingSize data.length
  if c.toEncrypt then
    headers ++ data ++ UInt8.ofNat size :: List.replicate size (UInt8.ofNat size) ++
      if c.hasExtraPaddingSize then [UInt8.ofNat (size / 256)] else []
  else headers ++ data

/-- The padding, whose last byte is the low one of its size.  A length that wraps is refused by the
    buffer. -/
def removeSized (high : Nat) (buffer : List UInt8) : Option (List UInt8) := do
  let low ← buffer.getLast?
  let nbPaddingBytes := 256 * high + low.toNat + 1
  if buffer.length < nbPaddingBytes then none
  else some (buffer.take (buffer.length - nbPaddingBytes))

/-- `SOPC_Remove_Padding`, of a chunk that was decrypted. -/
def removePadding (hasExtraPaddingSize : Bool) (buffer : List UInt8) : Option (List UInt8) :=
  if c.toEncrypt then
    if hasExtraPaddingSize then do
      let high ← buffer.getLast?
      removeSized high.toNat buffer.dropLast
    else removeSized 0 buffer
  else some buffer

/-- The field `hasExtraPaddingSize` of a connection.  Its first OPN message writes it twice: for the
    asymmetric messages, and then for the symmetric ones. -/
def extraPaddingField : Option (ChunkSizes × ChunkSizes) → Bool
  | none => false
  | some (asymm, symm) => [asymm, symm].foldl (fun _ sizes => sizes.hasExtraPaddingSize) false

theorem getPaddingSize_lt (n : Nat) : c.getPaddingSize n < c.plain ∧ c.getPaddingSize n ≤ 65535 := by
  have hlt := missing_lt c.plain_pos (n + c.signature + c.paddingSizeFields)
  unfold getPaddingSize
  dsimp only
  split_ifs <;> omega

theorem length_of_removeSized {high : Nat} {buffer rest : List UInt8}
    (h : removeSized high buffer = some rest) :
    rest.length + 256 * high + 1 ≤ buffer.length ∧ ∀ low ∈ buffer.getLast?,
      rest.length + 256 * high + low.toNat + 1 = buffer.length := by
  unfold removeSized at h
  rcases hlow : buffer.getLast? with _ | low
  · simp [hlow] at h
  simp only [hlow, bind_eq_bind, bind_some, ite_none_left_eq_some,
    Option.some.injEq] at h
  obtain ⟨hle, rfl⟩ := h
  rw [length_take]
  refine ⟨by omega, fun low' hlow' => ?_⟩
  cases Option.some.inj hlow'
  omega

theorem removeSized_replicate {high size : Nat} {low : UInt8} (hsize : size = 256 * high + low.toNat)
    (data : List UInt8) : removeSized high (data ++ replicate (size + 1) low) = some data := by
  have hlast : (data ++ replicate (size + 1) low).getLast? = some low := by
    simp [getLast?_append, getLast?_replicate]
  rw [removeSized, hlast, bind_eq_bind, bind_some, if_neg, take_left']
  all_goals
    simp only [length_append, length_replicate]
    omega

/-- The data comes back iff the field of the receiver, which its symmetric messages have written,
    is right for the asymmetric blocks of the sender. -/
theorem removePadding_encodePadding_iff (sent : Option (ChunkSizes × ChunkSizes))
    (headers data : List UInt8) :
    c.removePadding (extraPaddingField sent) (c.encodePadding headers data) = some (headers ++ data) ↔
      (c.toEncrypt = true → (256 < c.plainBlockSize.toNat ↔
        ∃ sizes ∈ sent, sizes.2.toEncrypt = true ∧ 256 < sizes.2.plainBlockSize.toNat)) := by
  have hfield : extraPaddingField sent = true ↔
      ∃ sizes ∈ sent, sizes.2.toEncrypt = true ∧ 256 < sizes.2.plainBlockSize.toNat := by
    rcases sent with _ | ⟨asymm, symm⟩ <;> simp [extraPaddingField, hasExtraPaddingSize]
  rw [← hfield]
  generalize extraPaddingField sent = field
  unfold removePadding encodePadding
  rcases hencrypt : c.toEncrypt with _ | _
  · simp
  obtain ⟨hlt, hmax⟩ := c.getPaddingSize_lt data.length
  rw [plain, if_pos hencrypt] at hlt
  generalize c.getPaddingSize data.length = size at hlt hmax
  have hlow : (UInt8.ofNat size).toNat = size % 256 := UInt8.toNat_ofNat'
  have hhigh : (UInt8.ofNat (size / 256)).toNat = size / 256 :=
    UInt8.toNat_ofNat_of_lt' (show size / 256 < 256 by omega)
  simp only [hasExtraPaddingSize, hencrypt, Bool.true_and, decide_eq_true_eq, if_true,
    forall_const, ← List.replicate_succ]
  by_cases hextra : 256 < c.plainBlockSize.toNat
  · rw [if_pos hextra]
    rcases field with _ | _
    · -- The high byte, taken for the size, is never that of both size fields and the padding
      refine ⟨fun h => ?_, by simp [hextra]⟩
      have hlength := (length_of_removeSized h).2 (UInt8.ofNat (size / 256)) (by simp)
      simp only [List.length_append, List.length_replicate, List.length_cons, List.length_nil,
        hhigh] at hlength
      omega
    simp only [if_true, List.getLast?_append, List.getLast?_singleton, Option.some_or,
      List.dropLast_concat, Option.bind_eq_bind, Option.bind_some, hextra]
    rw [removeSized_replicate (by omega)]
    simp
  · rw [if_neg hextra, List.append_nil]
    rcases field with _ | _
    · simp only [Bool.false_eq_true, if_false, hextra]
      rw [removeSized_replicate (by omega)]
      simp
    -- The low byte is taken for the high one
    refine ⟨fun h => ?_, by simp [hextra]⟩
    rw [if_pos rfl, List.getLast?_append, List.getLast?_replicate] at h
    have hlength := (length_of_removeSized h).1
    simp only [List.length_dropLast, List.length_append, List.length_replicate, hlow] at hlength
    omega

/-- The blocks of an RSA key of 4096 bits, signed by one too. -/
def rsa4096 : ChunkSizes := ⟨1200, 8192, true, 512, 446, true, 512, by decide⟩

/-- Only the high byte of the padding size is removed. -/
theorem rsa4096_keeps_size_field :
    rsa4096.removePadding (extraPaddingField none)
      (rsa4096.encodePadding [] (List.replicate 378 1)) = some (List.replicate 378 1 ++ [0]) := by
  decide +kernel

end ChunkSizes

end S2opc.SecureChannel
