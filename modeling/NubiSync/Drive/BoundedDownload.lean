import Mathlib.Data.Seq.Basic
import NubiSync.Daemon.UploadBuffer

set_option autoImplicit false

/-! # Bounded downloads

The content of a provider file is copied from the response to a writer in buffers of 64 KiB, up to a
limit in bytes. The loop asks for one byte more than the limit leaves, so that a stream of exactly the
limit is told from a longer one, and never writes past the limit. -/

namespace NubiSync

open Stream' (Seq)

/-! ## Readers -/

/-- A reader that does not fail: the bytes of its stream, finitely many or not, and how many of them a
    call gives at most at a position of the stream, for a buffer of a given length. A call with a
    non-empty buffer gives at least one byte unless the stream has ended. -/
structure ByteReader where
  stream : Seq UInt8
  shortRead : (position bufferLen : ℕ) → ℕ
  shortRead_pos : ∀ position bufferLen, 0 < bufferLen → 0 < shortRead position bufferLen
  shortRead_le : ∀ position bufferLen, shortRead position bufferLen ≤ bufferLen

/-- `Read::read` at `position`: the bytes, and the position after them. -/
def ByteReader.read (reader : ByteReader) (position bufferLen : ℕ) : List UInt8 × ℕ :=
  let bytes := (reader.stream.drop position).take (reader.shortRead position bufferLen)
  (bytes, position + bytes.length)

/-! ## The loop -/

/-- `u64::saturating_sub`. -/
def saturatingSubU64 (left right : ℕ) : ℕ := left - right

/-- `u64::saturating_add`. -/
def saturatingAddU64 (left right : ℕ) : ℕ := min (left + right) (2 ^ 64 - 1)

/-- The errors of `DriveApiError` that a copy returns. -/
inductive DriveDownloadError where
  | invalidDownloadLimit
  | downloadSafetyLimitExceeded
  deriving DecidableEq, Repr

/-- `probe`, the part of the buffer that the next call may fill. -/
def downloadProbe (maxBytes total : ℕ) : ℕ :=
  min (saturatingAddU64 (saturatingSubU64 maxBytes total) 1) (64 * 1024)

/-- The loop of `copy_bounded_download`, from a reader at `position`: what it returns, and what the writer
    holds then. -/
def copyDownload (reader : ByteReader) (maxBytes position total : ℕ) (writer : List UInt8) :
    Except DriveDownloadError ℕ × List UInt8 :=
  let (buffer, position) := reader.read position (downloadProbe maxBytes total)
  if buffer.length = 0 then (.ok total, writer)
  else
    match _hnext : checkedAddU64 total buffer.length with
    | none => (.error .downloadSafetyLimitExceeded, writer)
    | some next =>
        if maxBytes < next then (.error .downloadSafetyLimitExceeded, writer)
        else copyDownload reader maxBytes position next (writer ++ buffer)
  termination_by maxBytes - total
  decreasing_by
    have := eq_add_of_checkedAddU64 _hnext
    omega

/-- `copy_bounded_download`, with a writer that holds nothing yet and does not fail. -/
def copyBoundedDownload (reader : ByteReader) (maxBytes : ℕ) :
    Except DriveDownloadError ℕ × List UInt8 :=
  if maxBytes = 0 then (.error .invalidDownloadLimit, [])
  else copyDownload reader maxBytes 0 0 []

/-! ## One call -/

theorem downloadProbe_eq {maxBytes total : ℕ} (hword : maxBytes < 2 ^ 64) :
    downloadProbe maxBytes total = min (maxBytes - total + 1) (64 * 1024) := by
  have hleft : maxBytes - total ≤ 2 ^ 64 - 1 :=
    (Nat.sub_le maxBytes total).trans (Nat.le_sub_one_of_lt hword)
  simp only [downloadProbe, saturatingAddU64, saturatingSubU64]
  omega

section Reads

variable {reader : ByteReader} {position bufferLen : ℕ}

theorem length'_le_of_read_nil (hbuffer : 0 < bufferLen)
    (h : (reader.read position bufferLen).1.length = 0) : reader.stream.length' ≤ position := by
  have hnil := List.getElem?_eq_none (Nat.le_of_eq h)
  simp only [ByteReader.read, Seq.getElem?_take, Seq.drop_get?,
    if_pos (reader.shortRead_pos position bufferLen hbuffer)] at hnil
  exact Seq.length'_le_iff.mpr hnil

theorem read_getElem? {i : ℕ} (hi : i < (reader.read position bufferLen).1.length) :
    (reader.read position bufferLen).1[i]? = reader.stream.get? (position + i) := by
  have hshort := hi.trans_le Seq.length_take_le
  simp only [ByteReader.read, Seq.getElem?_take, Seq.drop_get?, if_pos hshort]

/-- What a call gives is part of the stream. -/
theorem read_le_length' (h : 0 < (reader.read position bufferLen).1.length) :
    ((position + (reader.read position bufferLen).1.length : ℕ) : ℕ∞) ≤ reader.stream.length' := by
  obtain ⟨last, hlast⟩ := Nat.exists_eq_add_of_le' h
  have hbyte := @read_getElem? reader position bufferLen last (by omega)
  rw [List.getElem?_eq_getElem (by omega)] at hbyte
  have hlt := Seq.lt_length'_iff.mpr ⟨_, hbyte.symm⟩
  rw [hlast, ← Nat.add_assoc, Nat.cast_add, Nat.cast_one]
  exact Order.add_one_le_of_lt hlt

theorem length_take {n : ℕ} (h : (n : ℕ∞) ≤ reader.stream.length') :
    (reader.stream.take n).length = n := by
  refine Seq.length_take_of_le_length fun hends => ?_
  rw [Seq.length'_of_terminates hends] at h
  exact_mod_cast h

theorem take_append_read (h : (position : ℕ∞) ≤ reader.stream.length') :
    reader.stream.take position ++ (reader.read position bufferLen).1 =
      reader.stream.take (position + (reader.read position bufferLen).1.length) := by
  refine List.ext_getElem? fun i => ?_
  rw [List.getElem?_append, length_take h]
  by_cases hi : i < position
  · simp [hi, Nat.lt_add_right]
  rw [if_neg hi, Seq.getElem?_take]
  by_cases hread : i - position < (reader.read position bufferLen).1.length
  · rw [read_getElem? hread, if_pos (by omega)]
    congr 1
    omega
  · rw [List.getElem?_eq_none (by omega), if_neg (by omega)]

end Reads

/-! ## One turn of the loop -/

section Turns

variable {reader : ByteReader} {maxBytes position total : ℕ} {writer : List UInt8}

theorem copyDownload_ended
    (hread : (reader.read position (downloadProbe maxBytes total)).1.length = 0) :
    copyDownload reader maxBytes position total writer = (.ok total, writer) := by
  rw [copyDownload]
  exact if_pos hread

theorem copyDownload_exceeded
    (hread : 0 < (reader.read position (downloadProbe maxBytes total)).1.length)
    (hmax : maxBytes < total + (reader.read position (downloadProbe maxBytes total)).1.length) :
    copyDownload reader maxBytes position total writer =
      (.error .downloadSafetyLimitExceeded, writer) := by
  rw [copyDownload]
  refine (if_neg (Nat.ne_of_gt hread)).trans ?_
  split
  · rfl
  · next next hnext => exact if_pos (eq_add_of_checkedAddU64 hnext ▸ hmax)

theorem copyDownload_continues (hword : maxBytes < 2 ^ 64)
    (hread : 0 < (reader.read position (downloadProbe maxBytes total)).1.length)
    (hmax : total + (reader.read position (downloadProbe maxBytes total)).1.length ≤ maxBytes) :
    copyDownload reader maxBytes position total writer =
      copyDownload reader maxBytes
        (position + (reader.read position (downloadProbe maxBytes total)).1.length)
        (total + (reader.read position (downloadProbe maxBytes total)).1.length)
        (writer ++ (reader.read position (downloadProbe maxBytes total)).1) := by
  rw [copyDownload]
  refine (if_neg (Nat.ne_of_gt hread)).trans ?_
  split
  · next hnext =>
      exact absurd (le_add_of_checkedAddU64 hnext) (Nat.not_le.mpr (Nat.lt_of_le_of_lt hmax hword))
  · next next hnext =>
      obtain rfl := eq_add_of_checkedAddU64 hnext
      exact if_neg (Nat.not_lt.mpr hmax)

end Turns

/-! ## The whole copy -/

/-- A copy of the first `total` bytes goes on to the end of the stream, or stops at the limit. -/
theorem copyDownload_spec {reader : ByteReader} {maxBytes total : ℕ} (hword : maxBytes < 2 ^ 64)
    (htotal : total ≤ maxBytes) (hstream : (total : ℕ∞) ≤ reader.stream.length') :
    (∃ n : ℕ, reader.stream.length' = n ∧ n ≤ maxBytes
        ∧ copyDownload reader maxBytes total total (reader.stream.take total) =
          (.ok n, reader.stream.take n))
      ∨ ∃ k ≤ maxBytes, (maxBytes : ℕ∞) < reader.stream.length'
        ∧ copyDownload reader maxBytes total total (reader.stream.take total) =
          (.error .downloadSafetyLimitExceeded, reader.stream.take k) := by
  induction hleft : maxBytes - total using Nat.strong_induction_on generalizing total with
  | _ left ih =>
      have hprobe : 0 < downloadProbe maxBytes total := by
        rw [downloadProbe_eq hword]
        omega
      rcases Nat.eq_zero_or_pos (reader.read total (downloadProbe maxBytes total)).1.length with
        hend | hread
      · have hlength := le_antisymm (length'_le_of_read_nil hprobe hend) hstream
        exact .inl ⟨total, hlength, htotal, copyDownload_ended hend⟩
      have hnext := read_le_length' hread
      rcases Nat.lt_or_ge maxBytes
        (total + (reader.read total (downloadProbe maxBytes total)).1.length) with hexceeded | hmax
      · refine .inr ⟨total, htotal, ?_, copyDownload_exceeded hread hexceeded⟩
        exact (Nat.cast_lt.mpr hexceeded).trans_le hnext
      · rw [copyDownload_continues hword hread hmax, take_append_read hstream]
        exact ih _ (by omega) hmax hnext rfl

/-- For every reader and every limit that a `u64` holds, the copy ends: with the number of bytes of the
    stream, all written in order, when the limit allows them, and otherwise with an error and a
    beginning of the stream of at most the limit in the writer. No sum leaves the 64 bits: the one byte
    that is asked for past the limit is asked for at every limit, and a count that a `u64` does not hold is
    past the limit. -/
theorem copy_bounded_download_exact (reader : ByteReader) (maxBytes : ℕ) (hpos : 1 ≤ maxBytes)
    (hword : maxBytes < 2 ^ 64) :
    (∀ n : ℕ, (copyBoundedDownload reader maxBytes).1 = .ok n ↔
        reader.stream.length' = n ∧ n ≤ maxBytes)
      ∧ (∀ n : ℕ, (copyBoundedDownload reader maxBytes).1 = .ok n →
        (copyBoundedDownload reader maxBytes).2 = reader.stream.take n
          ∧ (copyBoundedDownload reader maxBytes).2.length = n)
      ∧ ((maxBytes : ℕ∞) < reader.stream.length' →
        (copyBoundedDownload reader maxBytes).1 = .error .downloadSafetyLimitExceeded
          ∧ ∃ k ≤ maxBytes, (copyBoundedDownload reader maxBytes).2 = reader.stream.take k)
      ∧ (∀ total, downloadProbe maxBytes total = min (maxBytes - total + 1) (64 * 1024))
      ∧ (∀ total read, checkedAddU64 total read = none → maxBytes < total + read) := by
  have hcopy : copyBoundedDownload reader maxBytes =
      copyDownload reader maxBytes 0 0 (reader.stream.take 0) := by
    rw [copyBoundedDownload, if_neg (Nat.ne_of_gt hpos), Seq.take_zero]
  rw [hcopy]
  have hchecked : ∀ total read, checkedAddU64 total read = none → maxBytes < total + read :=
    fun _ _ hnone => hword.trans_le (le_add_of_checkedAddU64 hnone)
  rcases copyDownload_spec hword (Nat.zero_le maxBytes) (by simp) with
    ⟨length, hlength, hmax, hresult⟩ | ⟨k, hk, hmax, hresult⟩
  · refine ⟨fun n => ?_, fun n hn => ?_, fun hlong => ?_, fun _ => downloadProbe_eq hword, hchecked⟩
    · rw [hresult, hlength, Nat.cast_inj, Except.ok.injEq]
      exact ⟨fun h => ⟨h, h ▸ hmax⟩, And.left⟩
    · rw [hresult, Except.ok.injEq] at hn
      subst hn
      rw [hresult]
      exact ⟨rfl, length_take hlength.ge⟩
    · rw [hlength, Nat.cast_lt] at hlong
      exact absurd hmax (Nat.not_le.mpr hlong)
  · rw [hresult]
    refine ⟨fun n => ⟨nofun, fun ⟨hn, hle⟩ => ?_⟩, nofun, fun _ => ⟨rfl, k, hk, rfl⟩,
      fun _ => downloadProbe_eq hword, hchecked⟩
    rw [hn, Nat.cast_lt] at hmax
    exact absurd hle (Nat.not_le.mpr hmax)

/-- A stream of three bytes, read one byte at a call. -/
def threeBytes : ByteReader where
  stream := Seq.ofList [1, 2, 3]
  shortRead _ bufferLen := min bufferLen 1
  shortRead_pos _ _ h := Nat.lt_min.mpr ⟨h, Nat.one_pos⟩
  shortRead_le _ _ := Nat.min_le_left _ _

theorem copy_three_bytes : (copyBoundedDownload threeBytes 3).1 = .ok 3
    ∧ (copyBoundedDownload threeBytes 3).2 = [1, 2, 3] := by
  have hlength : threeBytes.stream.length' = (3 : ℕ) := by
    simp only [threeBytes, Seq.ofList_cons, Seq.ofList_nil, Seq.length'_cons, Seq.length'_nil]
    rfl
  obtain ⟨hok, hwritten, -⟩ :=
    copy_bounded_download_exact threeBytes 3 (by decide) (by decide)
  have hthree := (hok 3).mpr ⟨hlength, le_rfl⟩
  exact ⟨hthree, (hwritten 3 hthree).1.trans rfl⟩

end NubiSync
