/-
This file models the RTP parser of `media/rtp.cpp` and compares it with the
packet format over the integers. The parser computes offsets in `size_t`, so
every offset here is a `UInt64` and every subtraction wraps as the code's does.

The format says where the header ends as a natural number. The two sides agree
on every datagram but one kind: a padded packet whose header claims to reach
past the datagram, with a padding byte larger than the datagram. There both
subtractions of the padding check wrap, and the parser returns a payload that
does not lie inside the datagram. What `write_rtp` makes has neither padding nor an
extension, and is read back as it was written.
-/

import Mathlib.Algebra.Group.Nat.Defs
import Mathlib.Data.List.Basic
import Mathlib.Tactic.Common

namespace KetPhone.Media

/-- The bytes behind a `std::span<const uint8_t>`: as many as `size_t` can count. -/
structure Datagram where
  bytes : List UInt8
  fits : bytes.length < 2 ^ 64

namespace Datagram

/-- `span::size`. -/
def size (datagram : Datagram) : UInt64 := UInt64.ofNat datagram.bytes.length

/-- The byte at `data()[index]`. -/
def byteAt (datagram : Datagram) (index : UInt64) : UInt8 := datagram.bytes.getD index.toNat 0

theorem size_toNat (datagram : Datagram) : datagram.size.toNat = datagram.bytes.length := by
  unfold size
  rw [UInt64.toNat_ofNat']
  exact Nat.mod_eq_of_lt datagram.fits

end Datagram

/-- A `std::span` into a datagram: where it starts and how many bytes it claims. -/
structure Subspan where
  offset : UInt64
  count : UInt64
  deriving DecidableEq, Repr

/-- The bytes a subspan of the datagram stands for, when it lies inside the datagram. -/
def Subspan.read (datagram : Datagram) (span : Subspan) : Option (List UInt8) :=
  if span.offset.toNat + span.count.toNat ≤ datagram.bytes.length then
    some ((datagram.bytes.drop span.offset.toNat).take span.count.toNat)
  else none

structure RtpHeader where
  payloadType : UInt8
  marker : Bool
  sequence : UInt16
  timestamp : UInt32
  ssrc : UInt32
  deriving DecidableEq, Repr

structure RtpPacket where
  header : RtpHeader
  payload : Subspan
  deriving DecidableEq, Repr

def kRtpHeaderSize : UInt64 := 12

def read16 (datagram : Datagram) (index : UInt64) : UInt16 :=
  (datagram.byteAt index).toUInt16 <<< 8 ||| (datagram.byteAt (index + 1)).toUInt16

def read32 (datagram : Datagram) (index : UInt64) : UInt32 :=
  (datagram.byteAt index).toUInt32 <<< 24 ||| (datagram.byteAt (index + 1)).toUInt32 <<< 16 |||
    (datagram.byteAt (index + 2)).toUInt32 <<< 8 ||| (datagram.byteAt (index + 3)).toUInt32

/-- The offset past the CSRC list and the extension, or nothing when the extension header
itself is cut off. -/
def payloadOffset (datagram : Datagram) : Option UInt64 :=
  let offset := kRtpHeaderSize + 4 * (datagram.byteAt 0 &&& 0x0f).toUInt64
  if datagram.byteAt 0 &&& 0x10 ≠ 0 then
    if datagram.size < offset + 4 then none
    else some (offset + (4 + 4 * (read16 datagram (offset + 2)).toUInt64))
  else some offset

/-- The end of the payload once padding is removed, or nothing when the padding is refused. -/
def payloadEnd (datagram : Datagram) (offset : UInt64) : Option UInt64 :=
  let size := datagram.size
  if datagram.byteAt 0 &&& 0x20 ≠ 0 then
    let padding := datagram.byteAt (size - 1)
    if padding = 0 ∨ padding.toUInt64 > size - offset then none
    else some (size - padding.toUInt64)
  else some size

/-- `write_rtp`: the packet, or nothing when it does not fit. -/
def writeRtp (room : Nat) (header : RtpHeader) (payload : List UInt8) : List UInt8 :=
  if room < kRtpHeaderSize.toNat + payload.length then []
  else
    [0x80, (if header.marker then 0x80 else 0) ||| (header.payloadType &&& 0x7f),
      (header.sequence >>> 8).toUInt8, header.sequence.toUInt8] ++
    (([24, 16, 8, 0] : List UInt32).map fun shift => (header.timestamp >>> shift).toUInt8) ++
    (([24, 16, 8, 0] : List UInt32).map fun shift => (header.ssrc >>> shift).toUInt8) ++ payload

/-- `parse_rtp`. -/
def parseRtp (datagram : Datagram) : Option RtpPacket :=
  if datagram.size < kRtpHeaderSize then none
  else if datagram.byteAt 0 >>> 6 ≠ 2 then none
  else
    let second := datagram.byteAt 1
    if 200 ≤ second ∧ second ≤ 204 then none
    else do
      let offset ← payloadOffset datagram
      let finish ← payloadEnd datagram offset
      if offset > finish then none
      else
        some {
          header := {
            marker := second &&& 0x80 ≠ 0
            payloadType := second &&& 0x7f
            sequence := read16 datagram 2
            timestamp := read32 datagram 4
            ssrc := read32 datagram 8 }
          payload := { offset := offset, count := finish - offset } }

/-! ### The format over the integers -/

/-- Where the CSRC list ends. -/
def csrcEnd (datagram : Datagram) : Nat := 12 + 4 * (datagram.byteAt 0 &&& 0x0f).toNat

/-- Where the headers end: past the CSRC list and, with X set, past the extension header and
the words it declares. Nothing when the extension header is not inside the datagram. -/
def headerEnd (datagram : Datagram) : Option Nat :=
  if datagram.byteAt 0 &&& 0x10 ≠ 0 then
    if csrcEnd datagram + 4 ≤ datagram.bytes.length then
      some (csrcEnd datagram + 4 +
        4 * (read16 datagram (UInt64.ofNat (csrcEnd datagram + 2))).toNat)
    else none
  else some (csrcEnd datagram)

/-- The last byte of the datagram when P is set, and zero otherwise. -/
def paddingLength (datagram : Datagram) : Nat :=
  if datagram.byteAt 0 &&& 0x20 ≠ 0 then
    (datagram.bytes.getD (datagram.bytes.length - 1) 0).toNat
  else 0

/-- The fixed part of the header: twelve bytes, version 2 and not an RTCP packet type. -/
def HeaderAccepted (datagram : Datagram) : Prop :=
  12 ≤ datagram.bytes.length ∧ datagram.byteAt 0 >>> 6 = 2 ∧
    ¬ (200 ≤ datagram.byteAt 1 ∧ datagram.byteAt 1 ≤ 204)

/-- A well-formed RTP packet whose headers end at `offset`. -/
def WellFormedAt (datagram : Datagram) (offset : Nat) : Prop :=
  HeaderAccepted datagram ∧ headerEnd datagram = some offset ∧
    offset ≤ datagram.bytes.length ∧
    (datagram.byteAt 0 &&& 0x20 ≠ 0 →
      1 ≤ paddingLength datagram ∧ offset + paddingLength datagram ≤ datagram.bytes.length)

/-- What the parser promises about a datagram: it returns a packet exactly for the well-formed
ones, and the payload is then what lies between the headers and the padding. -/
def ParsedAsFormatted (datagram : Datagram) : Prop :=
  ((∃ packet, parseRtp datagram = some packet) ↔ ∃ offset, WellFormedAt datagram offset) ∧
    ∀ packet, parseRtp datagram = some packet → ∀ offset, headerEnd datagram = some offset →
      packet.payload.read datagram =
        some ((datagram.bytes.take (datagram.bytes.length - paddingLength datagram)).drop offset)

/-- The datagrams on which the padding check wraps twice: the headers reach past the datagram
and the padding byte is larger than the whole datagram. -/
def PaddingWraps (datagram : Datagram) : Prop :=
  HeaderAccepted datagram ∧ datagram.byteAt 0 &&& 0x20 ≠ 0 ∧
    datagram.bytes.length < paddingLength datagram ∧
    ∃ offset, headerEnd datagram = some offset ∧ datagram.bytes.length < offset

/-! ### The offset -/

theorem nibble_le (byte : UInt8) : (byte &&& 0x0f).toNat ≤ 15 := by
  rw [UInt8.toNat_and]
  exact Nat.and_le_right

theorem csrcEnd_toNat (datagram : Datagram) :
    (kRtpHeaderSize + 4 * (datagram.byteAt 0 &&& 0x0f).toUInt64).toNat = csrcEnd datagram := by
  have bound := nibble_le (datagram.byteAt 0)
  unfold csrcEnd kRtpHeaderSize
  rw [UInt64.toNat_add, UInt64.toNat_mul, UInt8.toNat_toUInt64]
  simp only [UInt64.reduceToNat]
  omega

/-- The offset the parser computes never wraps: it is the end of the headers. -/
theorem payloadOffset_toNat (datagram : Datagram) :
    (payloadOffset datagram).map UInt64.toNat = headerEnd datagram := by
  have bound := nibble_le (datagram.byteAt 0)
  have csrc := csrcEnd_toNat datagram
  have small : csrcEnd datagram ≤ 72 := by
    unfold csrcEnd
    omega
  unfold payloadOffset headerEnd
  split
  · have short : datagram.size < kRtpHeaderSize + 4 * (datagram.byteAt 0 &&& 0x0f).toUInt64 + 4 ↔
        ¬ csrcEnd datagram + 4 ≤ datagram.bytes.length := by
      rw [UInt64.lt_iff_toNat_lt, Datagram.size_toNat, UInt64.toNat_add, csrc]
      simp only [UInt64.reduceToNat]
      omega
    have place : kRtpHeaderSize + 4 * (datagram.byteAt 0 &&& 0x0f).toUInt64 + 2 =
        UInt64.ofNat (csrcEnd datagram + 2) := by
      apply UInt64.toNat_inj.mp
      rw [UInt64.toNat_add, csrc, UInt64.toNat_ofNat']
      rfl
    have words := (read16 datagram (UInt64.ofNat (csrcEnd datagram + 2))).toNat_lt
    dsimp only
    rw [place]
    by_cases inside : csrcEnd datagram + 4 ≤ datagram.bytes.length
    · rw [if_neg (fun cut => short.mp cut inside), if_pos inside, Option.map_some]
      refine congrArg some ?_
      rw [UInt64.toNat_add, csrc, UInt64.toNat_add, UInt64.toNat_mul, UInt16.toNat_toUInt64]
      simp only [UInt64.reduceToNat]
      omega
    · rw [if_pos (short.mpr inside), if_neg inside, Option.map_none]
  · rw [Option.map_some, csrc]


/-! ### The padding check -/

theorem paddingByte_eq (datagram : Datagram) (long : 12 ≤ datagram.bytes.length)
    (padded : datagram.byteAt 0 &&& 0x20 ≠ 0) :
    (datagram.byteAt (datagram.size - 1)).toNat = paddingLength datagram := by
  have size := datagram.size_toNat
  have fits := datagram.fits
  unfold paddingLength
  rw [if_pos padded]
  unfold Datagram.byteAt
  rw [UInt64.toNat_sub, size]
  simp only [UInt64.reduceToNat]
  rw [show (2 ^ 64 - 1 + datagram.bytes.length) % 2 ^ 64 = datagram.bytes.length - 1 by omega]

theorem paddingLength_lt (datagram : Datagram) : paddingLength datagram < 256 := by
  unfold paddingLength
  split
  · exact UInt8.toNat_lt _
  · omega

theorem paddingLength_of_unpadded (datagram : Datagram)
    (unpadded : ¬ datagram.byteAt 0 &&& 0x20 ≠ 0) : paddingLength datagram = 0 := by
  unfold paddingLength
  rw [if_neg unpadded]

/-- While the headers end inside the datagram no subtraction wraps, and the check is the
format's own. -/
theorem payloadEnd_inside (datagram : Datagram) (offset : UInt64)
    (long : 12 ≤ datagram.bytes.length) (inside : offset.toNat ≤ datagram.bytes.length) :
    (payloadEnd datagram offset).map UInt64.toNat =
      if datagram.byteAt 0 &&& 0x20 ≠ 0 ∧ (paddingLength datagram = 0 ∨
          datagram.bytes.length < offset.toNat + paddingLength datagram) then none
      else some (datagram.bytes.length - paddingLength datagram) := by
  have size := datagram.size_toNat
  have fits := datagram.fits
  unfold payloadEnd
  by_cases padded : datagram.byteAt 0 &&& 0x20 ≠ 0
  · have byte := paddingByte_eq datagram long padded
    have byteBound := paddingLength_lt datagram
    have refused : (datagram.byteAt (datagram.size - 1) = 0 ∨
        (datagram.byteAt (datagram.size - 1)).toUInt64 > datagram.size - offset) ↔
        (paddingLength datagram = 0 ∨
          datagram.bytes.length < offset.toNat + paddingLength datagram) := by
      rw [← UInt8.toNat_inj, byte, gt_iff_lt, UInt64.lt_iff_toNat_lt, UInt8.toNat_toUInt64, byte,
        UInt64.toNat_sub, size]
      simp only [UInt8.reduceToNat]
      omega
    simp only [if_pos padded, refused]
    by_cases bad : paddingLength datagram = 0 ∨
        datagram.bytes.length < offset.toNat + paddingLength datagram
    · rw [if_pos bad, if_pos ⟨padded, bad⟩, Option.map_none]
    · rw [if_neg bad, if_neg (fun both => bad both.2), Option.map_some]
      refine congrArg some ?_
      rw [UInt64.toNat_sub, UInt8.toNat_toUInt64, byte, size]
      omega
  · simp only [if_neg padded]
    rw [if_neg (fun both => padded both.1), paddingLength_of_unpadded datagram padded,
      Option.map_some, size, Nat.sub_zero]

/-- Once the headers end past the datagram, `end - offset` wraps to a huge number, the padding
always passes, and `end - padding` wraps in turn when the padding is the larger. -/
theorem payloadEnd_past (datagram : Datagram) (offset : UInt64)
    (long : 12 ≤ datagram.bytes.length) (past : datagram.bytes.length < offset.toNat)
    (near : offset.toNat < 2 ^ 20) :
    (payloadEnd datagram offset).map UInt64.toNat =
      if datagram.byteAt 0 &&& 0x20 ≠ 0 ∧ paddingLength datagram = 0 then none
      else if datagram.bytes.length < paddingLength datagram then
        some (2 ^ 64 + datagram.bytes.length - paddingLength datagram)
      else some (datagram.bytes.length - paddingLength datagram) := by
  have size := datagram.size_toNat
  have fits := datagram.fits
  unfold payloadEnd
  by_cases padded : datagram.byteAt 0 &&& 0x20 ≠ 0
  · have byte := paddingByte_eq datagram long padded
    have byteBound := paddingLength_lt datagram
    have refused : (datagram.byteAt (datagram.size - 1) = 0 ∨
        (datagram.byteAt (datagram.size - 1)).toUInt64 > datagram.size - offset) ↔
        paddingLength datagram = 0 := by
      rw [← UInt8.toNat_inj, byte, gt_iff_lt, UInt64.lt_iff_toNat_lt, UInt8.toNat_toUInt64, byte,
        UInt64.toNat_sub, size]
      simp only [UInt8.reduceToNat]
      omega
    simp only [if_pos padded, refused]
    by_cases zero : paddingLength datagram = 0
    · rw [if_pos zero, if_pos ⟨padded, zero⟩, Option.map_none]
    · rw [if_neg zero, if_neg (fun both => zero both.2), Option.map_some, UInt64.toNat_sub,
        UInt8.toNat_toUInt64, byte, size]
      split
      · refine congrArg some ?_
        omega
      · refine congrArg some ?_
        omega
  · simp only [if_neg padded]
    rw [if_neg (fun both => padded both.1), paddingLength_of_unpadded datagram padded,
      if_neg (Nat.not_lt_zero _), Option.map_some, size, Nat.sub_zero]

/-! ### The parser against the format -/

/-- What the parser returns once the fixed header is accepted, read off the two helpers. -/
theorem parseRtp_eq_some (datagram : Datagram) (packet : RtpPacket)
    (parsed : parseRtp datagram = some packet) : HeaderAccepted datagram ∧
      ∃ offset finish, payloadOffset datagram = some offset ∧
        payloadEnd datagram offset = some finish ∧ offset ≤ finish ∧
        packet.payload = { offset := offset, count := finish - offset } := by
  have size := datagram.size_toNat
  unfold parseRtp at parsed
  by_cases short : datagram.size < kRtpHeaderSize
  · rw [if_pos short] at parsed
    cases parsed
  rw [if_neg short] at parsed
  by_cases version : datagram.byteAt 0 >>> 6 ≠ 2
  · rw [if_pos version] at parsed
    cases parsed
  rw [if_neg version] at parsed
  by_cases rtcp : 200 ≤ datagram.byteAt 1 ∧ datagram.byteAt 1 ≤ 204
  · simp only [if_pos rtcp] at parsed
    cases parsed
  simp only [if_neg rtcp, Option.bind_eq_bind, Option.bind_eq_some_iff] at parsed
  obtain ⟨offset, offsetEq, finish, finishEq, rest⟩ := parsed
  refine ⟨⟨?_, not_not.mp version, rtcp⟩, offset, finish, offsetEq, finishEq, ?_⟩
  · rw [UInt64.lt_iff_toNat_lt, size] at short
    exact Nat.not_lt.mp short
  · by_cases beyond : offset > finish
    · rw [if_pos beyond] at rest
      cases rest
    · rw [if_neg beyond] at rest
      exact ⟨UInt64.not_lt.mp beyond, (congrArg RtpPacket.payload (Option.some.inj rest)).symm⟩

theorem parseRtp_isSome (datagram : Datagram) (accepted : HeaderAccepted datagram)
    (offset finish : UInt64) (offsetEq : payloadOffset datagram = some offset)
    (finishEq : payloadEnd datagram offset = some finish) (ordered : offset ≤ finish) :
    ∃ packet, parseRtp datagram = some packet := by
  obtain ⟨long, version, notRtcp⟩ := accepted
  have notShort : ¬ datagram.size < kRtpHeaderSize := by
    rw [UInt64.lt_iff_toNat_lt, datagram.size_toNat]
    exact Nat.not_lt.mpr long
  unfold parseRtp
  rw [if_neg notShort, if_neg (not_not.mpr version)]
  simp only [if_neg notRtcp, offsetEq, finishEq, Option.bind_eq_bind, Option.bind_some,
    if_neg (UInt64.not_lt.mpr ordered), gt_iff_lt]
  exact ⟨_, rfl⟩

theorem headerEnd_lt (datagram : Datagram) (offset : Nat)
    (ends : headerEnd datagram = some offset) : offset < 2 ^ 20 := by
  have bound := nibble_le (datagram.byteAt 0)
  have words := (read16 datagram (UInt64.ofNat (csrcEnd datagram + 2))).toNat_lt
  unfold headerEnd at ends
  split at ends
  · split at ends
    · rw [← Option.some.inj ends]
      unfold csrcEnd at words ⊢
      omega
    · cases ends
  · rw [← Option.some.inj ends]
    unfold csrcEnd
    omega

theorem payloadOffset_of_headerEnd (datagram : Datagram) (place : Nat)
    (ends : headerEnd datagram = some place) :
    ∃ offset : UInt64, payloadOffset datagram = some offset ∧ offset.toNat = place := by
  rw [← payloadOffset_toNat] at ends
  exact Option.map_eq_some_iff.mp ends

/-- The parser returns a packet for the well-formed datagrams and for those on which the
padding check wraps. -/
theorem parseRtp_isSome_iff (datagram : Datagram) :
    (∃ packet, parseRtp datagram = some packet) ↔
      (∃ offset, WellFormedAt datagram offset) ∨ PaddingWraps datagram := by
  constructor
  · rintro ⟨packet, parsed⟩
    obtain ⟨accepted, offset, finish, offsetEq, finishEq, ordered, -⟩ :=
      parseRtp_eq_some datagram packet parsed
    have ends : headerEnd datagram = some offset.toNat := by
      rw [← payloadOffset_toNat, offsetEq, Option.map_some]
    have finishNat : (payloadEnd datagram offset).map UInt64.toNat = some finish.toNat := by
      rw [finishEq, Option.map_some]
    rw [UInt64.le_iff_toNat_le] at ordered
    by_cases inside : offset.toNat ≤ datagram.bytes.length
    · rw [payloadEnd_inside datagram offset accepted.1 inside] at finishNat
      split at finishNat
      · cases finishNat
      · rename_i passed
        refine Or.inl ⟨offset.toNat, accepted, ends, inside, fun padded => ?_⟩
        simp only [padded, not_false_eq_true, ne_eq, true_and, not_or] at passed
        omega
    · have past : datagram.bytes.length < offset.toNat := Nat.not_le.mp inside
      rw [payloadEnd_past datagram offset accepted.1 past (headerEnd_lt datagram _ ends)]
        at finishNat
      split at finishNat
      · cases finishNat
      · split at finishNat
        · rename_i wraps
          refine Or.inr ⟨accepted, fun unpadded => ?_, wraps, offset.toNat, ends, past⟩
          rw [paddingLength_of_unpadded datagram (not_not.mpr unpadded)] at wraps
          exact Nat.not_lt_zero _ wraps
        · have finishEnd := Option.some.inj finishNat
          omega
  · rintro (⟨place, accepted, ends, inside, padding⟩ | ⟨accepted, padded, wraps, place, ends, past⟩)
    · obtain ⟨offset, offsetEq, rfl⟩ := payloadOffset_of_headerEnd datagram place ends
      have finishNat := payloadEnd_inside datagram offset accepted.1 inside
      have passed : ¬ (datagram.byteAt 0 &&& 0x20 ≠ 0 ∧ (paddingLength datagram = 0 ∨
          datagram.bytes.length < offset.toNat + paddingLength datagram)) := by
        rintro ⟨padded, bad⟩
        have good := padding padded
        omega
      rw [if_neg passed] at finishNat
      obtain ⟨finish, finishEq, finishEnd⟩ := Option.map_eq_some_iff.mp finishNat
      refine parseRtp_isSome datagram accepted offset finish offsetEq finishEq ?_
      rw [UInt64.le_iff_toNat_le, finishEnd]
      by_cases padded : datagram.byteAt 0 &&& 0x20 ≠ 0
      · have good := padding padded
        omega
      · rw [paddingLength_of_unpadded datagram padded]
        omega
    · obtain ⟨offset, offsetEq, rfl⟩ := payloadOffset_of_headerEnd datagram place ends
      have near := headerEnd_lt datagram _ ends
      have byteBound := paddingLength_lt datagram
      have finishNat := payloadEnd_past datagram offset accepted.1 past near
      rw [if_neg (fun both => by omega), if_pos wraps] at finishNat
      obtain ⟨finish, finishEq, finishEnd⟩ := Option.map_eq_some_iff.mp finishNat
      refine parseRtp_isSome datagram accepted offset finish offsetEq finishEq ?_
      rw [UInt64.le_iff_toNat_le, finishEnd]
      omega

/-- On a well-formed datagram the payload is the slice between the headers and the padding. -/
theorem parseRtp_payload (datagram : Datagram) (packet : RtpPacket)
    (parsed : parseRtp datagram = some packet) (place : Nat)
    (formed : WellFormedAt datagram place) :
    packet.payload.read datagram =
      some ((datagram.bytes.take (datagram.bytes.length - paddingLength datagram)).drop place) := by
  obtain ⟨accepted, ends, inside, padding⟩ := formed
  obtain ⟨-, offset, finish, offsetEq, finishEq, ordered, payload⟩ :=
    parseRtp_eq_some datagram packet parsed
  obtain ⟨other, otherEq, rfl⟩ := payloadOffset_of_headerEnd datagram place ends
  rw [offsetEq] at otherEq
  cases otherEq
  have finishNat : (payloadEnd datagram offset).map UInt64.toNat = some finish.toNat := by
    rw [finishEq, Option.map_some]
  rw [payloadEnd_inside datagram offset accepted.1 inside] at finishNat
  split at finishNat
  · cases finishNat
  · have finishEnd := (Option.some.inj finishNat).symm
    have fits := datagram.fits
    rw [UInt64.le_iff_toNat_le] at ordered
    have count : (finish - offset).toNat = finish.toNat - offset.toNat := by
      have finishFits := finish.toNat_lt
      rw [UInt64.toNat_sub]
      omega
    unfold Subspan.read
    rw [payload]
    dsimp only
    rw [count, if_pos (by omega), ← finishEnd, List.drop_take]

/-- The parser follows the format exactly on the datagrams whose padding check does not wrap. -/
theorem parsedAsFormatted_iff (datagram : Datagram) :
    ParsedAsFormatted datagram ↔ ¬ PaddingWraps datagram := by
  constructor
  · rintro ⟨returned, -⟩ wraps
    obtain ⟨offset, -, ends, inside, -⟩ :=
      returned.mp ((parseRtp_isSome_iff datagram).mpr (Or.inr wraps))
    obtain ⟨-, -, -, other, otherEnds, past⟩ := wraps
    rw [ends] at otherEnds
    cases otherEnds
    omega
  · intro safe
    have returned : (∃ packet, parseRtp datagram = some packet) ↔
        ∃ offset, WellFormedAt datagram offset := by
      rw [parseRtp_isSome_iff, or_iff_left safe]
    refine ⟨returned, fun packet parsed place ends => ?_⟩
    obtain ⟨offset, formed⟩ := returned.mp ⟨packet, parsed⟩
    have same := formed.2.1
    rw [ends] at same
    cases same
    exact parseRtp_payload datagram packet parsed place formed

/-- Twelve bytes that announce one CSRC and 255 bytes of padding. -/
def overlongPadding : Datagram where
  bytes := [0xa1, 0x08, 0, 1, 0, 0, 0, 0, 0, 0, 0, 0xff]
  fits := by decide

/-- The twelve-byte datagram is accepted, with a payload that starts four bytes past its end
and claims almost the whole address space. -/
theorem overlongPadding_not_parsedAsFormatted : ¬ ParsedAsFormatted overlongPadding := by
  rintro ⟨returned, -⟩
  have parsed : parseRtp overlongPadding = some {
      header := { payloadType := 8, marker := false, sequence := 1, timestamp := 0, ssrc := 255 }
      payload := { offset := 16, count := 18446744073709551357 } } := by decide
  obtain ⟨offset, -, ends, inside, -⟩ := returned.mp ⟨_, parsed⟩
  have sixteen : headerEnd overlongPadding = some 16 := by decide
  rw [sixteen] at ends
  cases ends
  exact absurd inside (by decide)

/-! ### What is written -/

theorem toNat_pair (high low : UInt8) :
    (high.toUInt16 <<< 8 ||| low.toUInt16).toNat = high.toNat * 2 ^ 8 + low.toNat := by
  have small : low.toNat < 2 ^ 8 := low.toNat_lt
  have shifted : (high.toUInt16 <<< 8).toNat = high.toNat <<< 8 := by
    rw [UInt16.toNat_shiftLeft]
    refine Nat.mod_eq_of_lt ?_
    rw [UInt8.toNat_toUInt16, show UInt16.toNat 8 % 16 = 8 from rfl, Nat.shiftLeft_eq]
    have := high.toNat_lt
    omega
  rw [UInt16.toNat_or, shifted, UInt8.toNat_toUInt16, ← Nat.shiftLeft_add_eq_or_of_lt small,
    Nat.shiftLeft_eq]

theorem toNat_byte_shiftLeft (byte : UInt8) (places : Nat) (place : UInt32)
    (named : place.toNat = places) (room : places ≤ 24) :
    (byte.toUInt32 <<< place).toNat = byte.toNat <<< places := by
  have bound : byte.toNat < 2 ^ 8 := byte.toNat_lt
  have fits : byte.toNat * 2 ^ places < 2 ^ 32 :=
    calc byte.toNat * 2 ^ places < 2 ^ 8 * 2 ^ places :=
          Nat.mul_lt_mul_of_pos_right bound (Nat.two_pow_pos _)
      _ = 2 ^ (8 + places) := (Nat.pow_add ..).symm
      _ ≤ 2 ^ 32 := Nat.pow_le_pow_right (by decide) (by omega)
  rw [UInt32.toNat_shiftLeft, UInt8.toNat_toUInt32, named,
    Nat.mod_eq_of_lt (show places < 32 by omega), Nat.shiftLeft_eq, Nat.mod_eq_of_lt fits]

theorem toNat_quad (first second third fourth : UInt8) :
    (first.toUInt32 <<< 24 ||| second.toUInt32 <<< 16 ||| third.toUInt32 <<< 8 |||
        fourth.toUInt32).toNat =
      first.toNat * 2 ^ 24 + second.toNat * 2 ^ 16 + third.toNat * 2 ^ 8 + fourth.toNat := by
  have last : fourth.toNat < 2 ^ 8 := fourth.toNat_lt
  have bounds : third.toNat < 2 ^ 8 ∧ second.toNat < 2 ^ 8 :=
    ⟨third.toNat_lt, second.toNat_lt⟩
  have pair : third.toNat <<< 8 + fourth.toNat < 2 ^ 16 := by
    rw [Nat.shiftLeft_eq]
    omega
  have triple : second.toNat <<< 16 + (third.toNat <<< 8 + fourth.toNat) < 2 ^ 24 := by
    rw [Nat.shiftLeft_eq second.toNat]
    omega
  rw [UInt32.toNat_or, UInt32.toNat_or, UInt32.toNat_or,
    toNat_byte_shiftLeft first 24 24 rfl (by decide),
    toNat_byte_shiftLeft second 16 16 rfl (by decide),
    toNat_byte_shiftLeft third 8 8 rfl (by decide),
    UInt8.toNat_toUInt32, Nat.or_assoc, Nat.or_assoc, ← Nat.shiftLeft_add_eq_or_of_lt last,
    ← Nat.shiftLeft_add_eq_or_of_lt pair, ← Nat.shiftLeft_add_eq_or_of_lt triple,
    Nat.shiftLeft_eq, Nat.shiftLeft_eq, Nat.shiftLeft_eq]
  omega

theorem pair_eq (value : UInt16) :
    (value >>> 8).toUInt8.toUInt16 <<< 8 ||| value.toUInt8.toUInt16 = value := by
  have bound := value.toNat_lt
  have high : (value >>> 8).toUInt8.toNat = value.toNat / 2 ^ 8 % 2 ^ 8 := by
    rw [UInt16.toNat_toUInt8, UInt16.toNat_shiftRight]
    exact congrArg (· % 2 ^ 8) (Nat.shiftRight_eq_div_pow _ _)
  apply UInt16.toNat_inj.mp
  rw [toNat_pair, high, UInt16.toNat_toUInt8]
  omega

theorem quad_eq (value : UInt32) :
    (value >>> 24).toUInt8.toUInt32 <<< 24 ||| (value >>> 16).toUInt8.toUInt32 <<< 16 |||
      (value >>> 8).toUInt8.toUInt32 <<< 8 ||| (value >>> 0).toUInt8.toUInt32 = value := by
  have bound := value.toNat_lt
  have byte (shift : UInt32) : (value >>> shift).toUInt8.toNat =
      value.toNat / 2 ^ (shift.toNat % 32) % 2 ^ 8 := by
    rw [UInt32.toNat_toUInt8, UInt32.toNat_shiftRight, Nat.shiftRight_eq_div_pow]
  apply UInt32.toNat_inj.mp
  rw [toNat_quad, byte, byte, byte, byte]
  have places : UInt32.toNat 24 % 32 = 24 ∧ UInt32.toNat 16 % 32 = 16 ∧ UInt32.toNat 8 % 32 = 8 ∧
      UInt32.toNat 0 % 32 = 0 := ⟨rfl, rfl, rfl, rfl⟩
  rw [places.1, places.2.1, places.2.2.1, places.2.2.2]
  omega

/-- The marker and the payload type, in the byte they share. -/
def RtpHeader.second (header : RtpHeader) : UInt8 :=
  (if header.marker then 0x80 else 0) ||| (header.payloadType &&& 0x7f)

theorem RtpHeader.second_spec {header : RtpHeader} (small : header.payloadType < 128) :
    header.second &&& 0x7f = header.payloadType ∧
      decide (header.second &&& 0x80 ≠ 0) = header.marker ∧
        header.second.toNat = (if header.marker then 128 else 0) + header.payloadType.toNat := by
  have all : ∀ (marker : Bool) (payload : Fin 128),
      let second := (if marker then 0x80 else 0) ||| (UInt8.ofNat payload &&& 0x7f)
      second &&& 0x7f = UInt8.ofNat payload ∧ decide (second &&& 0x80 ≠ 0) = marker ∧
        second.toNat = (if marker then 128 else 0) + (UInt8.ofNat payload).toNat := by
    decide +kernel
  have found := all header.marker ⟨header.payloadType.toNat, UInt8.lt_iff_toNat_lt.mp small⟩
  rwa [UInt8.ofNat_toNat] at found

/-- A packet with no padding, no extension and no CSRC list. -/
theorem parseRtp_plain {datagram : Datagram} (plain : datagram.byteAt 0 = 0x80)
    (long : 12 ≤ datagram.bytes.length)
    (apart : ¬ (200 ≤ datagram.byteAt 1 ∧ datagram.byteAt 1 ≤ 204)) :
    parseRtp datagram = some {
      header := {
        marker := datagram.byteAt 1 &&& 0x80 ≠ 0
        payloadType := datagram.byteAt 1 &&& 0x7f
        sequence := read16 datagram 2
        timestamp := read32 datagram 4
        ssrc := read32 datagram 8 }
      payload := { offset := 12, count := datagram.size - 12 } } := by
  have size := datagram.size_toNat
  have whole : ¬ datagram.size < kRtpHeaderSize := by
    rw [UInt64.lt_iff_toNat_lt, size]
    exact Nat.not_lt.mpr long
  have inside : ¬ (12 : UInt64) > datagram.size := whole
  have offset : payloadOffset datagram = some 12 := by
    unfold payloadOffset
    rw [plain]
    rfl
  have finish : payloadEnd datagram 12 = some datagram.size := by
    unfold payloadEnd
    rw [plain]
    rfl
  unfold parseRtp
  rw [if_neg whole, plain, if_neg (by decide)]
  dsimp only
  rw [if_neg apart, offset, Option.bind_eq_bind, Option.bind_some, finish, Option.bind_some,
    if_neg inside]

theorem writeRtp_eq {room : Nat} {header : RtpHeader} {payload : List UInt8}
    (enough : 12 + payload.length ≤ room) :
    writeRtp room header payload = [0x80, header.second,
      (header.sequence >>> 8).toUInt8, header.sequence.toUInt8,
      (header.timestamp >>> 24).toUInt8, (header.timestamp >>> 16).toUInt8,
      (header.timestamp >>> 8).toUInt8, (header.timestamp >>> 0).toUInt8,
      (header.ssrc >>> 24).toUInt8, (header.ssrc >>> 16).toUInt8,
      (header.ssrc >>> 8).toUInt8, (header.ssrc >>> 0).toUInt8] ++ payload :=
  if_neg (Nat.not_lt.mpr enough)

/-- What was written is read back. -/
theorem parseRtp_writeRtp {room : Nat} {header : RtpHeader} {payload : List UInt8}
    (enough : 12 + payload.length ≤ room) (small : header.payloadType < 128)
    (apart : ¬ (200 ≤ header.second ∧ header.second ≤ 204))
    (fits : (writeRtp room header payload).length < 2 ^ 64) :
    parseRtp ⟨writeRtp room header payload, fits⟩ =
      some { header, payload := { offset := 12, count := UInt64.ofNat payload.length } } := by
  obtain ⟨type, marker, -⟩ := RtpHeader.second_spec small
  revert fits
  rw [writeRtp_eq enough]
  intro fits
  let datagram : Datagram := ⟨_, fits⟩
  have size : datagram.size - 12 = UInt64.ofNat payload.length := by
    have length : datagram.bytes.length = payload.length + 12 :=
      List.length_append.trans (Nat.add_comm _ _)
    have room : payload.length < 2 ^ 64 :=
      Nat.lt_of_le_of_lt (Nat.le_add_right _ 12) (length ▸ fits)
    have whole : 12 ≤ datagram.size := by
      rw [UInt64.le_iff_toNat_le, datagram.size_toNat, length]
      exact Nat.le_add_left 12 _
    apply UInt64.toNat_inj.mp
    rw [UInt64.toNat_sub_of_le _ _ whole, datagram.size_toNat, length,
      UInt64.toNat_ofNat_of_lt' room]
    exact Nat.add_sub_cancel _ _
  have sequence : read16 datagram 2 = header.sequence := pair_eq header.sequence
  have timestamp : read32 datagram 4 = header.timestamp := quad_eq header.timestamp
  have ssrc : read32 datagram 8 = header.ssrc := quad_eq header.ssrc
  have second : datagram.byteAt 1 = header.second := rfl
  have long : 12 ≤ datagram.bytes.length := by simp [datagram]
  rw [parseRtp_plain (show datagram.byteAt 0 = 0x80 from rfl) long apart, size, sequence, timestamp,
    ssrc, second, type, marker]

end KetPhone.Media
