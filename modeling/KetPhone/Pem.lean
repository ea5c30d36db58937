/-
This file models `net/pem.cpp`, which reads the trust anchors, and proves that it
reads all of them or none.

The reader looks for markers by their text alone. What stands before a marker has no
dash, and a body does not name the end of a certificate, so the first occurrence of
each marker is the one that was meant: an earlier one would have to overlap it, and a
marker does not overlap with itself by more than its dashes.
-/

import KetPhone.Base64

namespace KetPhone.Net

open List Sip

/-! ### The code -/

def kBegin : Bytes := ascii "-----BEGIN CERTIFICATE-----"

def kEnd : Bytes := ascii "-----END CERTIFICATE-----"

/-- A body without CR, LF, blanks and tabs. -/
def unwrapped (body : Bytes) : Bytes :=
  body.filter fun byte => byte != 13 && byte != 10 && byte != 32 && byte != 9

/-- The loop of `pem_certificates`. Each round removes a marker, so that there are fewer rounds than
bytes. -/
def pemLoop : Nat → Bytes → List Bytes → Option (List Bytes)
  | 0, _, _ => none
  | rounds + 1, pem, out =>
    match findText kBegin pem with
    | none => if out.isEmpty then none else some out
    | some first =>
      let pem := pem.drop (first + kBegin.length)
      match findText kEnd pem with
      | none => none
      | some last =>
        match base64Decode (unwrapped (pem.take last)) with
        | none => none
        | some der =>
          if der.isEmpty then none
          else pemLoop rounds (pem.drop (last + kEnd.length)) (out ++ [der])

def pemCertificates (pem : Bytes) : Option (List Bytes) := pemLoop (pem.length + 1) pem []

/-! ### Markers -/

theorem findText_skip {needle front rest : Bytes}
    (absent : ∀ suffix, suffix ≠ [] → suffix <:+ front → ¬ needle <+: suffix ++ rest) :
    findText needle (front ++ rest) = (findText needle rest).map (· + front.length) := by
  induction front with
  | nil => simp
  | cons byte front hypothesis =>
    have notHere : ¬ needle <+: byte :: (front ++ rest) :=
      absent (byte :: front) (cons_ne_nil _ _) suffix_rfl
    have later := hypothesis fun suffix nonempty inside =>
      absent suffix nonempty (inside.trans (suffix_cons _ _))
    rw [cons_append, findText_cons, if_neg notHere, later, Option.map_map, length_cons]
    rfl

theorem findText_self {needle : Bytes} (nonempty : needle ≠ []) (rest : Bytes) :
    findText needle (needle ++ rest) = some 0 := by
  obtain ⟨byte, needle, rfl⟩ := exists_cons_of_ne_nil nonempty
  rw [cons_append, findText_cons, if_pos]
  exact prefix_append (byte :: needle) rest

/-- A text without a dash has no marker in it. -/
theorem findText_marker {needle front : Bytes} (rest : Bytes) (dash : needle.head? = some 45)
    (plain : 45 ∉ front) :
    findText needle (front ++ rest) = (findText needle rest).map (· + front.length) := by
  refine findText_skip fun suffix nonempty inside overlap => plain (inside.subset ?_)
  obtain ⟨byte, suffix, rfl⟩ := exists_cons_of_ne_nil nonempty
  obtain ⟨more, whole⟩ := overlap
  cases needle with
  | nil => cases dash
  | cons first needle =>
    cases dash
    rw [cons_append, cons_append] at whole
    rw [(cons.inj whole).1]
    exact mem_cons_self

theorem findText_marker_none {needle text : Bytes} (dash : needle.head? = some 45)
    (plain : 45 ∉ text) : findText needle text = none := by
  have skipped := findText_marker [] dash plain
  rw [append_nil] at skipped
  rw [skipped]
  cases needle with
  | nil => cases dash
  | cons first needle => rfl

/-- A body that does not name the end of a certificate. -/
def Unended (body : Bytes) : Prop := ¬ ascii "END CERTIFICATE" <:+: body

/-- An end marker that begins in such a body ends behind it. -/
theorem Unended.overlap {body suffix rest : Bytes} (unended : Unended body)
    (inside : suffix <:+ body)
    (overlap : kEnd <+: suffix ++ rest) :
    suffix.length < 20 ∧ kEnd.drop suffix.length <+: rest := by
  obtain ⟨more, whole⟩ := overlap
  have short : suffix.length < 20 := by
    by_contra long
    have named : ascii "END CERTIFICATE" <:+: kEnd.take 20 := ⟨ascii "-----", [], by decide +kernel⟩
    have begins := take_prefix 20 kEnd
    have first : kEnd.take 20 <+: suffix :=
      prefix_of_prefix_length_le (begins.trans (whole ▸ prefix_append kEnd more))
        (prefix_append suffix rest) ((length_take_le 20 kEnd).trans (Nat.not_lt.mp long))
    exact unended ((named.trans first.isInfix).trans inside.isInfix)
  have long : kEnd.length = 25 := by decide
  refine ⟨short, more, ?_⟩
  have dropped := congrArg (drop suffix.length) whole
  rwa [drop_append_of_le_length (by omega), drop_left] at dropped

theorem findText_kEnd {body : Bytes} (unended : Unended body) (rest : Bytes) :
    findText kEnd (body ++ (kEnd ++ rest)) = some body.length := by
  rw [findText_skip, findText_self (by decide)]
  · simp
  · intro suffix nonempty inside overlap
    obtain ⟨short, shifted⟩ := unended.overlap inside overlap
    have border : kEnd.drop suffix.length <+: kEnd :=
      prefix_of_prefix_length_le shifted (prefix_append _ _) (by rw [length_drop]; omega)
    -- The marker has no border that is shorter than it by less than 20.
    have borderless : ∀ places < 20, 0 < places → ¬ kEnd.drop places <+: kEnd := by
      decide +kernel
    exact borderless _ short (length_pos_iff.mpr nonempty) border

theorem findText_kEnd_none {body trail : Bytes} (unended : Unended body) (plain : 45 ∉ trail) :
    findText kEnd (body ++ trail) = none := by
  rw [findText_skip, findText_marker_none rfl plain]
  · rfl
  · intro suffix nonempty inside overlap
    obtain ⟨short, shifted⟩ := unended.overlap inside overlap
    have dash : ∀ places < 20, 45 ∈ kEnd.drop places := by decide +kernel
    exact plain (shifted.subset (dash _ short))

/-! ### Blocks -/

/-- A certificate with what stands before its begin marker: lines without a dash. -/
structure PemBlock where
  lead : Bytes
  body : Bytes
  plain : 45 ∉ lead
  unended : Unended body

namespace PemBlock

def text (block : PemBlock) : Bytes := block.lead ++ (kBegin ++ (block.body ++ kEnd))

/-- A certificate whose end marker is missing. -/
def unfinished (block : PemBlock) : Bytes := block.lead ++ (kBegin ++ block.body)

/-- What the body stands for, when that is something. -/
def certificate (block : PemBlock) : Option Bytes :=
  (base64Decode (unwrapped block.body)).filter (!·.isEmpty)

end PemBlock

/-- Blocks with the lines behind them. -/
structure PemText where
  blocks : List PemBlock
  trail : Bytes
  plain : 45 ∉ trail

def PemText.text (pem : PemText) : Bytes := pem.blocks.flatMap PemBlock.text ++ pem.trail

/-- One round reads one block. -/
theorem pemLoop_block (rounds : Nat) (block : PemBlock) (rest : Bytes) (out : List Bytes) :
    pemLoop (rounds + 1) (block.text ++ rest) out =
      block.certificate.bind fun der => pemLoop rounds rest (out ++ [der]) := by
  have begin : findText kBegin (block.text ++ rest) = some block.lead.length := by
    unfold PemBlock.text
    rw [append_assoc, append_assoc, findText_marker _ (by decide) block.plain,
      findText_self (by decide)]
    simp
  have behind : (block.text ++ rest).drop (block.lead.length + kBegin.length) =
      block.body ++ (kEnd ++ rest) := by
    unfold PemBlock.text
    rw [append_assoc, append_assoc, append_assoc, drop_append, drop_append]
    simp
  have after : (block.body ++ (kEnd ++ rest)).drop (block.body.length + kEnd.length) = rest := by
    rw [← append_assoc, drop_left']
    exact length_append
  rw [pemLoop, begin]
  dsimp only
  rw [behind, findText_kEnd block.unended]
  dsimp only
  unfold PemBlock.certificate
  rw [take_left, after]
  cases base64Decode (unwrapped block.body) with
  | none => rfl
  | some der =>
    cases der with
    | nil => rfl
    | cons byte der => rfl

theorem pemLoop_plain (rounds : Nat) {trail : Bytes} (plain : 45 ∉ trail) (out : List Bytes) :
    pemLoop (rounds + 1) trail out = if out.isEmpty then none else some out := by
  unfold pemLoop
  rw [findText_marker_none (by decide) plain]

theorem pemLoop_unfinished (rounds : Nat) (block : PemBlock) {trail : Bytes} (plain : 45 ∉ trail)
    (out : List Bytes) : pemLoop (rounds + 1) (block.unfinished ++ trail) out = none := by
  have begin : findText kBegin (block.unfinished ++ trail) = some block.lead.length := by
    unfold PemBlock.unfinished
    rw [append_assoc, append_assoc, findText_marker _ (by decide) block.plain,
      findText_self (by decide)]
    simp
  have behind : (block.unfinished ++ trail).drop (block.lead.length + kBegin.length) =
      block.body ++ trail := by
    unfold PemBlock.unfinished
    rw [append_assoc, append_assoc, drop_append, drop_append]
    simp
  unfold pemLoop
  rw [begin]
  dsimp only
  rw [behind, findText_kEnd_none block.unended plain]

/-- The rounds read the blocks one by one and give up at the first that is no certificate. -/
theorem pemLoop_blocks (blocks : List PemBlock) (rounds : Nat) (rest : Bytes) (out : List Bytes) :
    pemLoop (rounds + blocks.length) (blocks.flatMap PemBlock.text ++ rest) out =
      (blocks.mapM PemBlock.certificate).bind fun ders => pemLoop rounds rest (out ++ ders) := by
  induction blocks generalizing out with
  | nil => simp
  | cons block blocks hypothesis =>
    rw [flatMap_cons, append_assoc, length_cons, ← Nat.add_assoc, pemLoop_block, mapM_cons]
    cases block.certificate with
    | none => rfl
    | some der =>
      show pemLoop _ _ _ = _
      rw [hypothesis]
      cases blocks.mapM PemBlock.certificate with
      | none => rfl
      | some ders =>
        show pemLoop rounds rest (out ++ [der] ++ ders) = pemLoop rounds rest (out ++ (der :: ders))
        rw [append_assoc]
        rfl

theorem length_le_flatMap (blocks : List PemBlock) :
    blocks.length ≤ (blocks.flatMap PemBlock.text).length := by
  induction blocks with
  | nil => exact Nat.zero_le _
  | cons block blocks hypothesis =>
    have nonempty : 1 ≤ block.text.length := by
      have marker : kBegin.length = 27 := by decide
      unfold PemBlock.text
      rw [length_append, length_append]
      omega
    rw [flatMap_cons, length_append, length_cons]
    omega

theorem pemCertificates_append (blocks : List PemBlock) (rest : Bytes) :
    ∃ rounds, pemCertificates (blocks.flatMap PemBlock.text ++ rest) =
      (blocks.mapM PemBlock.certificate).bind fun ders => pemLoop (rounds + 1) rest ders := by
  have enough := length_le_flatMap blocks
  refine ⟨(blocks.flatMap PemBlock.text ++ rest).length - blocks.length, ?_⟩
  have counted : (blocks.flatMap PemBlock.text ++ rest).length + 1 =
      (blocks.flatMap PemBlock.text ++ rest).length - blocks.length + 1 + blocks.length := by
    rw [length_append]
    omega
  unfold pemCertificates
  rw [counted, pemLoop_blocks]
  rfl

theorem mapM_certificate {blocks : List PemBlock} {ders : List Bytes}
    (nonempty : ∀ der ∈ ders, der ≠ [])
    (decoded : blocks.map (fun block => base64Decode (unwrapped block.body)) = ders.map some) :
    blocks.mapM PemBlock.certificate = some ders := by
  induction blocks generalizing ders with
  | nil => simp_all
  | cons block blocks hypothesis =>
    cases ders with
    | nil => cases decoded
    | cons der ders =>
      obtain ⟨first, rest⟩ := cons.inj decoded
      have here : block.certificate = some der := by
        unfold PemBlock.certificate
        dsimp only at first
        rw [first]
        exact if_pos (by simpa using nonempty der mem_cons_self)
      have others := hypothesis (fun other member => nonempty other (mem_cons_of_mem _ member)) rest
      rw [mapM_cons, here, others]
      rfl

theorem mapM_certificate_none {blocks : List PemBlock} {block : PemBlock} (member : block ∈ blocks)
    (fails : ∀ der, base64Decode (unwrapped block.body) = some der → der = []) :
    blocks.mapM PemBlock.certificate = none := by
  induction blocks with
  | nil => exact absurd member not_mem_nil
  | cons first blocks hypothesis =>
    rw [mapM_cons]
    rcases mem_cons.mp member with rfl | later
    · have here : block.certificate = none := by
        unfold PemBlock.certificate
        cases decoded : base64Decode (unwrapped block.body) with
        | none => rfl
        | some der =>
          rw [fails der decoded]
          rfl
      rw [here]
      rfl
    · rw [hypothesis later]
      cases first.certificate <;> rfl

/-- The certificates are read completely or not at all. -/
theorem pemCertificates_all_or_none (pem : PemText) :
    (∀ ders, pem.blocks ≠ [] → (∀ der ∈ ders, der ≠ []) →
        pem.blocks.map (fun block => base64Decode (unwrapped block.body)) = ders.map some →
        pemCertificates pem.text = some ders) ∧
      ((∃ block ∈ pem.blocks, ∀ der, base64Decode (unwrapped block.body) = some der → der = []) →
        pemCertificates pem.text = none) ∧
      (pem.blocks = [] → pemCertificates pem.text = none) ∧
      ∀ last : PemBlock,
        pemCertificates (pem.blocks.flatMap PemBlock.text ++ (last.unfinished ++ pem.trail)) =
          none := by
  obtain ⟨rounds, whole⟩ := pemCertificates_append pem.blocks pem.trail
  refine ⟨fun ders blocks nonempty decoded => ?_, ?_, fun empty => ?_, fun last => ?_⟩
  · have length := congrArg List.length decoded
    rw [length_map, length_map] at length
    have more : ders.isEmpty = false := by
      cases ders with
      | nil => exact absurd (length_eq_zero_iff.mp length) blocks
      | cons der ders => rfl
    unfold PemText.text
    rw [whole, mapM_certificate nonempty decoded, Option.bind_some,
      pemLoop_plain rounds pem.plain, more]
    rfl
  · rintro ⟨block, member, fails⟩
    unfold PemText.text
    rw [whole, mapM_certificate_none member fails]
    rfl
  · unfold PemText.text
    rw [whole, empty]
    exact pemLoop_plain rounds pem.plain []
  · obtain ⟨more, cut⟩ := pemCertificates_append pem.blocks (last.unfinished ++ pem.trail)
    rw [cut]
    cases pem.blocks.mapM PemBlock.certificate with
    | none => rfl
    | some ders => exact pemLoop_unfinished more last pem.plain ders

end KetPhone.Net
