/-
This file follows line feeds through the readers of SIP texts. A text without a
line feed is unbroken: written into a header it stays one line. Whatever a parsed
message gives for a header is unbroken, because the parser cut the head at line
feeds, and so is everything read out of such a value: a URI, a parameter of a
challenge, the answer to a challenge.
-/

import KetPhone.Building
import KetPhone.Digest
import KetPhone.Packet

namespace KetPhone.Sip

open List

variable {challenge : Challenge} {headers : Headers} {text line : Bytes} (value : Bytes)

/-- A text without a line feed. -/
def Unbroken (text : Bytes) : Prop := 10 ∉ text

instance (text : Bytes) : Decidable (Unbroken text) := inferInstanceAs (Decidable (10 ∉ text))

/-! ### Parts of a text -/

theorem Unbroken.part {part : Bytes} (unbroken : Unbroken text) (inside : part ⊆ text) :
    Unbroken part :=
  fun member => unbroken (inside member)

@[simp]
theorem unbroken_nil : Unbroken [] := not_mem_nil

@[simp]
theorem unbroken_append {first second : Bytes} :
    Unbroken (first ++ second) ↔ Unbroken first ∧ Unbroken second := by
  unfold Unbroken
  rw [mem_append, not_or]

theorem trim_subset : trim value ⊆ value := by
  have kept : trim value <+: value.dropWhile isBlank := rdropWhile_prefix _ _
  exact List.Subset.trans kept.subset (dropWhile_sublist _).subset

theorem upTo_subset (place : Option Nat) (text : Bytes) : upTo place text ⊆ text := by
  cases place with
  | none => exact List.Subset.refl text
  | some index => exact take_subset index text

theorem uriOf_subset (nameAddr : Bytes) : uriOf nameAddr ⊆ nameAddr := by
  have bare : trim (upTo (findByte 59 nameAddr) nameAddr) ⊆ nameAddr :=
    List.Subset.trans (trim_subset _) (upTo_subset _ _)
  unfold uriOf
  dsimp only
  split
  · exact bare
  · split
    · exact bare
    · exact List.Subset.trans (trim_subset _)
        (List.Subset.trans (take_subset _ _) (drop_subset _ _))

theorem trim_uriOf (nameAddr : Bytes) : trim (uriOf nameAddr) = uriOf nameAddr := by
  unfold uriOf
  dsimp only
  split
  · exact trim_trim _
  · split <;> exact trim_trim _

/-! ### Texts of digits and letters -/

theorem unbroken_decimal (number : Nat) : Unbroken (decimal number) :=
  MessageBuilder.notMem_decimal number

theorem md5Hex_subset (input : Bytes) : md5Hex input ⊆ 0 :: kHex := by
  have digit (index : Nat) : kHex.getD index 0 ∈ 0 :: kHex := by
    rw [getD_eq_getElem?_getD]
    cases found : kHex[index]? with
    | none => exact mem_cons_self
    | some value => exact mem_cons_of_mem _ (mem_of_getElem? found)
  have word (value : UInt32) : hexWord value ⊆ 0 :: kHex := by
    intro byte member
    obtain ⟨index, -, inside⟩ := mem_flatMap.mp member
    rw [hexByte, mem_cons, mem_singleton] at inside
    rcases inside with rfl | rfl <;> exact digit _
  unfold md5Hex
  dsimp only
  simp [append_subset, word]

theorem unbroken_md5Hex (input : Bytes) : Unbroken (md5Hex input) :=
  fun member => absurd (md5Hex_subset input member) (by decide +kernel)

theorem unbroken_lowercase (unbroken : Unbroken text) : Unbroken (lowercase text) := by
  unfold lowercase Unbroken
  rw [mem_map]
  rintro ⟨byte, member, lower⟩
  have same : byte = 10 := by
    unfold toLower at lower
    split at lower
    next letter =>
      have code := congrArg UInt8.toNat lower
      rw [UInt8.le_iff_toNat_le, UInt8.le_iff_toNat_le] at letter
      rw [UInt8.toNat_add] at code
      simp only [UInt8.reduceToNat] at letter code
      omega
    · exact lower
  exact unbroken (same ▸ member)

/-! ### Parsed messages -/

theorem notMem_pieces (separator : UInt8) (text : Bytes) :
    ∀ piece ∈ pieces separator text, separator ∉ piece := by
  induction text with
  | nil => exact fun _ member => absurd member not_mem_nil
  | cons byte rest hypothesis =>
    unfold pieces
    split
    · intro piece member
      rcases mem_cons.mp member with rfl | later
      · exact not_mem_nil
      · exact hypothesis piece later
    next other =>
      split
      · intro piece member
        rw [mem_singleton.mp member, mem_singleton]
        exact Ne.symm other
      next first others cut =>
        rw [cut] at hypothesis
        intro piece member
        rcases mem_cons.mp member with rfl | later
        · rw [mem_cons, not_or]
          exact ⟨Ne.symm other, hypothesis first mem_cons_self⟩
        · exact hypothesis piece (mem_cons_of_mem _ later)

theorem unbroken_splitLines (member : line ∈ splitLines text) : Unbroken line := by
  obtain ⟨piece, inside, rfl⟩ := mem_map.mp member
  refine Unbroken.part (notMem_pieces 10 text piece inside) ?_
  unfold stripReturn
  split
  · exact (dropLast_sublist _).subset
  · exact List.Subset.refl _

/-- The values of all headers are unbroken. -/
def Headers.Unbroken (headers : Headers) : Prop := ∀ entry ∈ headers, Sip.Unbroken entry.2

theorem Headers.Unbroken.foldOntoLast (unbroken : headers.Unbroken) (more : Sip.Unbroken line) :
    (foldOntoLast line headers).Unbroken := by
  fun_induction Sip.foldOntoLast line headers with
  | case1 => exact unbroken
  | case2 name value =>
    intro entry member
    rw [mem_singleton.mp member]
    have own := unbroken (name, value) (mem_singleton_self _)
    exact unbroken_append.mpr ⟨unbroken_append.mpr ⟨own, by decide⟩, more.part (trim_subset _)⟩
  | case3 first next rest hypothesis =>
    intro entry member
    rcases mem_cons.mp member with rfl | later
    · exact unbroken _ mem_cons_self
    · exact hypothesis
        (fun entry member => unbroken entry (mem_cons_of_mem _ member)) entry later

theorem Headers.Unbroken.addHeaderLine {after : Headers} (unbroken : headers.Unbroken)
    (more : Sip.Unbroken line) (added : addHeaderLine headers line = some after) :
    after.Unbroken := by
  unfold Sip.addHeaderLine at added
  split at added
  · cases added
    exact unbroken
  · split at added
    · cases added
      exact unbroken.foldOntoLast more
    · split at added
      · cases added
      · cases added
      · cases added
        intro entry member
        rcases mem_append.mp member with old | new
        · exact unbroken entry old
        · rw [mem_singleton.mp new]
          exact more.part (List.Subset.trans (trim_subset _) (drop_subset _ _))

theorem Headers.Unbroken.foldlM {lines : List Bytes} {after : Headers} (unbroken : headers.Unbroken)
    (more : ∀ line ∈ lines, Sip.Unbroken line)
    (added : lines.foldlM Sip.addHeaderLine headers = some after) : after.Unbroken := by
  induction lines generalizing headers with
  | nil =>
    cases added
    exact unbroken
  | cons line lines hypothesis =>
    rw [foldlM_cons, Option.bind_eq_bind, Option.bind_eq_some_iff] at added
    obtain ⟨next, first, rest⟩ := added
    exact hypothesis (unbroken.addHeaderLine (more line mem_cons_self) first)
      (fun other member => more other (mem_cons_of_mem _ member)) rest

/-- A message whose header values are all unbroken. -/
def Message.Unbroken (message : Message) : Prop := message.headers.Unbroken

/-- What the parser accepts has one line for each header. -/
theorem unbroken_parseMessage {datagram : Bytes} {message : Message}
    (parsed : parseMessage datagram = some message) : message.Unbroken := by
  unfold parseMessage at parsed
  rw [Option.bind_eq_some_iff] at parsed
  obtain ⟨read, head, body⟩ := parsed
  have same : message.headers = read.headers := by
    unfold Message.withBody at body
    split at body
    · cases body
      rfl
    · cases body
    · split at body
      · cases body
      · cases body
        rfl
  have unbroken : read.headers.Unbroken := by
    unfold parseHead at head
    split at head
    · cases head
    next start lines cut =>
      simp only [Option.bind_eq_bind, Option.bind_eq_some_iff, Option.pure_def,
        Option.some.injEq] at head
      obtain ⟨_, -, headers, added, rfl⟩ := head
      refine Headers.Unbroken.foldlM (fun _ missing => absurd missing not_mem_nil)
        (fun line member => ?_) added
      have among : line ∈ splitLines (splitHead datagram).1 := cut ▸ mem_cons_of_mem _ member
      exact unbroken_splitLines among
  unfold Message.Unbroken
  rw [same]
  exact unbroken

namespace Message.Unbroken

variable {message : Message} {value : Bytes}

theorem header (unbroken : message.Unbroken) {name : String}
    (found : message.header name = some value) : Sip.Unbroken value := by
  obtain ⟨entry, inside, rfl⟩ := Option.map_eq_some_iff.mp found
  exact unbroken entry (mem_of_find?_eq_some inside)

theorem headerOr (unbroken : message.Unbroken) (name : String) :
    Sip.Unbroken (message.headerOr name) := by
  unfold Message.headerOr
  cases found : message.header name with
  | none => exact unbroken_nil
  | some value => exact unbroken.header found

theorem headerAll (unbroken : message.Unbroken) {name : String}
    (member : value ∈ message.headerAll name) : Sip.Unbroken value := by
  obtain ⟨entry, inside, rfl⟩ := mem_map.mp member
  exact unbroken entry (mem_filter.mp inside).1

end Message.Unbroken

theorem Message.unbroken_empty : Message.Unbroken {} :=
  fun _ missing => absurd missing not_mem_nil

/-! ### Challenges -/

theorem readQuoted_subset : (readQuoted value).1 ⊆ value ∧ (readQuoted value).2 ⊆ value := by
  fun_induction readQuoted value with
  | case1 => exact ⟨List.Subset.refl _, List.Subset.refl _⟩
  | case2 rest => exact ⟨nil_subset _, subset_cons_self _ _⟩
  | case3 => exact ⟨List.Subset.refl _, nil_subset _⟩
  | case4 escaped rest text after read hypothesis =>
    rw [read] at hypothesis
    exact ⟨cons_subset.mpr ⟨by simp, fun byte member =>
        by simp [hypothesis.1 member]⟩,
      fun byte member => by simp [hypothesis.2 member]⟩
  | case5 byte rest _ _ _ text after read hypothesis =>
    rw [read] at hypothesis
    exact ⟨cons_subset_cons _ hypothesis.1,
      subset_cons_of_subset _ hypothesis.2⟩

theorem readValue_subset : (readValue value).1 ⊆ value ∧ (readValue value).2 ⊆ value := by
  unfold readValue
  split
  next rest =>
    exact ⟨subset_cons_of_subset _ (readQuoted_subset rest).1,
      subset_cons_of_subset _ (readQuoted_subset rest).2⟩
  · split
    · exact ⟨trim_subset _, nil_subset _⟩
    · exact ⟨List.Subset.trans (trim_subset _) (take_subset _ _), drop_subset _ _⟩

theorem skipCommas_subset (fuel : Nat) (value : Bytes) : skipCommas fuel value ⊆ value := by
  fun_induction skipCommas fuel value with
  | case1 => exact List.Subset.refl _
  | case2 fuel rest hypothesis =>
    exact subset_cons_of_subset _ (List.Subset.trans hypothesis (trim_subset _))
  | case3 => exact List.Subset.refl _

/-- What an answer repeats of a challenge is unbroken. -/
structure Challenge.Unbroken (challenge : Challenge) : Prop where
  realm : Sip.Unbroken challenge.realm
  nonce : Sip.Unbroken challenge.nonce
  opaqueText : Sip.Unbroken challenge.opaqueText

theorem Challenge.Unbroken.setParameter (unbroken : challenge.Unbroken) (key : Bytes)
    {value : Bytes} (more : Sip.Unbroken value) : (setParameter challenge key value).Unbroken := by
  unfold Sip.setParameter
  split
  · exact { unbroken with realm := more }
  · split
    · exact { unbroken with nonce := more }
    · split
      · exact { unbroken with opaqueText := more }
      · split
        · exact { unbroken with }
        · split
          · exact { unbroken with }
          · exact unbroken

theorem Challenge.Unbroken.challengeLoop (fuel : Nat) {raw : Bytes} (more : Sip.Unbroken raw)
    (unbroken : challenge.Unbroken) (hasNonce : Bool) :
    (challengeLoop fuel raw challenge hasNonce).1.Unbroken := by
  induction fuel generalizing raw challenge hasNonce with
  | zero => exact unbroken
  | succ fuel hypothesis =>
    unfold Sip.challengeLoop
    split
    · exact unbroken
    · dsimp only
      have value : Sip.Unbroken (skipCommas raw.length (trim raw)) :=
        more.part (List.Subset.trans (skipCommas_subset _ _) (trim_subset _))
      split
      · exact unbroken
      next equals _ =>
        have rest : Sip.Unbroken (trim ((skipCommas raw.length (trim raw)).drop (equals + 1))) :=
          value.part (List.Subset.trans (trim_subset _) (drop_subset _ _))
        have read := readValue_subset (trim ((skipCommas raw.length (trim raw)).drop (equals + 1)))
        exact hypothesis (rest.part read.2)
          (unbroken.setParameter _ (rest.part read.1)) _

theorem unbroken_parseChallenge {raw : Bytes} (unbroken : Unbroken raw)
    (parsed : parseChallenge raw = some challenge) : challenge.Unbroken := by
  unfold parseChallenge at parsed
  dsimp only at parsed
  split at parsed
  · cases parsed
  · split at parsed
    · cases parsed
      exact .challengeLoop _
        (unbroken.part (List.Subset.trans (drop_subset _ _) (trim_subset _)))
        ⟨unbroken_nil, unbroken_nil, unbroken_nil⟩ _
    · cases parsed

/-- The answer to an unbroken challenge is unbroken. -/
theorem unbroken_authorizationValue {credentials : Credentials} {method uri cnonce answer : Bytes}
    (username : Unbroken credentials.username) (unbroken : challenge.Unbroken)
    (target : Unbroken uri) (nonce : Unbroken cnonce)
    (answered : authorizationValue credentials challenge method uri cnonce = some answer) :
    Unbroken answer := by
  have digest (nc : Bytes) :
      Unbroken (digestResponse credentials challenge method uri nc cnonce) := by
    unfold digestResponse
    dsimp only
    split <;> exact unbroken_md5Hex _
  unfold authorizationValue at answered
  split at answered
  · cases answered
  · cases answered
    simp only [unbroken_append]
    refine ⟨⟨⟨⟨⟨⟨⟨⟨⟨⟨⟨⟨by decide, username⟩, by decide⟩, unbroken.realm⟩, by decide⟩,
      unbroken.nonce⟩, by decide⟩, target⟩, by decide⟩, digest _⟩, by decide⟩, ?_⟩, ?_⟩
    · split
      · simp only [unbroken_append]
        exact ⟨⟨⟨⟨by decide, by decide⟩, by decide⟩, nonce⟩, by decide⟩
      · exact unbroken_nil
    · split
      · exact unbroken_nil
      · simp only [unbroken_append]
        exact ⟨⟨by decide, unbroken.opaqueText⟩, by decide⟩

end KetPhone.Sip
