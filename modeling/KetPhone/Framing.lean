/-
This file compares the stream framer with one pass over the whole stream. The
framer sees a stream in chunks and cuts what it can after each of them; the pass
sees all of it and cuts again and again. Cutting once is stable under more bytes:
a message that is cut stays the same, a failure stays a failure, and a stream that
waits goes on from what it kept. So the chunks do not matter. The same argument
accounts for every byte: it is in a message, between two messages, or kept.
-/

import KetPhone.StreamFramer

namespace KetPhone.Sip

open List

variable {stream rest message needle text left : Bytes} {place : Nat}

/-! ### One pass over a stream -/

/-- What can be cut off a stream. -/
inductive Cut where
  | waits (rest : Bytes)
  | fails
  | message (message rest : Bytes)
  deriving DecidableEq, Repr

/-- Cuts one message off a stream. The sum of the lengths is one of natural numbers. -/
def cut (stream : Bytes) : Cut :=
  let rest := stream.dropWhile isLineEnd
  match findText (ascii "\r\n\r\n") rest with
  | none => if rest.length > kMaxMessage then .fails else .waits rest
  | some headEnd =>
    match contentLength (rest.take headEnd) with
    | none => .fails
    | some length =>
      let total := headEnd + 4 + length
      if total > kMaxMessage then .fails
      else if rest.length < total then .waits rest
      else .message (rest.take total) (rest.drop total)

/-- Cuts up to a number of messages off a stream, and says whether that failed. -/
def onePassWithin : Nat → Bytes → List Bytes × Bool
  | 0, _ => ([], false)
  | fuel + 1, stream =>
    match cut stream with
    | .waits _ => ([], false)
    | .fails => ([], true)
    | .message message rest => (onePassWithin fuel rest).map (message :: ·) id

/-- The messages of a stream, and whether it breaks off with a failure. A message is not empty, so
there are no more of them than bytes. -/
def onePass (stream : Bytes) : List Bytes × Bool := onePassWithin (stream.length + 1) stream

namespace StreamFramer

/-- Calls `next` until it returns nothing, up to a number of times. -/
def drainWithin : Nat → StreamFramer → List Bytes × StreamFramer
  | 0, framer => ([], framer)
  | fuel + 1, framer =>
    match framer.next with
    | (none, after) => ([], after)
    | (some message, after) => (drainWithin fuel after).map (message :: ·) id

/-- Calls `next` until it returns nothing. -/
def drain (framer : StreamFramer) : List Bytes × StreamFramer :=
  framer.drainWithin (framer.buffer.length + 1)

/-- Pushes the chunks and drains after each of them, as a connection does. -/
def feed (framer : StreamFramer) : List Bytes → List Bytes × StreamFramer
  | [] => ([], framer)
  | chunk :: chunks =>
    let (messages, after) := (framer.push chunk).drain
    (after.feed chunks).map (messages ++ ·) id

/-- The bytes of the chunks up to the one that fails. -/
def accepted (framer : StreamFramer) : List Bytes → Bytes
  | [] => []
  | chunk :: chunks =>
    if framer.failed then [] else chunk ++ (framer.push chunk).drain.2.accepted chunks

end StreamFramer

/-- Bytes are messages with line ends before them, then line ends and a rest. -/
inductive Apportioned : Bytes → List Bytes → Bytes → Prop
  | rest {gap : Bytes} (rest : Bytes) (ends : ∀ byte ∈ gap, isLineEnd byte = true) :
    Apportioned (gap ++ rest) [] rest
  | message {gap bytes rest : Bytes} {messages : List Bytes} (message : Bytes)
      (ends : ∀ byte ∈ gap, isLineEnd byte = true) (later : Apportioned bytes messages rest) :
    Apportioned (gap ++ (message ++ bytes)) (message :: messages) rest

/-! ### Searching in a longer text -/

theorem findText_le (found : findText needle text = some place) :
    place + needle.length ≤ text.length := by
  induction text generalizing place with
  | nil =>
    unfold findText at found
    split at found
    next empty =>
      cases found
      rw [isEmpty_iff.mp empty]
      exact le_rfl
    next => cases found
  | cons byte rest hypothesis =>
    rw [findText_cons] at found
    split at found
    next starts =>
      cases found
      rw [Nat.zero_add]
      exact starts.length_le
    next =>
      obtain ⟨index, foundRest, rfl⟩ := Option.map_eq_some_iff.mp found
      have bound := hypothesis foundRest
      rw [length_cons]
      omega

/-- What is found stays where it is when the text goes on. -/
theorem findText_append (found : findText needle text = some place) (more : Bytes) :
    findText needle (text ++ more) = some place := by
  induction text generalizing place with
  | nil =>
    unfold findText at found
    split at found
    next empty =>
      cases found
      rw [isEmpty_iff.mp empty]
      cases more <;> rfl
    next => cases found
  | cons byte rest hypothesis =>
    rw [findText_cons] at found
    rw [cons_append, findText_cons]
    split at found
    next starts =>
      cases found
      have longer := starts.trans (prefix_append _ more)
      rw [cons_append] at longer
      rw [if_pos longer]
    next absent =>
      obtain ⟨index, foundRest, rfl⟩ := Option.map_eq_some_iff.mp found
      have bound := findText_le foundRest
      have notHere : ¬ needle <+: byte :: (rest ++ more) := by
        intro starts
        rw [← cons_append] at starts
        refine absent (prefix_of_prefix_length_le starts (prefix_append _ more) ?_)
        rw [length_cons]
        omega
      rw [if_neg notHere, hypothesis foundRest, Option.map_some]

theorem lt_of_findText_append {more : Bytes} (missing : findText needle text = none)
    (found : findText needle (text ++ more) = some place) :
    text.length < place + needle.length := by
  by_contra inside
  have earlier := findText_take found (Nat.not_lt.mp inside)
  rw [take_left, missing] at earlier
  cases earlier

theorem dropWhile_append_dropWhile (drop : UInt8 → Bool) (text more : Bytes) :
    (text ++ more).dropWhile drop = (text.dropWhile drop ++ more).dropWhile drop := by
  induction text with
  | nil => rfl
  | cons byte rest hypothesis =>
    rw [cons_append, dropWhile_cons, dropWhile_cons]
    split
    next => exact hypothesis
    next kept => rw [cons_append, dropWhile_cons_of_neg kept]

/-! ### Cutting once -/

theorem cut_dropWhile_append (stream more : Bytes) :
    cut (stream.dropWhile isLineEnd ++ more) = cut (stream ++ more) := by
  unfold cut
  rw [dropWhile_append_dropWhile isLineEnd stream more]

theorem cut_eq_waits (waits : cut stream = .waits rest) :
    rest = stream.dropWhile isLineEnd ∧ rest.length ≤ kMaxMessage := by
  unfold cut at waits
  dsimp only at waits
  split at waits
  · split at waits
    · cases waits
    next short =>
      cases waits
      exact ⟨rfl, Nat.not_lt.mp short⟩
  · split at waits
    · cases waits
    · split at waits
      · cases waits
      next fits =>
        split at waits
        next short =>
          cases waits
          exact ⟨rfl, by omega⟩
        · cases waits

theorem cut_eq_message (cuts : cut stream = .message message rest) :
    stream.dropWhile isLineEnd = message ++ rest ∧ 0 < message.length := by
  unfold cut at cuts
  dsimp only at cuts
  split at cuts
  · split at cuts <;> cases cuts
  · split at cuts
    · cases cuts
    · split at cuts
      · cases cuts
      · split at cuts
        · cases cuts
        next whole =>
          cases cuts
          refine ⟨(take_append_drop _ _).symm, ?_⟩
          rw [length_take]
          omega

theorem dropWhile_append_of_ne_nil (nonempty : stream.dropWhile isLineEnd ≠ []) (more : Bytes) :
    (stream ++ more).dropWhile isLineEnd = stream.dropWhile isLineEnd ++ more := by
  rw [List.dropWhile_append, if_neg]
  rw [List.isEmpty_iff]
  exact nonempty

theorem cut_append_of_message (cuts : cut stream = .message message rest) (more : Bytes) :
    cut (stream ++ more) = .message message (rest ++ more) := by
  have nonempty : stream.dropWhile isLineEnd ≠ [] := by
    obtain ⟨equal, long⟩ := cut_eq_message cuts
    rw [equal]
    exact append_ne_nil_of_left_ne_nil (ne_nil_of_length_pos long) rest
  unfold cut at cuts ⊢
  dsimp only at cuts ⊢
  rw [dropWhile_append_of_ne_nil nonempty more]
  split at cuts
  · split at cuts <;> cases cuts
  next headEnd found =>
    have inside := findText_le found
    rw [show (ascii "\r\n\r\n").length = 4 by decide] at inside
    rw [findText_append found more]
    dsimp only
    rw [take_append_of_le_length (by omega)]
    split at cuts
    · cases cuts
    next length _ =>
      split at cuts
      · cases cuts
      next fits =>
        split at cuts
        · cases cuts
        next whole =>
          cases cuts
          rw [if_neg fits, if_neg (by rw [length_append]; omega),
            take_append_of_le_length (by omega), drop_append_of_le_length (by omega)]

/-- A stream that fails still fails when it goes on: a head that is too long does not get shorter.
-/
theorem cut_append_of_fails (cuts : cut stream = .fails) (more : Bytes) :
    cut (stream ++ more) = .fails := by
  have nonempty : stream.dropWhile isLineEnd ≠ [] := by
    intro empty
    unfold cut at cuts
    rw [empty] at cuts
    exact absurd cuts (by decide)
  unfold cut at cuts ⊢
  dsimp only at cuts ⊢
  rw [dropWhile_append_of_ne_nil nonempty more]
  split at cuts
  next missing =>
    split at cuts
    next long =>
      split
      · rw [if_pos (by rw [length_append]; omega)]
      next headEnd found =>
        have reaches := lt_of_findText_append missing found
        rw [show (ascii "\r\n\r\n").length = 4 by decide] at reaches
        split
        · rfl
        · rw [if_pos (by omega)]
    · cases cuts
  next headEnd found =>
    have inside := findText_le found
    rw [show (ascii "\r\n\r\n").length = 4 by decide] at inside
    rw [findText_append found more]
    dsimp only
    rw [take_append_of_le_length (by omega)]
    split at cuts
    · rfl
    next length _ =>
      split at cuts
      next long => rw [if_pos long]
      · split at cuts <;> cases cuts

theorem cut_append_of_waits (waits : cut stream = .waits rest) (more : Bytes) :
    cut (stream ++ more) = cut (rest ++ more) := by
  rw [(cut_eq_waits waits).1, cut_dropWhile_append]

theorem StreamFramer.next_eq {framer : StreamFramer} (sound : framer.failed = false) :
    framer.next = match cut framer.buffer with
      | .waits rest => (none, { buffer := rest })
      | .fails => (none, { buffer := framer.buffer.dropWhile isLineEnd, failed := true })
      | .message message rest => (some message, { buffer := rest }) := by
  unfold StreamFramer.next cut
  rw [if_neg (by rw [sound]; decide)]
  dsimp only
  generalize framer.buffer.dropWhile isLineEnd = rest
  cases findText (ascii "\r\n\r\n") rest with
  | none =>
    by_cases long : rest.length > kMaxMessage
    · simp only [long, decide_true, if_true]
    · simp only [long, decide_false, if_false]
  | some headEnd =>
    dsimp only
    cases contentLength (rest.take headEnd) with
    | none => rfl
    | some length =>
      dsimp only
      by_cases long : headEnd + 4 + length > kMaxMessage
      · rw [if_pos long, if_pos (by omega)]
      · rw [if_neg long, if_neg (by omega)]
        split <;> rfl

/-! ### Cutting again and again -/

/-- The messages of a stream, what is left of it and whether it failed. -/
inductive Frames : Bytes → List Bytes → Bytes → Bool → Prop
  | waits {stream rest : Bytes} (cuts : cut stream = .waits rest) : Frames stream [] rest false
  | fails {stream : Bytes} (cuts : cut stream = .fails) :
    Frames stream [] (stream.dropWhile isLineEnd) true
  | message {stream message rest left : Bytes} {messages : List Bytes} {failed : Bool}
      (cuts : cut stream = .message message rest) (later : Frames rest messages left failed) :
    Frames stream (message :: messages) left failed

namespace Frames

variable {stream rest : Bytes} {messages : List Bytes} {failed : Bool}

theorem length_lt (cuts : cut stream = .message message rest) : rest.length < stream.length := by
  obtain ⟨equal, long⟩ := cut_eq_message cuts
  have shorter := length_dropWhile_le isLineEnd stream
  rw [equal, length_append] at shorter
  omega

theorem drainWithin {fuel : Nat} {framer : StreamFramer} (sound : framer.failed = false)
    (enough : framer.buffer.length < fuel) :
    Frames framer.buffer (framer.drainWithin fuel).1 (framer.drainWithin fuel).2.buffer
      (framer.drainWithin fuel).2.failed := by
  induction fuel generalizing framer with
  | zero => omega
  | succ fuel hypothesis =>
    unfold StreamFramer.drainWithin
    rw [StreamFramer.next_eq sound]
    cases cuts : cut framer.buffer with
    | waits rest => exact .waits cuts
    | fails => exact .fails cuts
    | message message rest =>
      have shorter := length_lt cuts
      have enoughLeft : (StreamFramer.mk rest false).buffer.length < fuel :=
        Nat.lt_of_lt_of_le shorter (Nat.lt_succ_iff.mp enough)
      exact .message cuts (hypothesis rfl enoughLeft)

theorem drain (framer : StreamFramer) (sound : framer.failed = false) :
    Frames framer.buffer framer.drain.1 framer.drain.2.buffer framer.drain.2.failed :=
  drainWithin sound (Nat.lt_succ_self _)

theorem onePassWithin_eq (frames : Frames stream messages rest failed) {fuel : Nat}
    (enough : stream.length < fuel) : onePassWithin fuel stream = (messages, failed) := by
  induction frames generalizing fuel with
  | waits cuts =>
    cases fuel with
    | zero => omega
    | succ fuel => rw [onePassWithin, cuts]
  | fails cuts =>
    cases fuel with
    | zero => omega
    | succ fuel => rw [onePassWithin, cuts]
  | message cuts _ hypothesis =>
    cases fuel with
    | zero => omega
    | succ fuel =>
      have shorter := length_lt cuts
      rw [onePassWithin, cuts]
      dsimp only
      rw [hypothesis (by omega)]
      rfl

theorem unique {others : List Bytes} {broken : Bool} (frames : Frames stream messages rest failed)
    (again : Frames stream others left broken) :
    messages = others ∧ rest = left ∧ failed = broken := by
  induction frames generalizing others with
  | waits cuts =>
    cases again with
    | waits same =>
      cases cuts.symm.trans same
      exact ⟨rfl, rfl, rfl⟩
    | fails same => cases cuts.symm.trans same
    | message same _ => cases cuts.symm.trans same
  | fails cuts =>
    cases again with
    | waits same => cases cuts.symm.trans same
    | fails same => exact ⟨rfl, rfl, rfl⟩
    | message same _ => cases cuts.symm.trans same
  | message cuts _ hypothesis =>
    cases again with
    | waits same => cases cuts.symm.trans same
    | fails same => cases cuts.symm.trans same
    | message same later =>
      cases cuts.symm.trans same
      obtain ⟨rfl, rfl, rfl⟩ := hypothesis later
      exact ⟨rfl, rfl, rfl⟩

theorem append {more : Bytes} {later : List Bytes} {broken : Bool}
    (frames : Frames stream messages rest false) (next : Frames (rest ++ more) later left broken) :
    Frames (stream ++ more) (messages ++ later) left broken := by
  generalize sound : false = failed at frames
  induction frames with
  | @waits stream rest cuts =>
    have same := cut_append_of_waits cuts more
    rw [nil_append]
    cases next with
    | waits later => exact .waits (same.trans later)
    | fails later =>
      have kept := dropWhile_append_dropWhile isLineEnd stream more
      rw [← (cut_eq_waits cuts).1] at kept
      rw [← kept]
      exact .fails (same.trans later)
    | message later rest => exact .message (same.trans later) rest
  | fails => cases sound
  | message cuts _ hypothesis =>
    exact .message (cut_append_of_message cuts more) (hypothesis next sound)

theorem append_of_failed (frames : Frames stream messages rest true) (more : Bytes) :
    ∃ left, Frames (stream ++ more) messages left true := by
  generalize broken : true = failed at frames
  induction frames with
  | waits => cases broken
  | fails cuts => exact ⟨_, .fails (cut_append_of_fails cuts more)⟩
  | message cuts _ hypothesis =>
    obtain ⟨left, later⟩ := hypothesis broken
    exact ⟨left, .message (cut_append_of_message cuts more) later⟩

theorem cut_rest (frames : Frames stream messages rest false) :
    cut rest = .waits rest ∧ rest.length ≤ kMaxMessage := by
  generalize sound : false = failed at frames
  induction frames with
  | @waits stream rest cuts =>
    refine ⟨?_, (cut_eq_waits cuts).2⟩
    have same := cut_append_of_waits cuts []
    rw [append_nil, append_nil, cuts] at same
    exact same.symm
  | fails => cases sound
  | message _ _ hypothesis => exact hypothesis sound

/-- The bytes of a stream are in its messages, between them, or left. -/
theorem apportioned (frames : Frames stream messages rest failed) :
    Apportioned stream messages rest := by
  have ends (stream : Bytes) : ∀ byte ∈ stream.takeWhile isLineEnd, isLineEnd byte = true :=
    fun byte member => mem_takeWhile_imp member
  induction frames with
  | @waits stream rest cuts =>
    have parts := Apportioned.rest rest (ends stream)
    rw [(cut_eq_waits cuts).1, takeWhile_append_dropWhile, ← (cut_eq_waits cuts).1] at parts
    exact parts
  | @fails stream cuts =>
    have parts := Apportioned.rest (stream.dropWhile isLineEnd) (ends stream)
    rw [takeWhile_append_dropWhile] at parts
    exact parts
  | @message stream message rest left messages failed cuts _ hypothesis =>
    have parts := Apportioned.message message (ends stream) hypothesis
    rw [← (cut_eq_message cuts).1, takeWhile_append_dropWhile] at parts
    exact parts

end Frames

/-! ### Chunks -/

namespace Apportioned

variable {bytes rest : Bytes} {messages : List Bytes}

theorem drop {gap : Bytes} (parts : Apportioned bytes messages rest)
    (ends : ∀ byte ∈ gap, isLineEnd byte = true) : Apportioned (gap ++ bytes) messages rest := by
  cases parts with
  | rest _ more =>
    rw [← append_assoc]
    exact .rest rest fun byte member => (mem_append.mp member).elim (ends byte) (more byte)
  | message message more later =>
    rw [← append_assoc]
    exact .message message
      (fun byte member => (mem_append.mp member).elim (ends byte) (more byte)) later

theorem append {more : Bytes} {later : List Bytes} (parts : Apportioned bytes messages rest)
    (next : Apportioned (rest ++ more) later left) :
    Apportioned (bytes ++ more) (messages ++ later) left := by
  induction parts with
  | rest rest ends =>
    rw [append_assoc, nil_append]
    exact next.drop ends
  | message message ends _ hypothesis =>
    rw [append_assoc, append_assoc]
    exact .message message ends (hypothesis next)

end Apportioned

namespace StreamFramer

variable {framer : StreamFramer}

theorem push_eq (sound : framer.failed = false) (chunk : Bytes) :
    framer.push chunk = { buffer := framer.buffer ++ chunk } := by
  unfold push
  rw [if_neg (by rw [sound]; decide), sound]

theorem feed_of_failed (broken : framer.failed = true) (chunks : List Bytes) :
    framer.feed chunks = ([], framer) := by
  have drained : framer.drain = ([], framer) := by
    unfold drain drainWithin next
    rw [if_pos broken]
  induction chunks with
  | nil => rfl
  | cons chunk chunks hypothesis =>
    have same : framer.push chunk = framer := if_pos broken
    rw [feed, same, drained]
    dsimp only
    rw [hypothesis]
    rfl

theorem accepted_of_failed (broken : framer.failed = true) (chunks : List Bytes) :
    framer.accepted chunks = [] := by
  cases chunks with
  | nil => rfl
  | cons chunk chunks => exact if_pos broken

theorem accepted_cons (sound : framer.failed = false) (chunk : Bytes) (chunks : List Bytes) :
    framer.accepted (chunk :: chunks) =
      chunk ++ (framer.push chunk).drain.2.accepted chunks := by
  rw [accepted, if_neg (by rw [sound]; decide)]

theorem frames_push (sound : framer.failed = false) (chunk : Bytes) :
    Frames (framer.buffer ++ chunk) (framer.push chunk).drain.1
      (framer.push chunk).drain.2.buffer (framer.push chunk).drain.2.failed := by
  have frames := Frames.drain (framer.push chunk) (by rw [push_eq sound])
  have buffer : (framer.push chunk).buffer = framer.buffer ++ chunk := by rw [push_eq sound]
  rwa [buffer] at frames

/-- Chunks that are drained one after the other give what the stream gives as a whole. -/
theorem frames_feed (sound : framer.failed = false)
    (settled : cut framer.buffer = .waits framer.buffer) (chunks : List Bytes) :
    ∃ left, Frames (framer.buffer ++ chunks.flatten) (framer.feed chunks).1 left
      (framer.feed chunks).2.failed ∧
        ((framer.feed chunks).2.failed = false → (framer.feed chunks).2.buffer = left) := by
  induction chunks generalizing framer with
  | nil =>
    rw [flatten_nil, append_nil, feed, sound]
    exact ⟨_, .waits settled, fun _ => rfl⟩
  | cons chunk chunks hypothesis =>
    have first := frames_push sound chunk
    rw [flatten_cons, ← append_assoc, feed]
    dsimp only
    cases broken : (framer.push chunk).drain.2.failed with
    | false =>
      rw [broken] at first
      obtain ⟨left, later, kept⟩ := hypothesis broken first.cut_rest.1
      exact ⟨left, first.append later, kept⟩
    | true =>
      rw [broken] at first
      rw [feed_of_failed broken]
      obtain ⟨left, whole⟩ := first.append_of_failed chunks.flatten
      rw [Prod.map_apply, append_nil, id_eq, broken]
      exact ⟨left, whole, fun sound => nomatch sound⟩

/-- The bytes of the chunks up to a failure are in messages, between them, or kept. -/
theorem apportioned_feed (sound : framer.failed = false)
    (settled : cut framer.buffer = .waits framer.buffer) (chunks : List Bytes) :
    Apportioned (framer.buffer ++ framer.accepted chunks) (framer.feed chunks).1
      (framer.feed chunks).2.buffer := by
  induction chunks generalizing framer with
  | nil =>
    rw [accepted, append_nil]
    exact (Frames.waits settled).apportioned
  | cons chunk chunks hypothesis =>
    have first := frames_push sound chunk
    rw [accepted_cons sound, ← append_assoc, feed]
    dsimp only
    refine first.apportioned.append ?_
    cases broken : (framer.push chunk).drain.2.failed with
    | false =>
      rw [broken] at first
      exact hypothesis broken first.cut_rest.1
    | true =>
      rw [accepted_of_failed broken, feed_of_failed broken, append_nil]
      exact @Apportioned.rest [] _ fun _ member => nomatch member

/-- Framing does not depend on how the stream is cut. However a stream comes in chunks, the framer
returns the messages of one pass over it and fails if that fails; every byte up to a failure is in a
message, is a line end between messages, or is kept; and what is kept without a failure is short. -/
theorem feed_eq_onePass (chunks : List Bytes) :
    (feed {} chunks).1 = (onePass chunks.flatten).1 ∧
      (feed {} chunks).2.failed = (onePass chunks.flatten).2 ∧
      Apportioned (accepted {} chunks) (feed {} chunks).1 (feed {} chunks).2.buffer ∧
      ((feed {} chunks).2.failed = false →
        (feed {} chunks).2.buffer.length ≤ kMaxMessage) := by
  have settled : cut (StreamFramer.mk [] false).buffer = .waits [] := by decide
  obtain ⟨left, frames, kept⟩ := @frames_feed {} rfl settled chunks
  have same := frames.onePassWithin_eq (Nat.lt_succ_self _)
  rw [nil_append] at same
  unfold onePass
  rw [same]
  refine ⟨rfl, rfl, apportioned_feed rfl settled chunks, fun whole => ?_⟩
  rw [kept whole]
  rw [whole] at frames
  exact frames.cut_rest.2

end StreamFramer

end KetPhone.Sip
