/-
This file keeps the books of the branches. Requests of a method that always goes
out on a new branch carry branches of earlier draws, and while the draws differ no
two of them share one, so the branch of a response tells which request it answers.
-/

import KetPhone.UserAgent.State

namespace KetPhone.Core

open Sip List

variable {Host : Type}

/-- The requests of a method went out on branches that were drawn for them. -/
structure Branched (method : Bytes) (agent : UserAgent Host) : Prop where
  drawn : ∀ request branch, .sendSip (.request request branch) ∈ agent.log →
    request.method = method → ∃ draw < agent.draws, branch = agent.random.branch draw
  unique : agent.random.Distinct agent.draws → ∀ first second branch,
    .sendSip (.request first branch) ∈ agent.log → first.method = method →
      .sendSip (.request second branch) ∈ agent.log → second.method = method → first = second

namespace Branched

variable {method : Bytes} {before after : UserAgent Host}

theorem of_silent (silent : after.log = []) : Branched method after := by
  refine ⟨fun _ _ sent => ?_, fun _ _ _ _ sent => ?_⟩ <;> simp_all

theorem resend (branched : Branched method before) (random : after.random = before.random)
    (draws : before.draws ≤ after.draws)
    (log : ∀ request branch, .sendSip (.request request branch) ∈ after.log →
      request.method = method → .sendSip (.request request branch) ∈ before.log) :
    Branched method after where
  drawn := fun request branch sent named => by
    obtain ⟨draw, earlier, equal⟩ := branched.drawn request branch (log _ _ sent named) named
    exact ⟨draw, earlier.trans_le draws, random ▸ equal⟩
  unique := fun distinct first second branch sentFirst namedFirst sentSecond namedSecond => by
    rw [random] at distinct
    exact branched.unique (distinct.mono draws) first second branch
      (log _ _ sentFirst namedFirst) namedFirst (log _ _ sentSecond namedSecond) namedSecond

/-- One new request went out, on the next branch. -/
theorem send (branched : Branched method before) {request : Request}
    (random : after.random = before.random) (draws : after.draws = before.draws + 1)
    (log : after.log = before.log ++ [.sendSip (.request request before.freshBranch)]) :
    Branched method after := by
  have fresh (distinct : after.random.Distinct after.draws) (old : Request)
      (sent : .sendSip (.request old before.freshBranch) ∈ before.log)
      (named : old.method = method) : False := by
    obtain ⟨draw, earlier, equal⟩ := branched.drawn old _ sent named
    rw [random, draws] at distinct
    have same := distinct before.draws draw (Nat.lt_succ_self _) (Nat.lt_succ_of_lt earlier) equal
    exact absurd earlier (same ▸ Nat.lt_irrefl _)
  refine ⟨fun old branch sent named => ?_, fun distinct first second branch sentFirst namedFirst
    sentSecond namedSecond => ?_⟩
  · rw [log] at sent
    rcases mem_append.mp sent with earlier | new
    · obtain ⟨draw, below, equal⟩ := branched.drawn old branch earlier named
      exact ⟨draw, draws ▸ Nat.lt_succ_of_lt below, random ▸ equal⟩
    · cases mem_singleton.mp new
      exact ⟨before.draws, draws ▸ Nat.lt_succ_self _, random ▸ rfl⟩
  · rw [log] at sentFirst sentSecond
    rcases mem_append.mp sentFirst with oldFirst | newFirst <;>
      rcases mem_append.mp sentSecond with oldSecond | newSecond
    · refine branched.unique ?_ first second branch oldFirst namedFirst oldSecond namedSecond
      rw [random, draws] at distinct
      exact distinct.mono (Nat.le_succ _)
    · cases mem_singleton.mp newSecond
      exact (fresh distinct first oldFirst namedFirst).elim
    · cases mem_singleton.mp newFirst
      exact (fresh distinct second oldSecond namedSecond).elim
    · cases mem_singleton.mp newFirst
      cases mem_singleton.mp newSecond
      rfl

end Branched

end KetPhone.Core
