import HouseholdAccess.Proofs.Stage.Attending
import Mathlib.Data.Bool.Count

/-!
# Batches

A batch of messages is handled by a caller among others (`Stage.Attends`). Whatever the messages
say, and whatever fails while they are handled, nothing is raised: each message is handled once, in
the order of the batch, and counted once, and log lines say nothing of any of them in the end
(`Stage.batch_accounted`).
-/

namespace HouseholdAccess

open HouseholdAccess.Flow

namespace Stage

variable {service : Service} {world : World} {registry : Option Registry} {s₀ s : Stage}

/-- A batch has been handled since the start, and its messages have been applied or not. -/
structure HasHandled (start : Stage) (c : Cache) (b : Cache.Batch) (tr : List Exchange)
    (applied : List Bool) (s : Stage) : Prop where
  /-- The messages have been handled one after the other, each of them once. -/
  dispatches : c.Dispatches b.messages tr applied
  /-- One for each message that has been applied. -/
  ok : s.place.events true = (start.place.events true).map (· + applied.count true)
  /-- One for each of the other messages. -/
  error : s.place.events false =
    (start.place.events false).map (· + (b.messages.length - applied.count true))
  /-- Log lines say nothing of the last message. -/
  fields : s.place.fields = if b.messages = [] then start.place.fields else []

/-- What a caller comes to who has a batch handled. -/
theorem keeps_batch (service : Service) (b : Cache.Batch) :
    ((Call.batch b).flow service).Keeps Exchange.IsReliable AwaitsJoined (fun tr r =>
      ∃ answer, r = .ok answer ∧ ∃ applied,
        service.cache.Dispatches b.messages tr applied ∧
          answer = .number (applied.count true)) [] := by
  refine Keeps.then (service.cache.keeps_handleBatch b) fun tr n ⟨applied, hdispatches, hn⟩ => ?_
  refine keeps_pure ⟨_, rfl, applied, ?_, congrArg Answer.number hn⟩
  rwa [List.append_nil]

/-- What has been counted is told by what has been done, and so is what log lines say. -/
theorem hasHandled_of_reflects {c : Cache} {b : Cache.Batch} {tr : List Exchange}
    {applied : List Bool} (hreflects : s₀.place.Reflects tr s.place)
    (hreliable : ∀ e ∈ tr, e.IsReliable) (hdispatches : c.Dispatches b.messages tr applied) :
    HasHandled s₀ c b tr applied s where
  dispatches := hdispatches
  ok := by rw [hreflects.events, hdispatches.eventsIn_eq hreliable]
  error := by
    have hcount : applied.count false = b.messages.length - applied.count true := by
      rw [← hdispatches.length_eq, ← List.count_false_add_count_true, Nat.add_sub_cancel]
    rw [hreflects.events, hdispatches.eventsIn_eq hreliable, hcount]
  fields := by
    rw [hreflects.fields]
    split
    · next hnone =>
      rw [hnone] at hdispatches
      cases hdispatches
      rfl
    · next hsome => exact hdispatches.boundAfter_eq hreliable hsome _

/-- Whatever a batch says, whatever fails, and whoever else is at work, the batch can always be
    handled to the end, and comes to the number of messages that have been applied, each message
    having been handled once, in order, and counted once. -/
theorem batch_accounted (hs₀ : Comes (begin service world registry) s₀) (b : Cache.Batch)
    (hs : Relation.ReflTransGen (Attends s₀.callers.length) (s₀.enter (.batch b)) s) :
    s.CanBeServed s₀.callers.length ∧ ∀ r, s.answerOf? s₀.callers.length = some r →
      ∃ t applied, s.callers[s₀.callers.length]? = some t ∧
        HasHandled s₀ service.cache b t.trace applied s ∧
        r = .ok (.number (applied.count true)) := by
  obtain ⟨horderly, hextends⟩ := hs₀.orderly (orderly_begin service world registry)
  obtain ⟨t, h⟩ := (horderly.hosts_enter (.batch b)).of_reflTransGen hs
  rw [hextends.service] at h
  have hkeeps := keeps_batch service b
  refine ⟨h.canBeServed hkeeps, fun r hr => ?_⟩
  have hdone : t.program = .done r := by
    rw [answerOf?, h.here] at hr
    exact Program.result?_eq_some hr
  have hend := h.performs.keeps hkeeps
  rw [hdone] at hend
  obtain ⟨_, hr, applied, hdispatches, rfl⟩ := hend
  exact ⟨t, applied, h.here,
    hasHandled_of_reflects h.reflects h.performs.reliable hdispatches, hr⟩

/-! ### A batch of which some messages are applied -/

/-- A household of two members. -/
def pairWorld : World where
  rows := [⟨.text "h1", .text "u1", .text HouseholdRole.member.token⟩,
    ⟨.text "h1", .text "u2", .text HouseholdRole.member.token⟩]

/-- A message under the older spelling of a topic, bytes that are no text, the same message twice,
    and one under a topic that is no concern of permissions. -/
def mixedBatch : Cache.Batch :=
  [("household.member.role.changed", [.text "\x7b\"householdId\": \"h1\"\x7d", .bytes [0xff]]),
    ("user.permissions.recompute",
      [.record [("user_id", .text "u1")], .record [("user_id", .text "u1")]]),
    ("weather", [.record []])]

/-- While the third message is handled, role data cannot be read. -/
def mixedMoves : List Move :=
  List.flatten [.replicate 2 .caller, .replicate 4 (.part 1), .replicate 4 (.part 0),
    .replicate 13 .caller, [.change (.fail .roles (.notConnected "acquire"))],
    .replicate 4 (.load 0), .replicate 3 .caller, [.forget 0, .change (.mend .roles)],
    .replicate 7 .caller, .replicate 4 (.load 1), [.errand 1 0], .replicate 9 (.load 1),
    .replicate 5 .caller]

/-- Whether a caller has come to the number. -/
def isNumber (n : Nat) : Except Interruption Answer → Bool
  | .ok (.number k) => k == n
  | _ => false

theorem eq_number_of_isNumber {n : Nat} {r : Except Interruption Answer}
    (h : isNumber n r = true) : r = .ok (.number n) := by
  unfold isNumber at h
  split at h
  · rw [eq_of_beq h]
  · cases h

/-- Two of the messages are applied, and three are not. -/
theorem batch_accounted_mixed :
    let s₀ := begin {} pairWorld (some (Registry.ofService Service.name))
    Comes s₀ s₀ ∧ ∃ s t applied,
      Relation.ReflTransGen (Attends s₀.callers.length) (s₀.enter (.batch mixedBatch)) s ∧
      s.answerOf? s₀.callers.length = some (.ok (.number 2)) ∧
      s.callers[s₀.callers.length]? = some t ∧ HasHandled s₀ {} mixedBatch t.trace applied s ∧
      s.place.events true = some 2 ∧ s.place.events false = some 3 ∧ s.place.fields = [] := by
  intro s₀
  have hruns : ((s₀.enter (.batch mixedBatch)).proceed? 0 mixedMoves).any (fun s =>
      (s.answerOf? 0).any (isNumber 2)) = true := by
    decide +kernel
  obtain ⟨s, hs, hended⟩ := (Option.any_eq_true _ _).1 hruns
  obtain ⟨r, hr, hnumber⟩ := (Option.any_eq_true _ _).1 hended
  obtain rfl := eq_number_of_isNumber hnumber
  have hattends := reflTransGen_of_proceed? hs
  obtain ⟨t, applied, ht, hhandled, hcount⟩ :=
    (batch_accounted Comes.start mixedBatch hattends).2 _ hr
  have happlied : applied.count true = 2 := (Answer.number.inj (Except.ok.inj hcount)).symm
  have hnone : ∀ ok, s₀.place.events ok = some 0 := by decide +kernel
  have hlength : mixedBatch.messages.length = 5 := rfl
  refine ⟨.start, s, t, applied, hattends, hr, ht, hhandled, ?_, ?_, hhandled.fields⟩
  · rw [hhandled.ok, happlied, hnone]
    rfl
  · rw [hhandled.error, happlied, hlength, hnone]
    rfl

end Stage

end HouseholdAccess
