import BotaSdk.Protocol.DiagnosticsSlots
import Mathlib.Data.Finset.Card

/-!
# Diagnostics batches over whole reads

A batch is published from the packets since the last reset, END or failure, whatever the
interleaving of its events, and from complete events alone.
-/

namespace BotaSdk.Diagnostics

open Bytes Checked

/-- The decoder after a sequence of packets. -/
def after (self : DeviceDiagnosticsDecoder) : List (List UInt8) → DeviceDiagnosticsDecoder
  | [] => self
  | packet :: packets => after (self.push packet).1 packets

def answers (self : DeviceDiagnosticsDecoder) :
    List (List UInt8) → List DeviceDiagnosticsDecoder.Answer
  | [] => []
  | packet :: packets => (self.push packet).2 :: answers (self.push packet).1 packets

/-- The message of a packet to its slot. -/
def said (packet : List UInt8) : Option (UInt8 × Body) :=
  match message packet with
  | .ok (.about index body) => some (index, body)
  | _ => none

/-- The packet clears what is pending: it resets, fails or is an END. -/
def Clears (self : DeviceDiagnosticsDecoder) (packet : List UInt8) : Prop :=
  message packet = .ok .reset ∨ (self.push packet).2 ≠ .ok none

/-- `run` is what the history has brought since the last packet that cleared the read. -/
structure Since (history before run : List (List UInt8)) : Prop where
  split : history = before ++ run
  cleared : before = [] ∨ ∃ earlier packet, before = earlier ++ [packet] ∧
    Clears (after {} earlier) packet
  kept : ∀ mid packet rest, run = mid ++ packet :: rest → ¬Clears (after {} (before ++ mid)) packet

/-- What is pending comes from the packets since the read was last cleared. -/
def Pending (history : List (List UInt8)) : Prop :=
  ∃ before run, Since history before run ∧
    Keyed.run Slot.receive (fun _ => {}) (run.filterMap said) = some (slots (after {} history))

section Runs

variable {self self' : DeviceDiagnosticsDecoder} {packet : List UInt8}
variable {packets rest history before run : List (List UInt8)} {index : UInt8} {body : Body}

@[simp] theorem after_append : after self (packets ++ rest) = after (after self packets) rest := by
  induction packets generalizing self with
  | nil => rfl
  | cons packet packets ih => exact ih

theorem said_about (h : message packet = .ok (.about index body)) :
    said packet = some (index, body) := by
  unfold said
  rw [h]

theorem said_ignored (h : message packet = .ok .ignored) : said packet = none := by
  unfold said
  rw [h]

theorem after_cons : after self (packet :: packets) = after (self.push packet).1 packets :=
  rfl

theorem after_snoc : after self (packets ++ [packet]) = ((after self packets).push packet).1 :=
  after_append

/-- Any answer but "nothing yet" leaves nothing pending. -/
theorem push_consumed (h : (self.push packet).2 ≠ .ok none) : (self.push packet).1 = {} := by
  have hfails : Fails (self.push packet) → (self.push packet).1 = {} := by
    rintro ⟨e, he⟩
    rw [he]
  have hcases := push_cases self packet
  cases hmessage : message packet with
  | error e =>
    rw [hmessage] at hcases
    exact hfails hcases
  | ok m =>
    rw [hmessage] at hcases
    cases m with
    | reset =>
      have hreset : self.push packet = ({}, .ok none) := hcases
      rw [hreset]
    | about index body =>
      have hdelivered : Delivered self index body (self.push packet) := hcases
      unfold Delivered at hdelivered
      cases hslot : (slots self index).receive body with
      | none =>
        -- the slot refuses the body, which fails the read
        rw [hslot] at hdelivered
        exact hfails hdelivered
      | some slot =>
        -- the packet is stored, and the answer is "nothing yet"
        rw [hslot] at hdelivered
        obtain ⟨self', hself', -⟩ := hdelivered
        rw [hself'] at h
        exact absurd rfl h
    | ignored =>
      have hignored : self.push packet = (self, .ok none) := hcases
      rw [hignored] at h
      exact absurd rfl h
    | finish count =>
      have hfinished : Finished self count (self.push packet) := hcases
      unfold Finished at hfinished
      cases hpublished : published self count with
      | error e =>
        rw [hpublished] at hfinished
        exact hfails hfinished
      | ok batch =>
        -- a batch is handed out, and the decoder starts over
        rw [hpublished] at hfinished
        rw [hfinished]

/-- A packet that clears the read leaves nothing pending. -/
theorem Clears.push (h : Clears self packet) : (self.push packet).1 = {} := by
  rcases h with hreset | hanswer
  · have hcases := push_cases self packet
    rw [hreset] at hcases
    have hpush : self.push packet = ({}, .ok none) := hcases
    rw [hpush]
  · exact push_consumed hanswer

theorem clears_of_fails (h : Fails (self.push packet)) : Clears self packet := by
  obtain ⟨e, he⟩ := h
  apply Or.inr
  rw [he]
  exact fun hn => by cases hn

theorem Since.clear (h : Clears (after {} history) packet) :
    Since (history ++ [packet]) (history ++ [packet]) [] := by
  refine ⟨(List.append_nil _).symm, .inr ⟨history, packet, rfl, h⟩, fun mid _ rest hn => ?_⟩
  exact absurd hn (by simp)

theorem Since.keep (hs : Since history before run) (h : ¬Clears (after {} history) packet) :
    Since (history ++ [packet]) before (run ++ [packet]) := by
  refine ⟨by rw [hs.split, List.append_assoc], hs.cleared, fun mid packet' rest hrun => ?_⟩
  rcases rest.eq_nil_or_concat with rfl | ⟨rest, last, rfl⟩
  · -- the packet that was added
    obtain ⟨rfl, hlast⟩ := List.append_inj' hrun rfl
    rw [← hs.split, ← (List.cons.inj hlast).1]
    exact h
  · have hsplit : run ++ [packet] = (mid ++ packet' :: rest) ++ [last] := by
      rw [hrun, List.append_assoc, List.cons_append, List.concat_eq_append]
    exact hs.kept mid packet' rest (List.append_inj' hsplit rfl).1

theorem pending_nil : Pending [] := by
  refine ⟨[], [], ⟨rfl, .inl rfl, fun mid _ rest hn => absurd hn (by simp)⟩, ?_⟩
  show _ = some (slots {})
  rw [slots_empty]
  rfl

theorem pending_of_clears (h : Clears (after {} history) packet) :
    Pending (history ++ [packet]) := by
  refine ⟨_, [], Since.clear h, ?_⟩
  rw [after_snoc, h.push, slots_empty]
  rfl

/-- One packet. -/
theorem push_pending (h : Pending history) : Pending (history ++ [packet]) := by
  by_cases hclears : Clears (after {} history) packet
  · exact pending_of_clears hclears
  -- otherwise the packet is stored in its slot or ignored, and the read goes on
  obtain ⟨before, run, hsince, hrun⟩ := h
  refine ⟨before, run ++ [packet], hsince.keep hclears, ?_⟩
  have hpush := push_cases (after {} history) packet
  rw [after_snoc, List.filterMap_append]
  cases hmessage : message packet with
  | error e =>
    rw [hmessage] at hpush
    exact absurd (clears_of_fails hpush) hclears
  | ok m =>
    rw [hmessage] at hpush
    cases m with
    | reset => exact absurd (.inl hmessage) hclears
    | about index body =>
      have hdelivered : Delivered (after {} history) index body _ := hpush
      unfold Delivered at hdelivered
      cases hslot : (slots (after {} history) index).receive body with
      | none =>
        rw [hslot] at hdelivered
        exact absurd (clears_of_fails hdelivered) hclears
      | some slot =>
        -- the slots of the decoder make the same step as those of the run
        rw [hslot] at hdelivered
        obtain ⟨self', hself', hslots⟩ := hdelivered
        have hsaid : [packet].filterMap said = [(index, body)] := by
          rw [List.filterMap_cons, said_about hmessage]
          rfl
        have hstep : Keyed.step Slot.receive (slots (after {} history)) (index, body)
            = some (slots self') := by
          unfold Keyed.step
          rw [hslot, hslots]
          rfl
        rw [hself', hsaid, Keyed.run_append, hrun]
        show (Keyed.step Slot.receive (slots (after {} history)) (index, body)).bind _ = _
        rw [hstep]
        rfl
    | finish count =>
      have hfinished : Finished (after {} history) count _ := hpush
      unfold Finished at hfinished
      cases hpublished : published (after {} history) count with
      | error e =>
        rw [hpublished] at hfinished
        exact absurd (clears_of_fails hfinished) hclears
      | ok batch =>
        -- an END that publishes is answered with the batch
        rw [hpublished] at hfinished
        refine absurd (.inr ?_) hclears
        rw [hfinished]
        exact fun hn => by cases hn
    | ignored =>
      have hignored : (after {} history).push packet = (after {} history, .ok none) := hpush
      rw [hignored, List.filterMap_cons, said_ignored hmessage]
      rwa [List.filterMap_nil, List.append_nil]

theorem pending (history : List (List UInt8)) : Pending history := by
  induction history using List.reverseRecOn with
  | nil => exact pending_nil
  | append_singleton history packet ih => exact push_pending ih

/-- Packets that every slot accepts are accepted, whatever their interleaving. -/
theorem after_of_run (hsaid : ∀ packet ∈ packets, (said packet).isSome) {slots' : UInt8 → Slot}
    (h : Keyed.run Slot.receive (slots self) (packets.filterMap said) = some slots') :
    slots (after self packets) = slots' ∧ ∀ answer ∈ answers self packets, answer = .ok none := by
  -- the decoder changes with each packet
  induction packets generalizing self with
  | nil => exact ⟨Option.some.inj h, fun answer hanswer => (nomatch hanswer)⟩
  | cons packet packets ih =>
    obtain ⟨hhere, hrest⟩ := List.forall_mem_cons.mp hsaid
    obtain ⟨⟨index, body⟩, hmessage⟩ := Option.isSome_iff_exists.mp hhere
    have habout : message packet = .ok (.about index body) := by
      unfold said at hmessage
      split at hmessage
      · rename_i heq
        obtain ⟨rfl, rfl⟩ := Prod.mk.inj (Option.some.inj hmessage)
        exact heq
      · exact nomatch hmessage
    rw [List.filterMap_cons, hmessage] at h
    -- its slot accepts the first packet, and the others follow from there
    obtain ⟨mid, hmid, hrun⟩ := Option.bind_eq_some_iff.mp h
    obtain ⟨slot, hslot, rfl⟩ := Option.map_eq_some_iff.mp hmid
    have hpush := push_cases self packet
    rw [habout] at hpush
    have hdelivered : Delivered self index body (self.push packet) := hpush
    unfold Delivered at hdelivered
    rw [hslot] at hdelivered
    obtain ⟨self', hself', hslots⟩ := hdelivered
    rw [← hslots] at hrun
    obtain ⟨hafter, hanswers⟩ := ih hrest hrun
    show slots (after (self.push packet).1 packets) = slots' ∧
      ∀ answer ∈ (self.push packet).2 :: answers (self.push packet).1 packets, answer = .ok none
    rw [hself']
    exact ⟨hafter, List.forall_mem_cons.mpr ⟨rfl, hanswers⟩⟩

end Runs

end BotaSdk.Diagnostics
