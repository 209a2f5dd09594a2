import ModerationGateway.Proofs.Moderation.Rounds
import ModerationGateway.Proofs.Stream.Room

/-!
# Room for a batch

An interceptor reserves room for a whole batch before it has seen a frame. Where that room can be
had it is enough for good: the frames that wait are always fewer than a batch. Where it cannot be
had the request breaks down as it is attached. Checked settings may be of either kind.

* `IsReady`, `isReady_next`, `isReady_taken`: a running interceptor is over or has ample room;
* `withstands_iff_fits`: which settings withstand all frames.
-/

namespace ModerationGateway.Moderation.Interceptor

open ModerationGateway.Stream

variable {c : ContentSecurity}

/-! ### A running interceptor -/

/-- The interceptor pushes no more frames, or has ample room for them. -/
def IsReady (room : Nat) (p : Interceptor) : Prop :=
  p.isDone = true ∨ Reserved.IsAmple ⟨p.batcher, room⟩

variable {p : Interceptor} {room : Nat}

@[simp] theorem batcher_takeOver (p : Interceptor) (x : Request × List Bytes) :
    (takeOver p x).batcher = p.batcher := by
  unfold takeOver report
  split <;> rfl

theorem isAmple_onFrames (h : Reserved.IsAmple ⟨p.batcher, room⟩) (frames : List Frame) :
    (onFrames c p frames).Yields fun p' => Reserved.IsAmple ⟨p'.batcher, room⟩ := by
  induction frames generalizing p with
  | nil => exact h
  | cons frame frames ih =>
    have hpush := h.of_push frame
    rw [onFrames]
    generalize p.batcher.push frame = pushed at hpush ⊢
    obtain ⟨batcher, _ | batch⟩ := pushed
    · exact ih hpush
    · refine Consult.Yields.bind_right _ fun x => ?_
      have htaken : Reserved.IsAmple ⟨(takeOver { p with batcher } x).batcher, room⟩ := by
        rwa [batcher_takeOver]
      dsimp only
      split
      · exact htaken
      · exact ih htaken

theorem isAmple_onChunk (h : Reserved.IsAmple ⟨p.batcher, room⟩) (chunk : Bytes) :
    (onChunk c p chunk).Yields fun p' => Reserved.IsAmple ⟨p'.batcher, room⟩ := by
  rw [onChunk]
  refine isAmple_onFrames ?_ _
  exact h

theorem isReady_pop (h : IsReady room p) : IsReady room p.pop.2 := by
  unfold pop
  split <;> exact h

theorem isReady_onEnd (p : Interceptor) : (onEnd c p).Yields (IsReady room) :=
  (onEnd_yields_isDone c p).mono fun _ => .inl

/-- Until the next item is there, chunks are pulled and their frames pushed. -/
theorem isReady_next (h : IsReady room p) (arrivals : List Arrival) :
    (next c p arrivals).Yields fun y => IsReady room y.2.1 := by
  induction arrivals generalizing p with
  | nil =>
    rw [next]
    split
    · exact (isReady_onEnd p).bind fun p' hp' => isReady_pop hp'
    · exact isReady_pop h
  | cons arrival rest ih =>
    cases hpull : p.queue.isEmpty && !p.isDone with
    | false =>
      rw [next_of_ready hpull]
      exact isReady_pop h
    | true =>
      have hample : Reserved.IsAmple ⟨p.batcher, room⟩ := h.resolve_left (by simp_all)
      cases arrival with
      | chunk bytes =>
        rw [next, if_pos hpull]
        exact (isAmple_onChunk hample bytes).bind fun p' hp' => ih (.inr hp')
      | failed message =>
        rw [next, if_pos hpull]
        exact .inl rfl

/-- The interceptor after some items have been taken, and what is left of the stream. -/
def taken (c : ContentSecurity) (p : Interceptor) (arrivals : List Arrival) :
    Nat → Consult (Interceptor × List Arrival)
  | 0 => .done (p, arrivals)
  | n + 1 => do
    let (_, p, rest) ← next c p arrivals
    taken c p rest n

theorem isReady_taken (h : IsReady room p) (arrivals : List Arrival) (n : Nat) :
    (taken c p arrivals n).Yields fun y => IsReady room y.1 := by
  induction n generalizing p arrivals with
  | zero => exact h
  | succ n ih => exact (isReady_next h arrivals).bind fun y hy => ih hy y.2.2

/-! ### Attaching a request -/

theorem attach?_of_fits (h : Batcher.Fits c.batchSize.toNat) (r : InFlight) (rule : String) :
    attach? c r rule =
      some ⟨(Request.start r rule c.windowSize.toNat).1,
        .ofRequest c (Request.start r rule c.windowSize.toNat).2,
        Batcher.effectiveSize c.batchSize.toNat⟩ := by
  rw [attach?, Reserved.ofSize?, Batcher.ofSize?, if_pos h]
  rfl

theorem attach?_of_not_fits (h : ¬ Batcher.Fits c.batchSize.toNat) (r : InFlight)
    (rule : String) : attach? c r rule = none := by
  rw [attach?, Reserved.ofSize?, Batcher.ofSize?, if_neg h]
  rfl

/-- Checked settings have batches of at least one frame. -/
theorem effectiveSize_of_check (h : c.check = .ok ()) :
    Batcher.effectiveSize c.batchSize.toNat = c.batchSize.toNat := by
  have hsize : c.batchSize.toNat ≠ 0 := by
    intro hzero
    rw [ContentSecurity.check, if_pos hzero] at h
    cases h
  rw [Batcher.effectiveSize]
  omega

theorem fits_iff_of_check (h : c.check = .ok ()) :
    Batcher.Fits c.batchSize.toNat ↔ c.batchSize.toNat * frameRoom ≤ roomLimit := by
  rw [Batcher.Fits, effectiveSize_of_check h]

/-- Whatever frames come next, there is room for them: they are grouped as by a batcher without
bounds, in the same room. -/
def Admits (room : Nat) (b : Batcher) : Prop :=
  ∀ frames, Reserved.pushAll? ⟨b, room⟩ frames =
    some (⟨(b.pushAll frames).1, room⟩, (b.pushAll frames).2)

/-- Any request can be attached. Then whatever arrives, whatever the verdicts and however many items
are taken, the interceptor is over or admits any frames in the room that was reserved at first. -/
def Withstands (c : ContentSecurity) : Prop :=
  ∀ (r : InFlight) (rule : String), ∃ a, attach? c r rule = some a ∧
    a.interceptor = .ofRequest c (Request.start r rule c.windowSize.toNat).2 ∧
    a.room = c.batchSize.toNat ∧ Admits a.room a.interceptor.batcher ∧
    ∀ (arrivals : List Arrival) (n : Nat),
      (taken c a.interceptor arrivals n).Yields fun y =>
        y.1.isDone = true ∨ Admits a.room y.1.batcher

theorem withstands_of_fits (h : c.check = .ok ()) (hfits : Batcher.Fits c.batchSize.toNat) :
    Withstands c := by
  intro r rule
  have hattach := attach?_of_fits hfits r rule
  have hample := Reserved.isAmple_ofSize hfits
  rw [effectiveSize_of_check h] at hattach hample
  refine ⟨_, hattach, rfl, rfl, hample.pushAll?, fun arrivals n => ?_⟩
  exact (isReady_taken (.inr hample) arrivals n).mono fun y hy =>
    hy.imp_right Reserved.IsAmple.pushAll?

theorem not_withstands (h : ∀ (r : InFlight) (rule : String), attach? c r rule = none) :
    ¬ Withstands c := by
  intro hstands
  obtain ⟨a, ha, -⟩ := hstands .empty ""
  rw [h] at ha
  cases ha

/-- Checked settings withstand all frames exactly if room for a batch of their size can be had. If
not, no request can be attached under them. -/
theorem withstands_iff_fits (h : c.check = .ok ()) :
    (Withstands c ↔ c.batchSize.toNat * frameRoom ≤ roomLimit) ∧
      (roomLimit < c.batchSize.toNat * frameRoom →
        ∀ (r : InFlight) (rule : String), attach? c r rule = none) := by
  rw [← fits_iff_of_check h, ← Nat.not_le, ← fits_iff_of_check h]
  have hnone (hbig : ¬ Batcher.Fits c.batchSize.toNat) (r : InFlight) (rule : String) :=
    attach?_of_not_fits hbig r rule
  refine ⟨⟨fun hstands => ?_, withstands_of_fits h⟩, hnone⟩
  exact Decidable.byContradiction fun hbig => not_withstands (hnone hbig) hstands

/-- Settings with the default of everything but the size of a batch. -/
def batched (size : UInt64) : ContentSecurity :=
  { ContentSecurity.ofVendor "zkrj" "http://vendor" with batchSize := size }

/-- The largest batch that can be reserved. -/
theorem withstands_iff_fits_largest :
    (batched 164703072086692425).check = .ok () ∧ Withstands (batched 164703072086692425) :=
  have hcheck : (batched 164703072086692425).check = .ok () := rfl
  ⟨hcheck, (withstands_iff_fits hcheck).1.2 (by decide)⟩

/-- The check accepts a batch size under which no request can be attached. -/
theorem checked_cannot_attach :
    ¬ ∀ c : ContentSecurity, c.check = .ok () →
      ∀ (r : InFlight) (rule : String), (attach? c r rule).isSome :=
  fun hall => absurd (hall (batched 0xFFFFFFFFFFFFFFFF) rfl .empty "") (by decide)

end ModerationGateway.Moderation.Interceptor
