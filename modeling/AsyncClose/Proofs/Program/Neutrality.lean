import AsyncClose.Proofs.Program.Basic

/-!
What a registry does is not up to its mechanism.

Mechanisms answer to wakes with success or failure, and may have no descriptors left for what they
would open; none of it comes back into the slab, the answers or the next calls.
-/

namespace AsyncClose

namespace Registry

variable {σ τ : Type} {r : Registry (Watched σ)} {q : Registry (Watched τ)}

/-- The registries have the same slab, and the same calls were made on their mechanisms. -/
def InStep (r : Registry (Watched σ)) (q : Registry (Watched τ)) : Prop :=
  r.slab.Tidy ∧ r.slab = q.slab ∧ r.mechanism.calls = q.mechanism.calls

lemma inStep_ofCapacity (c : ℕ) (m : σ) (m' : τ) :
    InStep (ofCapacity c (Watched.watch m)) (ofCapacity c (Watched.watch m')) :=
  ⟨Slab.tidy_ofCapacity c, rfl, rfl⟩

variable [Mechanism σ] [Mechanism τ]

@[simp] lemma calls_acquire (t : Thread) (fd : Descriptor) (canOpen : Bool) :
    (r.acquire t fd canOpen).2.mechanism.calls = r.mechanism.calls ++ [.enter t canOpen] := rfl

@[simp] lemma calls_release (g : Guard) :
    (r.release g).mechanism.calls = r.mechanism.calls ++ [.leave g.thread] := rfl

lemma InStep.wakeBlocked (h : InStep r q) (fd : Descriptor) :
    (r.wakeBlocked fd).1 = (q.wakeBlocked fd).1 ∧
      InStep (r.wakeBlocked fd).2 (q.wakeBlocked fd).2 := by
  obtain ⟨htidy, hslab, hcalls⟩ := h
  have htidy' : q.slab.Tidy := hslab ▸ htidy
  have htargets : r.targets fd = q.targets fd := by
    rw [targets, targets, Registry.blocked, Registry.blocked, hslab]
  refine ⟨by rw [wakeBlocked_eq fd r htidy, wakeBlocked_eq fd q htidy', htargets], ?_, ?_, ?_⟩
  · rw [slab_wakeBlocked fd r htidy]
    exact Slab.tidy_onClose fd htidy
  · rw [slab_wakeBlocked fd r htidy, slab_wakeBlocked fd q htidy', hslab]
  · rw [calls_wakeBlocked fd r htidy, calls_wakeBlocked fd q htidy', hcalls, htargets]

/-- The mechanism makes no difference to any call. -/
lemma agreement_inStep : Agreement (@InStep σ τ) where
  acquire {r q} h t fd canOpen := by
    obtain ⟨htidy, hslab, hcalls⟩ := h
    refine ⟨by rw [acquire_fst, acquire_fst, hslab], ?_, ?_, ?_⟩
    · rw [slab_acquire]
      exact Slab.tidy_insert htidy _
    · rw [slab_acquire, slab_acquire, hslab]
    · rw [calls_acquire, calls_acquire, hcalls]
  release {r q} h g := by
    obtain ⟨htidy, hslab, hcalls⟩ := h
    refine ⟨?_, ?_, ?_⟩
    · rw [slab_release]
      exact Slab.tidy_remove htidy g.id
    · rw [slab_release, slab_release, hslab]
    · rw [calls_release, calls_release, hcalls]
  wake h := h.wakeBlocked
  signaled h id := by rw [Registry.signaled, Registry.signaled, h.2.1]
  size h := by rw [Registry.size, Registry.size, h.2.1]
  blocked h := by rw [Registry.blocked, Registry.blocked, h.2.1]
  install h := h
  note h _ := h

end Registry

namespace Program

variable {σ τ ω α : Type} [Mechanism σ] [Mechanism τ]

/-- **A registry is neutral in its mechanism.** Over any two mechanisms, however their wakes and
their installation end and whenever descriptors run out, every program comes to the same answers and
leaves the same slab, and with it the same identities, flags and guards listed; and the same calls
were made on both mechanisms, in the same order, the same wakes among them. The registries differ in
the log and in the mechanism only. -/
theorem mechanism_unobservable (c : ℕ) (m : σ) (m' : τ) (openings openings' : List Bool)
    (p : Program ω α) :
    ((p.execOn c (Scarce.mk m openings)).1 = (p.execOn c (Scarce.mk m' openings')).1 ∧
        (p.execOn c (Scarce.mk m openings)).2.2 = (p.execOn c (Scarce.mk m' openings')).2.2) ∧
      (p.execOn c (Scarce.mk m openings)).2.1.slab =
        (p.execOn c (Scarce.mk m' openings')).2.1.slab ∧
      (p.execOn c (Scarce.mk m openings)).2.1.mechanism.calls =
        (p.execOn c (Scarce.mk m' openings')).2.1.mechanism.calls := by
  obtain ⟨hend, ⟨-, hslab, hcalls⟩, hmind⟩ := Registry.agreement_inStep.exec p
    (Registry.inStep_ofCapacity c (Scarce.mk m openings) (Scarce.mk m' openings'))
  exact ⟨⟨hend, hmind⟩, hslab, hcalls⟩

end Program

end AsyncClose
