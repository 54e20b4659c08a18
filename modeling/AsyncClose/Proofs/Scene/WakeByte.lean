import AsyncClose.Mechanism.Recorder
import AsyncClose.Proofs.Mechanism.Ownership
import AsyncClose.Proofs.Scene.Interleaved
import AsyncClose.Proofs.Slab.Overflow

/-!
What a byte in a wake pair says.

A byte is there because the thread was woken, and it stays until the thread leaves. A wake finds
the entry of a guard in the registry and marks it first. The entry comes out before the thread
leaves, and then the thread takes the byte along. So whoever finds a byte, and is not just about
to leave, has a guard that is marked.
-/

namespace AsyncClose

namespace Scene

variable {σ : Type}

/-- Every live guard has an entry of its own, for its thread. -/
structure Backed (w : Scene σ) : Prop where
  valid : w.registry.slab.Valid
  found : ∀ (n : ℕ) (x : Episode) (id : GuardId), w.episodes[n]? = some x →
    x.stage.live? = some id → ∃ e, w.registry.slab.get? id = some e ∧ e.thread = x.thread
  apart : ∀ (m n : ℕ) (x y : Episode) (id : GuardId), w.episodes[m]? = some x →
    w.episodes[n]? = some y → x.stage.live? = some id → y.stage.live? = some id → m = n

lemma backed_start (capacity : ℕ) (m : σ) : (start capacity m).Backed where
  valid := Slab.valid_ofCapacity capacity
  found n x id hx := by simp [start] at hx
  apart m n x y id hx := by simp [start] at hx

/-- What an episode is after another one, or itself, has moved. -/
lemma getElem?_moved {w : Scene σ} {n : ℕ} {x : Episode} {s : Stage} {r : Registry σ}
    {cs : List Contact} {k : ℕ} {y : Episode} (hy : (w.moved n x s r cs).episodes[k]? = some y) :
    (k = n ∧ y = { x with stage := s }) ∨ (k ≠ n ∧ w.episodes[k]? = some y) := by
  by_cases hk : k = n
  · subst hk
    simp only [moved, List.getElem?_set_self'] at hy
    obtain ⟨-, -, rfl⟩ := Option.map_eq_some_iff.mp hy
    exact .inl ⟨rfl, rfl⟩
  · rw [moved, List.getElem?_set_ne (Ne.symm hk)] at hy
    exact .inr ⟨hk, hy⟩

/-- An episode may move on if its new guard was nobody's, and no other guard loses its entry. -/
lemma backed_moved {w : Scene σ} {n : ℕ} {x : Episode} {s : Stage} {r : Registry σ}
    {cs : List Contact} (hb : w.Backed) (hx : w.episodes[n]? = some x) (hv : r.slab.Valid)
    (hnew : ∀ id, s.live? = some id →
      (∃ e, r.slab.get? id = some e ∧ e.thread = x.thread) ∧
        (x.stage.live? = some id ∨ w.registry.slab.get? id = none))
    (hold : ∀ id e, w.registry.slab.get? id = some e → x.stage.live? ≠ some id →
      r.slab.get? id = some e) : (w.moved n x s r cs).Backed := by
  have hother : ∀ k y id, k ≠ n → w.episodes[k]? = some y → y.stage.live? = some id →
      x.stage.live? ≠ some id := fun k y id hk hy hlive hid =>
    hk (hb.apart k n y x id hy hx hlive hid)
  -- an identity that the episode gets is not that of another one
  have hcross : ∀ k y id, k ≠ n → w.episodes[k]? = some y → y.stage.live? = some id →
      s.live? ≠ some id := by
    intro k y id hk hy hlive hs
    rcases (hnew id hs).2 with hid | hnone
    · exact hother k y id hk hy hlive hid
    · obtain ⟨e, he, -⟩ := hb.found k y id hy hlive
      rw [hnone] at he
      simp at he
  refine ⟨hv, fun k y id hy hlive => ?_, fun k l y z id hy hz hylive hzlive => ?_⟩
  · rcases getElem?_moved hy with ⟨-, rfl⟩ | ⟨hk, hy⟩
    · exact (hnew id hlive).1
    · obtain ⟨e, he, ht⟩ := hb.found k y id hy hlive
      exact ⟨e, hold id e he (hother k y id hk hy hlive), ht⟩
  · rcases getElem?_moved hy with ⟨hk, rfl⟩ | ⟨hk, hy⟩
    · rcases getElem?_moved hz with ⟨hl, -⟩ | ⟨hl, hz⟩
      · rw [hk, hl]
      · exact absurd hylive (hcross l z id hl hz hzlive)
    · rcases getElem?_moved hz with ⟨-, rfl⟩ | ⟨hl, hz⟩
      · exact absurd hzlive (hcross k y id hk hy hylive)
      · exact hb.apart k l y z id hy hz hylive hzlive

/-- A guard of the thread is marked and live, or the release of one is half done. -/
def Due (t : Thread) (w : Scene σ) : Prop :=
  (∃ id e, w.registry.slab.get? id = some e ∧ e.thread = t ∧ e.signaled = true) ∨
    ∃ x ∈ w.episodes, x.thread = t ∧ ∃ id, x.stage = .unregistered id

lemma due_moved {t : Thread} {w : Scene σ} {n : ℕ} {x : Episode} {s : Stage} {r : Registry σ}
    {cs : List Contact} (h : w.Due t) (hx : w.episodes[n]? = some x)
    (hentry : ∀ id e, w.registry.slab.get? id = some e →
      r.slab.get? id = some e ∨ (e.thread = x.thread ∧ s = .unregistered id))
    (hstage : ∀ id, x.stage = .unregistered id → x.thread ≠ t) : (w.moved n x s r cs).Due t := by
  rcases h with ⟨id, e, he, ht, hs⟩ | ⟨y, hy, ht, id, hid⟩
  · rcases hentry id e he with hkept | ⟨hth, rfl⟩
    · exact .inl ⟨id, e, hkept, ht, hs⟩
    · have hn := (List.getElem?_eq_some_iff.mp hx).1
      exact .inr ⟨_, List.mem_set hn _, by rw [← ht, hth], id, rfl⟩
  · obtain ⟨k, hk⟩ := List.mem_iff_getElem?.mp hy
    have hkn : n ≠ k := by
      rintro rfl
      obtain rfl : x = y := Option.some.inj (hx.symm.trans hk)
      exact hstage id hid ht
    refine .inr ⟨y, List.mem_of_getElem? (i := k) ?_, ht, id, hid⟩
    rw [moved, List.getElem?_set_ne hkn, hk]

/-- A thread that was woken and has not left since is due. -/
structure Accounted (w : Scene σ) : Prop where
  backed : w.Backed
  due : ∀ t, Contact.Unanswered (fun _ => True) t w.trace → w.Due t

lemma accounted_start (capacity : ℕ) (m : σ) : (start capacity m).Accounted :=
  ⟨backed_start capacity m, fun _ h => absurd h Contact.not_unanswered_nil⟩

/-! ### Step by step -/

/-- The new episode has no guard yet. -/
lemma accounted_enter {w : Scene σ} (h : w.Accounted) (t : Thread) (fd : Descriptor)
    (canOpen : Bool) {r : Registry σ} (hr : r.slab = w.registry.slab) :
    Accounted ⟨r, w.episodes ++ [⟨t, fd, .entered⟩], w.trace ++ [.enter t canOpen]⟩ := by
  have hold : ∀ (n : ℕ) (x : Episode) (id : GuardId),
      (w.episodes ++ [⟨t, fd, .entered⟩])[n]? = some x → x.stage.live? = some id →
        w.episodes[n]? = some x := by
    intro n x id hx hlive
    rw [List.getElem?_append] at hx
    split at hx
    · exact hx
    · obtain rfl := List.mem_singleton.mp (List.mem_of_getElem? hx)
      simp [Stage.live?] at hlive
  have hb := h.backed
  refine ⟨⟨hr ▸ hb.valid, fun n x id hx hlive => ?_, fun m n x y id hx hy hxl hyl => ?_⟩,
    fun u hu => ?_⟩
  · rw [hr]
    exact hb.found n x id (hold n x id hx hlive) hlive
  · exact hb.apart m n x y id (hold m x id hx hxl) (hold n y id hy hyl) hxl hyl
  · rw [Due, hr]
    rcases h.due u (Contact.unanswered_enter.mp hu) with hmarked | ⟨x, hx, hrest⟩
    · exact .inl hmarked
    · exact .inr ⟨x, List.mem_append_left _ hx, hrest⟩

/-- The identity of the new guard was nobody's. -/
lemma accounted_register {w : Scene σ} (h : w.Accounted)
    {n : ℕ} {x : Episode} (room : (w.registry.register x.fd x.thread).2.Roomy)
    (hx : w.episodes[n]? = some x) (hs : x.stage = .entered) :
    (w.moved n x (.registered (w.registry.register x.fd x.thread).1)
      (w.registry.register x.fd x.thread).2 []).Accounted := by
  have hb := h.backed
  have hfresh := Slab.get?_insert_fst hb.valid ⟨x.fd, x.thread, false⟩
  have hget := Slab.get?_insert hb.valid ⟨x.fd, x.thread, false⟩
  have hkept : ∀ id e, w.registry.slab.get? id = some e →
      (w.registry.register x.fd x.thread).2.slab.get? id = some e := by
    intro id e he
    rw [Registry.slab_register, hget, if_neg, he]
    rintro rfl
    rw [hfresh] at he
    simp at he
  refine ⟨backed_moved hb hx (Registry.valid_register hb.valid room) ?_
    fun id e he _ => hkept id e he, fun t hu => ?_⟩
  · rintro id hid
    obtain rfl := Option.some.inj hid
    exact ⟨⟨_, (hget _).trans (if_pos rfl), rfl⟩, .inr hfresh⟩
  · rw [moved, List.append_nil] at hu
    exact due_moved (h.due t hu) hx (fun id e he => .inl (hkept id e he)) (by simp [hs])

/-- If the entry was marked, its thread is about to leave. -/
lemma accounted_unregister {w : Scene σ} (h : w.Accounted) {n : ℕ} {x : Episode} {id : GuardId}
    (hx : w.episodes[n]? = some x) (hs : x.stage = .registered id) :
    (w.moved n x (.unregistered id) (w.registry.unregister id).2 []).Accounted := by
  have hb := h.backed
  have hlive : x.stage.live? = some id := by rw [hs]; rfl
  have hget := Slab.get?_remove w.registry.slab id
  refine ⟨backed_moved hb hx (Slab.valid_remove hb.valid id) (by simp [Stage.live?]) ?_,
    fun t hu => ?_⟩
  · intro id' e he hne
    rw [Registry.slab_unregister, hget, if_neg, he]
    rintro rfl
    exact hne hlive
  · rw [moved, List.append_nil] at hu
    refine due_moved (h.due t hu) hx (fun id' e he => ?_) (by simp [hs])
    rw [Registry.slab_unregister, hget]
    split
    · next heq =>
      obtain ⟨e', he', ht⟩ := hb.found n x id hx hlive
      obtain rfl : e' = e := Option.some.inj (he'.symm.trans (heq ▸ he))
      exact .inr ⟨ht, by rw [heq]⟩
    · exact .inl he

variable [Mechanism σ]

lemma accounted_looked {fd : Descriptor} {v v' : Scene σ} (h : v.Accounted)
    (hs : Looked fd v v') : v'.Accounted := by
  cases hs with
  | passed => exact h
  | woke id e he hfd =>
    refine ⟨⟨Slab.valid_mark h.backed.valid he, fun n x id' hx hlive => ?_, h.backed.apart⟩,
      fun t hu => ?_⟩
    · obtain ⟨e', he', ht⟩ := h.backed.found n x id' hx hlive
      obtain ⟨e'', he'', ht', -⟩ := Slab.exists_get?_mark he he'
      exact ⟨e'', he'', ht'.trans ht⟩
    · rcases Contact.unanswered_wake.mp hu with ⟨rfl, -⟩ | hu
      · -- the thread is woken for an entry that has just been marked
        have hmarked := (Slab.get?_mark he id).trans (if_pos rfl)
        exact .inl ⟨id, { e with signaled := true }, hmarked, rfl, rfl⟩
      · rcases h.due t hu with ⟨id', e', he', ht, hsig⟩ | hx
        · obtain ⟨e'', he'', ht', hsig'⟩ := Slab.exists_get?_mark he he'
          exact .inl ⟨id', e'', he'', ht'.trans ht, hsig' hsig⟩
        · exact .inr hx

lemma accounted_stepped {v v' : Scene σ} (room : v'.registry.Roomy) (h : v.Accounted)
    (hs : Stepped v v') : v'.Accounted := by
  have hb := h.backed
  cases hs with
  | idle => exact h
  | enter t fd canOpen => exact accounted_enter h t fd canOpen rfl
  | register n x hx hs => exact accounted_register h room hx hs
  | forget n x id hx hs =>
    have hlive : x.stage.live? = some id := by rw [hs]; rfl
    refine ⟨backed_moved hb hx hb.valid ?_ fun _ _ he _ => he, fun t hu => ?_⟩
    · intro id' hid
      obtain rfl := Option.some.inj hid
      exact ⟨hb.found n x id hx hlive, .inl hlive⟩
    · rw [moved, List.append_nil] at hu
      exact due_moved (h.due t hu) hx (fun _ _ he => .inl he) (by simp [hs])
  | unregister n x id hx hs => exact accounted_unregister h hx hs
  | leave n x id hx hs =>
    refine ⟨backed_moved hb hx hb.valid (by simp [Stage.live?]) fun _ _ he _ => he,
      fun t hu => ?_⟩
    obtain ⟨hne, hu⟩ := Contact.unanswered_leave.mp hu
    exact due_moved (h.due t hu) hx (fun _ _ he => .inl he) fun _ _ => hne
  | wake fd =>
    exact wake_induction hb.valid.tidy h fun u i hu =>
      accounted_looked hu (looked fd hu.backed.valid.tidy i)

end Scene

namespace Interleaving

section

variable {σ : Type} [Mechanism σ]

lemma accounted_run (capacity : ℕ) (m : σ) {ks : List Tick}
    (room : ∀ js, js <+: ks → (run capacity m js).scene.registry.Roomy) :
    (run capacity m ks).scene.Accounted := by
  induction ks using List.reverseRecOn with
  | nil => exact Scene.accounted_start capacity m
  | append_singleton ks k ih =>
    have h := ih fun js hjs => room js (hjs.trans (List.prefix_append ks [k]))
    have hroom := room _ List.prefix_rfl
    rw [run_snoc] at hroom ⊢
    rcases scene_step _ h.backed.valid.tidy k with hs | ⟨fd, hs⟩
    · exact Scene.accounted_stepped hroom h hs
    · exact Scene.accounted_looked h hs

end

variable {κ : Type} [ForcedClose κ]

def overChannels (closer : κ) (capacity : ℕ) (ks : List Tick) : Interleaving (WakeChannels κ) :=
  run capacity (.ofCloser closer) ks

/-- **A byte is there if and only if a wake came since the pair was last cleared.** Whatever the
order of steps, pairs refused and forced closes failing, let a thread have a pair. The pair was
made, or the thread left, a last time. The pair is pushed and has one byte queued if and only if a
wake of the thread came after that, else it is not pushed and has none. As long as fewer than
`2 ^ 32` guards are live at once, a thread that finds a byte, and is not between taking a guard
out of the registry and leaving, has a live guard that is signaled. -/
theorem byte_iff_woken_since_cleared (closer : κ) (capacity : ℕ) (ks : List Tick) (t : Thread)
    (p : WakePair)
    (hp : (overChannels closer capacity ks).scene.registry.mechanism.pairOf? t = some p) :
    (overChannels closer capacity ks).scene.registry.mechanism =
        WakeChannels.after closer (overChannels closer capacity ks).scene.trace ∧
      (∃ pre c post, (overChannels closer capacity ks).scene.trace = pre ++ c :: post ∧
        WakeChannels.Clears closer t pre c ∧
        (∀ a d b, post = a ++ d :: b → ¬WakeChannels.Clears closer t (pre ++ c :: a) d) ∧
        (p.pushed = true ∧ p.queued = 1 ↔ ∃ fd, Contact.wake t fd ∈ post) ∧
        (p.pushed = false ∧ p.queued = 0 ↔ ∀ fd, Contact.wake t fd ∉ post)) ∧
      ((∀ js, js <+: ks → (overChannels closer capacity js).scene.registry.Roomy) →
        (∀ x ∈ (overChannels closer capacity ks).scene.episodes, x.thread = t →
          ∀ id, x.stage ≠ .unregistered id) →
        0 < p.queued →
          ∃ id e, (id, e) ∈ (overChannels closer capacity ks).scene.registry.blocked ∧
            e.thread = t ∧ e.signaled = true) := by
  have hmech : (overChannels closer capacity ks).scene.registry.mechanism =
      WakeChannels.after closer (overChannels closer capacity ks).scene.trace :=
    mechanism_run capacity _ ks
  rw [hmech] at hp
  obtain ⟨hin, hpushed⟩ := (WakeChannels.told_after closer _ t).in_step hp
  have howns : WakeChannels.Owns closer t (overChannels closer capacity ks).scene.trace := by
    rw [WakeChannels.Owns, hp]
    rfl
  refine ⟨hmech, ?_, fun room hready hbyte => ?_⟩
  · obtain ⟨pre, c, post, htrace, hclears, hlast⟩ := WakeChannels.exists_clears howns
    rw [htrace] at howns hpushed
    rw [WakeChannels.unanswered_iff_mem hclears hlast howns] at hpushed
    refine ⟨pre, c, post, htrace, hclears, hlast, ?_, ?_⟩
    · rw [← hpushed]
      rcases hin with rfl | rfl <;> decide
    · rw [← not_exists, ← hpushed]
      rcases hin with rfl | rfl <;> decide
  · have hset : p.pushed = true := by
      rcases hin with rfl | rfl
      · exact absurd hbyte (by decide)
      · rfl
    obtain ⟨pre, fd, post, htrace, -, hpost⟩ := hpushed.mp hset
    have hacc := accounted_run capacity (WakeChannels.ofCloser closer) room
    rcases hacc.due t ⟨pre, fd, post, htrace, trivial, hpost⟩ with ⟨id, e, he, hrest⟩ | hhalf
    · exact ⟨id, e, (Slab.mem_entries hacc.backed.valid.tidy).mpr he, hrest⟩
    · obtain ⟨x, hx, hxt, id, hid⟩ := hhalf
      exact absurd hid (hready x hx hxt id)

def watched (ks : List Tick) : Interleaving (WakeChannels CloseRecorder) :=
  overChannels (CloseRecorder.mk [] (.ofOutcomes [some (.os .wouldBlock)])) 1 ks

/-- Three nested guards, no pair for the first. The last one is out of the registry when a scan
wakes the thread for the first, and the thread leaves before the scan wakes it for the second. -/
def crowded : List Tick :=
  [.move (.enter ⟨0⟩ (.raw 5) false), .move (.register 0), .move (.enter ⟨0⟩ (.raw 5) true),
    .move (.register 1), .move (.enter ⟨0⟩ (.raw 5) true), .move (.register 2),
    .move (.unregister 2), .scan (.raw 5), .look, .move (.leave 2), .look]

lemma room_crowded : ∀ js, js <+: crowded → (watched js).scene.registry.Roomy := by
  decide +kernel

lemma ready_crowded : ∀ x ∈ (watched crowded).scene.episodes, x.thread = ⟨0⟩ →
    ∀ id, x.stage ≠ .unregistered id := by
  have hall : (watched crowded).scene.episodes.map (·.stage) =
      [.registered (.pack 0 0), .registered (.pack 1 0), .left (.pack 2 0)] := by
    decide +kernel
  intro x hx _ id hid
  have hmem := hid ▸ List.mem_map_of_mem (f := fun x : Episode => x.stage) hx
  rw [hall] at hmem
  simp at hmem

/-- The byte of the first wake went with the leave, that of the second is there. -/
theorem byte_iff_woken_since_cleared_crowded :
    (watched crowded).scene.registry.mechanism.pairOf? ⟨0⟩ = some ⟨true, 1, false⟩ ∧
      (∃ pre c post, (watched crowded).scene.trace = pre ++ c :: post ∧
        WakeChannels.Clears (CloseRecorder.mk [] (.ofOutcomes [some (.os .wouldBlock)])) ⟨0⟩ pre c ∧
        ∃ fd, Contact.wake ⟨0⟩ fd ∈ post) ∧
      ∃ id e, (id, e) ∈ (watched crowded).scene.registry.blocked ∧ e.thread = ⟨0⟩ ∧
        e.signaled = true := by
  have hp : (watched crowded).scene.registry.mechanism.pairOf? ⟨0⟩ = some ⟨true, 1, false⟩ := by
    decide +kernel
  obtain ⟨-, ⟨pre, c, post, htrace, hclears, -, hiff, -⟩, hlive⟩ :=
    byte_iff_woken_since_cleared _ 1 crowded ⟨0⟩ _ hp
  exact ⟨hp, ⟨pre, c, post, htrace, hclears, hiff.mp (by decide)⟩,
    hlive room_crowded ready_crowded (by decide)⟩

end Interleaving

/-! ### More guards than can be counted -/

namespace Scene

variable {σ : Type} [Mechanism σ]

/-- Guards `m` to `m + n - 1`, acquired one after the other. -/
def acquisitions (t : Thread) (fd : Descriptor) (m n : ℕ) : List Move :=
  (List.range n).flatMap fun k => [.enter t fd true, .register (m + k)]

lemma run_acquisitions (w : Scene σ) (t : Thread) (fd : Descriptor) (n : ℕ) :
    (w.run (acquisitions t fd w.episodes.length n)).registry.slab =
        w.registry.slab.cram ⟨fd, t, false⟩ n ∧
      (w.run (acquisitions t fd w.episodes.length n)).trace =
        w.trace ++ List.replicate n (.enter t true) ∧
      (w.run (acquisitions t fd w.episodes.length n)).episodes.length = w.episodes.length + n ∧
      ∀ x ∈ (w.run (acquisitions t fd w.episodes.length n)).episodes,
        x ∈ w.episodes ∨ x.thread = t := by
  induction n with
  | zero => exact ⟨rfl, (List.append_nil _).symm, rfl, fun x hx => .inl hx⟩
  | succ n ih =>
    have hsplit : acquisitions t fd w.episodes.length (n + 1) =
        acquisitions t fd w.episodes.length n ++
          [.enter t fd true, .register (w.episodes.length + n)] := by
      simp [acquisitions, List.range_succ]
    rw [hsplit, run_append]
    generalize w.run (acquisitions t fd w.episodes.length n) = v at ih ⊢
    obtain ⟨hslab, htrace, hlen, hold⟩ := ih
    rw [← hlen, run_enter_register, Slab.cram, ← hslab, List.replicate_succ', ← List.append_assoc,
      ← htrace]
    refine ⟨rfl, rfl, by rw [List.length_append, List.length_singleton, hlen]; rfl, ?_⟩
    intro x hx
    rcases List.mem_append.mp hx with hx | hx
    · exact hold x hx
    · exact .inr (List.mem_singleton.mp hx ▸ rfl)

end Scene

namespace Interleaving

/-- Enters of others leave a wake as it was. -/
lemma ringing_of_enters {κ : Type} [ForcedClose κ] (closer : κ) {t u : Thread} {cs : List Contact}
    (h : Contact.Unanswered (WakeChannels.Owns closer t) t cs) (n : ℕ) :
    (WakeChannels.after closer (cs ++ List.replicate n (.enter u true))).pairOf? t =
      some .ringing := by
  have hstill : Contact.Unanswered (WakeChannels.Owns closer t) t
      (cs ++ List.replicate n (.enter u true)) := by
    induction n with
    | zero => rwa [List.replicate_zero, List.append_nil]
    | succ n ih =>
      rw [List.replicate_succ', ← List.append_assoc]
      exact Contact.unanswered_enter.mpr ih
  rcases WakeChannels.told_after closer (cs ++ List.replicate n (.enter u true)) t with
    ⟨hp, -⟩ | ⟨-, hnot⟩ | ⟨-, hnot⟩
  · exact hp
  · exact absurd hstill hnot
  · exact absurd hstill hnot

/-- A scene in which a thread was woken for its guard. -/
def rung : Scene (WakeChannels CloseRecorder) :=
  (Scene.start 1 (.ofCloser (CloseRecorder.mk [] (.ofOutcomes [some (.os .wouldBlock)])))).run
    [.enter ⟨0⟩ (.raw 5) true, .register 0, .wake (.raw 5)]

lemma filled_rung : rung.registry.slab.Filled 1 := by
  have hone := (Slab.filled_ofCapacity 1).insert ⟨.raw 5, ⟨0⟩, false⟩
  have hslab : rung.registry.slab = _ :=
    Registry.slab_wakeBlocked (.raw 5) ((Registry.ofCapacity 1 (WakeChannels.ofCloser
      (CloseRecorder.mk [] (.ofOutcomes [some (.os .wouldBlock)])))).acquire ⟨0⟩ (.raw 5) true).2
      hone.tidy
  rw [hslab]
  exact hone.onClose (.raw 5)

lemma unanswered_rung : Contact.Unanswered (WakeChannels.Owns (CloseRecorder.mk [] (.ofOutcomes
    [some (.os .wouldBlock)])) ⟨0⟩) ⟨0⟩ rung.trace :=
  Contact.unanswered_wake.mpr (.inl ⟨rfl, by rw [WakeChannels.Owns]; decide +kernel⟩)

/-- A thread is woken for its guard, and then another acquires as many as there are slots to
number. -/
def pushedOut : List Move :=
  [.enter ⟨0⟩ (.raw 5) true, .register 0, .wake (.raw 5)] ++
    Scene.acquisitions ⟨1⟩ (.raw 6) 1 (2 ^ 32)

/-- The byte is there, the thread is in the middle of nothing, and its guard has gone. -/
theorem byte_iff_woken_since_cleared_pushedOut :
    (watched (pushedOut.map .move)).scene.registry.mechanism.pairOf? ⟨0⟩ =
        some ⟨true, 1, false⟩ ∧
      (∀ x ∈ (watched (pushedOut.map .move)).scene.episodes, x.thread = ⟨0⟩ →
        ∀ id, x.stage ≠ .unregistered id) ∧
      ∀ id e, (id, e) ∈ (watched (pushedOut.map .move)).scene.registry.blocked →
        e.thread ≠ ⟨0⟩ := by
  have hrung : rung.episodes = [⟨⟨0⟩, .raw 5, .registered (.pack 0 0)⟩] := by decide +kernel
  have hlen : rung.episodes.length = 1 := congrArg List.length hrung
  obtain ⟨hslab, htrace, -, hepisodes⟩ := rung.run_acquisitions ⟨1⟩ (.raw 6) (2 ^ 32)
  have hscene : (watched (pushedOut.map .move)).scene =
      rung.run (Scene.acquisitions ⟨1⟩ (.raw 6) rung.episodes.length (2 ^ 32)) := by
    rw [watched, overChannels, run_map_move, pushedOut, Scene.run_append, hlen, rung]
  have hmech := mechanism_run 1 (WakeChannels.ofCloser (CloseRecorder.mk [] (.ofOutcomes
    [some (.os .wouldBlock)]))) (pushedOut.map .move)
  rw [← overChannels, ← watched, hscene, htrace] at hmech
  rw [hscene]
  refine ⟨?_, fun x hx ht id hid => ?_, fun id e he => ?_⟩
  · rw [hmech]
    exact ringing_of_enters _ unanswered_rung (2 ^ 32)
  · rcases hepisodes x hx with hx | hx
    · rw [hrung, List.mem_singleton] at hx
      rw [hx] at hid
      exact Stage.noConfusion hid
    · rw [ht] at hx
      exact absurd hx (by decide)
  · rw [Registry.blocked, hslab] at he
    obtain rfl : e = _ := filled_rung.entries_cram _ he
    decide

end Interleaving

end AsyncClose
