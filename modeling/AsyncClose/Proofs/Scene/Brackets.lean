import AsyncClose.Proofs.Scene.Basic

/-!
Wakes fall between enters and leaves.

A scan wakes the threads it finds in the registry. Every entry there belongs to an episode that
is registered, and such an episode has entered and not left. So counting enters and leaves shows
that the thread is inside whenever it is woken.
-/

namespace AsyncClose

namespace Scene

variable {σ : Type}

def pending (t : Thread) (x : Episode) : Bool := x.thread = t && !x.stage.isOver

/-- Every entry of the registry belongs to an episode whose guard is live. -/
def Owned (w : Scene σ) : Prop :=
  ∀ id e, w.registry.slab.get? id = some e →
    ∃ (n : ℕ) (x : Episode),
      w.episodes[n]? = some x ∧ x.stage.live? = some id ∧ x.thread = e.thread

def Balanced (w : Scene σ) : Prop :=
  ∀ t, Contact.entered t w.trace = Contact.left t w.trace + w.episodes.countP (pending t)

lemma owned_start (capacity : ℕ) (m : σ) : (start capacity m).Owned := by
  intro id e he
  rw [get?_start] at he
  simp at he

/-- An episode keeps its entry as long as its guard stays live. -/
lemma owned_moved {w : Scene σ} {n : ℕ} {x : Episode} {s : Stage} {r : Registry σ}
    {cs : List Contact} (hx : w.episodes[n]? = some x)
    (h : ∀ id e, r.slab.get? id = some e → (s.live? = some id ∧ x.thread = e.thread) ∨
      (w.registry.slab.get? id = some e ∧ (x.stage.live? = some id → s.live? = some id)))
    (ho : w.Owned) : (w.moved n x s r cs).Owned := by
  have hn : n < w.episodes.length := (List.getElem?_eq_some_iff.mp hx).1
  intro id e he
  rcases h id e he with ⟨hs, ht⟩ | ⟨hold, hs⟩
  · exact ⟨n, { x with stage := s }, by simp [moved, hn], hs, ht⟩
  · obtain ⟨k, y, hy, hlive, ht⟩ := ho id e hold
    by_cases hk : n = k
    · subst hk
      obtain rfl : x = y := Option.some.inj (hx.symm.trans hy)
      exact ⟨n, { x with stage := s }, by simp [moved, hn], hs hlive, ht⟩
    · exact ⟨k, y, by simp [moved, List.getElem?_set_ne hk, hy], hlive, ht⟩

/-- An episode that moves on is one pending episode less if it leaves. -/
lemma countP_moved {w : Scene σ} {n : ℕ} {x : Episode} (hx : w.episodes[n]? = some x) (s : Stage)
    (r : Registry σ) (cs : List Contact) (t : Thread) :
    (w.moved n x s r cs).episodes.countP (pending t) + (if pending t x then 1 else 0) =
      w.episodes.countP (pending t) + if pending t { x with stage := s } then 1 else 0 :=
  Slab.countP_set_add _ hx _

lemma pending_of_not_isOver {x : Episode} {s : Stage} (t : Thread)
    (h : s.isOver = x.stage.isOver) : pending t { x with stage := s } = pending t x := by
  simp only [pending, h]

lemma balanced_moved {w : Scene σ} {n : ℕ} {x : Episode} {s : Stage} {r : Registry σ}
    (hx : w.episodes[n]? = some x) (hs : s.isOver = x.stage.isOver) (hb : w.Balanced) :
    (w.moved n x s r []).Balanced := by
  intro t
  have hc := countP_moved hx s r [] t
  have ht := hb t
  rw [pending_of_not_isOver t hs] at hc
  rw [show (w.moved n x s r []).trace = w.trace from List.append_nil _]
  omega

lemma lt_entered_of_get? {w : Scene σ} (ho : w.Owned) (hb : w.Balanced) {id : GuardId} {e : Entry}
    (he : w.registry.slab.get? id = some e) :
    Contact.left e.thread w.trace < Contact.entered e.thread w.trace := by
  obtain ⟨n, x, hx, hlive, ht⟩ := ho id e he
  have hpos : 0 < w.episodes.countP (pending e.thread) := by
    refine List.countP_pos_iff.mpr ⟨x, List.mem_of_getElem? hx, ?_⟩
    cases hs : x.stage <;> simp_all [pending, Stage.live?, Stage.isOver]
  have := hb e.thread
  omega

structure Orderly (w : Scene σ) : Prop where
  tidy : w.registry.slab.Tidy
  owned : w.Owned
  balanced : w.Balanced
  bracketed : Contact.Bracketed w.trace

lemma mem_wakes {w : Scene σ} (h : w.registry.slab.Tidy) {fd : Descriptor} {c : Contact} :
    c ∈ w.wakes fd ↔
      ∃ id e, w.registry.slab.get? id = some e ∧ e.fd = fd ∧ c = .wake e.thread fd := by
  simp only [wakes, List.mem_map, Prod.exists, Registry.mem_targets h]
  constructor
  · rintro ⟨id, e, ⟨he, hfd⟩, rfl⟩
    exact ⟨id, e, he, hfd, rfl⟩
  · rintro ⟨id, e, he, hfd, rfl⟩
    exact ⟨id, e, ⟨he, hfd⟩, rfl⟩

lemma orderly_start (capacity : ℕ) (m : σ) : (start capacity m).Orderly :=
  ⟨tidy_start capacity m, owned_start capacity m, fun _ => rfl, Contact.bracketed_nil⟩

lemma Orderly.wakes_only {w : Scene σ} (h : w.Orderly) (fd : Descriptor) :
    ∀ c ∈ w.wakes fd, ∃ u d, c = .wake u d := by
  intro c hc
  obtain ⟨id, e, -, -, rfl⟩ := (mem_wakes h.tidy).mp hc
  exact ⟨_, _, rfl⟩

/-- A scan finds every thread it wakes inside. -/
lemma Orderly.bracketed_wakes {w : Scene σ} (h : w.Orderly) (fd : Descriptor) :
    Contact.Bracketed (w.trace ++ w.wakes fd) := by
  refine h.bracketed.append fun pre c post heq => ?_
  have hmem : c ∈ w.wakes fd := by rw [heq]; simp
  obtain ⟨id, e, he, -, rfl⟩ := (mem_wakes h.tidy).mp hmem
  have hlt := lt_entered_of_get? h.owned h.balanced he
  -- the wakes before it move nobody in or out
  have hpre : ∀ c ∈ pre, ∃ u d, c = .wake u d := fun c hc =>
    h.wakes_only fd c (by rw [heq]; simp [hc])
  obtain ⟨hent, hleft⟩ := Contact.count_of_wakes e.thread hpre
  simp only [Contact.Allowed, Contact.entered_append, Contact.left_append]
  omega

variable [Mechanism σ]

lemma orderly_stepped {v v' : Scene σ} (h : v.Orderly) (hs : Stepped v v') : v'.Orderly := by
  have htidy := tidy_stepped h.tidy hs
  cases hs with
  | idle => exact h
  | enter t fd canOpen =>
    refine ⟨htidy, ?_, ?_, Contact.bracketed_snoc.mpr ⟨h.bracketed, trivial⟩⟩
    · intro id e he
      obtain ⟨n, x, hx, hlive, hth⟩ := h.owned id e he
      have hn := (List.getElem?_eq_some_iff.mp hx).1
      exact ⟨n, x, by rw [List.getElem?_append_left hn, hx], hlive, hth⟩
    · intro u
      have hu := h.balanced u
      by_cases htu : t = u
      · simp [pending, Stage.isOver, htu]; omega
      · simp [pending, htu]; omega
  | register n x hx hs =>
    refine ⟨htidy, owned_moved hx ?_ h.owned, balanced_moved hx (by rw [hs]; rfl) h.balanced, ?_⟩
    · -- what the registry holds now is the new entry, or it held it before
      intro id e he
      rcases Slab.get?_insert_cases h.tidy he with ⟨rfl, rfl⟩ | hold
      · exact .inl ⟨rfl, rfl⟩
      · exact .inr ⟨hold, by simp [hs, Stage.live?]⟩
    · rw [moved, List.append_nil]; exact h.bracketed
  | forget n x id hx hs =>
    refine ⟨htidy, owned_moved hx ?_ h.owned, balanced_moved hx (by rw [hs]; rfl) h.balanced, ?_⟩
    · exact fun id e he => .inr ⟨he, by simp [hs, Stage.live?]⟩
    · rw [moved, List.append_nil]; exact h.bracketed
  | unregister n x id hx hs =>
    refine ⟨htidy, owned_moved hx ?_ h.owned, balanced_moved hx (by rw [hs]; rfl) h.balanced, ?_⟩
    · intro id' e he
      rw [Registry.slab_unregister, Slab.get?_remove] at he
      split at he
      · simp at he
      · next hne => exact .inr ⟨he, by simp [hs, Stage.live?, Ne.symm hne]⟩
    · rw [moved, List.append_nil]; exact h.bracketed
  | leave n x id hx hs =>
    have hcount := countP_moved hx (.left id) (v.registry.leave x.thread) [.leave x.thread]
    refine ⟨htidy, owned_moved hx ?_ h.owned, ?_, Contact.bracketed_snoc.mpr ⟨h.bracketed, ?_⟩⟩
    · exact fun id e he => .inr ⟨he, by simp [hs, Stage.live?]⟩
    · intro u
      have hu := h.balanced u
      have hc := hcount u
      by_cases htu : x.thread = u
      · simp [pending, Stage.isOver, hs, htu] at hc
        simp [moved, htu] at hc ⊢
        omega
      · simp [pending, htu] at hc
        simp [moved, htu] at hc ⊢
        omega
    · -- the episode that leaves is itself pending
      have hpos : 0 < v.episodes.countP (pending x.thread) :=
        List.countP_pos_iff.mpr ⟨x, List.mem_of_getElem? hx, by simp [pending, hs, Stage.isOver]⟩
      have := h.balanced x.thread
      simp only [Contact.Allowed]
      omega
  | wake fd =>
    refine ⟨htidy, ?_, ?_, h.bracketed_wakes fd⟩
    · intro id e he
      dsimp only at he
      rw [Registry.get?_wakeBlocked fd _ h.tidy] at he
      obtain ⟨e, hold, rfl⟩ := Option.map_eq_some_iff.mp he
      simpa using h.owned id e hold
    · intro t
      obtain ⟨hent, hleft⟩ := Contact.count_of_wakes t (h.wakes_only fd)
      have := h.balanced t
      simp only [Contact.entered_append, Contact.left_append]
      omega

lemma orderly_run (capacity : ℕ) (m : σ) (ms : List Move) : ((start capacity m).run ms).Orderly :=
  run_induction (orderly_start capacity m) (fun _ _ => orderly_stepped) ms

end Scene

end AsyncClose
