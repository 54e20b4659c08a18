import AsyncClose.Mechanism.Recorder
import AsyncClose.Proofs.History.Basic

/-!
A registry shows what its history asks for.

Slots are used again and again, so what ties an entry to its guard is the identity: the live
guards have different identities, and each finds its own entry. Acquiring a guard gives it an
identity that finds nothing before, and releasing one takes out what its identity finds; so this
is kept in whatever order guards come and go.
-/

namespace AsyncClose

namespace Roster

variable {σ : Type}

/-- The registry after history `cs` holds the entries that the history asks for. -/
structure Follows (cs : List Command) (w : Roster σ) : Prop where
  valid : w.registry.slab.Valid
  length : w.guards.length = (History.acquired cs).length
  fate : ∀ n x, w.guards[n]? = some x → x.2 = History.fate n (History.since cs n)
  entry : ∀ n, (w.id? n).isSome = (History.listed? cs n).isSome
  found : ∀ id e, w.registry.slab.get? id = some e ↔
    ∃ n, w.id? n = some id ∧ History.listed? cs n = some e
  apart : ∀ i j id, w.id? i = some id → w.id? j = some id → i = j

lemma follows_start (capacity : ℕ) (m : σ) : Follows [] (start capacity m) := by
  refine ⟨Slab.valid_ofCapacity capacity, rfl, ?_, ?_, ?_, ?_⟩
  · intro n x hx; simp [start] at hx
  · intro n; simp [start, id?, History.listed?, History.acquired]
  · intro id e
    constructor
    · intro he
      rw [show (start capacity m).registry.slab = .ofCapacity capacity from rfl,
        Slab.get?_ofCapacity] at he
      simp at he
    · rintro ⟨n, hn, -⟩
      simp [start, id?] at hn
  · intro i j id hi
    simp [start, id?] at hi

/-- What is to be seen of guard `n`: the identity it was given, and the entry that the history
asks for. -/
def shown? (cs : List Command) (w : Roster σ) (n : ℕ) : Option (GuardId × Entry) :=
  w.guards[n]?.bind fun x => (History.listed? cs n).map fun e => (x.1.id, e)

def shown (cs : List Command) (w : Roster σ) : List (GuardId × Entry) :=
  (List.range (History.acquired cs).length).filterMap (w.shown? cs)

variable {cs : List Command} {w : Roster σ}

lemma Follows.shown?_eq_some (h : Follows cs w) {n : ℕ} {id : GuardId} {e : Entry} :
    w.shown? cs n = some (id, e) ↔ w.id? n = some id ∧ History.listed? cs n = some e := by
  have hn := h.entry n
  revert hn
  unfold shown? id?
  cases hx : w.guards[n]? with
  | none => simp
  | some x =>
    obtain ⟨g, f⟩ := x
    cases f <;> cases History.listed? cs n <;> simp

lemma lt_length_of_id? {n : ℕ} {id : GuardId} (h : w.id? n = some id) : n < w.guards.length := by
  obtain ⟨x, hx, -⟩ := Option.bind_eq_some_iff.mp h
  exact (List.getElem?_eq_some_iff.mp hx).1

lemma Follows.mem_shown (h : Follows cs w) {id : GuardId} {e : Entry} :
    (id, e) ∈ w.shown cs ↔ ∃ n, w.id? n = some id ∧ History.listed? cs n = some e := by
  simp only [shown, List.mem_filterMap, List.mem_range, h.shown?_eq_some]
  constructor
  · rintro ⟨n, -, hn⟩
    exact ⟨n, hn⟩
  · rintro ⟨n, hid, he⟩
    exact ⟨n, h.length ▸ lt_length_of_id? hid, hid, he⟩

lemma Follows.nodup_shown (h : Follows cs w) : (w.shown cs).Nodup := by
  refine List.Nodup.filterMap ?_ List.nodup_range
  rintro i j ⟨id, e⟩ hi hj
  exact h.apart i j id (h.shown?_eq_some.mp hi).1 (h.shown?_eq_some.mp hj).1

lemma Follows.perm (h : Follows cs w) : w.registry.blocked.Perm (w.shown cs) := by
  refine (List.perm_ext_iff_of_nodup (Slab.nodup_entries h.valid.tidy) h.nodup_shown).mpr ?_
  rintro ⟨id, e⟩
  exact (Slab.mem_entries h.valid.tidy).trans ((h.found id e).trans h.mem_shown.symm)

lemma Follows.live (h : Follows cs w) : w.registry.slab.live = History.live cs := by
  have hlen := h.perm.length_eq
  rw [shown, Slab.length_filterMap_eq_countP] at hlen
  rw [← Slab.length_entries h.valid, History.live]
  refine hlen.trans (List.countP_congr fun n hn => ?_)
  rw [List.mem_range, ← h.length] at hn
  simp [shown?, List.getElem?_eq_getElem hn]

lemma Follows.roomy_iff (h : Follows cs w) : w.registry.Roomy ↔ History.live cs < 2 ^ 32 := by
  rw [Registry.roomy_iff_live h.valid, h.live]

/-! ### One command more -/

lemma id?_append (g : Guard) (r : Registry σ) (n : ℕ) :
    id? ⟨r, w.guards ++ [(g, .held)]⟩ n =
      if n = w.guards.length then some g.id else w.id? n := by
  simp only [id?]
  rcases lt_trichotomy n w.guards.length with hn | rfl | hn
  · rw [if_neg hn.ne, List.getElem?_append_left hn]
  · simp
  · rw [if_neg hn.ne', List.getElem?_eq_none hn.le, List.getElem?_eq_none]
    simpa using hn

/-- A guard that is no longer held keeps its identity unless it was released. -/
lemma id?_set {n : ℕ} {g : Guard} (f : Fate) (hn : w.guards[n]? = some (g, .held))
    (r : Registry σ) (k : ℕ) :
    id? ⟨r, w.guards.set n (g, f)⟩ k = if k = n ∧ f = .dropped then none else w.id? k := by
  have hlt := (List.getElem?_eq_some_iff.mp hn).1
  simp only [id?]
  by_cases hk : k = n
  · subst hk
    rw [List.getElem?_set_self hlt, hn]
    cases f <;> simp
  · rw [List.getElem?_set_ne (Ne.symm hk), if_neg fun hc => hk hc.1]

lemma Follows.lt_acquired (h : Follows cs w) {n : ℕ} {x : Guard × Fate}
    (hx : w.guards[n]? = some x) : n < (History.acquired cs).length := by
  rw [← h.length]
  exact (List.getElem?_eq_some_iff.mp hx).1

lemma Follows.fate_snoc (h : Follows cs w) {n : ℕ} {x : Guard × Fate}
    (hx : w.guards[n]? = some x) (c : Command) :
    History.fate n (History.since (cs ++ [c]) n) =
      if x.2 = .held then History.fate n [c] else x.2 := by
  rw [History.since_snoc_of_lt (h.lt_acquired hx), History.fate_append, ← h.fate n x hx]

lemma Follows.id?_ne (h : Follows cs w) {id : GuardId} (hid : w.registry.slab.get? id = none)
    (n : ℕ) : w.id? n ≠ some id := by
  intro hn
  have hsome := h.entry n
  rw [hn] at hsome
  obtain ⟨e, he⟩ := Option.isSome_iff_exists.mp hsome.symm
  rw [(h.found id e).mpr ⟨n, hn, he⟩] at hid
  simp at hid

/-- A command that ends the use of guard `n`, for which the registry does what the history says. -/
lemma Follows.set (h : Follows cs w) {c : Command} {n : ℕ} {g : Guard} {f : Fate}
    {r : Registry σ} (hn : w.guards[n]? = some (g, .held)) (hv : r.slab.Valid)
    (hacq : History.acquired [c] = []) (hf : ∀ k, History.fate k [c] = if n = k then f else .held)
    (hentry : ∀ k, History.listed? (cs ++ [c]) k =
      if k = n ∧ f = .dropped then none else History.listed? cs k)
    (hget : ∀ id, r.slab.get? id =
      if id = g.id ∧ f = .dropped then none else w.registry.slab.get? id) :
    Follows (cs ++ [c]) ⟨r, w.guards.set n (g, f)⟩ := by
  have hlt := (List.getElem?_eq_some_iff.mp hn).1
  have hid := id?_set f hn r
  have hself : w.id? n = some g.id := by simp [id?, hn]
  refine ⟨hv, ?_, ?_, ?_, ?_, ?_⟩
  · simp [hacq, h.length]
  · intro k x hx
    by_cases hk : n = k
    · subst hk
      rw [h.fate_snoc hn, if_pos rfl, hf, if_pos rfl]
      simp only [List.getElem?_set_self hlt, Option.some.injEq] at hx
      rw [← hx]
    · simp only [List.getElem?_set_ne hk] at hx
      rw [h.fate_snoc hx, hf, if_neg hk]
      cases x.2 <;> rfl
  · intro k
    rw [hid, hentry]
    split
    · rfl
    · exact h.entry k
  · intro id e
    rw [hget]
    simp only [hid, hentry]
    by_cases hd : f = .dropped
    · simp only [hd, and_true, Option.ite_none_left_eq_some, h.found]
      -- guard `n` and nobody else has the identity that is taken out
      constructor
      · rintro ⟨hne, k, hk, he⟩
        have hkn : ¬k = n := by
          rintro rfl
          exact hne (Option.some.inj (hk.symm.trans hself))
        exact ⟨k, ⟨hkn, hk⟩, hkn, he⟩
      · rintro ⟨k, ⟨hkn, hk⟩, -, he⟩
        refine ⟨?_, k, hk, he⟩
        rintro rfl
        exact hkn (h.apart k n _ hk hself)
    · simp only [hd, and_false, if_false, h.found]
  · intro i j id hi hj
    rw [hid, Option.ite_none_left_eq_some] at hi hj
    exact h.apart i j id hi.2 hj.2

/-- A command for a guard that is no longer held, or not there, asks for nothing. -/
lemma Follows.idle (h : Follows cs w) {c : Command} {n : ℕ}
    (hn : ∀ g, w.guards[n]? ≠ some (g, .held)) (hacq : History.acquired [c] = [])
    (hf : ∀ k, n ≠ k → History.fate k [c] = .held)
    (hentry : ∀ k, History.listed? (cs ++ [c]) k = History.listed? cs k) :
    Follows (cs ++ [c]) w := by
  refine ⟨h.valid, by simp [hacq, h.length], ?_, ?_, ?_, h.apart⟩
  · intro k x hx
    rw [h.fate_snoc hx]
    split
    · next hheld =>
      have hk : n ≠ k := by
        rintro rfl
        exact hn x.1 (by rw [hx, ← hheld])
      rw [hf k hk, hheld]
    · rfl
  · intro k
    rw [hentry, h.entry]
  · intro id e
    simp only [hentry, h.found]

variable [Mechanism σ]

lemma Follows.acquire (h : Follows cs w) {t : Thread} {fd : Descriptor} {canOpen : Bool}
    (room : (w.perform (.acquire t fd canOpen)).registry.Roomy) :
    Follows (cs ++ [.acquire t fd canOpen]) (w.perform (.acquire t fd canOpen)) := by
  have hnew := Slab.get?_insert_fst h.valid ⟨fd, t, false⟩
  have hget := Slab.get?_insert h.valid ⟨fd, t, false⟩
  have hid : ∀ n, (w.perform (.acquire t fd canOpen)).id? n =
      if n = w.guards.length then some (w.registry.slab.insert ⟨fd, t, false⟩).1 else w.id? n :=
    fun n => id?_append _ _ n
  have hlen := h.length
  have hvalid := Registry.valid_register (r := w.registry.enter t canOpen) h.valid room
  refine ⟨hvalid, ?_, ?_, ?_, ?_, ?_⟩
  · simp [perform, History.acquired, hlen]
  · intro n x hx
    by_cases hn : n < w.guards.length
    · simp only [perform, List.getElem?_append_left hn] at hx
      rw [h.fate_snoc hx]
      cases x.2 <;> rfl
    · obtain ⟨hn', -⟩ := List.getElem?_eq_some_iff.mp hx
      obtain rfl : n = w.guards.length := by
        simp [perform] at hn'
        omega
      rw [hlen, History.since_acquire]
      simp [perform] at hx
      simp [← hx, History.fate]
  · intro n
    rw [hid, History.listed?_acquire, hlen]
    split
    · rfl
    · exact h.entry n
  · intro id e
    change (w.registry.slab.insert ⟨fd, t, false⟩).2.get? id = some e ↔ _
    rw [hget]
    simp only [hid, History.listed?_acquire, hlen]
    constructor
    · intro he
      split at he
      · next hc => exact ⟨w.guards.length, by simp [hlen, hc], by simpa [hlen] using he⟩
      · obtain ⟨n, hn, hen⟩ := (h.found id e).mp he
        have hne : ¬n = (History.acquired cs).length := by
          have := lt_length_of_id? hn
          omega
        exact ⟨n, by rw [if_neg hne, hn], by rw [if_neg hne, hen]⟩
    · rintro ⟨n, hn, hen⟩
      split at hn
      · next hc =>
        rw [if_pos hc] at hen
        rw [if_pos (Option.some.inj hn).symm, hen]
      · next hc =>
        rw [if_neg hc] at hen
        rw [if_neg, (h.found id e).mpr ⟨n, hn, hen⟩]
        rintro rfl
        exact h.id?_ne hnew n hn
  · intro i j id hi hj
    rw [hid] at hi hj
    split at hi <;> split at hj
    · omega
    · exact absurd (hj.trans hi.symm) (h.id?_ne hnew j)
    · exact absurd (hi.trans hj.symm) (h.id?_ne hnew i)
    · exact h.apart i j id hi hj

lemma Follows.release (h : Follows cs w) (n : ℕ) :
    Follows (cs ++ [.release n]) (w.perform (.release n)) := by
  simp only [perform]
  split
  · next g hn =>
    refine h.set hn (Slab.valid_remove h.valid g.id) rfl (fun k => ?_) (fun k => ?_) fun id => ?_
    · simp only [History.fate]
    · rw [History.listed?_release]
      by_cases hk : n = k
      · subst hk
        simp [← h.fate n _ hn]
      · simp [hk, Ne.symm hk]
    · rw [Registry.slab_release, Slab.get?_remove]
      simp
  · next hn =>
    refine h.idle (n := n) (fun g hg => hn g hg) rfl (fun k hk => ?_) fun k => ?_
    · simp [History.fate, hk]
    · rw [History.listed?_release]
      split
      · next hc =>
        obtain ⟨rfl, hheld⟩ := hc
        refine (History.listed?_of_le ?_).symm
        rw [← h.length, ← List.getElem?_eq_none_iff]
        cases hx : w.guards[n]? with
        | none => rfl
        | some x => exact absurd (by rw [hx, ← hheld, ← h.fate n x hx]) (hn x.1)
      · rfl

lemma Follows.forget (h : Follows cs w) (n : ℕ) :
    Follows (cs ++ [.forget n]) (w.perform (.forget n)) := by
  simp only [perform]
  split
  · next g hn =>
    refine h.set hn h.valid rfl (fun k => ?_) (fun k => ?_) fun id => ?_
    · simp only [History.fate]
    · rw [History.listed?_forget]
      simp
    · simp
  · next hn =>
    refine h.idle (n := n) (fun g hg => hn g hg) rfl (fun k hk => ?_) fun k => ?_
    · simp [History.fate, hk]
    · exact History.listed?_forget cs k n

lemma Follows.wake (h : Follows cs w) (fd : Descriptor) :
    Follows (cs ++ [.wake fd]) (w.perform (.wake fd)) := by
  have hslab := Registry.slab_wakeBlocked fd w.registry h.valid.tidy
  have hid : ∀ n, (w.perform (.wake fd)).id? n = w.id? n := fun _ => rfl
  refine ⟨?_, ?_, ?_, ?_, ?_, h.apart⟩
  · rw [perform, hslab]
    exact Slab.valid_onClose h.valid fd
  · simp [perform, History.acquired, h.length]
  · intro n x hx
    rw [h.fate_snoc hx]
    cases x.2 <;> rfl
  · intro n
    rw [hid, History.listed?_wake, Option.isSome_map, h.entry]
  · intro id e
    rw [perform, Registry.get?_wakeBlocked fd _ h.valid.tidy]
    simp only [History.listed?_wake, Option.map_eq_some_iff, h.found]
    constructor
    · rintro ⟨e, ⟨n, hn, he⟩, rfl⟩
      exact ⟨n, hn, e, he, rfl⟩
    · rintro ⟨n, hn, e, he, rfl⟩
      exact ⟨e, ⟨n, hn, he⟩, rfl⟩

/-- One command keeps to the history, if the guards can be counted after it in the history or in the
registry. -/
lemma Follows.snoc (h : Follows cs w) {c : Command}
    (room : History.live (cs ++ [c]) < 2 ^ 32 ∨ (w.perform c).registry.Roomy) :
    Follows (cs ++ [c]) (w.perform c) := by
  cases c with
  | acquire t fd canOpen =>
    have hroom : (w.perform (.acquire t fd canOpen)).registry.Roomy ↔ _ :=
      Registry.roomy_register_iff (r := w.registry.enter t canOpen) h.valid fd t
    rw [History.live_acquire, ← h.live, ← Registry.slab_enter w.registry t canOpen, ← hroom,
      or_self] at room
    exact h.acquire room
  | release n => exact h.release n
  | forget n => exact h.forget n
  | wake fd => exact h.wake fd

def ofHistory (capacity : ℕ) (m : σ) (cs : List Command) : Roster σ := (start capacity m).run cs

lemma follows_ofHistory (capacity : ℕ) (m : σ) {cs : List Command}
    (room : History.Roomy cs) : Follows cs (ofHistory capacity m cs) := by
  induction cs using List.reverseRecOn with
  | nil => exact follows_start capacity m
  | append_singleton cs c ih =>
    rw [ofHistory, run_snoc]
    exact (ih room.left).snoc (.inl (room _ List.prefix_rfl))

/-- The guards that should be live can be counted at any time if and only if those that are listed
can. -/
theorem roomy_iff (capacity : ℕ) (m : σ) (cs : List Command) :
    History.Roomy cs ↔ ∀ p, p <+: cs → (ofHistory capacity m p).registry.Roomy := by
  constructor
  · intro room p hp
    exact (follows_ofHistory capacity m (room.of_prefix hp)).roomy_iff.mpr (room p hp)
  · intro room
    induction cs using List.reverseRecOn with
    | nil =>
      intro p hp
      rw [List.prefix_nil.mp hp]
      decide
    | append_singleton cs c ih =>
      have hcs := ih fun p hp => room p (hp.trans (List.prefix_append cs [c]))
      intro p hp
      rcases List.prefix_concat_iff.mp hp with rfl | hp
      · have hlast := room _ List.prefix_rfl
        rw [ofHistory, run_snoc] at hlast
        exact ((follows_ofHistory capacity m hcs).snoc (.inr hlast)).roomy_iff.mp hlast
      · exact hcs p hp

/-- **The snapshot is what the history asks for.** Whatever the capacity, the mechanism and the
order of commands, as long as fewer than `2 ^ 32` guards are live at once: the registry lists each
guard that was acquired and not released, once, in slot order, with its descriptor and thread and
whether its descriptor was closed since. The size is the length of the list, and an identity is
signaled if and only if it is listed with a mark. -/
theorem snapshot_refines_history (capacity : ℕ) (m : σ) (cs : List Command)
    (room : History.Roomy cs) :
    (ofHistory capacity m cs).guards.length = (History.acquired cs).length ∧
      (ofHistory capacity m cs).registry.blocked.Perm ((ofHistory capacity m cs).shown cs) ∧
      (ofHistory capacity m cs).registry.blocked.Pairwise (fun x y => x.1.slot < y.1.slot) ∧
      (ofHistory capacity m cs).registry.size =
        (ofHistory capacity m cs).registry.blocked.length ∧
      ((ofHistory capacity m cs).registry.isEmpty = true ↔
        (ofHistory capacity m cs).registry.size = 0) ∧
      ∀ id, (ofHistory capacity m cs).registry.signaled id = true ↔
        ∃ e, (id, e) ∈ (ofHistory capacity m cs).registry.blocked ∧ e.signaled = true := by
  have h := follows_ofHistory capacity m room
  refine ⟨h.length, h.perm, Slab.pairwise_entries h.valid.tidy,
    (Slab.length_entries h.valid).symm, decide_eq_true_iff, fun id => ?_⟩
  rw [Registry.signaled, Slab.signaled_eq_true]
  constructor
  · rintro ⟨e, he, hs⟩
    exact ⟨e, (Slab.mem_entries h.valid.tidy).mpr he, hs⟩
  · rintro ⟨e, he, hs⟩
    exact ⟨e, (Slab.mem_entries h.valid.tidy).mp he, hs⟩

/-- Guards that come, go, are closed and are forgotten. -/
def comings : List Command :=
  [.acquire ⟨0⟩ (.raw 5) true, .acquire ⟨1⟩ (.raw 6) true, .forget 0, .release 0, .wake (.raw 6),
    .release 1, .acquire ⟨1⟩ (.raw 5) true, .wake (.raw 5), .acquire ⟨0⟩ (.raw 5) true]

lemma roomy_comings : History.Roomy comings := by
  decide +kernel

/-- After them three guards are live, two of them marked. -/
theorem snapshot_refines_history_comings :
    (ofHistory 1 (WakeRecorder.mk [] (.ofOutcomes [])) comings).registry.blocked =
        [(⟨0⟩, ⟨.raw 5, ⟨0⟩, true⟩), (.pack 1 1, ⟨.raw 5, ⟨1⟩, true⟩),
          (.pack 2 0, ⟨.raw 5, ⟨0⟩, false⟩)] ∧
      (ofHistory 1 (WakeRecorder.mk [] (.ofOutcomes [])) comings).registry.blocked.Perm
        ((ofHistory 1 (WakeRecorder.mk [] (.ofOutcomes [])) comings).shown comings) :=
  ⟨by decide +kernel,
    (snapshot_refines_history 1 (WakeRecorder.mk [] (.ofOutcomes [])) comings roomy_comings).2.1⟩

end Roster

end AsyncClose
