import AsyncClose.Proofs.History.Channels

/-!
Channels and live guards, side by side.

The registry and the channels are changed by different calls, yet as long as no pair is refused
they agree thread by thread. A guard enters its thread before its entry goes in and leaves after
its entry came out, so between two commands the entries of a thread are its guards that were
acquired and not released, and so is what its channel counts.
-/

namespace AsyncClose

namespace Roster

lemma countP_range_getElem? {α : Type} (p : α → Bool) (l : List α) :
    (List.range l.length).countP (fun n => l[n]?.any p) = l.countP p := by
  induction l using List.reverseRecOn with
  | nil => rfl
  | append_singleton l a ih =>
    have hbelow : ∀ n ∈ List.range l.length, (l ++ [a])[n]?.any p = l[n]?.any p := fun n hn => by
      rw [List.getElem?_append_left (List.mem_range.mp hn)]
    rw [List.length_append, List.length_singleton, List.range_succ, List.countP_append,
      List.countP_append, ← ih, List.countP_congr fun n hn => by rw [hbelow n hn]]
    simp

section

variable {σ : Type}

/-- The guards that were acquired are those that the history asked for. -/
lemma map_guards_ofHistory [Mechanism σ] (capacity : ℕ) (m : σ) (cs : List Command) :
    (ofHistory capacity m cs).guards.map (fun x => (x.1.thread, x.1.fd)) =
      History.acquired cs := by
  induction cs using List.reverseRecOn with
  | nil => rfl
  | append_singleton cs a ih =>
    -- what became of a guard does not matter here
    have hset : ∀ (n : ℕ) (g : Guard) (f : Fate),
        (ofHistory capacity m cs).guards[n]? = some (g, .held) →
        ((ofHistory capacity m cs).guards.set n (g, f)).map (fun x => (x.1.thread, x.1.fd)) =
          History.acquired cs := by
      intro n g f hn
      rw [List.map_set, ih]
      have hat : (History.acquired cs)[n]? = some (g.thread, g.fd) := by
        rw [← ih, List.getElem?_map, hn, Option.map_some]
      obtain ⟨hlt, hat⟩ := List.getElem?_eq_some_iff.mp hat
      rw [← hat, List.set_getElem_self]
    rw [ofHistory, run_snoc, History.acquired_append]
    change ((ofHistory capacity m cs).perform a).guards.map _ = _
    cases a with
    | acquire t fd canOpen => simp [perform, History.acquired, ih]
    | release n =>
      refine Eq.trans ?_ (List.append_nil _).symm
      rcases (ofHistory capacity m cs).held_or_idle n with ⟨g, hn⟩ | ⟨hp, -, -⟩
      · rw [perform_release hn]; exact hset n g _ hn
      · rw [hp, ih]
    | forget n =>
      refine Eq.trans ?_ (List.append_nil _).symm
      rcases (ofHistory capacity m cs).held_or_idle n with ⟨g, hn⟩ | ⟨-, -, hp⟩
      · rw [perform_forget hn]; exact hset n g _ hn
      · rw [hp, ih]
    | wake fd => simp [perform, History.acquired, ih]

/-- The entries of a thread are its guards that were acquired and not released. -/
lemma Follows.countP_blocked {cs : List Command} {w : Roster σ} (h : Follows cs w)
    (hg : w.guards.map (fun x => (x.1.thread, x.1.fd)) = History.acquired cs) (t : Thread) :
    (w.registry.blocked.countP fun x => x.2.thread = t) = w.present t := by
  rw [h.perm.countP_eq, shown, List.countP_filterMap, ← h.length, present,
    ← countP_range_getElem? _ w.guards]
  refine List.countP_congr fun n hn => ?_
  obtain ⟨x, hx⟩ : ∃ x, w.guards[n]? = some x :=
    ⟨_, List.getElem?_eq_getElem (List.mem_range.mp hn)⟩
  have hacq : (History.acquired cs)[n]? = some (x.1.thread, x.1.fd) := by
    rw [← hg, List.getElem?_map, hx, Option.map_some]
  rw [shown?, hx, History.listed?_of_getElem? hacq, ← h.fate n x hx]
  by_cases hd : x.2 = .dropped <;> simp [hd]

end

section

variable {κ : Type} [ForcedClose κ] {closer : κ} {capacity : ℕ} {cs : List Command} {t : Thread}

lemma countP_blocked (room : History.Roomy cs) (t : Thread) :
    ((overChannels closer capacity cs).registry.blocked.countP fun x => x.2.thread = t) =
      (overChannels closer capacity cs).present t :=
  (follows_ofHistory capacity _ room).countP_blocked (map_guards_ofHistory capacity _ cs) t

lemma present_pos_iff (room : History.Roomy cs) :
    0 < (overChannels closer capacity cs).present t ↔
      ∃ x ∈ (overChannels closer capacity cs).registry.blocked, x.2.thread = t := by
  rw [← countP_blocked room, List.countP_pos_iff]
  simp

lemma exists_channel_iff (granted : Granted closer capacity t cs)
    (room : History.Roomy cs) :
    (∃ x, (overChannels closer capacity cs).channel? t = some x) ↔
      ∃ x ∈ (overChannels closer capacity cs).registry.blocked, x.2.thread = t := by
  rw [← present_pos_iff room, ← depth_eq_present granted]
  exact (inOrder_overChannels closer capacity cs).depth_pos_iff.symm

/-- There are as many channels as threads with a live guard. -/
lemma size_channels (granted : ∀ t, Granted closer capacity t cs)
    (room : History.Roomy cs) :
    (overChannels closer capacity cs).registry.mechanism.channels.size =
      ((overChannels closer capacity cs).registry.blocked.map fun x => x.2.thread).dedup.length := by
  have hnodup : (overChannels closer capacity cs).registry.mechanism.channels.threads.Nodup :=
    mechanism_induction (P := fun s => s.channels.threads.Nodup) List.nodup_nil
      (fun _ _ _ => WakeChannels.nodup_threads_called) cs
  rw [ThreadMap.size_eq]
  refine ((List.perm_ext_iff_of_nodup hnodup (List.nodup_dedup _)).mpr fun t => ?_).length_eq
  rw [ThreadMap.mem_threads, List.mem_dedup, List.mem_map]
  exact exists_channel_iff (granted t) room

lemma pairs_acquire (w : Roster (WakeChannels κ)) (h : w.channel? t = none) (fd : Descriptor) :
    (w.perform (.acquire t fd true)).registry.mechanism.pairs =
      w.registry.mechanism.pairs ++ [.fresh] := by
  change (WakeChannels.enter t true w.registry.mechanism).1.pairs = _
  rw [channel?] at h
  rw [WakeChannels.enter, h]
  rfl

/-- **A channel counts the live guards of its thread.** As long as no pair is refused, and fewer
than `2 ^ 32` guards are live at once: a thread has a channel if and only if it has a live guard, the
channel counts its live guards, and there are as many channels as threads with live guards. The
pair of a thread was made by the acquisition before which the thread had no live guard, and it has
been the source of the thread ever since, as the thread has always had a live guard. -/
theorem channels_match_live_guards (closer : κ) (capacity : ℕ) (cs : List Command)
    (granted : ∀ t, Granted closer capacity t cs)
    (room : History.Roomy cs) :
    (∀ t, (∃ x, (overChannels closer capacity cs).channel? t = some x) ↔
        ∃ y ∈ (overChannels closer capacity cs).registry.blocked, y.2.thread = t) ∧
      (∀ t x, (overChannels closer capacity cs).channel? t = some x →
        x.depth =
          (overChannels closer capacity cs).registry.blocked.countP fun y => y.2.thread = t) ∧
      (overChannels closer capacity cs).registry.mechanism.channels.size =
        ((overChannels closer capacity cs).registry.blocked.map
          fun y => y.2.thread).dedup.length ∧
      ∀ t x, (overChannels closer capacity cs).channel? t = some x →
        ∃ pre fd post, cs = pre ++ Command.acquire t fd true :: post ∧
          (∀ y ∈ (overChannels closer capacity pre).registry.blocked, y.2.thread ≠ t) ∧
          x.pair = ⟨(overChannels closer capacity pre).registry.mechanism.pairs.length⟩ ∧
          (overChannels closer capacity
              (pre ++ [Command.acquire t fd true])).registry.mechanism.pairs =
            (overChannels closer capacity pre).registry.mechanism.pairs ++ [.fresh] ∧
          ∀ p, p <+: post →
            (∃ y ∈ (overChannels closer capacity
                (pre ++ Command.acquire t fd true :: p)).registry.blocked, y.2.thread = t) ∧
              (overChannels closer capacity
                (pre ++ Command.acquire t fd true :: p)).registry.source? t = some x.pair := by
  refine ⟨fun t => exists_channel_iff (granted t) room, ?_, size_channels granted room, ?_⟩
  · intro t x hx
    rw [countP_blocked room, ← depth_eq_present (granted t)]
    exact (WakeChannels.depth_of_some hx).symm
  · intro t x hx
    obtain ⟨pre, fd, post, rfl, hnone, hpair, hcounts⟩ := exists_made hx
    have hroom : ∀ p, p <+: post →
        History.Roomy (pre ++ Command.acquire t fd true :: p) := by
      rintro p ⟨p', rfl⟩
      rw [← List.cons_append, ← List.append_assoc] at room
      exact room.left
    refine ⟨pre, fd, post, rfl, ?_, hpair, ?_, fun p hp => ⟨?_, (hcounts p hp).source⟩⟩
    · intro y hy hyt
      have hpos := (present_pos_iff room.left).mpr ⟨y, hy, hyt⟩
      rw [present_eq_zero (granted t).of_append hnone] at hpos
      omega
    · rw [overChannels_snoc]
      exact pairs_acquire _ hnone fd
    · exact (present_pos_iff (hroom p hp)).mp (by have := (hcounts p hp).lt; omega)

/-- Two threads, one with nested guards, for the second of which no pair needs to be made; guards
are released out of order and forgotten. -/
def crossing : List Command :=
  [.acquire ⟨0⟩ (.raw 5) true, .acquire ⟨1⟩ (.raw 6) true, .acquire ⟨0⟩ (.raw 6) false,
    .wake (.raw 5), .release 0, .forget 1, .acquire ⟨0⟩ (.raw 7) true]

/-- The thread that the command acquires a guard for while no pair can be made. -/
def refused? : Command → Option Thread
  | .acquire t _ false => some t
  | _ => none

lemma granted_crossing (t : Thread) :
    Granted (CloseRecorder.mk [] (.ofOutcomes [])) 1 t crossing := by
  have hall : ∀ p ∈ crossing.inits, ((p.getLast?.bind refused?).all fun t =>
      ((watched p.dropLast).channel? t).isSome) = true := by
    decide +kernel
  intro p fd hp hnone
  have hlast := hall _ ((List.mem_inits _ _).mpr hp)
  rw [List.getLast?_concat, List.dropLast_concat, Option.bind_some, refused?, Option.all_some,
    watched, hnone] at hlast
  simp at hlast

lemma roomy_crossing : History.Roomy crossing := by
  decide +kernel

/-- Afterwards the channel of the first thread counts two guards, and there are two channels. -/
theorem channels_match_live_guards_crossing :
    (watched crossing).channel? ⟨0⟩ = some ⟨⟨0⟩, 2⟩ ∧
      2 = ((watched crossing).registry.blocked.countP fun y => y.2.thread = ⟨0⟩) ∧
      (watched crossing).registry.mechanism.channels.size =
        ((watched crossing).registry.blocked.map fun y => y.2.thread).dedup.length := by
  obtain ⟨-, hdepth, hsize, -⟩ := channels_match_live_guards (CloseRecorder.mk [] (.ofOutcomes []))
    1 crossing granted_crossing roomy_crossing
  have hx : (watched crossing).channel? ⟨0⟩ = some ⟨⟨0⟩, 2⟩ := by decide +kernel
  exact ⟨hx, hdepth ⟨0⟩ _ hx, hsize⟩

/-- A thread may have more guards than there are slots to number. Its channel counts them all, but
they cannot all be listed. -/
lemma exists_miscounted (granted : Granted closer capacity t cs)
    (hmany : 2 ^ 32 < (overChannels closer capacity cs).present t) :
    ∃ x, (overChannels closer capacity cs).channel? t = some x ∧
      x.depth ≠ (overChannels closer capacity cs).registry.blocked.countP
        fun y => y.2.thread = t := by
  have hdepth := depth_eq_present granted
  obtain ⟨x, hx⟩ := (inOrder_overChannels closer capacity cs).depth_pos_iff.mp
    (hdepth ▸ Nat.zero_lt_of_lt hmany)
  have hlisted := Slab.length_entries_le (tidy_ofHistory capacity (WakeChannels.ofCloser closer) cs)
  have hcount := List.countP_le_length (p := fun y : GuardId × Entry => decide (y.2.thread = t))
    (l := (overChannels closer capacity cs).registry.blocked)
  refine ⟨x, hx, fun heq => ?_⟩
  have hall := hcount.trans hlisted
  rw [← heq, ← WakeChannels.depth_of_some hx, hdepth] at hall
  omega

lemma present_replicate (fd : Descriptor) (n : ℕ) :
    (overChannels closer capacity (List.replicate n (.acquire t fd true))).present t = n := by
  induction n with
  | zero => rfl
  | succ n ih =>
    rw [List.replicate_succ', overChannels_snoc]
    simp only [present, perform, List.countP_append] at ih ⊢
    rw [ih]
    simp

/-- One guard more than there are slots to number. -/
def crammed : List Command := List.replicate (2 ^ 32 + 1) (.acquire ⟨0⟩ (.raw 5) true)

lemma granted_crammed (t : Thread) :
    Granted (CloseRecorder.mk [] (.ofOutcomes [])) 1 t crammed := by
  intro p fd hp
  have hmem := hp.subset (List.mem_append_right p (List.mem_singleton_self _))
  simpa using List.eq_of_mem_replicate hmem

/-- With so many guards of one thread its channel counts more than are listed. -/
theorem channels_match_live_guards_crammed :
    (∀ t, Granted (CloseRecorder.mk [] (.ofOutcomes [])) 1 t crammed) ∧
      ∃ x, (watched crammed).channel? ⟨0⟩ = some x ∧
        x.depth ≠ (watched crammed).registry.blocked.countP fun y => y.2.thread = ⟨0⟩ := by
  refine ⟨granted_crammed, exists_miscounted (granted_crammed ⟨0⟩) ?_⟩
  rw [crammed, present_replicate]
  exact Nat.lt_succ_self _

end

end Roster

end AsyncClose
