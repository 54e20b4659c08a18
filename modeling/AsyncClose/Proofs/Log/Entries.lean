import AsyncClose.Proofs.Log.Account
import AsyncClose.Proofs.Log.Reticence
import AsyncClose.Proofs.Registry.Steps
import AsyncClose.Proofs.Slab.Valid

/-!
What the log tells of guards.

Registering, unregistering and waking are reported by the registry itself, one event for every entry
that comes, goes or is marked. An entry goes only once, since the guards that can still be released
are among those that are listed: each held guard, and the guard of each attempt under way.
-/

namespace AsyncClose

namespace Slab

variable {s : Slab}

lemma nodup_ids (h : s.Tidy) : (s.entries.map (·.1)).Nodup := by
  refine List.pairwise_map.mpr ((pairwise_entries h).imp fun {x y} hxy heq => ?_)
  rw [heq] at hxy
  exact UInt32.lt_irrefl _ hxy

lemma mem_ids (h : s.Tidy) {id : GuardId} :
    id ∈ s.entries.map (·.1) ↔ (s.get? id).isSome = true := by
  simp [mem_entries h, Option.isSome_iff_exists]

/-- A release takes the entry it names off the list and nothing else. -/
lemma entries_remove (h : s.Tidy) (id : GuardId) :
    (s.remove id).2.entries.Perm (s.entries.filter (·.1 ≠ id)) := by
  refine (List.perm_ext_iff_of_nodup (nodup_entries (tidy_remove h id))
    ((nodup_entries h).filter _)).mpr ?_
  rintro ⟨id', e⟩
  rw [mem_entries (tidy_remove h id), get?_remove, List.mem_filter, mem_entries h]
  by_cases hid : id' = id <;> simp [hid]

lemma ids_remove (h : s.Tidy) (id : GuardId) :
    ((s.remove id).2.entries.map (·.1)).Perm ((s.entries.map (·.1)).erase id) := by
  have hother : ((s.entries.map (·.1)).erase id) = (s.entries.filter (·.1 ≠ id)).map (·.1) := by
    rw [(nodup_ids h).erase_eq_filter, List.filter_map]
    congr 2
    funext x
    by_cases hx : x.1 = id <;> simp [hx]
  rw [hother]
  exact (entries_remove h id).map (·.1)

end Slab

namespace Account

/-- Events that tell of no guard leave the entries alone. -/
lemma entries_foldl {events : List Event} (h : ∀ e ∈ events, e.ofGuard = false) (a : Account) :
    (events.foldl read a).entries = a.entries := by
  induction events generalizing a with
  | nil => rfl
  | cons e events ih =>
    obtain ⟨he, hevents⟩ := List.forall_mem_cons.mp h
    rw [List.foldl_cons, ih hevents]
    cases e with
    | registered fd id t => simp [Event.ofGuard] at he
    | unregistered id removed => simp [Event.ofGuard] at he
    | waking fd id t => simp [Event.ofGuard] at he
    | wakeByte p what => cases what <;> rfl
    | _ => rfl

/-- Marking guards one after the other marks each of them. -/
lemma foldl_signal (ids : List GuardId) (x : GuardId × Entry) :
    ids.foldl (fun x id => signal id x) x =
      if x.1 ∈ ids then (x.1, { x.2 with signaled := true }) else x := by
  induction ids generalizing x with
  | nil => simp
  | cons id ids ih =>
    rw [List.foldl_cons, ih]
    by_cases hid : x.1 = id
    · simp [signal, hid]
    · simp [signal, hid]

lemma foldl_map_signal (ids : List GuardId) (l : List (GuardId × Entry)) :
    ids.foldl (fun l id => l.map (signal id)) l =
      l.map fun x => ids.foldl (fun x id => signal id x) x := by
  induction ids generalizing l with
  | nil => simp
  | cons id ids ih => rw [List.foldl_cons, ih, List.map_map]; rfl

end Account

def Unmissed (log : List Event) : Prop := ∀ id, .unregistered id false ∉ log

lemma unmissed_append {log events : List Event} :
    Unmissed (log ++ events) ↔ Unmissed log ∧ Unmissed events := by
  simp only [Unmissed, List.mem_append, not_or, forall_and]

lemma unmissed_of_ofGuard {events : List Event} (h : ∀ e ∈ events, e.ofGuard = false) :
    Unmissed events := by
  intro id hid
  have hguard := h _ hid
  simp [Event.ofGuard] at hguard

namespace Registry

variable {σ : Type}

/-- The log gives the entries that are listed, and no release in it has missed its entry. -/
structure Accounted (r : Registry σ) : Prop where
  valid : r.slab.Valid
  entries : r.blocked.Perm (Account.replay r.log).entries
  removed : Unmissed r.log

def ids (r : Registry σ) : List GuardId := r.blocked.map (·.1)

lemma accounted_ofCapacity (capacity : ℕ) (m : σ) : (ofCapacity capacity m).Accounted where
  valid := Slab.valid_ofCapacity capacity
  entries := .nil
  removed _ := List.not_mem_nil

variable {r : Registry σ}

/-- More is reported, but not of guards. -/
lemma Accounted.report (h : r.Accounted) (m : σ) {events : List Event}
    (he : ∀ e ∈ events, e.ofGuard = false) :
    Accounted ⟨r.slab, m, r.log ++ events⟩ where
  valid := h.valid
  entries := by
    rw [Account.replay_append, Account.entries_foldl he]
    exact h.entries
  removed := unmissed_append.mpr ⟨h.removed, unmissed_of_ofGuard he⟩

lemma entries_register (r : Registry σ) (fd : Descriptor) (t : Thread) :
    (Account.replay (r.register fd t).2.log).entries =
      ((r.register fd t).1, ⟨fd, t, false⟩) :: (Account.replay r.log).entries := by
  rw [Registry.register, log_note, Account.replay_append]
  rfl

lemma Accounted.register (h : r.Accounted) (fd : Descriptor) (t : Thread)
    (room : (r.register fd t).2.Roomy) : (r.register fd t).2.Accounted where
  valid := valid_register h.valid room
  entries := by
    rw [entries_register]
    exact (Slab.entries_insert h.valid _).trans (h.entries.cons _)
  removed := unmissed_append.mpr ⟨h.removed, by simp [Unmissed]⟩

lemma Accounted.unregister (h : r.Accounted) {id : GuardId} (hid : id ∈ r.ids) :
    (r.unregister id).2.Accounted := by
  have hsome : (r.slab.remove id).1.isSome = true := by
    obtain ⟨e, he⟩ := Option.isSome_iff_exists.mp ((Slab.mem_ids h.valid.tidy).mp hid)
    rw [Slab.remove_eq he]
    rfl
  have hlog : (r.unregister id).2.log = r.log ++ [.unregistered id true] := by
    rw [Registry.unregister, log_note, hsome]
  refine ⟨Slab.valid_remove h.valid id, ?_, ?_⟩
  · rw [hlog, Account.replay_append]
    exact (Slab.entries_remove h.valid.tidy id).trans (h.entries.filter _)
  · rw [hlog]
    exact unmissed_append.mpr ⟨h.removed, by simp [Unmissed]⟩

variable [Mechanism σ] [Reticent σ]

lemma Accounted.enter (h : r.Accounted) (t : Thread) (canOpen : Bool) :
    (r.enter t canOpen).Accounted :=
  h.report _ (Reticent.enter t canOpen r.mechanism)

lemma Accounted.leave (h : r.Accounted) (t : Thread) : (r.leave t).Accounted :=
  h.report _ (Reticent.leave t r.mechanism)

/-- What an alert reports: that it wakes the guard's thread, and nothing else of guards. -/
lemma exists_log_alert (fd : Descriptor) (r : Registry σ) (x : GuardId × Entry) :
    ∃ events, (r.alert fd x).log = r.log ++ .waking fd x.1 x.2.thread :: events ∧
      ∀ e ∈ events, e.ofGuard = false := by
  have hwake := Reticent.wake x.2.thread fd r.mechanism
  unfold alert interrupt
  simp only [mechanism_note]
  generalize Mechanism.wake x.2.thread fd r.mechanism = y at hwake
  obtain ⟨_ | _, m, events⟩ := y
  · next e =>
    refine ⟨events ++ [.wakeFailed fd x.2.thread e], by simp, fun e he => ?_⟩
    rcases List.mem_append.mp he with he | he
    · exact hwake e he
    · rw [List.mem_singleton.mp he]; rfl
  · exact ⟨events, by simp, hwake⟩

lemma entries_foldl_alert (fd : Descriptor) (xs : List (GuardId × Entry)) (r : Registry σ) :
    (Account.replay (xs.foldl (alert fd) r).log).entries =
      (xs.map (·.1)).foldl (fun l id => l.map (Account.signal id))
        (Account.replay r.log).entries := by
  induction xs generalizing r with
  | nil => rfl
  | cons x xs ih =>
    obtain ⟨events, hlog, hevents⟩ := exists_log_alert fd r x
    rw [List.foldl_cons, ih, hlog, List.append_cons, Account.replay_append,
      Account.entries_foldl hevents, Account.replay_append]
    rfl

lemma unmissed_foldl_alert (fd : Descriptor) (xs : List (GuardId × Entry)) {r : Registry σ}
    (h : Unmissed r.log) : Unmissed (xs.foldl (alert fd) r).log := by
  induction xs generalizing r with
  | nil => exact h
  | cons x xs ih =>
    obtain ⟨events, hlog, hevents⟩ := exists_log_alert fd r x
    refine ih ?_
    rw [hlog, List.append_cons, unmissed_append, unmissed_append]
    exact ⟨⟨h, by simp [Unmissed]⟩, unmissed_of_ofGuard hevents⟩

omit [Mechanism σ] [Reticent σ] in
/-- A listed guard is alerted if and only if it is on the descriptor. -/
lemma mem_ids_targets (h : r.slab.Tidy) (fd : Descriptor) {x : GuardId × Entry}
    (hx : x ∈ r.blocked) : x.1 ∈ (r.targets fd).map (·.1) ↔ x.2.fd = fd := by
  obtain ⟨id, e⟩ := x
  have hget := (Slab.mem_entries h).mp hx
  simp only [List.mem_map, Prod.exists, exists_and_right, exists_eq_right, mem_targets h, hget,
    Option.some.injEq]
  exact ⟨fun ⟨e', he', hfd⟩ => he' ▸ hfd, fun hfd => ⟨e, rfl, hfd⟩⟩

lemma Accounted.wakeBlocked (h : r.Accounted) (fd : Descriptor) :
    (r.wakeBlocked fd).2.Accounted := by
  have htidy := h.valid.tidy
  rw [wakeBlocked_eq fd r htidy]
  refine ⟨Slab.valid_onClose h.valid fd, ?_, unmissed_foldl_alert fd _ h.removed⟩
  have hmarked : (r.slab.onClose fd).entries =
      r.blocked.map fun x =>
        ((r.targets fd).map (·.1)).foldl (fun x id => Account.signal id x) x := by
    rw [Slab.entries_onClose]
    refine List.map_congr_left fun x hx => ?_
    simp only [Account.foldl_signal, mem_ids_targets htidy fd hx, Entry.onClose]
    split <;> rfl
  have hreplay := entries_foldl_alert fd (r.targets fd) r
  rw [Account.foldl_map_signal] at hreplay
  change (r.slab.onClose fd).entries.Perm
    (Account.replay ((r.targets fd).foldl (alert fd) r).log).entries
  rw [hreplay, hmarked]
  exact h.entries.map _

end Registry

end AsyncClose
