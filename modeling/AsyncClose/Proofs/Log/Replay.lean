import AsyncClose.Proofs.History.Channels
import AsyncClose.Proofs.Log.Entries
import AsyncClose.Proofs.Log.Trouble

/-!
The log replays to the state.

Whatever a session does and whatever goes wrong in it, the account kept from the log shows the
guards that are listed, the threads that own a channel, and the pairs that have a byte under way.
-/

namespace AsyncClose

namespace Registry

variable {σ : Type} [Mechanism σ] [Reticent σ] {r : Registry σ}

lemma Accounted.acquire (h : r.Accounted) (t : Thread) (fd : Descriptor) (canOpen : Bool)
    (room : (r.acquire t fd canOpen).2.Roomy) :
    (r.acquire t fd canOpen).2.Accounted ∧
      (r.acquire t fd canOpen).2.ids.Perm ((r.acquire t fd canOpen).1.id :: r.ids) := by
  have hids := (Slab.entries_insert h.valid ⟨fd, t, false⟩).map fun x => x.1
  exact ⟨(h.enter t canOpen).register fd t room, hids⟩

/-- A guard that is listed is released, and none of the others that can still be. -/
lemma Accounted.release (h : r.Accounted) {g : Guard} {others : List GuardId}
    (hout : (g.id :: others).Subperm r.ids) :
    (r.release g).Accounted ∧ others.Subperm (r.release g).ids := by
  have hid : g.id ∈ r.ids := hout.subset List.mem_cons_self
  refine ⟨(h.unregister hid).leave g.thread, ?_⟩
  have herase := hout.erase g.id
  rw [List.erase_cons_head] at herase
  exact (Slab.ids_remove h.valid.tidy g.id).subperm_left.mpr herase

lemma Accounted.settle {α : Type} (h : r.Accounted) {g : Guard} {others : List GuardId}
    (hout : (g.id :: others).Subperm r.ids) (e : Ending α) :
    (r.settle g e).2.Accounted ∧ others.Subperm (r.settle g e).2.ids := by
  unfold Registry.settle
  cases e.verdict (r.signaled g.id) with
  | retry =>
    have hnoted : (r.note [.retrying g.fd]).Accounted :=
      h.report r.mechanism fun _ he => by rw [List.mem_singleton.mp he]; rfl
    exact hnoted.release hout
  | finished e => exact h.release hout

omit [Reticent σ] in
lemma ids_wakeBlocked (h : r.Accounted) (fd : Descriptor) : (r.wakeBlocked fd).2.ids = r.ids := by
  rw [ids, blocked, slab_wakeBlocked fd r h.valid.tidy, Slab.entries_onClose, List.map_map]
  rfl

end Registry

namespace Roster

variable {σ : Type}

def heldId? (x : Guard × Fate) : Option GuardId := if x.2 = .held then some x.1.id else none

/-- The identities that are to be released yet: those of the attempts under way, and of the guards
that are held. -/
def outstanding (gs : List Guard) (w : Roster σ) : List GuardId :=
  gs.map (·.id) ++ w.guards.filterMap heldId?

lemma outstanding_acquire (gs : List Guard) (w : Roster σ) (r : Registry σ) (g : Guard) :
    (outstanding gs ⟨r, w.guards ++ [(g, .held)]⟩).Perm (g.id :: w.outstanding gs) := by
  rw [outstanding, List.filterMap_append, ← List.append_assoc]
  exact List.perm_append_singleton g.id _

/-- A guard that is no longer held is not outstanding any more. -/
lemma outstanding_set (gs : List Guard) {w : Roster σ} {n : ℕ} {g : Guard} {f : Fate}
    (hn : w.guards[n]? = some (g, .held)) (hf : f ≠ .held) (r : Registry σ) :
    (w.outstanding gs).Perm (g.id :: outstanding gs ⟨r, w.guards.set n (g, f)⟩) := by
  obtain ⟨hlt, hget⟩ := List.getElem?_eq_some_iff.mp hn
  have hbefore : (w.guards.filterMap heldId?).Perm
      (g.id :: (w.guards.eraseIdx n).filterMap heldId?) := by
    have hperm := (List.getElem_cons_eraseIdx_perm hlt).symm.filterMap heldId?
    rwa [hget, List.filterMap_cons_some (show heldId? (g, .held) = some g.id from rfl)] at hperm
  have hafter : ((w.guards.set n (g, f)).filterMap heldId?).Perm
      ((w.guards.eraseIdx n).filterMap heldId?) := by
    have hperm := (List.set_perm_cons_eraseIdx hlt (g, f)).filterMap heldId?
    rwa [List.filterMap_cons_none (show heldId? (g, f) = none from if_neg hf)] at hperm
  have hmiddle : (w.outstanding gs).Perm
      (g.id :: (gs.map (·.id) ++ (w.guards.eraseIdx n).filterMap heldId?)) :=
    (hbefore.append_left _).trans List.perm_middle
  exact hmiddle.trans ((hafter.symm.append_left _).cons g.id)

/-- The account is right, and the guards to be released yet are listed. -/
structure Accounted (gs : List Guard) (w : Roster σ) : Prop where
  registry : w.registry.Accounted
  listed : (w.outstanding gs).Subperm w.registry.ids

variable [Mechanism σ] [Reticent σ]

/-- No step of a session makes the account go wrong, as long as the guards can be counted. -/
lemma kept_accounted (α : Type) :
    Kept α (Accounted (σ := σ)) fun w => w.registry.Roomy where
  perform {gs w} h c room := by
    cases c with
    | acquire t fd canOpen =>
      obtain ⟨haccounted, hids⟩ := h.registry.acquire t fd canOpen room
      refine ⟨haccounted, hids.subperm_left.mpr ?_⟩
      exact (outstanding_acquire gs w _ _).subperm_right.mpr ((List.subperm_cons _).mpr h.listed)
    | release n =>
      rcases w.held_or_idle n with ⟨g, hn⟩ | ⟨hp, -, -⟩
      · rw [perform_release hn]
        have hout := outstanding_set gs hn (f := .dropped) (by simp) (w.registry.release g)
        obtain ⟨haccounted, hlisted⟩ := h.registry.release (hout.subperm_right.mp h.listed)
        exact ⟨haccounted, hlisted⟩
      · rwa [hp]
    | forget n =>
      rcases w.held_or_idle n with ⟨g, hn⟩ | ⟨-, -, hp⟩
      · rw [perform_forget hn]
        have hout := outstanding_set gs hn (f := .forgotten) (by simp) w.registry
        exact ⟨h.registry, (List.subperm_cons_self.trans (hout.subperm_right.mp h.listed))⟩
      · rwa [hp]
    | wake fd =>
      refine ⟨h.registry.wakeBlocked fd, ?_⟩
      have hids := Registry.ids_wakeBlocked h.registry fd
      exact hids.symm ▸ h.listed
  begun {gs w} h t fd room := by
    obtain ⟨haccounted, hids⟩ := h.registry.acquire t fd true room
    exact ⟨haccounted, hids.subperm_left.mpr ((List.subperm_cons _).mpr h.listed)⟩
  settled {gs g w} h e := by
    obtain ⟨haccounted, hlisted⟩ := h.registry.settle h.listed e
    exact ⟨haccounted, hlisted⟩

omit [Mechanism σ] [Reticent σ] in
lemma accounted_start (capacity : ℕ) (m : σ) : Accounted [] (start capacity m) :=
  ⟨Registry.accounted_ofCapacity capacity m, List.Subperm.refl _⟩

/-- **The log replays to the state.** After every step of a session, those inside calls and inside
their attempts included: the account kept from the log has the entries that are listed, with their
flags, and every release has found its entry, over any mechanism and as long as fewer than `2 ^ 32`
guards are live at once. Over wake channels, whatever fails and whoever meddles with the pairs, the
account has as owners the threads that own a channel, and as pushed the pairs whose flag is up; a
thread comes into a channel and loses it in turn, and a pair is pushed and popped in turn, both
beginning with the first. -/
theorem log_replays {α : Type} (capacity : ℕ) (as : List (Action Command α)) :
    (∀ {σ : Type} [Mechanism σ] [Reticent σ] (m : σ),
      (∀ v ∈ visitedAll as (start capacity m), v.registry.Roomy) →
        ∀ v ∈ visitedAll as (start capacity m),
          v.registry.blocked.Perm (Account.replay v.registry.log).entries ∧
            ∀ id removed, .unregistered id removed ∈ v.registry.log → removed = true) ∧
      ∀ {κ : Type} [ForcedClose κ] (closer : κ) (openings : List Bool)
        (meddling : List (List (PairId × PairAction))),
        ∀ v ∈ visitedAll as
            (start capacity (Troubled.mk (.ofCloser closer) openings meddling)),
          (∀ t, t ∈ (Account.replay v.registry.log).owners ↔
              (v.registry.mechanism.channels.channels.get? t).isSome = true) ∧
            (∀ p, p ∈ (Account.replay v.registry.log).pushed ↔
              ∃ w, v.registry.mechanism.channels.pair? p = some w ∧ w.pushed = true) ∧
            (∀ t, Alternates false (turns t v.registry.log)
              (v.registry.mechanism.channels.channels.get? t).isSome) ∧
            ∀ p, Alternates false (flips p v.registry.log)
              ((v.registry.mechanism.channels.pair? p).any (·.pushed)) := by
  refine ⟨fun {σ} _ _ m room v hv => ?_, fun {κ} _ closer openings meddling v hv => ?_⟩
  · obtain ⟨gs, haccounted, -⟩ :=
      (kept_accounted α).throughout as (accounted_start capacity m) room v hv
    refine ⟨haccounted.entries, fun id removed hmem => ?_⟩
    cases removed with
    | true => rfl
    | false => exact absurd hmem (haccounted.removed id)
  · obtain ⟨-, htold⟩ := (kept_told α).throughout as
      (Registry.told_ofCapacity capacity closer openings meddling) (fun _ _ => trivial) v hv
    refine ⟨fun t => ?_, fun p => ?_, htold.owner, htold.pair⟩
    · rw [Account.mem_owners, (htold.owner t).getLastD_eq]
    · rw [Account.mem_pushed, (htold.pair p).getLastD_eq]
      simp [Option.any_eq_true]

/-- A call that is interrupted, made again and closed, with another call inside it, between guards
that come and go. -/
def eventful : List (Action Command ℕ) :=
  [.request [] (.acquire ⟨0⟩ (.raw 5) true),
    .run ⟨1⟩ (.raw 6)
      [.mk [.request [] (.release 0)] (.returned (.error (.plain .interrupted))),
        .mk [.request [] (.wake (.raw 6)),
            .run ⟨1⟩ (.raw 5) [.mk [.request [] (.wake (.raw 5))] (.panicked "broken")]]
          (.returned (.ok none))],
    .request [] (.acquire ⟨0⟩ (.raw 5) true), .request [] (.forget 1),
    .request [] (.wake (.raw 5))]

/-- The closes fail, the first pair cannot be made, and bytes are taken away and written by
outsiders. -/
def trouble : Troubled CloseRecorder :=
  ⟨.ofCloser ⟨[], .ofOutcomes [some (.plain .brokenPipe)]⟩, [false],
    [[], [], [], [(⟨0⟩, .push 2)], [(⟨0⟩, .drain)], [(⟨1⟩, .shutdown)]]⟩

/-- After it one guard is left, marked, and all states on the way can be read off the log. One of
them has pushed the third pair, and its flag is up there. -/
theorem log_replays_eventful :
    (∀ v ∈ visitedAll eventful (start 1 trouble), v.registry.Roomy) ∧
      (actAll eventful (start 1 trouble)).registry.blocked =
        [(.pack 1 2, ⟨.raw 5, ⟨0⟩, true⟩)] ∧
      (∀ v ∈ visitedAll eventful (start 1 trouble),
        v.registry.blocked.Perm (Account.replay v.registry.log).entries) ∧
      (∀ v ∈ visitedAll eventful (start 1 trouble), ∀ t,
        t ∈ (Account.replay v.registry.log).owners ↔
          (v.registry.mechanism.channels.channels.get? t).isSome = true) ∧
      ∃ v ∈ visitedAll eventful (start 1 trouble), .wakeByte ⟨2⟩ .pushed ∈ v.registry.log ∧
        ∃ w, v.registry.mechanism.channels.pair? ⟨2⟩ = some w ∧ w.pushed = true := by
  have room : ∀ v ∈ visitedAll eventful (start 1 trouble),
      v.registry.Roomy := by
    decide +kernel
  obtain ⟨v, hv, hevent, hpushed⟩ : ∃ v ∈ visitedAll eventful (start 1 trouble),
      .wakeByte ⟨2⟩ .pushed ∈ v.registry.log ∧ ⟨2⟩ ∈ (Account.replay v.registry.log).pushed := by
    decide +kernel
  obtain ⟨hentries, hchannels⟩ := log_replays 1 eventful
  exact ⟨room, by decide +kernel, fun v hv => (hentries trouble room v hv).1,
    fun v hv => (hchannels _ _ _ v hv).1,
    v, hv, hevent, ((hchannels _ _ _ v hv).2.1 ⟨2⟩).mp hpushed⟩

/-! ### More guards than can be counted -/

section

variable {σ : Type} [Mechanism σ]

/-- Each acquisition comes into the account, also when it takes the slot of another guard. -/
lemma length_entries_replicate [Reticent σ] (w : Roster σ) (t : Thread) (fd : Descriptor)
    (canOpen : Bool) (n : ℕ) :
    (Account.replay
        (w.run (List.replicate n (.acquire t fd canOpen))).registry.log).entries.length =
      (Account.replay w.registry.log).entries.length + n := by
  induction n with
  | zero => rfl
  | succ n ih =>
    rw [List.replicate_succ', run_snoc]
    generalize w.run (List.replicate n (.acquire t fd canOpen)) = v at ih ⊢
    have hentered : (Account.replay (v.registry.enter t canOpen).log).entries =
        (Account.replay v.registry.log).entries := by
      rw [Registry.enter, Registry.log_note, Account.replay_append]
      exact Account.entries_foldl (Reticent.enter t canOpen v.registry.mechanism) _
    have hlog := Registry.entries_register (v.registry.enter t canOpen) fd t
    rw [hentered] at hlog
    exact (congrArg List.length hlog).trans (by rw [List.length_cons, ih]; rfl)

lemma mem_log_release (r : Registry σ) (g : Guard) :
    .unregistered g.id (r.slab.get? g.id).isSome ∈ (r.release g).log := by
  rw [← Registry.unregister_fst]
  exact List.mem_append_left _ (List.mem_append_right _ (List.mem_singleton_self _))

/-- Of two guards with one identity the second to be released misses its entry. -/
lemma missed_of_id_eq {w : Roster σ} {i j : ℕ} {g g' : Guard} (hij : i ≠ j)
    (hi : w.guards[i]? = some (g, .held)) (hj : w.guards[j]? = some (g', .held))
    (hid : g'.id = g.id) :
    .unregistered g'.id false ∈ (w.run [.release i, .release j]).registry.log := by
  have hj' : (w.guards.set i (g, .dropped))[j]? = some (g', .held) := by
    rw [List.getElem?_set_ne hij, hj]
  have hmissed := mem_log_release (w.registry.release g) g'
  rw [Registry.slab_release, Slab.get?_remove, if_pos hid] at hmissed
  change _ ∈ ((w.perform (.release i)).perform (.release j)).registry.log
  rw [perform_release hi, perform_release (w := ⟨_, _⟩) hj']
  exact hmissed

end

/-- One guard more than there are slots to number, and the release of the first and the last. -/
def overfull : List Command :=
  List.replicate (2 ^ 32 + 1) (.acquire ⟨0⟩ (.raw 5) true) ++ [.release 0, .release (2 ^ 32)]

/-- The account has more entries than are listed, and the second release misses the entry of its
guard. -/
theorem log_replays_overfull :
    (∃ v ∈ visitedAll (α := ℕ) (overfull.map (.request []))
        (start 1 (WakeRecorder.mk [] (.ofOutcomes []))),
      ¬v.registry.blocked.Perm (Account.replay v.registry.log).entries) ∧
    ∃ v ∈ visitedAll (α := ℕ) (overfull.map (.request []))
        (start 1 (WakeRecorder.mk [] (.ofOutcomes []))),
      ∃ id, .unregistered id false ∈ v.registry.log := by
  have hne : List.replicate (2 ^ 32 + 1) (Command.acquire ⟨0⟩ (.raw 5) true) ≠ [] := by
    rw [List.replicate_succ]
    exact List.cons_ne_nil _ _
  have hfilled : (start 1 (WakeRecorder.mk [] (.ofOutcomes []))).registry.slab.Filled 0 :=
    Slab.filled_ofCapacity 1
  obtain ⟨hslab, hguards⟩ := run_replicate hfilled ⟨0⟩ (.raw 5) true (2 ^ 32 + 1)
  refine ⟨⟨_, run_mem_visitedAll _ hne _, fun hperm => ?_⟩, ?_⟩
  · have hlisted := Slab.length_entries_le (hfilled.cram ⟨.raw 5, ⟨0⟩, false⟩ (2 ^ 32 + 1)).tidy
    have hlen := hperm.length_eq
    rw [length_entries_replicate, Registry.blocked, hslab] at hlen
    rw [hlen] at hlisted
    exact absurd hlisted (by decide)
  · have hne' : overfull ≠ [] := List.append_ne_nil_of_left_ne_nil hne _
    have hall := run_mem_visitedAll (α := ℕ) (start 1 (WakeRecorder.mk [] (.ofOutcomes []))) hne' []
    rw [List.append_nil] at hall
    refine ⟨_, hall, .pack (.ofNat (0 + 2 ^ 32)) 0, ?_⟩
    rw [overfull, run_append]
    have hheld : ∀ j < 2 ^ 32 + 1, ((start 1 (WakeRecorder.mk [] (.ofOutcomes []))).run
        (List.replicate (2 ^ 32 + 1) (.acquire ⟨0⟩ (.raw 5) true))).guards[j]? =
          some (⟨.pack (.ofNat (0 + j)) 0, .raw 5, ⟨0⟩⟩, .held) := by
      intro j hj
      rw [hguards, start, List.nil_append, List.getElem?_map, List.getElem?_range hj]
      rfl
    exact missed_of_id_eq (by decide) (hheld 0 (by decide)) (hheld (2 ^ 32) (by decide)) rfl

end Roster

end AsyncClose
