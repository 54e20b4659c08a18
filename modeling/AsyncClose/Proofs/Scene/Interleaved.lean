import AsyncClose.Proofs.Scene.Basic

/-!
Scans that take their time.

A scan has the registry for itself, so until it is over no entry comes in or goes out. But it
calls the mechanism for one entry after the other, and in between threads can still enter and
leave. So here a scan is not one step: it looks at one slot after the other, and anything that
does not need the registry may happen between two looks.
-/

namespace AsyncClose

namespace Scene

variable {σ : Type}

/-- The calls that a scan for `fd` makes at slot `i`: one, if the slot holds such an entry. -/
def callsAt (fd : Descriptor) (i : ℕ) (w : Scene σ) : List Contact :=
  ((w.registry.slab.entryAt? i).toList.filter fun x => x.2.fd = fd).map
    fun x => .wake x.2.thread fd

variable [Mechanism σ]

def look (fd : Descriptor) (w : Scene σ) (i : ℕ) : Scene σ :=
  ⟨(Registry.scanSlot fd (0, w.registry) i).2, w.episodes, w.trace ++ w.callsAt fd i⟩

lemma scanSlot_snd (fd : Descriptor) (n : ℕ) (r : Registry σ) (i : ℕ) :
    (Registry.scanSlot fd (n, r) i).2 = (Registry.scanSlot fd (0, r) i).2 := by
  simp only [Registry.scanSlot]
  split
  · split <;> rfl
  · rfl

lemma foldl_look (fd : Descriptor) {w : Scene σ} (h : w.registry.slab.Tidy) (k : ℕ) :
    (List.range k).foldl (look fd) w =
      ⟨((List.range k).foldl (Registry.scanSlot fd) (0, w.registry)).2, w.episodes,
        w.trace ++ (((List.range k).filterMap w.registry.slab.entryAt?).filter
          fun x => x.2.fd = fd).map fun x => .wake x.2.thread fd⟩ := by
  induction k with
  | zero => simp
  | succ k ih =>
    -- the looks before this one have left slot `k` as it was
    have hcalls : (Scene.mk ((List.range k).foldl (Registry.scanSlot fd) (0, w.registry)).2
        w.episodes w.trace).callsAt fd k = w.callsAt fd k := by
      rw [callsAt, Registry.scan_range fd w.registry h, Registry.slab_withSlab, Slab.entryAt?_sweep]
      rfl
    rw [List.range_succ, List.foldl_append, ih, List.foldl_append, List.filterMap_append,
      List.filter_append, List.map_append, List.foldl_cons, List.foldl_nil, List.foldl_cons,
      List.foldl_nil, ← List.append_assoc, look]
    refine congrArg₂ (fun r cs => Scene.mk r w.episodes cs) (scanSlot_snd fd _ _ k).symm ?_
    refine congrArg _ (hcalls.trans ?_)
    rw [callsAt]
    cases hk : w.registry.slab.entryAt? k <;> simp [hk]

/-- A scan that nothing comes between is all its looks. -/
lemma looks (fd : Descriptor) {w : Scene σ} (h : w.registry.slab.Tidy) :
    w.registry.slab.indices.foldl (look fd) w = w.step (.wake fd) := by
  rw [Slab.indices, foldl_look fd h]
  rfl

/-- What every look keeps, a scan keeps. -/
lemma wake_induction {P : Scene σ → Prop} {fd : Descriptor} {w : Scene σ}
    (ht : w.registry.slab.Tidy) (h : P w) (hlook : ∀ v i, P v → P (v.look fd i)) :
    P (w.step (.wake fd)) := by
  rw [← looks fd ht]
  exact List.foldlRecOn _ _ h fun v hv i _ => hlook v i hv

/-- Everything a look can do: it passes the slot, or it marks the entry there and wakes its
thread. -/
inductive Looked (fd : Descriptor) (w : Scene σ) : Scene σ → Prop
  | passed : Looked fd w w
  | woke (id : GuardId) (e : Entry) (he : w.registry.slab.get? id = some e) (hfd : e.fd = fd) :
    Looked fd w
      ⟨(w.registry.alert fd (id, e)).withSlab (w.registry.slab.mark id.slot.toNat), w.episodes,
        w.trace ++ [.wake e.thread fd]⟩

lemma looked (fd : Descriptor) {w : Scene σ} (h : w.registry.slab.Tidy) (i : ℕ) :
    Looked fd w (w.look fd i) := by
  have hpassed : (Registry.scanSlot fd (0, w.registry) i).2 = w.registry → w.callsAt fd i = [] →
      Looked fd w (w.look fd i) := by
    intro hscan hcalls
    rw [look, hscan, hcalls, List.append_nil]
    exact .passed
  cases hi : w.registry.slab.entryAt? i with
  | none => exact hpassed (by simp [Registry.scanSlot, hi]) (by simp [callsAt, hi])
  | some x =>
    obtain ⟨id, e⟩ := x
    by_cases hfd : e.fd = fd
    · have hscan : (Registry.scanSlot fd (0, w.registry) i).2 =
          (w.registry.alert fd (id, e)).withSlab (w.registry.slab.mark i) := by
        simp [Registry.scanSlot, hi, hfd, Registry.wakeEntry_eq]
      have hcalls : w.callsAt fd i = [.wake e.thread fd] := by simp [callsAt, hi, hfd]
      obtain ⟨rfl, he⟩ := (Slab.entryAt?_eq_some h).mp hi
      rw [look, hscan, hcalls]
      exact .woke id e he hfd
    · exact hpassed (by simp [Registry.scanSlot, hi, hfd]) (by simp [callsAt, hi, hfd])

lemma tidy_looked {fd : Descriptor} {v v' : Scene σ} (h : v.registry.slab.Tidy)
    (hs : Looked fd v v') : v'.registry.slab.Tidy := by
  cases hs with
  | passed => exact h
  | woke id e he hfd => exact Slab.tidy_mark h he

lemma mechanism_looked {fd : Descriptor} {v v' : Scene σ} {m : σ}
    (hm : v.registry.mechanism = Contact.replay v.trace m) (hs : Looked fd v v') :
    v'.registry.mechanism = Contact.replay v'.trace m := by
  cases hs with
  | passed => exact hm
  | woke id e he hfd =>
    rw [Contact.replay_append, ← hm, Registry.mechanism_withSlab, Registry.mechanism_alert]
    rfl

end Scene

/-- The step needs the registry for itself, so it waits for a scan to end. -/
def Move.waits : Move → Bool
  | register _ | unregister _ | wake _ => true
  | enter _ _ _ | forget _ | leave _ => false

/-- A scene, and the scan that is under way in it: for what, and the slots still to be seen. -/
structure Interleaving (σ : Type) where
  scene : Scene σ
  scan : Option (Descriptor × List ℕ)

/-- What happens next: a step of the scene, the start of a scan, or its next look. -/
inductive Tick
  | move (m : Move)
  | scan (fd : Descriptor)
  | look
  deriving DecidableEq

namespace Interleaving

section

variable {σ : Type} [Mechanism σ]

/-- One step. While a scan is under way nothing happens that would have to wait for it. -/
def step (w : Interleaving σ) : Tick → Interleaving σ
  | .move m => if w.scan.isSome && m.waits then w else { w with scene := w.scene.step m }
  | .scan fd =>
    if w.scan.isSome then w
    else { w with scan := some (fd, w.scene.registry.slab.indices) }
  | .look =>
    match w.scan with
    | none => w
    | some (_, []) => { w with scan := none }
    | some (fd, i :: is) => ⟨w.scene.look fd i, some (fd, is)⟩

def run (capacity : ℕ) (m : σ) (ks : List Tick) : Interleaving σ :=
  ks.foldl step ⟨.start capacity m, none⟩

lemma run_snoc (capacity : ℕ) (m : σ) (ks : List Tick) (k : Tick) :
    run capacity m (ks ++ [k]) = (run capacity m ks).step k := by
  rw [run, List.foldl_append]
  rfl

/-- Steps of the scene alone go as they do there. -/
lemma run_map_move (capacity : ℕ) (m : σ) (ms : List Move) :
    run capacity m (ms.map .move) = ⟨(Scene.start capacity m).run ms, none⟩ := by
  induction ms using List.reverseRecOn with
  | nil => rfl
  | append_singleton ms a ih =>
    rw [List.map_append, List.map_singleton, run_snoc, ih, Scene.run_append]
    rfl

lemma scene_step (w : Interleaving σ) (h : w.scene.registry.slab.Tidy) (k : Tick) :
    Scene.Stepped w.scene (w.step k).scene ∨ ∃ fd, Scene.Looked fd w.scene (w.step k).scene := by
  cases k with
  | move m =>
    simp only [step]
    split
    · exact .inl .idle
    · exact .inl (Scene.stepped w.scene m)
  | scan fd =>
    simp only [step]
    split <;> exact .inl .idle
  | look =>
    simp only [step]
    split
    · exact .inl .idle
    · exact .inl .idle
    · next fd i is hscan => exact .inr ⟨fd, Scene.looked fd h i⟩

lemma tidy_run (capacity : ℕ) (m : σ) (ks : List Tick) :
    (run capacity m ks).scene.registry.slab.Tidy := by
  induction ks using List.reverseRecOn with
  | nil => exact Scene.tidy_start capacity m
  | append_singleton ks k ih =>
    rw [run_snoc]
    rcases scene_step _ ih k with hs | ⟨fd, hs⟩
    · exact Scene.tidy_stepped ih hs
    · exact Scene.tidy_looked ih hs

lemma mechanism_run (capacity : ℕ) (m : σ) (ks : List Tick) :
    (run capacity m ks).scene.registry.mechanism =
      Contact.replay (run capacity m ks).scene.trace m := by
  induction ks using List.reverseRecOn with
  | nil => rfl
  | append_singleton ks k ih =>
    have ht := tidy_run capacity m ks
    rw [run_snoc]
    rcases scene_step _ ht k with hs | ⟨fd, hs⟩
    · exact Scene.mechanism_stepped ht ih hs
    · exact Scene.mechanism_looked ih hs

end

end Interleaving

end AsyncClose
