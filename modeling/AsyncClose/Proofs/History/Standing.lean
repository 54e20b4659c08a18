import AsyncClose.Proofs.History.Depth

/-!
How guards stand, whatever their identities and slots.

Of every guard that was acquired there is to be known what it is for, what became of it, and
whether a close was requested under it. A history determines that, command by command, and the
registry after the history answers accordingly.
-/

namespace AsyncClose

/-- How a guard stands. Once it is released nobody can ask whether a close was requested. -/
structure Standing where
  thread : Thread
  fd : Descriptor
  fate : Fate
  signaled : Option Bool
  deriving DecidableEq

namespace Standing

def entry? (x : Standing) : Option Entry := x.signaled.map fun b => ⟨x.fd, x.thread, b⟩

/-- Ends the use of the guard, unless that has ended before. -/
def finish (f : Fate) (x : Standing) : Standing :=
  if x.fate = .held then
    { x with fate := f, signaled := if f = .dropped then none else x.signaled }
  else x

/-- The guard once its descriptor may have been closed. -/
def onClose (fd : Descriptor) (x : Standing) : Standing :=
  if x.fd = fd then { x with signaled := x.signaled.map fun _ => true } else x

@[simp] lemma fd_finish (f : Fate) (x : Standing) : (x.finish f).fd = x.fd := by
  unfold finish
  split <;> rfl

@[simp] lemma fd_onClose (fd : Descriptor) (x : Standing) : (x.onClose fd).fd = x.fd := by
  unfold onClose
  split <;> rfl

lemma onClose_of_ne {fd : Descriptor} {x : Standing} (h : x.fd ≠ fd) : x.onClose fd = x := if_neg h

end Standing

namespace History

/-- How guard `n` stands, which was acquired for thread and descriptor `a`. -/
def standing (cs : List Command) (n : ℕ) (a : Thread × Descriptor) : Standing :=
  ⟨a.1, a.2, fate n (since cs n), (listed? cs n).map (·.signaled)⟩

def standings (cs : List Command) : List Standing := (acquired cs).mapIdx (standing cs)

variable (cs : List Command)

@[simp] lemma length_standings : (standings cs).length = (acquired cs).length := List.length_mapIdx

lemma getElem?_standings (n : ℕ) :
    (standings cs)[n]? = (acquired cs)[n]?.map (standing cs n) := List.getElem?_mapIdx

lemma map_standings : (standings cs).map (fun x => (x.thread, x.fd)) = acquired cs := by
  refine List.ext_getElem? fun n => ?_
  rw [List.getElem?_map, getElem?_standings, Option.map_map]
  exact Option.map_id' ..

/-- What a guard should be listed as depends on how it stands. -/
lemma entry?_standings (n : ℕ) :
    (standings cs)[n]?.bind Standing.entry? = listed? cs n := by
  rw [getElem?_standings]
  cases ha : (acquired cs)[n]? with
  | none => rw [listed?_of_le (List.getElem?_eq_none_iff.mp ha)]; rfl
  | some a =>
    rw [Option.map_some, Option.bind_some, Standing.entry?, standing, listed?_of_getElem? ha]
    split <;> rfl

lemma live_eq_countP : live cs = (standings cs).countP fun x => x.signaled.isSome := by
  rw [← Roster.countP_range_getElem?, length_standings, live]
  refine List.countP_congr fun n _ => ?_
  rw [← entry?_standings]
  cases (standings cs)[n]? <;> simp [Standing.entry?]

/-! ### One command more -/

variable {cs} in
lemma standings_eq {c : Command} {xs : List Standing} (hacq : acquired [c] = [])
    (hlen : xs.length = (acquired cs).length)
    (h : ∀ n a, (acquired cs)[n]? = some a → xs[n]? = some (standing (cs ++ [c]) n a)) :
    standings (cs ++ [c]) = xs := by
  refine List.ext_getElem? fun n => ?_
  rw [getElem?_standings, acquired_append, hacq, List.append_nil]
  cases ha : (acquired cs)[n]? with
  | none => rw [List.getElem?_eq_none (hlen ▸ List.getElem?_eq_none_iff.mp ha)]; rfl
  | some a => rw [h n a ha]; rfl

lemma standings_acquire (t : Thread) (fd : Descriptor) (canOpen : Bool) :
    standings (cs ++ [.acquire t fd canOpen]) = standings cs ++ [⟨t, fd, .held, some false⟩] := by
  refine List.ext_getElem? fun n => ?_
  rw [getElem?_standings, acquired_append]
  rcases lt_trichotomy n (acquired cs).length with hn | rfl | hn
  · rw [List.getElem?_append_left hn, List.getElem?_append_left (by simpa using hn),
      getElem?_standings, List.getElem?_eq_getElem hn, Option.map_some, Option.map_some, standing,
      since_snoc_of_lt hn, fate_append, listed?_acquire, if_neg hn.ne]
    cases hf : fate n (since cs n) <;> simp [standing, fate, hf]
  · rw [List.getElem?_append_right le_rfl, List.getElem?_append_right (by simp)]
    simp [acquired, standing, since_acquire, fate, listed?_acquire]
  · rw [List.getElem?_eq_none (by simpa [acquired] using hn),
      List.getElem?_eq_none (by simpa using hn), Option.map_none]

lemma standings_release (k : ℕ) :
    standings (cs ++ [.release k]) = (standings cs).modify k (.finish .dropped) := by
  refine standings_eq rfl (by simp) fun n a ha => ?_
  have hn := (List.getElem?_eq_some_iff.mp ha).1
  rw [List.getElem?_modify, getElem?_standings, ha, standing, since_snoc_of_lt hn, fate_append,
    listed?_release]
  by_cases hk : k = n <;> cases hf : fate n (since cs n) <;>
    simp [standing, Standing.finish, fate, hk, hf]

lemma standings_forget (k : ℕ) :
    standings (cs ++ [.forget k]) = (standings cs).modify k (.finish .forgotten) := by
  refine standings_eq rfl (by simp) fun n a ha => ?_
  have hn := (List.getElem?_eq_some_iff.mp ha).1
  rw [List.getElem?_modify, getElem?_standings, ha, standing, since_snoc_of_lt hn, fate_append,
    listed?_forget]
  by_cases hk : k = n <;> cases hf : fate n (since cs n) <;>
    simp [standing, Standing.finish, fate, hk, hf]

lemma standings_wake (fd : Descriptor) :
    standings (cs ++ [.wake fd]) = (standings cs).map (.onClose fd) := by
  refine standings_eq rfl (by simp) fun n a ha => ?_
  have hn := (List.getElem?_eq_some_iff.mp ha).1
  rw [List.getElem?_map, getElem?_standings, ha, standing, since_snoc_of_lt hn, fate_append,
    listed?_wake, listed?_of_getElem? ha]
  by_cases hfd : a.2 = fd <;> cases hf : fate n (since cs n) <;>
    simp [standing, Standing.onClose, listed?_of_getElem? ha, fate, hfd, hf]

end History

namespace Roster

/-! ### How guards stand with a registry -/

variable {σ : Type}

def standing (w : Roster σ) (x : Guard × Fate) : Standing :=
  ⟨x.1.thread, x.1.fd, x.2, if x.2 = .dropped then none else some (w.registry.signaled x.1.id)⟩

def standings (w : Roster σ) : List Standing := w.guards.map w.standing

variable {cs : List Command} {w : Roster σ}

lemma Follows.signaled (h : Follows cs w) {n : ℕ} {x : Guard × Fate} (hx : w.guards[n]? = some x) :
    (w.standing x).signaled = (History.listed? cs n).map (·.signaled) := by
  have hentry := h.entry n
  have hid : w.id? n = if x.2 = .dropped then none else some x.1.id := by rw [id?, hx]; rfl
  -- the identity of a released guard may be somebody else's by now, so it is not asked for
  by_cases hd : x.2 = .dropped
  · rw [hid, if_pos hd, Option.isSome_none, eq_comm, Option.isSome_eq_false_iff,
      Option.isNone_iff_eq_none] at hentry
    rw [hentry, standing, if_pos hd]
    rfl
  · rw [if_neg hd] at hid
    rw [hid, Option.isSome_some, eq_comm, Option.isSome_iff_exists] at hentry
    obtain ⟨e, he⟩ := hentry
    have hget := (h.found x.1.id e).mpr ⟨n, hid, he⟩
    rw [he, standing, if_neg hd, Registry.signaled, Slab.signaled, hget]
    rfl

lemma Follows.standings (h : Follows cs w)
    (hacq : w.guards.map (fun x => (x.1.thread, x.1.fd)) = History.acquired cs) :
    w.standings = History.standings cs := by
  refine List.ext_getElem? fun n => ?_
  rw [Roster.standings, List.getElem?_map, History.getElem?_standings, ← hacq, List.getElem?_map]
  cases hx : w.guards[n]? with
  | none => rfl
  | some x =>
    have hsig := h.signaled hx
    rw [Option.map_some, Option.map_some, Option.map_some, History.standing, ← hsig, ← h.fate n x hx]
    rfl

lemma filterMap_range_getElem? {α β : Type} (f : α → Option β) (l : List α) :
    (List.range l.length).filterMap (fun n => l[n]?.bind f) = l.filterMap f := by
  induction l using List.reverseRecOn with
  | nil => rfl
  | append_singleton l a ih =>
    have hbelow : ∀ n ∈ List.range l.length, (l ++ [a])[n]?.bind f = l[n]?.bind f := by
      intro n hn
      rw [List.getElem?_append_left (List.mem_range.mp hn)]
    rw [List.length_append, List.length_singleton, List.range_succ, List.filterMap_append,
      List.filterMap_append, ← ih, List.filterMap_congr hbelow]
    simp [List.filterMap_cons]

/-- The entries of a registry are those of the guards, as they stand. -/
lemma Follows.entries (h : Follows cs w) :
    (w.registry.blocked.map (·.2)).Perm ((History.standings cs).filterMap Standing.entry?) := by
  have hshown : ∀ n ∈ List.range (History.acquired cs).length,
      (w.shown? cs n).map (·.2) = (History.standings cs)[n]?.bind Standing.entry? := by
    intro n hn
    rw [List.mem_range, ← h.length] at hn
    rw [History.entry?_standings, shown?, List.getElem?_eq_getElem hn, Option.bind_some,
      Option.map_map]
    exact Option.map_id' ..
  have hmap := h.perm.map (·.2)
  rwa [shown, List.map_filterMap, List.filterMap_congr hshown, ← History.length_standings,
    filterMap_range_getElem?] at hmap

end Roster

end AsyncClose
