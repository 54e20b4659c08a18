import AsyncClose.Proofs.History.Standing
import AsyncClose.Proofs.Mechanism.Watched

/-!
Descriptors do not interfere.

A history is restricted to a descriptor by leaving out whatever is done on others. The guards that
remain get new numbers, and the registry gives them other identities in other slots. How they
stand comes out the same, and so does every close of the descriptor.
-/

namespace AsyncClose

namespace History

/-! ### Restricting a history -/

/-- The number of guard `n` among those on descriptor `d`, if it is one of them. -/
def number? (d : Descriptor) (as : List (Thread × Descriptor)) (n : ℕ) : Option ℕ :=
  if as[n]?.any (·.2 = d) then some ((as.take n).countP (·.2 = d)) else none

/-- What the command does on descriptor `d`, once guards `as` were acquired. -/
def about (d : Descriptor) (as : List (Thread × Descriptor)) : Command → Option Command
  | .acquire t fd canOpen => if fd = d then some (.acquire t fd canOpen) else none
  | .release n => (number? d as n).map .release
  | .forget n => (number? d as n).map .forget
  | .wake fd => if fd = d then some (.wake fd) else none

/-- The commands on descriptor `d`, those of a history in which guards `as` were acquired before. -/
def onlyFrom (d : Descriptor) (as : List (Thread × Descriptor)) : List Command → List Command
  | [] => []
  | c :: cs => (about d as c).toList ++ onlyFrom d (as ++ acquired [c]) cs

/-- The history with everything left out that is not about descriptor `d`. -/
def only (d : Descriptor) (cs : List Command) : List Command := onlyFrom d [] cs

/-- Command `c` is carried over as `c'`. -/
inductive Carried (d : Descriptor) (as : List (Thread × Descriptor)) : Command → Command → Prop
  | acquire (t : Thread) (canOpen : Bool) :
    Carried d as (.acquire t d canOpen) (.acquire t d canOpen)
  | release (n k : ℕ) (hk : number? d as n = some k) : Carried d as (.release n) (.release k)
  | forget (n k : ℕ) (hk : number? d as n = some k) : Carried d as (.forget n) (.forget k)
  | wake : Carried d as (.wake d) (.wake d)

lemma carried_of_about {d : Descriptor} {as : List (Thread × Descriptor)} {c c' : Command}
    (h : about d as c = some c') : Carried d as c c' := by
  cases c with
  | acquire t fd canOpen =>
    obtain ⟨rfl, hc⟩ := Option.ite_none_right_eq_some.mp h
    obtain rfl := Option.some.inj hc
    exact .acquire t canOpen
  | release n =>
    obtain ⟨k, hk, rfl⟩ := Option.map_eq_some_iff.mp h
    exact .release n k hk
  | forget n =>
    obtain ⟨k, hk, rfl⟩ := Option.map_eq_some_iff.mp h
    exact .forget n k hk
  | wake fd =>
    obtain ⟨rfl, hc⟩ := Option.ite_none_right_eq_some.mp h
    obtain rfl := Option.some.inj hc
    exact .wake

variable (d : Descriptor) (cs : List Command)

lemma onlyFrom_append (as : List (Thread × Descriptor)) (ds : List Command) :
    onlyFrom d as (cs ++ ds) = onlyFrom d as cs ++ onlyFrom d (as ++ acquired cs) ds := by
  induction cs generalizing as with
  | nil => simp [onlyFrom, acquired]
  | cons c cs ih =>
    have hacq : acquired (c :: cs) = acquired [c] ++ acquired cs := acquired_append [c] cs
    rw [List.cons_append, onlyFrom, onlyFrom, ih, hacq]
    simp

lemma only_snoc (c : Command) :
    only d (cs ++ [c]) = only d cs ++ (about d (acquired cs) c).toList := by
  rw [only, onlyFrom_append, ← only]
  simp [onlyFrom]

variable {d} in
lemma only_append_replicate {fd : Descriptor} (hfd : fd ≠ d) (t : Thread) (canOpen : Bool) (n : ℕ) :
    only d (cs ++ List.replicate n (.acquire t fd canOpen)) = only d cs := by
  induction n with
  | zero => rw [List.replicate_zero, List.append_nil]
  | succ n ih =>
    rw [List.replicate_succ', ← List.append_assoc, only_snoc, ih, about, if_neg hfd]
    exact List.append_nil _

variable {d cs} in
lemma exists_prefix_of_only {q : List Command} (hq : q <+: only d cs) :
    ∃ p, p <+: cs ∧ only d p = q := by
  induction cs using List.reverseRecOn with
  | nil => exact ⟨[], List.prefix_rfl, (List.prefix_nil.mp hq).symm⟩
  | append_singleton cs c ih =>
    rw [only_snoc] at hq
    cases hc : about d (acquired cs) c with
    | none =>
      rw [hc, Option.toList_none, List.append_nil] at hq
      obtain ⟨p, hp, rfl⟩ := ih hq
      exact ⟨p, hp.trans (List.prefix_append _ _), rfl⟩
    | some c' =>
      rw [hc, Option.toList_some] at hq
      rcases List.prefix_concat_iff.mp hq with rfl | hq
      · exact ⟨cs ++ [c], List.prefix_rfl, by rw [only_snoc, hc, Option.toList_some]⟩
      · obtain ⟨p, hp, rfl⟩ := ih hq
        exact ⟨p, hp.trans (List.prefix_append _ _), rfl⟩

/-! ### How the guards on the descriptor stand -/

lemma filter_modify {α : Type} (p : α → Bool) {f : α → α} (hf : ∀ x, p (f x) = p x) (l : List α)
    (n : ℕ) :
    (l.modify n f).filter p =
      if l[n]?.any p then (l.filter p).modify ((l.take n).countP p) f else l.filter p := by
  induction l generalizing n with
  | nil => simp
  | cons a l ih =>
    cases n with
    | zero => by_cases ha : p a <;> simp [hf, ha]
    | succ n =>
      by_cases ha : p a
      · simp only [List.modify_succ_cons, List.filter_cons_of_pos ha, ih, List.getElem?_cons_succ,
          List.take_succ_cons, List.countP_cons_of_pos ha]
        split <;> rfl
      · simp [ha, ih]

/-- A command for one guard does to the guards on the descriptor what it does to that guard, if
it is one of them. -/
lemma filter_modify_standings {f : Standing → Standing} (hf : ∀ x, (f x).fd = x.fd) (n : ℕ) :
    ((standings cs).modify n f).filter (·.fd = d) =
      match number? d (acquired cs) n with
      | some k => ((standings cs).filter (·.fd = d)).modify k f
      | none => (standings cs).filter (·.fd = d) := by
  have hat : (acquired cs)[n]?.any (·.2 = d) = (standings cs)[n]?.any (·.fd = d) := by
    rw [← map_standings, List.getElem?_map, Option.any_map]
  have hcount : ((acquired cs).take n).countP (·.2 = d) =
      ((standings cs).take n).countP (·.fd = d) := by
    rw [← map_standings, ← List.map_take, List.countP_map]
    rfl
  rw [filter_modify _ (fun x => by rw [hf]), number?, hat, hcount]
  split <;> rfl

lemma filter_map_onClose (fd : Descriptor) (xs : List Standing) :
    (xs.map (.onClose fd)).filter (·.fd = d) =
      if fd = d then (xs.filter (·.fd = d)).map (.onClose fd) else xs.filter (·.fd = d) := by
  have hfd : (fun x : Standing => decide (x.fd = d)) ∘ .onClose fd = fun x => decide (x.fd = d) :=
    funext fun x => by simp
  rw [List.filter_map, hfd]
  split
  · rfl
  · next hne =>
    refine (List.map_congr_left fun x hx => ?_).trans (List.map_id _)
    have hx := of_decide_eq_true (List.mem_filter.mp hx).2
    exact Standing.onClose_of_ne fun heq => hne (heq.symm.trans hx)

/-- In the restricted history stand the guards on the descriptor, as they stand. -/
lemma standings_only : standings (only d cs) = (standings cs).filter (·.fd = d) := by
  induction cs using List.reverseRecOn with
  | nil => rfl
  | append_singleton cs c ih =>
    rw [only_snoc]
    cases c with
    | acquire t fd canOpen =>
      rw [standings_acquire, List.filter_append, ← ih, about]
      by_cases hfd : fd = d <;> simp [hfd, standings_acquire]
    | release n =>
      rw [standings_release, filter_modify_standings d cs (Standing.fd_finish _), ← ih, about]
      cases number? d (acquired cs) n <;> simp [standings_release]
    | forget n =>
      rw [standings_forget, filter_modify_standings d cs (Standing.fd_finish _), ← ih, about]
      cases number? d (acquired cs) n <;> simp [standings_forget]
    | wake fd =>
      rw [standings_wake, filter_map_onClose, ← ih, about]
      by_cases hfd : fd = d <;> simp [hfd, standings_wake]

lemma acquired_only : acquired (only d cs) = (acquired cs).filter (·.2 = d) := by
  rw [← map_standings, standings_only, ← map_standings cs, List.filter_map]
  rfl

lemma live_only_le : live (only d cs) ≤ live cs := by
  rw [live_eq_countP, live_eq_countP, standings_only]
  exact List.filter_sublist.countP_le

variable {d cs} in
lemma Roomy.only (room : Roomy cs) : Roomy (only d cs) := by
  intro q hq
  obtain ⟨p, hp, rfl⟩ := exists_prefix_of_only hq
  exact (live_only_le d p).trans_lt (room p hp)

variable {d cs} in
/-- The numbers of guards on the descriptor are numbers in the restricted history. -/
lemma any_acquired_only {n k : ℕ} (h : number? d (acquired cs) n = some k) :
    (acquired (only d cs))[k]?.any (·.2 = d) = true := by
  have hlt : k < ((acquired cs).filter (·.2 = d)).length := by
    rw [number?] at h
    cases ha : (acquired cs)[n]? with
    | none => simp [ha] at h
    | some a =>
      simp only [ha, Option.any_some, decide_eq_true_eq, Option.ite_none_right_eq_some,
        Option.some.injEq] at h
      obtain ⟨had, rfl⟩ := h
      -- guard `n` is one more on the descriptor than there are before it
      have hle : ((acquired cs).take (n + 1)).countP (·.2 = d) ≤ (acquired cs).countP (·.2 = d) :=
        (List.take_sublist (n + 1) _).countP_le
      rw [List.take_add_one, ha, List.countP_append] at hle
      rw [← List.countP_eq_length_filter]
      simp [had] at hle
      omega
  rw [acquired_only, List.getElem?_eq_getElem hlt]
  exact (List.mem_filter.mp (List.getElem_mem hlt)).2

end History

def Contact.woken? : Contact → Option Thread
  | .wake t _ => some t
  | _ => none

/-- What there is to see of a descriptor: how the guards on it stand, in the order of their
acquisition, and what is listed of them. -/
structure View where
  standings : List Standing
  entries : Multiset Entry

/-- What there is to see of a command: its result, if it has one, the threads that it woke, and a
descriptor after it. -/
structure Sight where
  result : Option ℕ
  woken : Multiset Thread
  view : View

namespace Roster

/-! ### What is to be seen of a descriptor -/

section

variable {σ : Type}

def concerns (w : Roster σ) (d : Descriptor) : Command → Bool
  | .acquire _ fd _ => fd = d
  | .release n => w.guards[n]?.any (·.1.fd = d)
  | .forget n => w.guards[n]?.any (·.1.fd = d)
  | .wake fd => fd = d

def view (w : Roster σ) (d : Descriptor) : View :=
  ⟨w.standings.filter (·.fd = d), ((w.registry.targets d).map (·.2) : List Entry)⟩

variable [Mechanism σ]

def result (w : Roster σ) : Command → Option ℕ
  | .wake fd => some (w.registry.wakeBlocked fd).1
  | _ => none

def woken (w : Roster (Watched σ)) (c : Command) : Multiset Thread :=
  (((w.perform c).registry.mechanism.calls.drop w.registry.mechanism.calls.length).filterMap
    Contact.woken? : List Thread)

def sight (w : Roster (Watched σ)) (d : Descriptor) (c : Command) : Sight :=
  ⟨w.result c, w.woken c, (w.perform c).view d⟩

def sights (d : Descriptor) : Roster (Watched σ) → List Command → List Sight
  | _, [] => []
  | w, c :: cs => (if w.concerns d c then [w.sight d c] else []) ++ sights d (w.perform c) cs

lemma sights_snoc (d : Descriptor) (w : Roster (Watched σ)) (cs : List Command) (c : Command) :
    sights d w (cs ++ [c]) =
      sights d w cs ++ if (w.run cs).concerns d c then [(w.run cs).sight d c] else [] := by
  induction cs generalizing w with
  | nil => exact List.append_nil _
  | cons a cs ih =>
    rw [List.cons_append, sights, ih, sights, List.append_assoc]
    rfl

/-! ### Closes are seen in the view -/

lemma result_wake {w : Roster σ} (h : w.registry.slab.Tidy) (d : Descriptor) :
    w.result (.wake d) = some (Multiset.card (w.view d).entries) := by
  rw [result, Registry.wakeBlocked_eq d _ h, view, Multiset.coe_card, List.length_map]

lemma woken_eq {w : Roster (Watched σ)} (h : w.registry.slab.Tidy) (c : Command) :
    w.woken c = ((w.contacts c).filterMap Contact.woken? : List Thread) := by
  rw [woken, mechanism_perform h, Watched.calls_replay, List.drop_left]

lemma woken_wake {w : Roster (Watched σ)} (h : w.registry.slab.Tidy) (d : Descriptor) :
    w.woken (.wake d) = (w.view d).entries.map (·.thread) := by
  rw [woken_eq h, contacts, List.filterMap_map, view, Multiset.map_coe, List.map_map]
  change ((w.registry.targets d).filterMap (some ∘ fun x => x.2.thread) : Multiset Thread) = _
  rw [List.filterMap_eq_map]
  rfl

lemma woken_release {w : Roster (Watched σ)} (h : w.registry.slab.Tidy) (n : ℕ) :
    w.woken (.release n) = 0 := by
  rw [woken_eq h]
  rcases w.held_or_idle n with ⟨g, hn⟩ | ⟨-, hc, -⟩
  · rw [contacts_release hn]; rfl
  · rw [hc]; rfl

lemma filter_entries (d : Descriptor) (xs : List Standing) :
    (xs.filterMap Standing.entry?).filter (·.fd = d) =
      (xs.filter (·.fd = d)).filterMap Standing.entry? := by
  induction xs with
  | nil => rfl
  | cons x xs ih =>
    obtain ⟨t, fd, f, s⟩ := x
    cases s <;> by_cases hfd : fd = d <;>
      simp [List.filterMap_cons, Standing.entry?, hfd, ih]

variable {cs : List Command} (room : History.Roomy cs)
include room

lemma view_ofHistory (capacity : ℕ) (m : σ) (d : Descriptor) :
    (ofHistory capacity m cs).view d =
      ⟨(History.standings cs).filter (·.fd = d),
        (((History.standings cs).filter (·.fd = d)).filterMap Standing.entry? : List Entry)⟩ := by
  have h := follows_ofHistory capacity m room
  rw [view, h.standings (map_guards_ofHistory capacity m cs)]
  congr 1
  -- entries are listed by slot, guards stand as they were acquired
  refine Multiset.coe_eq_coe.mpr ?_
  rw [Registry.targets, ← filter_entries]
  have hperm := h.entries.filter (·.fd = d)
  rwa [List.filter_map] at hperm

variable {τ : Type} [Mechanism τ]

/-- The view of a descriptor is that of its own guards. -/
lemma view_only (c₁ c₂ : ℕ) (m₁ : σ) (m₂ : τ) (d : Descriptor) :
    (ofHistory c₁ m₁ cs).view d = (ofHistory c₂ m₂ (History.only d cs)).view d := by
  rw [view_ofHistory room, view_ofHistory room.only, History.standings_only,
    List.filter_filter]
  simp only [Bool.and_self]

end

/-! ### Commands that are left out, and commands that are not -/

section

variable {σ τ : Type} {cs : List Command} {w : Roster σ}

lemma any_guards (h : w.guards.map (fun x => (x.1.thread, x.1.fd)) = History.acquired cs)
    (d : Descriptor) (n : ℕ) :
    w.guards[n]?.any (·.1.fd = d) = (History.acquired cs)[n]?.any (·.2 = d) := by
  rw [← h, List.getElem?_map, Option.any_map]

/-- What is left out is what concerns other descriptors. -/
lemma concerns_eq (h : w.guards.map (fun x => (x.1.thread, x.1.fd)) = History.acquired cs)
    (d : Descriptor) (c : Command) :
    w.concerns d c = (History.about d (History.acquired cs) c).isSome := by
  cases c with
  | acquire t fd canOpen => by_cases hfd : fd = d <;> simp [concerns, History.about, hfd]
  | release n =>
    rw [concerns, any_guards h, History.about, History.number?, Option.isSome_map]
    cases (History.acquired cs)[n]?.any (·.2 = d) <;> rfl
  | forget n =>
    rw [concerns, any_guards h, History.about, History.number?, Option.isSome_map]
    cases (History.acquired cs)[n]?.any (·.2 = d) <;> rfl
  | wake fd => by_cases hfd : fd = d <;> simp [concerns, History.about, hfd]

/-- What is left concerns the descriptor. -/
lemma concerns_about {d : Descriptor} {v : Roster τ}
    (h : v.guards.map (fun x => (x.1.thread, x.1.fd)) = History.acquired (History.only d cs))
    {c c' : Command} (hc : History.about d (History.acquired cs) c = some c') :
    v.concerns d c' = true := by
  cases History.carried_of_about hc with
  | acquire t canOpen => exact decide_eq_true rfl
  | release n k hk => exact (any_guards h d k).trans (History.any_acquired_only hk)
  | forget n k hk => exact (any_guards h d k).trans (History.any_acquired_only hk)
  | wake => exact decide_eq_true rfl

end

/-! ### Every close, and every command -/

section

variable {σ τ : Type} [Mechanism σ] [Mechanism τ]

/-- Where the descriptor looks the same, a command that is left comes back with the same and wakes
the same threads: only a close does either, and it shows in the view. -/
lemma result_woken_about {w : Roster (Watched σ)} {v : Roster (Watched τ)} {d : Descriptor}
    (hw : w.registry.slab.Tidy) (hv : v.registry.slab.Tidy) (hview : w.view d = v.view d)
    {as : List (Thread × Descriptor)} {c c' : Command} (hc : History.about d as c = some c') :
    w.result c = v.result c' ∧ w.woken c = v.woken c' := by
  cases History.carried_of_about hc with
  | acquire t canOpen =>
    rw [woken_eq hw, woken_eq hv]
    exact ⟨rfl, rfl⟩
  | release n k hk =>
    rw [woken_release hw, woken_release hv]
    exact ⟨rfl, rfl⟩
  | forget n k hk =>
    rw [woken_eq hw, woken_eq hv]
    exact ⟨rfl, rfl⟩
  | wake =>
    rw [result_wake hw, result_wake hv, woken_wake hw, woken_wake hv, hview]
    exact ⟨rfl, rfl⟩

/-- A command that is left shows what it shows in the whole history. -/
lemma sight_about (c₁ c₂ : ℕ) (m₁ : σ) (m₂ : τ) {d : Descriptor} {cs : List Command}
    {c c' : Command} (room : History.Roomy (cs ++ [c]))
    (hc : History.about d (History.acquired cs) c = some c') :
    (ofHistory c₁ (Watched.watch m₁) cs).sight d c =
      (ofHistory c₂ (Watched.watch m₂) (History.only d cs)).sight d c' := by
  have hbefore := view_only room.left c₁ c₂ (Watched.watch m₁) (Watched.watch m₂) d
  have hafter := view_only room c₁ c₂ (Watched.watch m₁) (Watched.watch m₂) d
  rw [History.only_snoc, hc, Option.toList_some, ofHistory, ofHistory, run_snoc, run_snoc,
    ← ofHistory, ← ofHistory] at hafter
  obtain ⟨hresult, hwoken⟩ := result_woken_about (tidy_ofHistory c₁ (Watched.watch m₁) cs)
    (tidy_ofHistory c₂ (Watched.watch m₂) (History.only d cs)) hbefore hc
  rw [sight, sight, hresult, hwoken, hafter]

/-- **Descriptors do not interfere.** Take any history in which fewer than `2 ^ 32` guards are live
at once, and leave out of it whatever is not about a descriptor: acquisitions of guards on others,
whatever happens to those, and closes of others. A new registry, of whatever capacity and over
whatever mechanism, shows at every command that is left what the first one showed there: the number
of wakes tried by a close of the descriptor, which threads were woken and how often, how each guard
on the descriptor stands, with its own answer to whether a close was requested, and the entries
listed for the descriptor. -/
theorem unaffected_by_others (c₁ c₂ : ℕ) (m₁ : σ) (m₂ : τ) (d : Descriptor) (cs : List Command)
    (room : History.Roomy cs) :
    sights d (start c₁ (Watched.watch m₁)) cs =
        sights d (start c₂ (Watched.watch m₂)) (History.only d cs) ∧
      (sights d (start c₂ (Watched.watch m₂)) (History.only d cs)).length =
        (History.only d cs).length ∧
      (ofHistory c₁ (Watched.watch m₁) cs).view d =
        (ofHistory c₂ (Watched.watch m₂) (History.only d cs)).view d := by
  refine and_assoc.mp ⟨?_, view_only room c₁ c₂ (Watched.watch m₁) (Watched.watch m₂) d⟩
  induction cs using List.reverseRecOn with
  | nil => exact ⟨rfl, rfl⟩
  | append_singleton cs c ih =>
    obtain ⟨hsights, hlen⟩ := ih room.left
    have hacq := map_guards_ofHistory c₁ (Watched.watch m₁) cs
    have hacq' := map_guards_ofHistory c₂ (Watched.watch m₂) (History.only d cs)
    have hconcerns := concerns_eq hacq d c
    rw [sights_snoc, hsights, ← ofHistory, hconcerns, History.only_snoc]
    cases hc : History.about d (History.acquired cs) c with
    | none => simp [hlen]
    | some c' =>
      have hconcerns' := concerns_about hacq' hc
      rw [Option.toList_some, sights_snoc, ← ofHistory, hconcerns', sight_about c₁ c₂ m₁ m₂ room hc]
      simp [hlen]

/-- Guards on two descriptors that take over each other's slots. -/
def mixed : List Command :=
  [.acquire ⟨0⟩ (.raw 5) true, .acquire ⟨1⟩ (.raw 6) true, .release 0,
    .acquire ⟨1⟩ (.raw 6) true, .acquire ⟨1⟩ (.raw 5) true, .wake (.raw 6), .release 1,
    .acquire ⟨1⟩ (.raw 5) true, .forget 3, .wake (.raw 5), .release 4]

lemma roomy_mixed : History.Roomy mixed := by
  decide +kernel

/-- The guards on one of them get other numbers without the other, and the same close finds two of
them. -/
theorem unaffected_by_others_mixed :
    History.only (.raw 5) mixed =
        [.acquire ⟨0⟩ (.raw 5) true, .release 0, .acquire ⟨1⟩ (.raw 5) true,
          .acquire ⟨1⟩ (.raw 5) true, .forget 1, .wake (.raw 5), .release 2] ∧
      (sights (.raw 5) (start 1 (Watched.watch (WakeRecorder.mk [] (.ofOutcomes [])))) mixed).map
          (·.result) =
        [none, none, none, none, none, some 2, none] ∧
      sights (.raw 5) (start 1 (Watched.watch (WakeRecorder.mk [] (.ofOutcomes [])))) mixed =
        sights (.raw 5) (start 0 (Watched.watch (Recorder.mk [] (.ofOutcomes []) none)))
          (History.only (.raw 5) mixed) :=
  ⟨by decide +kernel, by decide +kernel,
    (unaffected_by_others 1 0 (WakeRecorder.mk [] (.ofOutcomes []))
      (Recorder.mk [] (.ofOutcomes []) none) (.raw 5) mixed roomy_mixed).1⟩

/-! ### More guards than can be counted -/

/-- The last guards have all the slots, and a close of another descriptor finds none. -/
lemma result_wake_replicate {fd d : Descriptor} (hfd : fd ≠ d) (t : Thread) (canOpen : Bool)
    {w : Roster σ} {n : ℕ} (h : w.registry.slab.Filled n) :
    (w.run (List.replicate (2 ^ 32) (.acquire t fd canOpen))).result (.wake d) = some 0 := by
  have hslab := (run_replicate h t fd canOpen (2 ^ 32)).1
  have hnone :
      (w.run (List.replicate (2 ^ 32) (.acquire t fd canOpen))).registry.targets d = [] := by
    refine List.filter_eq_nil_iff.mpr fun x hx => ?_
    rw [Registry.blocked, hslab] at hx
    rw [h.entries_cram _ hx]
    simpa using hfd
  rw [result_wake (hslab ▸ (h.cram _ _).tidy), view, hnone]
  rfl

/-- A guard on one descriptor, as many on another as there are slots to number, and a close of the
first. -/
def squeezed : List Command :=
  [.acquire ⟨0⟩ (.raw 6) true] ++ List.replicate (2 ^ 32) (.acquire ⟨1⟩ (.raw 5) true) ++
    [.wake (.raw 6)]

lemma only_squeezed :
    History.only (.raw 6) squeezed = [.acquire ⟨0⟩ (.raw 6) true] ++ [.wake (.raw 6)] := by
  rw [squeezed, History.only_snoc, History.only_append_replicate _ (by decide)]
  rfl

/-- The guards on the other descriptor have taken the slot of the first one. The close does not
find it, and finds it where the others are left out. -/
theorem unaffected_by_others_squeezed :
    (sights (.raw 6) (start 1 (Watched.watch (WakeRecorder.mk [] (.ofOutcomes [])))) squeezed).map
        (·.result) ≠
      (sights (.raw 6) (start 1 (Watched.watch (WakeRecorder.mk [] (.ofOutcomes []))))
        (History.only (.raw 6) squeezed)).map (·.result) := by
  have hfd : Descriptor.raw 5 ≠ .raw 6 := by decide
  have hnone := result_wake_replicate hfd ⟨1⟩ true
    (w := (start 1 (Watched.watch (WakeRecorder.mk [] (.ofOutcomes [])))).run
      [.acquire ⟨0⟩ (.raw 6) true])
    ((Slab.filled_ofCapacity 1).insert ⟨.raw 6, ⟨0⟩, false⟩)
  rw [← run_append] at hnone
  rw [only_squeezed, squeezed, sights_snoc, sights_snoc, List.map_append, List.map_append]
  intro heq
  simp only [concerns, decide_true, if_true, List.map_singleton, sight, hnone] at heq
  exact absurd (List.append_inj' heq rfl).2 (by decide +kernel)

end

end Roster

end AsyncClose
