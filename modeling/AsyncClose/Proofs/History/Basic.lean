import AsyncClose.Proofs.Registry.Steps
import AsyncClose.Proofs.Slab.Overflow
import AsyncClose.Session.Book

/-!
Histories: what was done with guards, and what should be live after it.

A history says by itself which guards are live and which of them are marked. A guard is live from
its acquisition on, unless it was released; forgetting it takes the chance to release it. It is
marked if its descriptor was closed after its acquisition.
-/

namespace AsyncClose

/-- Something done with guards. A guard is named by the number of those acquired before it. -/
inductive Command
  | acquire (t : Thread) (fd : Descriptor) (canOpen : Bool)
  | release (n : ℕ)
  | forget (n : ℕ)
  | wake (fd : Descriptor)
  deriving DecidableEq

/-- A registry and the guards acquired from it, with what became of them. -/
structure Roster (σ : Type) where
  registry : Registry σ
  guards : List (Guard × Fate)

namespace Roster

variable {σ : Type}

def start (capacity : ℕ) (m : σ) : Roster σ := ⟨.ofCapacity capacity m, []⟩

def id? (w : Roster σ) (n : ℕ) : Option GuardId :=
  w.guards[n]?.bind fun x => if x.2 = .dropped then none else some x.1.id

variable [Mechanism σ]

/-- Carries out a command. What is no longer held cannot be released or forgotten. -/
def perform (w : Roster σ) : Command → Roster σ
  | .acquire t fd canOpen =>
    let (g, r) := w.registry.acquire t fd canOpen
    ⟨r, w.guards ++ [(g, .held)]⟩
  | .release n =>
    match w.guards[n]? with
    | some (g, .held) => ⟨w.registry.release g, w.guards.set n (g, .dropped)⟩
    | _ => w
  | .forget n =>
    match w.guards[n]? with
    | some (g, .held) => ⟨w.registry, w.guards.set n (g, .forgotten)⟩
    | _ => w
  | .wake fd => ⟨(w.registry.wakeBlocked fd).2, w.guards⟩

def run (w : Roster σ) (cs : List Command) : Roster σ := cs.foldl perform w

lemma run_append (w : Roster σ) (cs ds : List Command) : w.run (cs ++ ds) = (w.run cs).run ds :=
  List.foldl_append

@[simp] lemma run_snoc (w : Roster σ) (cs : List Command) (c : Command) :
    w.run (cs ++ [c]) = (w.run cs).perform c := by
  simp [run]

/-- Acquisitions alone fill one slot after the other, and begin again after the last. -/
lemma run_replicate {w : Roster σ} {n : ℕ} (h : w.registry.slab.Filled n) (t : Thread)
    (fd : Descriptor) (canOpen : Bool) (k : ℕ) :
    (w.run (List.replicate k (.acquire t fd canOpen))).registry.slab =
        w.registry.slab.cram ⟨fd, t, false⟩ k ∧
      (w.run (List.replicate k (.acquire t fd canOpen))).guards =
        w.guards ++ (List.range k).map fun j => (⟨.pack (.ofNat (n + j)) 0, fd, t⟩, .held) := by
  induction k with
  | zero => exact ⟨rfl, (List.append_nil _).symm⟩
  | succ k ih =>
    obtain ⟨hslab, hguards⟩ := ih
    rw [List.replicate_succ', run_snoc, List.range_succ, List.map_append, ← List.append_assoc,
      ← hguards, Slab.cram, ← hslab]
    refine ⟨rfl, ?_⟩
    have hid := (h.cram ⟨fd, t, false⟩ k).insert_fst ⟨fd, t, false⟩
    rw [← hslab] at hid
    rw [List.map_singleton, ← hid]
    rfl

end Roster

namespace History

/-! ### What a history asks for -/

def acquired : List Command → List (Thread × Descriptor)
  | [] => []
  | .acquire t fd _ :: cs => (t, fd) :: acquired cs
  | _ :: cs => acquired cs

def since : List Command → ℕ → List Command
  | [], _ => []
  | .acquire _ _ _ :: cs, 0 => cs
  | .acquire _ _ _ :: cs, n + 1 => since cs n
  | _ :: cs, n => since cs n

/-- What became of guard `n`. The first command that ends its use decides. -/
def fate (n : ℕ) : List Command → Fate
  | [] => .held
  | .release k :: cs => if k = n then .dropped else fate n cs
  | .forget k :: cs => if k = n then .forgotten else fate n cs
  | _ :: cs => fate n cs

/-- The entry that guard `n` should have: none before its acquisition or after its release. -/
def listed? (cs : List Command) (n : ℕ) : Option Entry :=
  (acquired cs)[n]?.bind fun a =>
    if fate n (since cs n) = .dropped then none
    else some ⟨a.2, a.1, decide (.wake a.2 ∈ since cs n)⟩

/-- The number of guards that should be live. -/
def live (cs : List Command) : ℕ :=
  (List.range (acquired cs).length).countP fun n => (listed? cs n).isSome

/-- Fewer than `2 ^ 32` guards are live at any time. -/
def Roomy (cs : List Command) : Prop := ∀ p, p <+: cs → live p < 2 ^ 32

instance (cs : List Command) : Decidable (Roomy cs) :=
  inferInstanceAs (Decidable (∀ p, p <+: cs → live p < 2 ^ 32))

lemma Roomy.of_prefix {cs p : List Command} (h : Roomy cs) (hp : p <+: cs) : Roomy p :=
  fun q hq => h q (hq.trans hp)

lemma Roomy.left {cs ds : List Command} (h : Roomy (cs ++ ds)) : Roomy cs :=
  h.of_prefix (List.prefix_append cs ds)

variable (cs : List Command) (n : ℕ)

@[simp] lemma acquired_append (ds : List Command) :
    acquired (cs ++ ds) = acquired cs ++ acquired ds := by
  induction cs with
  | nil => rfl
  | cons c cs ih => cases c <;> simp [acquired, ih]

variable {cs n} in
lemma since_snoc_of_lt (h : n < (acquired cs).length) (c : Command) :
    since (cs ++ [c]) n = since cs n ++ [c] := by
  induction cs generalizing n with
  | nil => simp [acquired] at h
  | cons d cs ih =>
    cases d with
    | acquire t fd canOpen =>
      cases n with
      | zero => rfl
      | succ n => exact ih (by simpa [acquired] using h)
    | release k => exact ih h
    | forget k => exact ih h
    | wake fd => exact ih h

lemma since_acquire (t : Thread) (fd : Descriptor) (canOpen : Bool) :
    since (cs ++ [.acquire t fd canOpen]) (acquired cs).length = [] := by
  induction cs with
  | nil => rfl
  | cons d cs ih => cases d <;> exact ih

lemma fate_append (ds : List Command) :
    fate n (cs ++ ds) = if fate n cs = .held then fate n ds else fate n cs := by
  induction cs with
  | nil => rfl
  | cons c cs ih =>
    cases c with
    | acquire t fd canOpen => exact ih
    | release k => by_cases hk : k = n <;> simp [fate, hk, ih]
    | forget k => by_cases hk : k = n <;> simp [fate, hk, ih]
    | wake fd => exact ih

/-! ### One command more -/

variable {cs n}

lemma listed?_of_le (h : (acquired cs).length ≤ n) : listed? cs n = none := by
  rw [listed?, List.getElem?_eq_none h, Option.bind_none]

lemma listed?_of_getElem? {t : Thread} {fd : Descriptor} (h : (acquired cs)[n]? = some (t, fd)) :
    listed? cs n =
      if fate n (since cs n) = .dropped then none
      else some ⟨fd, t, decide (.wake fd ∈ since cs n)⟩ := by
  rw [listed?, h, Option.bind_some]

lemma listed?_snoc {t : Thread} {fd : Descriptor} (h : (acquired cs)[n]? = some (t, fd))
    (c : Command) :
    listed? (cs ++ [c]) n =
      if (if fate n (since cs n) = .held then fate n [c] else fate n (since cs n)) = .dropped then
        none
      else some ⟨fd, t, decide (.wake fd ∈ since cs n ++ [c])⟩ := by
  have hn := (List.getElem?_eq_some_iff.mp h).1
  have h' : (acquired (cs ++ [c]))[n]? = some (t, fd) := by
    rw [acquired_append, List.getElem?_append_left hn, h]
  rw [listed?_of_getElem? h', since_snoc_of_lt hn, fate_append]

variable (cs n)

lemma listed?_acquire (t : Thread) (fd : Descriptor) (canOpen : Bool) :
    listed? (cs ++ [.acquire t fd canOpen]) n =
      if n = (acquired cs).length then some ⟨fd, t, false⟩ else listed? cs n := by
  rcases lt_trichotomy n (acquired cs).length with hn | rfl | hn
  · rw [if_neg hn.ne, listed?_snoc (List.getElem?_eq_getElem hn),
      listed?_of_getElem? (List.getElem?_eq_getElem hn)]
    cases fate n (since cs n) <;> simp [fate]
  · rw [if_pos rfl, listed?, since_acquire, acquired_append]
    simp [acquired, fate]
  · rw [if_neg hn.ne', listed?_of_le hn.le, listed?_of_le]
    simpa [acquired] using hn

lemma listed?_release (k : ℕ) :
    listed? (cs ++ [.release k]) n =
      if k = n ∧ fate n (since cs n) = .held then none else listed? cs n := by
  cases hn : (acquired cs)[n]? with
  | none =>
    have hlen := List.getElem?_eq_none_iff.mp hn
    rw [listed?_of_le hlen, listed?_of_le (by simpa [acquired] using hlen), ite_self]
  | some a =>
    rw [listed?_snoc hn, listed?_of_getElem? hn]
    by_cases hk : k = n <;> cases fate n (since cs n) <;> simp [fate, hk]

lemma listed?_forget (k : ℕ) : listed? (cs ++ [.forget k]) n = listed? cs n := by
  cases hn : (acquired cs)[n]? with
  | none =>
    have hlen := List.getElem?_eq_none_iff.mp hn
    rw [listed?_of_le hlen, listed?_of_le (by simpa [acquired] using hlen)]
  | some a =>
    rw [listed?_snoc hn, listed?_of_getElem? hn]
    by_cases hk : k = n <;> cases fate n (since cs n) <;> simp [fate, hk]

lemma listed?_wake (fd : Descriptor) :
    listed? (cs ++ [.wake fd]) n = (listed? cs n).map (·.onClose fd) := by
  cases hn : (acquired cs)[n]? with
  | none =>
    have hlen := List.getElem?_eq_none_iff.mp hn
    rw [listed?_of_le hlen, listed?_of_le (by simpa [acquired] using hlen), Option.map_none]
  | some a =>
    rw [listed?_snoc hn, listed?_of_getElem? hn]
    by_cases hfd : a.2 = fd <;> cases fate n (since cs n) <;> simp [fate, Entry.onClose, hfd]

lemma live_acquire (t : Thread) (fd : Descriptor) (canOpen : Bool) :
    live (cs ++ [.acquire t fd canOpen]) = live cs + 1 := by
  have hlen : (acquired (cs ++ [.acquire t fd canOpen])).length = (acquired cs).length + 1 := by
    simp [acquired]
  rw [live, live, hlen, List.range_succ, List.countP_append]
  congr 1
  · refine List.countP_congr fun n hn => ?_
    rw [listed?_acquire, if_neg (List.mem_range.mp hn).ne]
  · rw [List.countP_singleton, listed?_acquire, if_pos rfl]
    rfl

end History

end AsyncClose
