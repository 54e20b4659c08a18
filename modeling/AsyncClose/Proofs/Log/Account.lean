import Mathlib
import AsyncClose.Event
import AsyncClose.Slab.Basic

/-!
Reading the log back.

Whoever has nothing but the log can keep an account of the registry: which guards are live, who
owns a channel, and which pairs have a byte under way. Every event is entered in the account as it
comes, and most events change nothing.
-/

namespace AsyncClose

structure Account where
  /-- The live guards with what they block on. -/
  entries : List (GuardId × Entry)
  /-- The threads that own a channel. -/
  owners : Finset Thread
  /-- The pairs with a wake byte under way. -/
  pushed : Finset PairId

namespace Account

def blank : Account := ⟨[], ∅, ∅⟩

def signal (id : GuardId) (x : GuardId × Entry) : GuardId × Entry :=
  if x.1 = id then (x.1, { x.2 with signaled := true }) else x

def read (a : Account) : Event → Account
  | .registered fd id t => { a with entries := (id, ⟨fd, t, false⟩) :: a.entries }
  | .unregistered id true => { a with entries := a.entries.filter (·.1 ≠ id) }
  | .waking _ id _ => { a with entries := a.entries.map (signal id) }
  | .channelCreated t _ => { a with owners := insert t a.owners }
  | .channelDestroyed t => { a with owners := a.owners.erase t }
  | .wakeByte p .pushed => { a with pushed := insert p a.pushed }
  | .wakeByte p .popped => { a with pushed := a.pushed.erase p }
  | _ => a

def replay (log : List Event) : Account := log.foldl read blank

@[simp] lemma replay_nil : replay [] = blank := rfl

@[simp] lemma replay_append (log events : List Event) :
    replay (log ++ events) = events.foldl read (replay log) := List.foldl_append

end Account

/-! ### What is told of one thread, and of one pair -/

/-- Whether the thread came into a channel or lost its channel, if the event says either. -/
def Event.turn? (t : Thread) : Event → Option Bool
  | channelCreated u _ => if u = t then some true else none
  | channelDestroyed u => if u = t then some false else none
  | _ => none

/-- Whether a byte was sent or taken back, if either happened. -/
def PairEvent.flip? : PairEvent → Option Bool
  | pushed => some true
  | popped => some false
  | pushIgnored | pushFailed _ | popEnded | popFailed _ => none

/-- Whether a byte was sent through the pair or taken back, if the event says either. -/
def Event.flip? (p : PairId) : Event → Option Bool
  | wakeByte q what => if q = p then what.flip? else none
  | _ => none

def turns (t : Thread) (log : List Event) : List Bool := log.filterMap (Event.turn? t)

def flips (p : PairId) (log : List Event) : List Bool := log.filterMap (Event.flip? p)

@[simp] lemma turns_append (t : Thread) (log events : List Event) :
    turns t (log ++ events) = turns t log ++ turns t events := List.filterMap_append

@[simp] lemma flips_append (p : PairId) (log events : List Event) :
    flips p (log ++ events) = flips p log ++ flips p events := List.filterMap_append

/-- From `a` on each is other than the one before, and the last is `b`. -/
def Alternates : Bool → List Bool → Bool → Prop
  | a, [], b => a = b
  | a, x :: xs, b => x = !a ∧ Alternates x xs b

namespace Alternates

lemma nil (a : Bool) : Alternates a [] a := rfl

lemma append {a b c : Bool} {xs ys : List Bool} (h : Alternates a xs b) (h' : Alternates b ys c) :
    Alternates a (xs ++ ys) c := by
  induction xs generalizing a with
  | nil =>
    obtain rfl : a = b := h
    exact h'
  | cons x xs ih => exact ⟨h.1, ih h.2⟩

lemma getLastD_eq {a b : Bool} {xs : List Bool} (h : Alternates a xs b) : xs.getLastD a = b := by
  induction xs generalizing a with
  | nil => exact h
  | cons x xs ih => rw [List.getLastD_cons, ih h.2]

end Alternates

namespace Account

lemma getLastD_filterMap_snoc {α : Type} (f : α → Option Bool) (xs : List α) (x : α) :
    ((xs ++ [x]).filterMap f).getLastD false = (f x).getD ((xs.filterMap f).getLastD false) := by
  rw [List.filterMap_append]
  cases hx : f x <;> simp [hx]

lemma mem_owners_read (a : Account) (e : Event) (t : Thread) :
    t ∈ (a.read e).owners ↔ (e.turn? t).getD (decide (t ∈ a.owners)) = true := by
  cases e with
  | channelCreated u p =>
    rcases eq_or_ne u t with rfl | hu
    · simp [read, Event.turn?]
    · simp [read, Event.turn?, hu, hu.symm]
  | channelDestroyed u =>
    rcases eq_or_ne u t with rfl | hu
    · simp [read, Event.turn?]
    · simp [read, Event.turn?, hu, hu.symm]
  | unregistered id removed => cases removed <;> simp [read, Event.turn?]
  | wakeByte p what => cases what <;> simp [read, Event.turn?]
  | _ => simp [read, Event.turn?]

lemma mem_pushed_read (a : Account) (e : Event) (p : PairId) :
    p ∈ (a.read e).pushed ↔ (e.flip? p).getD (decide (p ∈ a.pushed)) = true := by
  cases e with
  | wakeByte q what =>
    rcases eq_or_ne q p with rfl | hq
    · cases what <;> simp [read, Event.flip?, PairEvent.flip?]
    · cases what <;> simp [read, Event.flip?, hq, hq.symm]
  | unregistered id removed => cases removed <;> simp [read, Event.flip?]
  | _ => simp [read, Event.flip?]

/-- The owners in the account are the threads whose last turn was into a channel. -/
lemma mem_owners (t : Thread) (log : List Event) :
    t ∈ (replay log).owners ↔ (turns t log).getLastD false = true := by
  induction log using List.reverseRecOn with
  | nil => simp [blank, turns]
  | append_singleton log e ih =>
    have hin : decide (t ∈ (replay log).owners) = (turns t log).getLastD false := by
      rw [Bool.eq_iff_iff, decide_eq_true_iff, ih]
    have hlast : (turns t (log ++ [e])).getLastD false =
        (e.turn? t).getD ((turns t log).getLastD false) := getLastD_filterMap_snoc _ log e
    rw [replay_append, List.foldl_cons, List.foldl_nil, mem_owners_read, hlast, hin]

/-- The pairs pushed in the account are those through which a byte was last sent. -/
lemma mem_pushed (p : PairId) (log : List Event) :
    p ∈ (replay log).pushed ↔ (flips p log).getLastD false = true := by
  induction log using List.reverseRecOn with
  | nil => simp [blank, flips]
  | append_singleton log e ih =>
    have hin : decide (p ∈ (replay log).pushed) = (flips p log).getLastD false := by
      rw [Bool.eq_iff_iff, decide_eq_true_iff, ih]
    have hlast : (flips p (log ++ [e])).getLastD false =
        (e.flip? p).getD ((flips p log).getLastD false) := getLastD_filterMap_snoc _ log e
    rw [replay_append, List.foldl_cons, List.foldl_nil, mem_pushed_read, hlast, hin]

end Account

end AsyncClose
