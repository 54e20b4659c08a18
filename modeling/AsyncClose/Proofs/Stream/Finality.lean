import AsyncClose.Proofs.History.Channels
import AsyncClose.Proofs.Stream.Life
import AsyncClose.Session.Basic

/-!
Forced closes reach the right streams, and are final.

A close shuts its descriptor down once for every guard that it finds, and nothing else shuts
descriptors down. So a session, seen from one pair of streams, is the transfers over that pair, and
a shutdown wherever a close on it has found a guard; other descriptors, and closes that found no
guard, leave no trace.
-/

namespace AsyncClose

/-- Something done in a session that also moves bytes. -/
inductive Deal
  | command (c : Command)
  | transfer (fd : Descriptor) (x : Transfer)
  deriving DecidableEq

inductive Reply
  | nothing
  /-- So many wakes were tried. -/
  | woken (n : ℕ)
  | moved (r : Except Errno ℕ)

namespace Deal

def isWake : Deal → Bool
  | command (.wake _) => true
  | _ => false

/-- What of it is a transfer over descriptor `k`. -/
def transferOn? (k : ℕ) : Deal → Option Transfer
  | transfer fd x => if fd = .opened k then some x else none
  | command _ => none

/-- What it is to the pair behind descriptor `k`, by its answer. -/
def moment? (k : ℕ) : Deal × Reply → Option Moment
  | (command (.wake fd), .woken n) => if fd = .opened k ∧ 0 < n then some .closed else none
  | (transfer fd x, .moved r) => if fd = .opened k then some (.moved x r) else none
  | _ => none

end Deal

/-- What happens to the pair behind descriptor `k` in a session. -/
def moments (k : ℕ) (t : List (Deal × Reply)) : List Moment := t.filterMap (Deal.moment? k)

lemma closed_mem_moments {k : ℕ} {t : List (Deal × Reply)} :
    .closed ∈ moments k t ↔ ∃ n, 0 < n ∧ (.command (.wake (.opened k)), .woken n) ∈ t := by
  simp only [moments, List.mem_filterMap]
  constructor
  · rintro ⟨⟨d, r⟩, hmem, hd⟩
    unfold Deal.moment? at hd
    split at hd
    · next fd n heq =>
      obtain ⟨rfl, rfl⟩ := Prod.mk.inj heq
      split at hd
      · next hn =>
        obtain ⟨rfl, hn⟩ := hn
        exact ⟨n, hn, hmem⟩
      · simp at hd
    · split at hd <;> simp at hd
    · simp at hd
  · rintro ⟨n, hn, hmem⟩
    exact ⟨_, hmem, if_pos ⟨rfl, hn⟩⟩

namespace Sockets

/-- Descriptor `k` is open and is the near end of the pair. -/
def Holds (x : Sockets) (k : ℕ) (s : StreamPair) : Prop := x.list[k]? = some s.socket

variable {x : Sockets} {k : ℕ} {s : StreamPair}

lemma holds_ofKinds {kinds : List SocketKind} (hk : kinds[k]? = some .stream) :
    (ofKinds kinds).Holds k .fresh := by
  rw [Holds, ofKinds, List.getElem?_map, hk]
  rfl

lemma on_opened {α : Type} {j : ℕ} {y : Socket} (hy : x.list[j]? = some y)
    (act : Socket → Except Errno α × Socket) :
    x.on (.opened j) act = ((act y).1, ⟨x.list.set j (act y).2⟩) := by
  simp only [on, hy]

/-- What is done with one descriptor does nothing to another. -/
lemma Holds.on_ne {α : Type} (h : x.Holds k s) {fd : Descriptor} (hfd : fd ≠ .opened k)
    (act : Socket → Except Errno α × Socket) : (x.on fd act).2.Holds k s := by
  cases fd with
  | raw n => exact h
  | opened j =>
    have hj : j ≠ k := fun hj => hfd (hj ▸ rfl)
    cases hy : x.list[j]? with
    | none => simpa only [on, hy] using h
    | some y =>
      rw [on_opened hy]
      exact (List.getElem?_set_ne hj).trans h

lemma Holds.on_self {α : Type} (h : x.Holds k s) {act : Socket → Except Errno α × Socket}
    {r : Except Errno α} {s' : StreamPair} (hact : act s.socket = (r, s'.socket)) :
    (x.on (.opened k) act).1 = r ∧ (x.on (.opened k) act).2.Holds k s' := by
  have hlt := (List.getElem?_eq_some_iff.mp h).1
  rw [on_opened h, hact]
  exact ⟨rfl, List.getElem?_set_self hlt⟩

lemma shutdown_snd (x : Sockets) (fd : Descriptor) :
    (x.shutdown fd).2 = (x.on fd Socket.shutdown).2 := by
  unfold shutdown
  split <;> next heq => rw [heq]

lemma Holds.shutdown_self (h : x.Holds k s) :
    (x.shutdown (.opened k)).1 = .ok () ∧ (x.shutdown (.opened k)).2.Holds k s.close := by
  obtain ⟨hone, htwo⟩ := h.on_self (StreamPair.shutdown_socket s)
  rw [shutdown_snd]
  refine ⟨?_, htwo⟩
  unfold shutdown
  split
  · rfl
  · next heq => rw [heq] at hone; simp at hone

lemma Holds.shutdown (h : x.Holds k s) (fd : Descriptor) :
    (x.shutdown fd).2.Holds k (if fd = .opened k then s.close else s) := by
  by_cases hfd : fd = .opened k
  · rw [if_pos hfd, hfd]
    exact h.shutdown_self.2
  · rw [if_neg hfd, shutdown_snd]
    exact h.on_ne hfd _

/-- Shutting a pair down once more changes nothing. -/
lemma Holds.shutdown_again (h : x.Holds k s) (hs : s.shut = true) :
    x.shutdown (.opened k) = (.ok (), x) := by
  obtain ⟨hone, -⟩ := h.shutdown_self
  have hclose : s.close = s := by
    rw [StreamPair.close, ← hs]
  have hlt := (List.getElem?_eq_some_iff.mp h).1
  have hsame : x.list.set k s.close.socket = x.list := by
    rw [hclose]
    exact List.ext_getElem? fun i => by
      by_cases hi : k = i
      · subst hi
        rw [List.getElem?_set_self hlt, h]
      · rw [List.getElem?_set_ne hi]
  refine Prod.ext hone ?_
  rw [shutdown_snd, on_opened h, StreamPair.shutdown_socket, hsame]

end Sockets

namespace WakeChannels

variable {κ : Type} {s s' : WakeChannels κ}

/-! ### Only wakes reach what forces descriptors closed -/

lemma closer_enter {t : Thread} {canOpen : Bool} (h : Called s (.enter t canOpen) s') :
    s'.closer = s.closer := by
  cases h <;> rfl

lemma closer_leave {t : Thread} (h : Called s (.leave t) s') : s'.closer = s.closer := by
  cases h <;> rfl

lemma closer_wake [ForcedClose κ] (s : WakeChannels κ) (t : Thread) (fd : Descriptor) :
    (s.wake t fd).2.1.closer = (ForcedClose.close t fd s.closer).2 := by
  have hring : (s.ring t).1.closer = s.closer := by
    unfold ring
    split
    · rfl
    · rw [onPair_fst]
  rw [← hring]
  rfl

end WakeChannels

namespace Roster

open StreamPair

/-- A registry that wakes through channels and shuts down what it wakes, over open descriptors of
the given kinds. -/
def connected (capacity : ℕ) (kinds : List SocketKind) : Roster (WakeChannels Sockets) :=
  start capacity (.ofCloser (.ofKinds kinds))

def sockets (w : Roster (WakeChannels Sockets)) : Sockets := w.registry.mechanism.closer

def deal (w : Roster (WakeChannels Sockets)) : Deal → Reply × Roster (WakeChannels Sockets)
  | .command (.wake fd) => (.woken (w.registry.wakeBlocked fd).1, w.perform (.wake fd))
  | .command c => (.nothing, w.perform c)
  | .transfer fd x =>
    let (r, registry) := Session.transfer fd x.act w.registry
    (.moved r, ⟨registry, w.guards⟩)

def dealt (w : Roster (WakeChannels Sockets)) (ds : List Deal) : Roster (WakeChannels Sockets) :=
  ds.foldl (fun w d => (w.deal d).2) w

def transcript : Roster (WakeChannels Sockets) → List Deal → List (Deal × Reply)
  | _, [] => []
  | w, d :: ds => (d, (w.deal d).1) :: transcript (w.deal d).2 ds

variable {w : Roster (WakeChannels Sockets)} {k : ℕ} {s : StreamPair}

lemma tidy_deal (h : w.registry.slab.Tidy) (d : Deal) : (w.deal d).2.registry.slab.Tidy := by
  cases d with
  | command c => cases c <;> exact tidy_perform h _
  | transfer fd x => exact h

lemma tidy_dealt (h : w.registry.slab.Tidy) (ds : List Deal) :
    (w.dealt ds).registry.slab.Tidy := by
  induction ds generalizing w with
  | nil => exact h
  | cons d ds ih => exact ih (tidy_deal h d)

lemma holds_wake {m : WakeChannels Sockets} (h : m.closer.Holds k s) (t : Thread)
    (fd : Descriptor) :
    (Mechanism.wake t fd m).2.1.closer.Holds k (if fd = .opened k then s.close else s) := by
  have hcloser : (Mechanism.wake t fd m).2.1.closer = (m.closer.shutdown fd).2 :=
    WakeChannels.closer_wake m t fd
  rw [hcloser]
  exact h.shutdown fd

/-- What wakes of several guards on one descriptor do to a pair. -/
lemma holds_wakes {m : WakeChannels Sockets} (fd : Descriptor) (xs : List (GuardId × Entry))
    (h : m.closer.Holds k s) :
    (xs.foldl (fun m x => (Mechanism.wake x.2.thread fd m).2.1) m).closer.Holds k
      (if fd = .opened k ∧ 0 < xs.length then s.close else s) := by
  induction xs using List.reverseRecOn with
  | nil => simpa using h
  | append_singleton xs x ih =>
    rw [List.foldl_append, List.foldl_cons, List.foldl_nil]
    have hone := holds_wake ih x.2.thread fd
    -- the first shutdown counts, and later ones change nothing
    have hpair : (if fd = .opened k then
        (if fd = .opened k ∧ 0 < xs.length then s.close else s).close
          else if fd = .opened k ∧ 0 < xs.length then s.close else s) =
        if fd = .opened k ∧ 0 < (xs ++ [x]).length then s.close else s := by
      by_cases hfd : fd = .opened k
      · by_cases hxs : 0 < xs.length <;> simp [hfd, hxs, close]
      · simp [hfd]
    rwa [hpair] at hone

lemma holds_perform (hk : w.sockets.Holds k s) {c : Command}
    (hc : ∀ fd, c ≠ .wake fd) : (w.perform c).sockets.Holds k s := by
  have hsame : (w.perform c).sockets = w.sockets := by
    cases c with
    | acquire t fd canOpen =>
      exact WakeChannels.closer_enter (WakeChannels.called _ (.enter t canOpen))
    | release n =>
      rcases w.held_or_idle n with ⟨g, hn⟩ | ⟨hp, -, -⟩
      · rw [perform_release hn]
        exact WakeChannels.closer_leave (WakeChannels.called _ (.leave g.thread))
      · rw [hp]
    | forget n =>
      rcases w.held_or_idle n with ⟨g, hn⟩ | ⟨-, -, hp⟩
      · rw [perform_forget hn]; rfl
      · rw [hp]
    | wake fd => exact absurd rfl (hc fd)
  rw [hsame]
  exact hk

/-- One deal, seen from one pair. -/
lemma lives_deal (h : w.registry.slab.Tidy) (hk : w.sockets.Holds k s) (d : Deal) :
    ∃ s', Lives s (Deal.moment? k (d, (w.deal d).1)).toList s' ∧ (w.deal d).2.sockets.Holds k s' := by
  cases d with
  | command c =>
    by_cases hc : ∃ fd, c = .wake fd
    · obtain ⟨fd, rfl⟩ := hc
      have hn : (w.registry.wakeBlocked fd).1 = (w.registry.targets fd).length := by
        rw [Registry.wakeBlocked_eq fd _ h]
      have hm := Registry.mechanism_wakeBlocked fd w.registry h
      have hwakes := holds_wakes fd (w.registry.targets fd) hk
      refine ⟨_, ?_, show Sockets.Holds (w.registry.wakeBlocked fd).2.mechanism.closer k _ from
        hm ▸ hwakes⟩
      simp only [deal, Deal.moment?, hn]
      split
      · exact .closed (.nil _)
      · exact .nil _
    · have hc : ∀ fd, c ≠ .wake fd := fun fd heq => hc ⟨fd, heq⟩
      have hdeal : w.deal (.command c) = (.nothing, w.perform c) := by
        cases c with
        | wake fd => exact absurd rfl (hc fd)
        | _ => rfl
      rw [hdeal]
      refine ⟨s, ?_, holds_perform hk hc⟩
      cases c <;> exact .nil s
  | transfer fd x =>
    by_cases hfd : fd = .opened k
    · subst hfd
      obtain ⟨hone, htwo⟩ := hk.on_self (act_socket x s)
      refine ⟨(s.transfer x).2, ?_, htwo⟩
      have hdeal : (w.deal (.transfer (.opened k) x)).1 = .moved (s.transfer x).1 :=
        congrArg Reply.moved hone
      simp only [hdeal, Deal.moment?, if_true]
      exact .moved x (.nil _)
    · refine ⟨s, ?_, hk.on_ne hfd x.act⟩
      have hmoment : Deal.moment? k (.transfer fd x, (w.deal (.transfer fd x)).1) = none :=
        if_neg hfd
      rw [hmoment]
      exact .nil s

/-- A session, seen from one pair. -/
lemma lives_dealt (h : w.registry.slab.Tidy) (hk : w.sockets.Holds k s) (ds : List Deal) :
    ∃ s', Lives s (moments k (w.transcript ds)) s' ∧ (w.dealt ds).sockets.Holds k s' := by
  induction ds generalizing w s with
  | nil => exact ⟨s, .nil s, hk⟩
  | cons d ds ih =>
    obtain ⟨s', hone, hk'⟩ := lives_deal h hk d
    obtain ⟨s'', hrest, hk''⟩ := ih (tidy_deal h d) hk'
    refine ⟨s'', ?_, hk''⟩
    have hcons : moments k (w.transcript (d :: ds)) =
        (Deal.moment? k (d, (w.deal d).1)).toList ++ moments k ((w.deal d).2.transcript ds) := by
      simp only [moments, transcript, List.filterMap_cons]
      cases Deal.moment? k (d, (w.deal d).1) <;> rfl
    rw [hcons]
    exact hone.append hrest

lemma mem_of_mem_transcript {ds : List Deal} {d : Deal} {r : Reply}
    (h : (d, r) ∈ w.transcript ds) : d ∈ ds := by
  induction ds generalizing w with
  | nil => simp [transcript] at h
  | cons d' ds ih =>
    rcases List.mem_cons.mp h with heq | h
    · exact List.mem_cons.mpr (.inl (Prod.mk.inj heq).1)
    · exact List.mem_cons_of_mem d' (ih h)

/-- Which transfers there are over a pair does not depend on the answers. -/
lemma transfers_moments (w : Roster (WakeChannels Sockets)) (k : ℕ) (ds : List Deal) :
    (moments k (w.transcript ds)).filterMap Moment.transfer? =
      ds.filterMap (Deal.transferOn? k) := by
  rw [moments, List.filterMap_filterMap]
  induction ds generalizing w with
  | nil => rfl
  | cons d ds ih =>
    have hone : (Deal.moment? k (d, (w.deal d).1)).bind Moment.transfer? =
        Deal.transferOn? k d := by
      cases d with
      | command c =>
        cases c with
        | wake fd => simp only [deal, Deal.moment?, Deal.transferOn?]; split <;> rfl
        | _ => rfl
      | transfer fd x => simp only [deal, Deal.moment?, Deal.transferOn?]; split <;> rfl
    rw [transcript, List.filterMap_cons, List.filterMap_cons, ih, hone]

def unwoken (ds : List Deal) : List Deal := ds.filter fun d => !d.isWake

lemma transfers_unwoken (k : ℕ) (ds : List Deal) :
    (unwoken ds).filterMap (Deal.transferOn? k) = ds.filterMap (Deal.transferOn? k) := by
  rw [unwoken, List.filterMap_filter]
  refine List.filterMap_congr fun d _ => ?_
  rcases d with (_ | _ | _ | _) | _ <;> rfl

/-- No pair is closed in a session without closes. -/
lemma closed_not_mem_unwoken (w : Roster (WakeChannels Sockets)) (k : ℕ) (ds : List Deal) :
    .closed ∉ moments k (w.transcript (unwoken ds)) := by
  intro h
  obtain ⟨n, -, hmem⟩ := closed_mem_moments.mp h
  have hd := mem_of_mem_transcript hmem
  simp [unwoken, Deal.isWake] at hd

open Moment

/-- The pair behind descriptor `k` has ended with `s` left over, whatever is still to come. -/
structure Ended (w : Roster (WakeChannels Sockets)) (k : ℕ) (s : StreamPair) : Prop where
  /-- No more is read than was left. -/
  received_le : ∀ es side, totalReceived side (moments k (w.transcript es)) ≤ s.queued side
  /-- Reads get what was left and not read since, and then the end. Writes fail. -/
  answer : ∀ es x, ((w.dealt es).deal (.transfer (.opened k) x)).1 =
    .moved (x.afterEnd fun side =>
      s.queued side - totalReceived side (moments k (w.transcript es)))
  /-- Closing once more succeeds and changes nothing. -/
  close_again : ∀ es t, ForcedClose.close t (.opened k) (w.dealt es).sockets =
    (.ok (), (w.dealt es).sockets)

lemma ended_of_shut (h : w.registry.slab.Tidy) (hk : w.sockets.Holds k s) (hs : s.shut = true) :
    w.Ended k s := by
  refine ⟨fun es side => ?_, fun es x => ?_, fun es t => ?_⟩ <;>
    obtain ⟨s', hlives, hk'⟩ := lives_dealt h hk es
  · exact (hlives.queued_of_shut hs side).1
  · have hleft : s'.queued =
        fun side => s.queued side - totalReceived side (moments k (w.transcript es)) :=
      funext fun side => (hlives.queued_of_shut hs side).2
    rw [← hleft, ← transfer_of_shut (hlives.shut_iff.mpr (.inl hs))]
    exact congrArg Reply.moved (hk'.on_self (act_socket x s')).1
  · exact hk'.shutdown_again (hlives.shut_iff.mpr (.inl hs))

/-- **A forced close reaches the right streams and is final.** In every session of guards, closes,
reads and writes over open descriptors, in which only closes shut descriptors down: a connected pair
of streams is shut down if and only if some close of it has found a guard. What is queued at either
end is what was written for that end and not read there. Once the pair is shut down, reads at either
end get what was queued and nothing twice, and then the end of the stream, and never have to wait;
writes into either end fail, and further closes succeed and change nothing. A pair that was closed
only while no guard was on it has answered, and is left, as if there had been no closes at all. -/
theorem forced_close_final (capacity : ℕ) (kinds : List SocketKind) (ds : List Deal) (k : ℕ)
    (hk : kinds[k]? = some .stream) :
    ∃ s : StreamPair, ((connected capacity kinds).dealt ds).sockets.Holds k s ∧
      (s.shut = true ↔
        ∃ n, 0 < n ∧
          (.command (.wake (.opened k)), .woken n) ∈ (connected capacity kinds).transcript ds) ∧
      (∀ side, s.queued side +
          totalReceived side (moments k ((connected capacity kinds).transcript ds)) =
        totalSent side (moments k ((connected capacity kinds).transcript ds))) ∧
      (s.shut = true → ((connected capacity kinds).dealt ds).Ended k s) ∧
      ((∀ n, (.command (.wake (.opened k)), .woken n) ∈ (connected capacity kinds).transcript ds →
          n = 0) →
        moments k ((connected capacity kinds).transcript ds) =
            moments k ((connected capacity kinds).transcript (unwoken ds)) ∧
          ((connected capacity kinds).dealt (unwoken ds)).sockets.Holds k s) := by
  have htidy : (connected capacity kinds).registry.slab.Tidy := Slab.tidy_ofCapacity capacity
  have hfresh : (connected capacity kinds).sockets.Holds k .fresh := Sockets.holds_ofKinds hk
  obtain ⟨s, hlives, hs⟩ := lives_dealt htidy hfresh ds
  refine ⟨s, hs, ?_, fun side => ?_, ended_of_shut (tidy_dealt htidy ds) hs, fun hnone => ?_⟩
  · rw [hlives.shut_iff, closed_mem_moments]
    simp [fresh]
  · rw [hlives.balance side]
    simp [fresh]
  · have hopen : .closed ∉ moments k ((connected capacity kinds).transcript ds) := by
      intro hc
      obtain ⟨n, hn, hmem⟩ := closed_mem_moments.mp hc
      exact hn.ne' (hnone n hmem)
    obtain ⟨s', hlives', hs'⟩ := lives_dealt htidy hfresh (unwoken ds)
    obtain ⟨heq, rfl⟩ := hlives.unique hlives' hopen (closed_not_mem_unwoken _ k ds)
      (by rw [transfers_moments, transfers_moments, transfers_unwoken])
    exact ⟨heq, hs'⟩

/-- Two pairs with bytes under way, one of them closed under a guard and one closed without. -/
def closings : List Deal :=
  [.transfer (.opened 0) (.write .far 5), .transfer (.opened 1) (.write .near 7),
    .command (.acquire ⟨0⟩ (.opened 0) true), .command (.wake (.opened 1)),
    .transfer (.opened 0) (.read .near 2), .command (.wake (.opened 0))]

/-- The first has ended with three bytes left, the second goes on as if it had not been closed. -/
theorem forced_close_final_closings :
    ((connected 1 [.stream, .stream]).dealt closings).sockets.list =
        [⟨.stream, .bytes 3, .bytes 0, true⟩, ⟨.stream, .bytes 0, .bytes 7, false⟩] ∧
      (∃ s, ((connected 1 [.stream, .stream]).dealt closings).sockets.Holds 0 s ∧
        s.shut = true ∧ ((connected 1 [.stream, .stream]).dealt closings).Ended 0 s) ∧
      ∃ s, ((connected 1 [.stream, .stream]).dealt closings).sockets.Holds 1 s ∧ s.shut = false := by
  have hlist : ((connected 1 [.stream, .stream]).dealt closings).sockets.list =
      [⟨.stream, .bytes 3, .bytes 0, true⟩, ⟨.stream, .bytes 0, .bytes 7, false⟩] := by
    decide +kernel
  obtain ⟨s, hs, -, -, hended, -⟩ :=
    forced_close_final 1 [.stream, .stream] closings 0 rfl
  obtain ⟨s', hs', -⟩ := forced_close_final 1 [.stream, .stream] closings 1 rfl
  have hshut : s.shut = true := by
    rw [Sockets.Holds, hlist] at hs
    exact (congrArg Socket.shut (Option.some.inj hs)).symm
  have hopen : s'.shut = false := by
    rw [Sockets.Holds, hlist] at hs'
    exact (congrArg Socket.shut (Option.some.inj hs')).symm
  exact ⟨hlist, ⟨s, hs, hshut, hended hshut⟩, s', hs', hopen⟩

end Roster

end AsyncClose
