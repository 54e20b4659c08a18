import AsyncClose.Proofs.Mechanism.Channels

/-!
The channel of one thread.

It is changed by the enters and leaves of that thread and by nothing else: wakes only look it up,
and every other thread has a channel of its own. So whether a thread has a channel, which pair it
has and how many episodes it counts can be followed call by call, without the other threads.
-/

namespace AsyncClose

/-! ### Every thread is listed once -/

namespace ThreadMap

variable {α : Type}

def threads (m : ThreadMap α) : List Thread := m.list.map (·.1)

lemma size_eq (m : ThreadMap α) : m.size = m.threads.length := by
  rw [size, threads, List.length_map]

lemma mem_threads {m : ThreadMap α} {t : Thread} : t ∈ m.threads ↔ ∃ x, m.get? t = some x := by
  simp only [threads, get?, List.mem_map, Option.map_eq_some_iff]
  constructor
  · rintro ⟨p, hp, rfl⟩
    have hsome : (m.list.find? (·.1 = p.1)).isSome = true := by
      rw [List.find?_isSome]
      exact ⟨p, hp, by simp⟩
    obtain ⟨q, hq⟩ := Option.isSome_iff_exists.mp hsome
    exact ⟨q.2, q, hq, rfl⟩
  · rintro ⟨x, q, hq, -⟩
    exact ⟨q, List.mem_of_find?_eq_some hq, by simpa using List.find?_some hq⟩

lemma nodup_erase {m : ThreadMap α} (h : m.threads.Nodup) (t : Thread) :
    (m.erase t).threads.Nodup := (List.filter_sublist.map _).nodup h

lemma nodup_set {m : ThreadMap α} (h : m.threads.Nodup) (t : Thread) (x : α) :
    (m.set t x).threads.Nodup := by
  refine List.nodup_cons.mpr ⟨fun hc => ?_, nodup_erase h t⟩
  obtain ⟨y, hy⟩ := mem_threads.mp hc
  rw [get?_erase, if_pos rfl] at hy
  simp at hy

end ThreadMap

namespace WakeChannels

variable {κ : Type} {s s' : WakeChannels κ}

lemma nodup_threads_called {c : Contact} (h : s.channels.threads.Nodup) (hs : Called s c s') :
    s'.channels.threads.Nodup := by
  cases hs with
  | again t canOpen c hc => exact ThreadMap.nodup_set h t _
  | created t hc => exact ThreadMap.nodup_set h t _
  | refused t hc => exact h
  | rung t fd c closer hc => exact h
  | missed t fd closer hc => exact h
  | left t c hc hd => exact ThreadMap.nodup_set h t _
  | destroyed t c hc hd => exact ThreadMap.nodup_erase h t
  | strayed t hc => exact h

/-! ### What a call does to the channel of a thread -/

def Concerns (t : Thread) (c : Contact) : Prop := (∃ canOpen, c = .enter t canOpen) ∨ c = .leave t

/-- What a call makes of the channel of thread `t`, if `n` pairs were made before it. -/
inductive Shifted (t : Thread) (n : ℕ) : Contact → Option Channel → Option Channel → Prop
  | aside (c : Contact) (x : Option Channel) (hc : ¬Concerns t c) : Shifted t n c x x
  | again (canOpen : Bool) (x : Channel) :
    Shifted t n (.enter t canOpen) (some x) (some { x with depth := x.depth + 1 })
  | created : Shifted t n (.enter t true) none (some ⟨⟨n⟩, 1⟩)
  | refused : Shifted t n (.enter t false) none none
  | left (x : Channel) (hd : x.depth - 1 ≠ 0) :
    Shifted t n (.leave t) (some x) (some { x with depth := x.depth - 1 })
  | destroyed (x : Channel) (hd : x.depth - 1 = 0) : Shifted t n (.leave t) (some x) none
  | strayed : Shifted t n (.leave t) none none

lemma Shifted.eq_of_aside {t : Thread} {n : ℕ} {c : Contact} {x y : Option Channel}
    (h : Shifted t n c x y) (hc : ¬Concerns t c) : y = x := by
  cases h with
  | aside => rfl
  | again canOpen x => exact absurd (.inl ⟨canOpen, rfl⟩) hc
  | created => exact absurd (.inl ⟨true, rfl⟩) hc
  | refused => rfl
  | left x hd => exact absurd (.inr rfl) hc
  | destroyed x hd => exact absurd (.inr rfl) hc
  | strayed => rfl

lemma not_concerns_enter {t u : Thread} (h : t ≠ u) (canOpen : Bool) :
    ¬Concerns t (.enter u canOpen) := by
  simp [Concerns, Ne.symm h]

lemma not_concerns_wake {t u : Thread} {fd : Descriptor} : ¬Concerns t (.wake u fd) := by
  simp [Concerns]

lemma not_concerns_leave {t u : Thread} (h : t ≠ u) : ¬Concerns t (.leave u) := by
  simp [Concerns, Ne.symm h]

lemma count_of_not_concerns {t : Thread} {c : Contact} (h : ¬Concerns t c) :
    Contact.entered t [c] = 0 ∧ Contact.left t [c] = 0 := by
  cases c with
  | enter u canOpen =>
    have hu : u ≠ t := fun hc => h (.inl ⟨canOpen, by rw [hc]⟩)
    simp [hu]
  | wake u fd => simp
  | leave u =>
    have hu : u ≠ t := fun hc => h (.inr (by rw [hc]))
    simp [hu]

lemma shifted_called {c : Contact} (hs : Called s c s') (t : Thread) :
    Shifted t s.pairs.length c (s.channels.get? t) (s'.channels.get? t) := by
  cases hs with
  | again u canOpen x hx =>
    rw [ThreadMap.get?_set]
    split
    · next htu => rw [htu, hx]; exact .again canOpen x
    · next htu => exact .aside _ _ (not_concerns_enter htu canOpen)
  | created u hx =>
    rw [ThreadMap.get?_set]
    split
    · next htu => rw [htu, hx]; exact .created
    · next htu => exact .aside _ _ (not_concerns_enter htu true)
  | refused u hx =>
    by_cases htu : t = u
    · rw [htu, hx]; exact .refused
    · exact .aside _ _ (not_concerns_enter htu false)
  | rung u fd x closer hx => exact .aside _ _ not_concerns_wake
  | missed u fd closer hx => exact .aside _ _ not_concerns_wake
  | left u x hx hd =>
    rw [ThreadMap.get?_set]
    split
    · next htu => rw [htu, hx]; exact .left x hd
    · next htu => exact .aside _ _ (not_concerns_leave htu)
  | destroyed u x hx hd =>
    rw [ThreadMap.get?_erase]
    split
    · next htu => rw [htu, hx]; exact .destroyed x hd
    · next htu => exact .aside _ _ (not_concerns_leave htu)
  | strayed u hx =>
    by_cases htu : t = u
    · rw [htu, hx]; exact .strayed
    · exact .aside _ _ (not_concerns_leave htu)

/-! ### Since the pair was last cleared -/

section

variable [ForcedClose κ] {closer : κ} {t : Thread} {cs : List Contact}

lemma owns_iff : Owns closer t cs ↔ ∃ x, (after closer cs).channels.get? t = some x := by
  rw [Owns]
  cases hx : (after closer cs).channels.get? t with
  | none => simp [pairOf?_of_none hx]
  | some x =>
    obtain ⟨p, hp, -⟩ := (inOrder_after closer cs).exists_pair hx
    simp [pairOf?_of_some hx, hp]

variable (closer t) in
/-- After the calls `pre` the call makes a pair for the thread, or takes the byte of its pair back. -/
def Clears (pre : List Contact) (c : Contact) : Prop :=
  (c = .enter t true ∧ ¬Owns closer t pre) ∨ (c = .leave t ∧ Owns closer t pre)

/-- A thread gets its channel, or loses it, only by a call that clears its pair. -/
lemma owns_snoc {c : Contact} (h : ¬Clears closer t cs c) :
    Owns closer t (cs ++ [c]) ↔ Owns closer t cs := by
  have hs := shifted_called (after_snoc closer cs c) t
  rw [Clears, owns_iff] at h
  rw [owns_iff, owns_iff]
  generalize (after closer cs).channels.get? t = x at *
  generalize (after closer (cs ++ [c])).channels.get? t = y at *
  cases hs with
  | aside => exact Iff.rfl
  | again canOpen x => simp
  | created => simp at h
  | refused => exact Iff.rfl
  | left x hd => simp at h
  | destroyed x hd => simp at h
  | strayed => exact Iff.rfl

/-- The pair of a thread that has one was cleared, and there is a last time. -/
lemma exists_clears (h : Owns closer t cs) :
    ∃ pre c post, cs = pre ++ c :: post ∧ Clears closer t pre c ∧
      ∀ a d b, post = a ++ d :: b → ¬Clears closer t (pre ++ c :: a) d := by
  induction cs using List.reverseRecOn with
  | nil =>
    obtain ⟨x, hx⟩ := owns_iff.mp h
    have hnone : none = some x := hx
    simp at hnone
  | append_singleton cs c ih =>
    by_cases hc : Clears closer t cs c
    · exact ⟨cs, c, [], rfl, hc, by simp⟩
    · obtain ⟨pre, c', post, rfl, hclears, hlast⟩ := ih ((owns_snoc hc).mp h)
      refine ⟨pre, c', post ++ [c], by simp, hclears, fun a d b heq => ?_⟩
      rcases List.eq_nil_or_concat b with rfl | ⟨b, e, rfl⟩
      · obtain ⟨rfl, rfl⟩ := List.append_singleton_inj.mp heq
        exact hc
      · refine hlast a d b ?_
        rw [List.concat_eq_append, ← List.cons_append, ← List.append_assoc] at heq
        exact (List.append_singleton_inj.mp heq).1

/-- Of the wakes of a thread those count that came after its pair was last cleared. -/
lemma unanswered_iff_mem {pre post : List Contact} {c : Contact} (hc : Clears closer t pre c)
    (hlast : ∀ a d b, post = a ++ d :: b → ¬Clears closer t (pre ++ c :: a) d)
    (h : Owns closer t (pre ++ c :: post)) :
    Contact.Unanswered (Owns closer t) t (pre ++ c :: post) ↔
      ∃ fd, Contact.wake t fd ∈ post := by
  induction post using List.reverseRecOn with
  | nil =>
    have hnot : ¬Contact.Unanswered (Owns closer t) t (pre ++ [c]) := by
      rcases hc with ⟨rfl, hno⟩ | ⟨rfl, -⟩
      · -- without a channel the thread had not been told anything
        rw [Contact.unanswered_enter]
        rcases told_after closer pre t with ⟨hp, -⟩ | ⟨hp, -⟩ | ⟨-, hu⟩
        · exact absurd (by rw [Owns, hp]; rfl) hno
        · exact absurd (by rw [Owns, hp]; rfl) hno
        · exact hu
      · simp [Contact.unanswered_leave]
    simp [hnot]
  | append_singleton post d ih =>
    have hd : ¬Clears closer t (pre ++ c :: post) d := hlast post d [] rfl
    rw [← List.cons_append, ← List.append_assoc] at h ⊢
    have howns := (owns_snoc hd).mp h
    have hleave : d ≠ .leave t := fun hl => hd (.inr ⟨hl, howns⟩)
    have hbefore := ih (fun a e b heq => hlast a e (b ++ [d]) (by simp [heq])) howns
    rw [Contact.unanswered_snoc, hbefore]
    constructor
    · rintro (⟨fd, rfl, -⟩ | ⟨-, fd, hfd⟩)
      · exact ⟨fd, by simp⟩
      · exact ⟨fd, by simp [hfd]⟩
    · rintro ⟨fd, hfd⟩
      rcases List.mem_append.mp hfd with hfd | hfd
      · exact .inr ⟨hleave, fd, hfd⟩
      · exact .inl ⟨fd, (List.mem_singleton.mp hfd).symm, howns⟩

end

end WakeChannels

end AsyncClose
