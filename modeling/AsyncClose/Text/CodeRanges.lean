/-!
Sets of characters given by ranges of code points, in the ascending order in which a standard
lists them. The order lets a search stop early; `contains_iff` says that it misses nothing.
-/

namespace AsyncClose.Text

/-- Every range has a member, and lies at or above `least` and above the range before it. -/
def ascendingFrom (least : Nat) : List (Nat × Nat) → Bool
  | [] => true
  | (first, last) :: rest => least ≤ first && first ≤ last && ascendingFrom (last + 1) rest

structure CodeRanges where
  list : List (Nat × Nat)
  ascending : ascendingFrom 0 list = true

/-- Whether a code point is in one of the ranges. The search ends at the first range above it. -/
def inSome (n : Nat) : List (Nat × Nat) → Bool
  | [] => false
  | (first, last) :: rest => first ≤ n && (n ≤ last || inSome n rest)

theorem le_of_ascendingFrom {least : Nat} {ranges : List (Nat × Nat)}
    (h : ascendingFrom least ranges = true) : ∀ r ∈ ranges, least ≤ r.1 := by
  induction ranges generalizing least with
  | nil => simp
  | cons r rest ih =>
    obtain ⟨first, last⟩ := r
    simp only [ascendingFrom, Bool.and_eq_true, decide_eq_true_eq] at h
    intro x hx
    rcases List.mem_cons.1 hx with rfl | hx
    · exact h.1.1
    · have := ih h.2 x hx
      omega

theorem inSome_iff {n least : Nat} {ranges : List (Nat × Nat)}
    (h : ascendingFrom least ranges = true) :
    inSome n ranges = true ↔ ∃ r ∈ ranges, r.1 ≤ n ∧ n ≤ r.2 := by
  induction ranges generalizing least with
  | nil => simp [inSome]
  | cons r rest ih =>
    obtain ⟨first, last⟩ := r
    simp only [ascendingFrom, Bool.and_eq_true, decide_eq_true_eq] at h
    simp only [inSome, Bool.and_eq_true, Bool.or_eq_true, decide_eq_true_eq, ih h.2,
      List.mem_cons, or_and_right, exists_or, exists_eq_left]
    constructor
    · rintro ⟨hf, hl | hr⟩
      · exact .inl ⟨hf, hl⟩
      · exact .inr hr
    · rintro (⟨hf, hl⟩ | ⟨r, hr, hn⟩)
      · exact ⟨hf, .inl hl⟩
      · have := le_of_ascendingFrom h.2 r hr
        exact ⟨by omega, .inr ⟨r, hr, hn⟩⟩

namespace CodeRanges

def contains (s : CodeRanges) (c : Char) : Bool := inSome c.toNat s.list

/-- A character is in the set exactly if one of the ranges holds its code point. -/
theorem contains_iff {s : CodeRanges} {c : Char} :
    s.contains c = true ↔ ∃ r ∈ s.list, r.1 ≤ c.toNat ∧ c.toNat ≤ r.2 :=
  inSome_iff s.ascending

end CodeRanges

end AsyncClose.Text
