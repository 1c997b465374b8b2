import Mathlib

/-!
# Sliding windows

A queue of times from which the times that have left a window are dropped at the front.
-/

namespace SlidingWindow

set_option linter.unusedSectionVars false

universe u
variable {Time : Type u} [AddCommGroup Time] [LinearOrder Time] [IsOrderedAddMonoid Time]

def Recent (window now time : Time) : Prop := now - time ≤ window

instance (window now time : Time) : Decidable (Recent window now time) :=
  inferInstanceAs (Decidable (_ ≤ _))

def prune (window now : Time) (times : List Time) : List Time :=
  times.dropWhile fun time => ¬ Recent window now time

variable {window now moment time : Time} {times : List Time}

theorem Recent.mono (recent : Recent window now time) (after : time ≤ moment) :
    Recent window now moment :=
  le_trans (sub_le_sub_left after now) recent

theorem Recent.earlier (recent : Recent window moment time) (after : now ≤ moment) :
    Recent window now time :=
  le_trans (sub_le_sub_right after time) recent

theorem prune_eq_filter (ordered : times.Pairwise (· ≤ ·)) :
    prune window now times = times.filter fun time => Recent window now time := by
  induction times with
  | nil => rfl
  | cons first rest ih =>
    rw [List.pairwise_cons] at ordered
    unfold prune at ih ⊢
    by_cases recent : Recent window now first
    · rw [List.dropWhile_cons_of_neg (by simpa using recent)]
      refine (List.filter_eq_self.mpr ?_).symm
      intro time member
      rcases List.mem_cons.mp member with rfl | after
      · simpa using recent
      · simpa using recent.mono (ordered.1 time after)
    · rw [List.dropWhile_cons_of_pos (by simpa using recent),
        List.filter_cons_of_neg (by simpa using recent), ih ordered.2]

/-- The queue counts, for every moment from the clock on, what is to be counted in the window
that ends there. -/
structure Tracks (window : Time) (times : List Time) (clock : Option Time) (count : Time → Nat) :
    Prop where
  ordered : times.Pairwise (· ≤ ·)
  past : ∀ time ∈ times, ∃ last ∈ clock, time ≤ last
  counted : ∀ now, (∀ last ∈ clock, last ≤ now) →
    times.countP (fun time => Recent window now time) = count now

variable {clock : Option Time} {count count' : Time → Nat}

theorem tracks_nil : Tracks window [] clock fun _ => 0 :=
  ⟨List.Pairwise.nil, nofun, fun _ _ => rfl⟩

theorem Tracks.congr (tracks : Tracks window times clock count)
    (same : ∀ now, (∀ last ∈ clock, last ≤ now) → count' now = count now) :
    Tracks window times clock count' :=
  ⟨tracks.ordered, tracks.past, fun now after => (tracks.counted now after).trans (same now after).symm⟩

section

variable (tracks : Tracks window times clock count) (after : ∀ last ∈ clock, last ≤ now)
include tracks after

theorem Tracks.length_prune : (prune window now times).length = count now := by
  rw [prune_eq_filter tracks.ordered, ← List.countP_eq_length_filter, tracks.counted now after]

theorem Tracks.advance : Tracks window times (some now) count where
  ordered := tracks.ordered
  past time member := by
    obtain ⟨last, known, past⟩ := tracks.past time member
    exact ⟨now, rfl, le_trans past (after last known)⟩
  counted := by
    intro moment afterNow
    refine tracks.counted moment fun last known => ?_
    exact le_trans (after last known) (afterNow now rfl)

theorem Tracks.prune : Tracks window (SlidingWindow.prune window now times) (some now) count where
  ordered := by
    rw [prune_eq_filter tracks.ordered]
    exact tracks.ordered.filter _
  past time member := by
    rw [prune_eq_filter tracks.ordered] at member
    exact (tracks.advance after).past time (List.mem_filter.mp member).1
  counted := by
    intro moment afterNow
    rw [← (tracks.advance after).counted moment afterNow, prune_eq_filter tracks.ordered,
      List.countP_filter]
    refine List.countP_congr fun time _ => ?_
    rw [Bool.and_eq_true_iff, decide_eq_true_iff, decide_eq_true_iff]
    exact ⟨fun both => both.1, fun recent => ⟨recent, recent.earlier (afterNow now rfl)⟩⟩

end

theorem Tracks.push (tracks : Tracks window times (some now) count) :
    Tracks window (times ++ [now]) (some now)
      fun moment => count moment + if Recent window moment now then 1 else 0 where
  ordered := by
    refine List.pairwise_append.mpr ⟨tracks.ordered, List.pairwise_singleton _ _, ?_⟩
    intro time member last single
    obtain ⟨clock, known, past⟩ := tracks.past time member
    rw [Option.mem_some_iff] at known
    rw [List.mem_singleton] at single
    exact single ▸ known ▸ past
  past := by
    intro time member
    rcases List.mem_append.mp member with before | single
    · exact tracks.past time before
    · exact ⟨now, rfl, le_of_eq (List.mem_singleton.mp single)⟩
  counted := by
    intro moment after
    rw [List.countP_append, tracks.counted moment after, List.countP_singleton]
    simp

end SlidingWindow
