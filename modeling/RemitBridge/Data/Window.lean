import Mathlib.Algebra.Order.Group.Defs
import Mathlib.Data.List.Basic

/-!
# Sliding windows

Times that are noted in their order, and those among them that lie in a window of length `w`.
Nothing is lost when times are dropped that are too old already, since they only get older
(`recent_recent`); and if a time is only noted while fewer than `n` are in the window, no window
ever holds more than `n` (`length_within_concat_le`).
-/

namespace RemitBridge

namespace Window

variable {T : Type*} [AddCommGroup T] [LinearOrder T] [IsOrderedAddMonoid T]

/-- The times after `now - w`. -/
def recent (w now : T) (times : List T) : List T := times.filter fun time => decide (now - w < time)

/-- The times in `(t - w, t]`. -/
def within (w t : T) (times : List T) : List T :=
  times.filter fun time => decide (t - w < time ∧ time ≤ t)

/-- No difference is to be seen from `now` on. -/
def Alike (w now : T) (times times' : List T) : Prop :=
  ∀ t, now ≤ t → recent w t times = recent w t times'

variable {w now now' t : T} {times times' times'' : List T} {n : ℕ}

omit [IsOrderedAddMonoid T] in
theorem recent_append :
    recent w now (times ++ times') = recent w now times ++ recent w now times' :=
  List.filter_append ..

omit [IsOrderedAddMonoid T] in
theorem recent_sublist : (recent w now times).Sublist times := List.filter_sublist

/-- What is not recent any more will not be recent later. -/
theorem recent_recent (h : now ≤ now') :
    recent w now' (recent w now times) = recent w now' times := by
  rw [recent, recent, recent, List.filter_filter]
  refine List.filter_congr fun time _ => ?_
  rw [← Bool.decide_and, decide_eq_decide]
  constructor
  · exact fun hboth => hboth.1
  · intro hrecent
    exact ⟨hrecent, (sub_le_sub_right h w).trans_lt hrecent⟩

namespace Alike

omit [IsOrderedAddMonoid T]

theorem refl : Alike w now times times := fun _ _ => rfl

theorem trans (h : Alike w now times times') (h' : Alike w now times' times'') :
    Alike w now times times'' :=
  fun t ht => (h t ht).trans (h' t ht)

theorem mono (h : Alike w now times times') (hnow : now ≤ now') : Alike w now' times times' :=
  fun t ht => h t (hnow.trans ht)

theorem append (h : Alike w now times times') :
    Alike w now (times ++ times'') (times' ++ times'') := by
  intro t ht
  rw [recent_append, recent_append, h t ht]

end Alike

theorem alike_recent : Alike w now (recent w now times) times := fun _ ht => recent_recent ht

theorem length_recent_le (h : now ≤ now') :
    (recent w now' times).length ≤ (recent w now times).length := by
  rw [← recent_recent h]
  exact recent_sublist.length_le

omit [IsOrderedAddMonoid T] in
theorem within_eq_recent (h : ∀ time ∈ times, time ≤ t) : within w t times = recent w t times := by
  refine List.filter_congr fun time htime => ?_
  simp [h time htime]

omit [IsOrderedAddMonoid T] in
theorem length_within_le_of_sublist (h : times.Sublist times') :
    (within w t times).length ≤ (within w t times').length :=
  (h.filter _).length_le

/-- Noting a time while fewer than `n` are in the window. -/
theorem length_within_concat_le (hle : ∀ t, (within w t times).length ≤ n)
    (hfew : (recent w now times).length < n) :
    (within w t (times ++ [now])).length ≤ n := by
  rw [within, List.filter_append, List.length_append]
  by_cases hnow : t - w < now ∧ now ≤ t
  · -- The window ends after `now`, so what it held before is recent at `now`.
    have hsub : (within w t times).Sublist (recent w now times) := by
      refine List.monotone_filter_right times fun time htime => ?_
      rw [decide_eq_true_eq] at htime ⊢
      exact (sub_le_sub_right hnow.2 w).trans_lt htime.1
    have hlength := hsub.length_le
    rw [within] at hlength
    simp only [List.filter_cons, hnow, and_self, decide_true, if_true, List.filter_nil,
      List.length_singleton]
    omega
  · have hlength := hle t
    rw [within] at hlength
    simpa [List.filter_cons, hnow] using hlength

/-- When the first of the recent times has become too old, there are fewer. -/
theorem length_recent_lt {oldest : T} {rest : List T} (h : recent w now times = oldest :: rest)
    (hle : now ≤ now') (hold : oldest ≤ now' - w) :
    (recent w now' times).length < (recent w now times).length := by
  rw [← recent_recent hle, h, recent, List.filter_cons_of_neg (by simpa using hold)]
  exact Nat.lt_succ_of_le List.filter_sublist.length_le

end Window

end RemitBridge
