import Mathlib.Algebra.Order.Group.Defs
import Mathlib.Algebra.Order.Sub.Defs
import Mathlib.Algebra.Order.Field.Basic
import Mathlib.Tactic.Linarith

/-! A log of admitted times, and a limiter that counts those of the last stretch before it admits another. -/

namespace SlidingWindows

section Times

variable {K : Type*} [LinearOrder K]

def after (bound : K) (times : List K) : Nat := times.countP (bound < ·)

def Keeps (times log : List K) (bound : K) : Prop := ∀ later, bound ≤ later → after later times = after later log

variable {bound time : K} {times log : List K}

theorem after_past (past : ∀ time ∈ log, time ≤ bound) : after bound log = 0 :=
  List.countP_eq_zero.mpr fun time member => by simpa using past time member

theorem after_cons : after bound (time :: times) = after bound times + if bound < time then 1 else 0 := by
  simp [after, List.countP_cons]

theorem after_append_singleton :
    after bound (times ++ [time]) = after bound times + if bound < time then 1 else 0 := by
  simp [after, List.countP_append, List.countP_cons]

theorem Keeps.later {soon : K} (keeps : Keeps times log bound) (ahead : bound ≤ soon) : Keeps times log soon :=
  fun later reached => keeps later (ahead.trans reached)

theorem keeps_nil (past : ∀ time ∈ log, time ≤ bound) : Keeps [] log bound :=
  fun _ reached => (after_past fun time member => (past time member).trans reached).symm

theorem Keeps.append_singleton (keeps : Keeps times log bound) (time : K) :
    Keeps (times ++ [time]) (time :: log) bound := by
  intro later reached
  rw [after_append_singleton, after_cons, keeps later reached]

theorem Keeps.filter (keeps : Keeps times log bound) : Keeps (times.filter (bound < ·)) log bound := by
  intro later reached
  rw [← keeps later reached, after, List.countP_filter]
  refine List.countP_congr fun time _ => ?_
  simp only [decide_eq_true_eq, Bool.and_eq_true, and_iff_left_iff_imp]
  exact reached.trans_lt

end Times

variable {K : Type*} [Field K] [LinearOrder K]

def admits (limit : Nat) (width : K) (log : List K) (now : K) : Bool := after (now - width) log < limit

def record (limit : Nat) (width : K) (log : List K) (now : K) : List K :=
  if admits limit width log now then now :: log else log

def within (width : K) (log : List K) (last : K) : Nat := log.countP fun time => last - width < time ∧ time ≤ last

structure Bounded (limit : Nat) (width : K) (log : List K) (now : K) : Prop where
  past : ∀ time ∈ log, time ≤ now
  window : ∀ last, within width log last ≤ limit

variable {limit : Nat} {width now soon : K} {log times : List K}

theorem bounded_nil : Bounded limit width [] now :=
  ⟨fun _ member => by simp at member, fun _ => Nat.zero_le limit⟩

theorem Bounded.later (bounded : Bounded limit width log now) (ahead : now ≤ soon) : Bounded limit width log soon :=
  ⟨fun time member => (bounded.past time member).trans ahead, bounded.window⟩

theorem Keeps.admits (keeps : Keeps times log (now - width)) :
    admits limit width log now = decide ((times.filter (now - width < ·)).length < limit) := by
  rw [SlidingWindows.admits, ← keeps _ (le_refl _), after, List.countP_eq_length_filter]

variable [IsStrictOrderedRing K]

theorem Bounded.record (bounded : Bounded limit width log now) :
    Bounded limit width (record limit width log now) now := by
  unfold SlidingWindows.record
  split
  · rename_i admitted
    have few : after (now - width) log < limit := by simpa [SlidingWindows.admits] using admitted
    refine ⟨List.forall_mem_cons.mpr ⟨le_refl now, bounded.past⟩, fun last => ?_⟩
    have rest := bounded.window last
    unfold within at rest ⊢
    rw [List.countP_cons]
    split
    · -- The window reaches past the new time, so what it counts of the log is recent.
      rename_i reaches
      have inside : last - width < now ∧ now ≤ last := by simpa using reaches
      have recent : (log.countP fun time => last - width < time ∧ time ≤ last) ≤ after (now - width) log := by
        refine List.countP_mono_left fun time _ counted => ?_
        have counted : last - width < time ∧ time ≤ last := by simpa using counted
        simp only [decide_eq_true_eq]
        linarith [inside.2, counted.1]
      omega
    · exact rest
  · exact bounded

end SlidingWindows
