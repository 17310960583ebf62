import AjoCloud.Lib.Threads
import Mathlib.Data.List.Nodup
import Mathlib.Data.List.Perm.Basic

/-!
# Tickets

Some steps of the threads of a pool may be taken only with a ticket: the ticket is drawn once, from a stock
in which no two are alike, stays with the thread that drew it, and is gone when it is used.  So no ticket is
ever used twice, whatever the order of the steps, and also when threads are lost on the way.
-/

universe u v w x

namespace AjoCloud.Lib

variable {σ : Type u} {τ : Type v} {ω : Type w} {κ : Type x}

/-- How tickets are handled: which one a thread holds, which ones are out of the stock, and which ones were
used so far. -/
structure Tickets (σ : Type u) (τ : Type v) (κ : Type x) where
  held : τ → Option κ
  drawn : σ → κ → Prop
  used : σ → List κ

namespace Tickets

variable {T : Tickets σ τ κ} {exec : ω → σ → τ → σ × Option τ}

/-- What one step of a thread does with its ticket. -/
inductive Turn (T : Tickets σ τ κ) (s : σ) (t : τ) (s' : σ) (t' : Option τ) : Prop
  /-- It goes on with the ticket, or without it. -/
  | keeps (hused : T.used s' = T.used s) (hheld : ∀ k, t'.bind T.held = some k → T.held t = some k)
  /-- It draws one. -/
  | draws (k : κ) (hused : T.used s' = T.used s) (hheld : t'.bind T.held = some k)
      (hnew : ¬ T.drawn s k) (hdrawn : T.drawn s' k)
  /-- It uses the one that it has. -/
  | spends (k : κ) (hhad : T.held t = some k) (hused : T.used s' = T.used s ++ [k])
      (hheld : t'.bind T.held = none)

/-- The tickets of the threads, and those that were used. -/
def all (T : Tickets σ τ κ) (p : Pool σ τ) : List κ := p.threads.filterMap T.held ++ T.used p.shared

/-- No ticket is there twice, and all of them are out of the stock. -/
structure Sound (T : Tickets σ τ κ) (p : Pool σ τ) : Prop where
  nodup : (T.all p).Nodup
  drawn : ∀ k ∈ T.all p, T.drawn p.shared k

/-- What a thread leaves of its ticket comes after the tickets of the others. -/
theorem filterMap_append_toList (threads : List τ) (t' : Option τ) :
    (threads ++ t'.toList).filterMap T.held = threads.filterMap T.held ++ (t'.bind T.held).toList := by
  cases t' with
  | none => simp
  | some t' =>
      rw [List.filterMap_append]
      cases h : T.held t' with
      | none => simp [h]
      | some k => simp [h]

/-- The tickets of all threads are that of one of them and those of the others. -/
theorem perm_filterMap {threads : List τ} {i : Nat} {t : τ} (hi : threads[i]? = some t) :
    (threads.filterMap T.held).Perm ((threads.eraseIdx i).filterMap T.held ++ (T.held t).toList) := by
  obtain ⟨hlt, rfl⟩ := List.getElem?_eq_some_iff.mp hi
  have hperm : threads.Perm (threads.eraseIdx i ++ [threads[i]]) :=
    ((List.getElem_cons_eraseIdx_perm hlt).symm).trans (List.perm_append_singleton _ _).symm
  refine (hperm.filterMap T.held).trans ?_
  rw [show [threads[i]] = (some threads[i]).toList from rfl, filterMap_append_toList]
  exact .refl _

/-- One move keeps the tickets apart. -/
theorem Sound.advance {p : Pool σ τ} (h : T.Sound p) (m : Move τ ω)
    (hspawn : ∀ t, m = .spawn t → T.held t = none)
    (hturn : ∀ i o t, m = .run i o → p.threads[i]? = some t →
      T.Turn p.shared t (exec o p.shared t).1 (exec o p.shared t).2)
    (hmono : ∀ i o t, m = .run i o → p.threads[i]? = some t → ∀ k, T.drawn p.shared k →
      T.drawn (exec o p.shared t).1 k) : T.Sound (p.advance exec m) := by
  rcases m with t | ⟨i, o⟩ | i
  · have hall : T.all (p.advance exec (.spawn t)) = T.all p := by
      simp [all, Pool.advance, hspawn t rfl]
    exact ⟨hall ▸ h.nodup, hall ▸ h.drawn⟩
  · cases hi : p.threads[i]? with
    | none =>
        rw [Pool.advance, hi]
        exact h
    | some t =>
        have hmono := hmono i o t rfl hi
        have hturn := hturn i o t rfl hi
        have hperm := perm_filterMap (T := T) hi
        generalize hothers : (p.threads.eraseIdx i).filterMap T.held = others at hperm
        have hall : T.all (p.advance exec (.run i o)) =
            others ++ ((exec o p.shared t).2.bind T.held).toList ++ T.used (exec o p.shared t).1 := by
          rw [all, Pool.advance, hi, filterMap_append_toList, hothers]
        have hbefore : (T.all p).Perm (others ++ (T.held t).toList ++ T.used p.shared) :=
          hperm.append_right _
        have hstate : (p.advance exec (.run i o)).shared = (exec o p.shared t).1 := by
          rw [Pool.advance, hi]
        have hnodup := hbefore.nodup_iff.mp h.nodup
        have hold : ∀ k ∈ others ++ (T.held t).toList ++ T.used p.shared,
            T.drawn (exec o p.shared t).1 k := fun k hk ↦ hmono k (h.drawn k (hbefore.mem_iff.mpr hk))
        -- It is enough that what is there afterwards was there before, or is a new one.
        suffices hafter : (others ++ ((exec o p.shared t).2.bind T.held).toList ++
            T.used (exec o p.shared t).1).Nodup ∧
            ∀ k ∈ others ++ ((exec o p.shared t).2.bind T.held).toList ++ T.used (exec o p.shared t).1,
              T.drawn (exec o p.shared t).1 k by
          exact ⟨hall ▸ hafter.1, by rw [hall, hstate]; exact hafter.2⟩
        rcases hturn with ⟨hused, hheld⟩ | ⟨k, hused, hheld, hnew, hdrawn⟩ | ⟨k, hhad, hused, hheld⟩
        · have hsub : (((exec o p.shared t).2.bind T.held).toList).Sublist (T.held t).toList := by
            cases hk : (exec o p.shared t).2.bind T.held with
            | none => exact List.nil_sublist _
            | some k => rw [hheld k hk]
          have hsublist := ((List.Sublist.refl others).append hsub).append
            (List.Sublist.refl (T.used p.shared))
          rw [hused]
          exact ⟨hnodup.sublist hsublist, fun k hk ↦ hold k (hsublist.subset hk)⟩
        · have hfresh : k ∉ others ++ T.used p.shared := by
            intro hk
            refine hnew (h.drawn k (hbefore.mem_iff.mpr ?_))
            simp only [List.mem_append] at hk ⊢
            tauto
          have hsublist : (others ++ T.used p.shared).Sublist
              (others ++ (T.held t).toList ++ T.used p.shared) :=
            (List.sublist_append_left _ _).append (List.Sublist.refl _)
          have hafter : (others ++ [k] ++ T.used p.shared).Perm (k :: (others ++ T.used p.shared)) := by
            rw [List.append_assoc]
            exact List.perm_middle
          rw [hheld, hused, Option.toList_some]
          refine ⟨hafter.nodup_iff.mpr (List.nodup_cons.mpr ⟨hfresh, hnodup.sublist hsublist⟩), ?_⟩
          intro k' hk'
          rcases List.mem_cons.mp (hafter.mem_iff.mp hk') with rfl | hk'
          · exact hdrawn
          · exact hold k' (hsublist.subset hk')
        · rw [hheld, hused, Option.toList_none, List.append_nil]
          rw [hhad, Option.toList_some] at hnodup hold
          have hafter : (others ++ (T.used p.shared ++ [k])).Perm
              (others ++ [k] ++ T.used p.shared) := by
            rw [List.append_assoc]
            exact List.perm_append_comm.append_left others
          exact ⟨hafter.nodup_iff.mpr hnodup, fun k' hk' ↦ hold k' (hafter.mem_iff.mp hk')⟩
  · have hsublist : (T.all (p.advance exec (.stop i))).Sublist (T.all p) :=
      ((List.eraseIdx_sublist p.threads i).filterMap T.held).append (List.Sublist.refl _)
    exact ⟨h.nodup.sublist hsublist, fun k hk ↦ h.drawn k (hsublist.subset hk)⟩

/-- **No ticket is used twice**, in any run whose threads start without one. -/
theorem sound_of_reaches {starts : σ → τ → Prop} {takes : ω → σ → τ → Prop} {p q : Pool σ τ}
    (h : Reaches (Pool.advance exec) (Pool.Admitted starts takes) p q) (h₀ : T.Sound p)
    (hstart : ∀ s t, starts s t → T.held t = none)
    (hturn : ∀ o s t, T.Turn s t (exec o s t).1 (exec o s t).2)
    (hmono : ∀ o s t k, T.drawn s k → T.drawn (exec o s t).1 k) : T.Sound q := by
  refine h.invariant h₀ fun p m hp hm ↦ hp.advance m ?_ ?_ ?_
  · rintro t rfl
    exact hstart _ _ hm
  · exact fun i o t _ _ ↦ hturn o p.shared t
  · exact fun i o t _ _ k ↦ hmono o p.shared t k

end Tickets

end AjoCloud.Lib
