import LooperControl.Lib.Runs
import Mathlib.Data.List.Basic
import Mathlib.Logic.Relation

/-!
# Threads over a shared state

A pool is a shared state and a list of threads, each with a local state of its own. The
atomic step of a thread is a partial function of the shared state and its local state, and
the pool takes the step of whichever thread the scheduler picks: the labels of a run are the
positions of the threads that moved, so that a run is an interleaving.

* **One thread moves** (`step_eq_some_iff`), and the others stay where they are (`mem_threads`).
* **Assertions**: a shared invariant with an assertion for every thread is kept when each
  step keeps its own assertion and does not interfere with the others' (`Holds.step`).
* **One and the others**: what some thread is to do, is for the one that moves to do or for
  another one (`exists_thread_iff`, `exists_thread_set_iff`).
* **What is owed** (`Settles`): a property of the shared state holds, or some thread is still to
  bring it about. At the end nothing is owed (`settles_iff_of_not_owed`).
* **Alone**: what a thread does when nobody interrupts it is a run of the pool
  (`run_of_alone`).
-/

namespace Threads

universe u v

/-- A shared state and the local states of some threads. -/
structure Pool (σ : Type u) (τ : Type v) where
  shared : σ
  threads : List τ

variable {σ : Type u} {τ : Type v}

/-- The step of one thread, if there is such a thread and it can move. -/
def step (act : σ → τ → Option (σ × τ)) (p : Pool σ τ) (n : ℕ) : Option (Pool σ τ) :=
  p.threads[n]?.bind fun t => (act p.shared t).map fun r => ⟨r.1, p.threads.set n r.2⟩

variable {act : σ → τ → Option (σ × τ)} {p q : Pool σ τ} {n : ℕ}

theorem step_eq_some_iff : step act p n = some q ↔
    ∃ t s' t', p.threads[n]? = some t ∧ act p.shared t = some (s', t') ∧
      q = ⟨s', p.threads.set n t'⟩ := by
  rw [step, Option.bind_eq_some_iff]
  constructor
  · rintro ⟨t, ht, h⟩
    obtain ⟨⟨s', t'⟩, hact, rfl⟩ := Option.map_eq_some_iff.mp h
    exact ⟨t, s', t', ht, hact, rfl⟩
  · rintro ⟨t, s', t', ht, hact, rfl⟩
    exact ⟨t, ht, by rw [hact]; rfl⟩

/-- The threads after a step: the one that moved and the others. -/
theorem mem_threads {t t' u : τ} {s' : σ} (hu : u ∈ (⟨s', p.threads.set n t'⟩ : Pool σ τ).threads)
    (ht : p.threads[n]? = some t) :
    u = t' ∨ ∃ m, m ≠ n ∧ p.threads[m]? = some u := by
  obtain ⟨m, hm⟩ := List.getElem?_of_mem hu
  by_cases hmn : m = n
  · rw [hmn, List.getElem?_set_self (List.getElem?_eq_some_iff.mp ht).1] at hm
    exact .inl (Option.some.inj hm).symm
  · rw [List.getElem?_set_ne (Ne.symm hmn)] at hm
    exact .inr ⟨m, hmn, hm⟩

/-- A shared invariant holds, and an assertion about every thread. -/
structure Holds (I : σ → Prop) (A : σ → τ → Prop) (p : Pool σ τ) : Prop where
  shared : I p.shared
  threads : ∀ t ∈ p.threads, A p.shared t

/-- **The rule for assertions**: steps that keep the invariant, their thread's own assertion and
the assertions of the others keep all of them. -/
theorem Holds.step {I : σ → Prop} {A : σ → τ → Prop}
    (hown : ∀ s t s' t', I s → A s t → act s t = some (s', t') → I s' ∧ A s' t')
    (hothers : ∀ s t s' t' u, I s → A s t → act s t = some (s', t') → A s u → A s' u)
    (hp : Holds I A p) (h : Threads.step act p n = some q) : Holds I A q := by
  obtain ⟨t, s', t', ht, hact, rfl⟩ := step_eq_some_iff.mp h
  have hA := hp.threads t (List.mem_of_getElem? ht)
  obtain ⟨hI', hA'⟩ := hown p.shared t s' t' hp.shared hA hact
  refine ⟨hI', fun u hu => ?_⟩
  rcases mem_threads hu ht with rfl | ⟨m, -, hm⟩
  · exact hA'
  · exact hothers p.shared t s' t' u hp.shared hA hact (hp.threads u (List.mem_of_getElem? hm))

/-! ### One thread and the others -/

/-- Some thread besides a given one has a property. -/
def Others (p : Pool σ τ) (n : ℕ) (P : τ → Prop) : Prop :=
  ∃ m u, m ≠ n ∧ p.threads[m]? = some u ∧ P u

theorem others_iff {P : τ → Prop} :
    Others p n P ↔ ∃ x ∈ p.threads.zipIdx, x.2 ≠ n ∧ P x.1 := by
  constructor
  · rintro ⟨m, u, hmn, hm, hP⟩
    exact ⟨(u, m), List.mem_zipIdx_iff_getElem?.mpr hm, hmn, hP⟩
  · rintro ⟨⟨u, m⟩, hmem, hmn, hP⟩
    exact ⟨m, u, hmn, List.mem_zipIdx_iff_getElem?.mp hmem, hP⟩

instance {P : τ → Prop} [DecidablePred P] : Decidable (Others p n P) :=
  decidable_of_iff' _ others_iff

theorem exists_thread_iff {t : τ} (ht : p.threads[n]? = some t) {P : τ → Prop} :
    (∃ u ∈ p.threads, P u) ↔ P t ∨ Others p n P := by
  constructor
  · rintro ⟨u, hu, hP⟩
    obtain ⟨m, hm⟩ := List.getElem?_of_mem hu
    by_cases hmn : m = n
    · rw [hmn, ht, Option.some_inj] at hm
      exact .inl (hm ▸ hP)
    · exact .inr ⟨m, u, hmn, hm, hP⟩
  · rintro (hP | ⟨m, u, -, hm, hP⟩)
    · exact ⟨t, List.mem_of_getElem? ht, hP⟩
    · exact ⟨u, List.mem_of_getElem? hm, hP⟩

theorem exists_thread_set_iff {t : τ} (ht : p.threads[n]? = some t) (t' : τ) {P : τ → Prop} :
    (∃ u ∈ p.threads.set n t', P u) ↔ P t' ∨ Others p n P := by
  have hlt := (List.getElem?_eq_some_iff.mp ht).1
  have hset := exists_thread_iff (p := ⟨p.shared, p.threads.set n t'⟩)
    (List.getElem?_set_self (a := t') hlt) (P := P)
  rw [hset]
  refine or_congr Iff.rfl (exists_congr fun m => exists_congr fun u => ?_)
  -- The others have not moved.
  refine and_congr_right fun hmn => ?_
  rw [List.getElem?_set_ne (Ne.symm hmn)]

/-- A property of the shared state holds, or some thread owes it. -/
def Settles (P : σ → Prop) (owes : σ → τ → Prop) (p : Pool σ τ) : Prop :=
  P p.shared ∨ ∃ t ∈ p.threads, owes p.shared t

section Settles

variable {P : σ → Prop} {owes : σ → τ → Prop}

theorem settles_iff {t : τ} (ht : p.threads[n]? = some t) :
    Settles P owes p ↔ P p.shared ∨ owes p.shared t ∨ Others p n (owes p.shared) :=
  or_congr_right (exists_thread_iff ht)

theorem settles_set_iff {t : τ} (ht : p.threads[n]? = some t) (s' : σ) (t' : τ) :
    Settles P owes ⟨s', p.threads.set n t'⟩ ↔ P s' ∨ owes s' t' ∨ Others p n (owes s') :=
  or_congr_right (exists_thread_set_iff ht t')

/-- When no thread owes it, the property holds or it does not. -/
theorem settles_iff_of_not_owed (h : ∀ t ∈ p.threads, ¬owes p.shared t) :
    Settles P owes p ↔ P p.shared :=
  or_iff_left fun ⟨t, ht, howes⟩ => h t ht howes

end Settles

/-! ### A thread by itself -/

/-- A thread that nobody interrupts. -/
def Alone (act : σ → τ → Option (σ × τ)) : σ × τ → σ × τ → Prop :=
  Relation.ReflTransGen fun a b => act a.1 a.2 = some b

/-- What a thread does alone is a run of the pool in which only this thread moves. -/
theorem run_of_alone {a b : σ × τ} (h : Alone act a b) (hshared : p.shared = a.1)
    (hn : p.threads[n]? = some a.2) :
    ∃ k, Runs.Run (Runs.ofFun (step act)) p (List.replicate k n) ⟨b.1, p.threads.set n b.2⟩ := by
  obtain ⟨hlt, hat⟩ := List.getElem?_eq_some_iff.mp hn
  induction h with
  | refl =>
    refine ⟨0, ?_⟩
    rw [List.replicate_zero, Runs.run_nil_iff, ← hshared, ← hat, List.set_getElem_self hlt]
  | @tail b c _ hact ih =>
    obtain ⟨k, hrun⟩ := ih
    refine ⟨k + 1, ?_⟩
    rw [List.replicate_succ']
    refine hrun.snoc (step_eq_some_iff.mpr ⟨b.2, c.1, c.2, ?_, hact, ?_⟩)
    · exact List.getElem?_set_self hlt
    · rw [List.set_set]

end Threads
