import LooperControl.Lib.Bursts
import LooperControl.Plugin.TransportButton

/-!
# Clicks on the transport button

Clicks that follow each other closely are a burst. In a burst every second click stops the looper,
and the others ask for the next state: `requests_eq` says so of the whole sequence of clicks,
however many of them a burst has and whatever states are pushed in between.

The one timestamp of the button is enough for that. `Remembers` is what it says about the burst: the
time of the last click, if the next one would make a pair with it, and the epoch otherwise.
-/

namespace LooperControl

namespace TransportButton

/-- What happens to a button: a state or an id is pushed, or it is clicked at a time. -/
inductive Touch
  | setState (newState : State)
  | setTrackId (trackId : String)
  | mouseDown (now : ℤ)

/-- The button afterwards, and what its callback has been called with. -/
def touch (b : TransportButton) : Touch → TransportButton × List (String × String)
  | .setState newState => (b.setState newState, [])
  | .setTrackId trackId => (b.setTrackId trackId, [])
  | .mouseDown now => b.mouseDown now

/-- What the callback has been called with, in order. -/
def requests : TransportButton → List Touch → List (String × String)
  | _, [] => []
  | b, e :: es => (b.touch e).2 ++ requests (b.touch e).1 es

/-- A click, with the id and the state that the button has at its time. -/
structure Click where
  time : ℤ
  trackId : String
  state : State

/-- The clicks in order, for a button that starts with an id and a state. -/
def clicks : String → State → List Touch → List Click
  | _, _, [] => []
  | trackId, _, .setState newState :: es => clicks trackId newState es
  | _, state, .setTrackId trackId :: es => clicks trackId state es
  | trackId, state, .mouseDown now :: es => ⟨now, trackId, state⟩ :: clicks trackId state es

/-- A click comes soon enough after another one to be in the same burst. -/
def soon (c d : Click) : Bool := d.time - c.time < doubleClickMs

/-- What the `n`-th click of a burst requests, counted from 1. -/
def request (n : ℕ) (c : Click) : String × String :=
  (c.trackId, if n % 2 = 0 then LooperState.stateToString .stopped else getNextState c.state)

/-- No click is close to the epoch. That the times do not decrease is not needed. -/
def Timed (cs : List Click) : Prop := ∀ c ∈ cs, doubleClickMs ≤ c.time

/-- What a button remembers of a click with a number in its burst. -/
def Remembers (b : TransportButton) (c : Click) (n : ℕ) : Prop :=
  b.lastClickTime = if n % 2 = 0 then 0 else c.time

/-- A click long after the time that the button has asks for the next state. -/
theorem mouseDown_late {b : TransportButton} (hset : b.onClick = true) {now : ℤ}
    (h : doubleClickMs ≤ now - b.lastClickTime) {n : ℕ} (hn : n % 2 ≠ 0) : b.mouseDown now =
      ({ b with lastClickTime := now }, [request n ⟨now, b.trackId, b.state⟩]) := by
  rw [mouseDown, if_neg (by omega), click, if_pos hset, request, if_neg hn]

/-- A click soon after the time that the button has stops the looper. -/
theorem mouseDown_soon {b : TransportButton} (hset : b.onClick = true) {now : ℤ}
    (h : now - b.lastClickTime < doubleClickMs) {n : ℕ} (hn : n % 2 = 0) : b.mouseDown now =
      ({ b with lastClickTime := 0 }, [request n ⟨now, b.trackId, b.state⟩]) := by
  rw [mouseDown, if_pos h, click, if_pos hset, request, if_pos hn]

/-- **The step lemma**: a button that remembers a click treats the next one by its number in the
burst, and remembers it in turn. -/
theorem mouseDown_next {b : TransportButton} (hset : b.onClick = true) {c : Click} {n : ℕ}
    (hb : b.Remembers c n) {now : ℤ} (hepoch : doubleClickMs ≤ now) :
    let d : Click := ⟨now, b.trackId, b.state⟩
    let m := if soon c d then n + 1 else 1
    (b.mouseDown now).2 = [request m d] ∧ (b.mouseDown now).1.Remembers d m ∧
      ∃ lastClickTime, (b.mouseDown now).1 = { b with lastClickTime := lastClickTime } := by
  intro d m
  rw [Remembers] at hb
  by_cases hsoon : now - c.time < doubleClickMs
  · have hm : m = n + 1 := if_pos (decide_eq_true hsoon)
    rw [hm]
    by_cases heven : n % 2 = 0
    · -- The pair before is complete. The button is back at the epoch, long ago.
      rw [if_pos heven] at hb
      have hodd : (n + 1) % 2 ≠ 0 := by omega
      rw [mouseDown_late hset (by rw [hb, sub_zero]; exact hepoch) hodd, Remembers, if_neg hodd]
      exact ⟨rfl, rfl, now, rfl⟩
    · rw [if_neg heven] at hb
      have heven' : (n + 1) % 2 = 0 := by omega
      rw [mouseDown_soon hset (by rw [hb]; exact hsoon) heven', Remembers, if_pos heven']
      exact ⟨rfl, rfl, 0, rfl⟩
  · have hm : m = 1 := if_neg (by simpa [soon, d] using hsoon)
    have hlate : doubleClickMs ≤ now - b.lastClickTime := by
      rw [hb]
      split <;> omega
    rw [hm, mouseDown_late hset hlate (by decide : 1 % 2 ≠ 0)]
    exact ⟨rfl, rfl, now, rfl⟩

/-- The requests after a click that the button remembers. -/
theorem requests_after {b : TransportButton} (hset : b.onClick = true) {c : Click} {n : ℕ}
    (hb : b.Remembers c n) {es : List Touch} (ht : Timed (clicks b.trackId b.state es)) :
    b.requests es = Bursts.imageAfter soon request c n (clicks b.trackId b.state es) := by
  induction es generalizing b c n with
  | nil => rfl
  | cons e es ih =>
    cases e with
    | setState newState =>
      rw [requests, touch, setState_eq]
      exact ih (b := { b with state := newState }) hset hb ht
    | setTrackId trackId => exact ih (b := { b with trackId := trackId }) hset hb ht
    | mouseDown now =>
      rw [clicks] at ht ⊢
      obtain ⟨hepoch, htail⟩ := List.forall_mem_cons.mp ht
      obtain ⟨hrequest, hnext, lastClickTime, hsame⟩ := mouseDown_next hset hb hepoch
      rw [requests, touch, hrequest, Bursts.imageAfter]
      rw [hsame] at hnext ⊢
      exact congrArg _ (ih (b := { b with lastClickTime := lastClickTime }) hset hnext htail)

/-- **The transport button.** Every click makes one request, for the id that the button has at the
time: to stop, if its number in its burst is even, and otherwise for the state next to the one that
the button has at the time. -/
theorem requests_eq (trackId : String) (state : State) (es : List Touch)
    (ht : Timed (clicks trackId state es)) :
    requests { trackId := trackId, state := state, onClick := true } es =
      ((clicks trackId state es).splitBy soon).flatMap fun burst =>
        burst.mapIdx fun i c => request (i + 1) c := by
  change _ = Bursts.image soon request (clicks trackId state es)
  -- Nothing has been clicked yet, and the epoch is long ago.
  induction es generalizing trackId state with
  | nil => rfl
  | cons e es ih =>
    cases e with
    | setState newState =>
      rw [requests, touch, setState_eq]
      exact ih trackId newState ht
    | setTrackId newId => exact ih newId state ht
    | mouseDown now =>
      rw [clicks] at ht ⊢
      obtain ⟨hepoch, htail⟩ := List.forall_mem_cons.mp ht
      rw [requests, touch, mouseDown_late rfl (by rw [sub_zero]; exact hepoch)
        (by decide : 1 % 2 ≠ 0), Bursts.image_cons]
      have hfirst : (⟨trackId, state, now, true⟩ : TransportButton).Remembers
          ⟨now, trackId, state⟩ 1 := rfl
      exact congrArg _ (requests_after rfl hfirst htail)

/-- Three clicks in a burst with a push between them, and a fourth one much later. -/
theorem requests_burst : requests { trackId := "0", state := .stopped, onClick := true }
    [.mouseDown 1000, .setState .recording, .mouseDown 1300, .mouseDown 1600, .mouseDown 9000] =
      ((clicks "0" .stopped [.mouseDown 1000, .setState .recording, .mouseDown 1300,
        .mouseDown 1600, .mouseDown 9000]).splitBy soon).flatMap fun burst =>
          burst.mapIdx fun i c => request (i + 1) c :=
  requests_eq "0" .stopped _ (by simp [Timed, clicks, doubleClickMs])

end TransportButton

end LooperControl
