import Mathlib.Data.List.Nodup
import Mathlib.Data.List.Perm.Basic
import Mathlib.Logic.Function.Basic

/-!
# Keyed stores and insertion-ordered dictionaries

A `Store κ ν` is a keyed store seen from outside: a partial function. `Store.replay m log`
is the store after the pairs of `log` have been written into `m`, one after the other. Its
laws say which write a later lookup sees, and when a store that is only ever written to
ends up equal to the one it copies (`Store.replay_items_eq_iff`).

`Dict κ ν` is the concrete dictionary: its items in insertion order, no key twice. Writing
a key that is present replaces the value where it stands, writing a new one appends.
`Dict.view` is the store a dictionary implements; every dictionary operation commutes with
it.
-/

universe u v w

/-- A keyed store as the partial function it implements. -/
abbrev Store (κ : Type u) (ν : Type v) : Type (max u v) := κ → Option ν

namespace Store

variable {κ : Type u} {ν : Type v} {μ : Type w} [DecidableEq κ]

/-- The store with one pair written into it. -/
def put (m : Store κ ν) (p : κ × ν) : Store κ ν := Function.update m p.1 (some p.2)

/-- The store after the pairs of a log have been written into it in order. -/
def replay (m : Store κ ν) (log : List (κ × ν)) : Store κ ν := log.foldl put m

/-- The store with every value read through `f`. -/
def through (f : ν → μ) (m : Store κ ν) : Store κ μ := fun k => (m k).map f

@[simp] theorem replay_nil (m : Store κ ν) : replay m [] = m := rfl

@[simp] theorem replay_cons (m : Store κ ν) (p : κ × ν) (log : List (κ × ν)) :
    replay m (p :: log) = replay (put m p) log := rfl

theorem put_apply (m : Store κ ν) (p : κ × ν) (k : κ) :
    put m p k = if k = p.1 then some p.2 else m k := by
  rw [put, Function.update_apply]

/-- A key the log does not write keeps its value. -/
theorem replay_of_notMem {m : Store κ ν} {log : List (κ × ν)} {k : κ}
    (h : k ∉ log.map Prod.fst) : replay m log k = m k := by
  induction log generalizing m with
  | nil => rfl
  | cons p log ih =>
    rw [List.map_cons, List.mem_cons, not_or] at h
    rw [replay_cons, ih h.2, put_apply, if_neg h.1]

/-- A key the log writes does not depend on the store before. -/
theorem replay_of_mem {m m' : Store κ ν} {log : List (κ × ν)} {k : κ}
    (h : k ∈ log.map Prod.fst) : replay m log k = replay m' log k := by
  induction log generalizing m m' with
  | nil => simp at h
  | cons p log ih =>
    by_cases hk : k ∈ log.map Prod.fst
    · exact ih hk
    · have hp : k = p.1 := by simpa [hk] using h
      rw [replay_cons, replay_cons, replay_of_notMem hk, replay_of_notMem hk, put_apply,
        put_apply, if_pos hp, if_pos hp]

/-- The keys of a store after a log: its old ones and those the log writes. -/
theorem isSome_replay {m : Store κ ν} {log : List (κ × ν)} {k : κ} :
    (replay m log k).isSome ↔ k ∈ log.map Prod.fst ∨ (m k).isSome := by
  induction log generalizing m with
  | nil => simp
  | cons p log ih =>
    rw [replay_cons, ih, List.map_cons, List.mem_cons, put_apply]
    by_cases hp : k = p.1 <;> simp [hp]

/-- A pair of a log without repeated keys is what a lookup finds. -/
theorem replay_of_mem_nodup {m : Store κ ν} {log : List (κ × ν)} {k : κ} {v : ν}
    (hnd : (log.map Prod.fst).Nodup) (h : (k, v) ∈ log) : replay m log k = some v := by
  induction log generalizing m with
  | nil => simp at h
  | cons p log ih =>
    rw [List.map_cons, List.nodup_cons] at hnd
    rcases List.mem_cons.mp h with rfl | h
    · rw [replay_cons, replay_of_notMem hnd.1, put_apply, if_pos rfl]
    · exact ih hnd.2 h

/-- What a log leaves in an empty store is one of its pairs. -/
theorem mem_of_replay {log : List (κ × ν)} {k : κ} {v : ν}
    (h : replay (fun _ => none) log k = some v) : (k, v) ∈ log := by
  have hmem : ∀ m : Store κ ν, replay m log k = some v → (k, v) ∈ log ∨ m k = some v := by
    clear h
    induction log with
    | nil => exact fun m h => .inr h
    | cons p log ih =>
      intro m h
      rcases ih _ h with hlog | hput
      · exact .inl (List.mem_cons_of_mem p hlog)
      · rw [put_apply] at hput
        split at hput
        · rename_i hk
          rw [hk, ← Option.some.inj hput]
          exact .inl List.mem_cons_self
        · exact .inr hput
  rcases hmem _ h with hlog | hnone
  · exact hlog
  · cases hnone

/-- A log whose pairs a store holds already changes nothing. -/
theorem replay_eq_self {m : Store κ ν} {log : List (κ × ν)} (h : ∀ p ∈ log, m p.1 = some p.2) :
    m.replay log = m := by
  induction log with
  | nil => rfl
  | cons p log ih =>
    have hput : put m p = m := by
      funext k
      rw [put_apply]
      by_cases hp : k = p.1
      · rw [if_pos hp, hp, h p List.mem_cons_self]
      · rw [if_neg hp]
    rw [replay_cons, hput]
    exact ih fun q hq => h q (List.mem_cons_of_mem p hq)

/-- Reading values through `f` commutes with replaying a log. -/
theorem through_replay (f : ν → μ) (m : Store κ ν) (log : List (κ × ν)) :
    through f (replay m log) = replay (through f m) (log.map fun p => (p.1, f p.2)) := by
  induction log generalizing m with
  | nil => rfl
  | cons p log ih =>
    rw [replay_cons, ih, List.map_cons, replay_cons]
    congr 1
    funext k
    simp only [through, put_apply]
    split <;> rfl

/-! ### Values filed under two keys -/

/-- Values, each under a key of its own. -/
def filed (key : ν → κ) (values : List ν) : List (κ × ν) := values.map fun v => (key v, v)

/-- A store holds its values under a key of theirs. -/
def FiledBy (key : ν → κ) (m : Store κ ν) : Prop := ∀ k v, m k = some v → key v = k

theorem FiledBy.replay {key : ν → κ} {m : Store κ ν} (h : FiledBy key m) (values : List ν) :
    FiledBy key (m.replay (filed key values)) := by
  induction values generalizing m with
  | nil => exact h
  | cons v values ih =>
    refine ih fun k w hw => ?_
    rw [put_apply] at hw
    split at hw
    · rename_i hk
      rw [hk, ← Option.some.inj hw]
    · exact h k w hw

/-- A log is all that a store holds exactly if it writes every key that was there before. -/
theorem replay_eq_replay_none_iff {m : Store κ ν} {log : List (κ × ν)} :
    m.replay log = replay (fun _ => none) log ↔ ∀ k, (m k).isSome → k ∈ log.map Prod.fst := by
  constructor
  · intro h k hk
    have hsome : (replay (fun _ => none) log k).isSome := by
      rw [← h, isSome_replay]
      exact .inr hk
    simpa using isSome_replay.mp hsome
  · intro h
    funext k
    by_cases hk : k ∈ log.map Prod.fst
    · exact replay_of_mem hk
    · have hm : m k = none := by
        by_contra hne
        exact hk (h k (Option.isSome_iff_ne_none.mpr hne))
      rw [replay_of_notMem hk, replay_of_notMem hk, hm]

/-- **Two keys for one value.** A store that files values by `old`, and a new one that files them by
`new`, end up equal exactly if the keys agree and the values write every key that was there. -/
theorem replay_filed_eq_iff {old new : ν → κ} {m : Store κ ν} {values : List ν}
    (hm : FiledBy old m)
    (hsame : ∀ v ∈ values, ∀ w ∈ values, new v = new w → old v = old w) :
    m.replay (filed old values) = replay (fun _ => none) (filed new values) ↔
      (∀ v ∈ values, old v = new v) ∧ ∀ k, (m k).isSome → ∃ v ∈ values, new v = k := by
  have hwrites : ∀ k, k ∈ (filed new values).map Prod.fst ↔ ∃ v ∈ values, new v = k := by
    intro k
    rw [filed, List.map_map, List.mem_map]
    rfl
  constructor
  · intro h
    refine ⟨fun v hv => ?_, fun k hk => ?_⟩
    · -- What is found under the new key of `v` is a value with that key, old and new.
      have hfound : (replay (fun _ => none) (filed new values) (new v)).isSome :=
        isSome_replay.mpr (.inl ((hwrites _).mpr ⟨v, hv, rfl⟩))
      obtain ⟨w, hw⟩ := Option.isSome_iff_exists.mp hfound
      obtain ⟨w', hw', heq⟩ := List.mem_map.mp (mem_of_replay hw)
      obtain ⟨hnew, rfl⟩ := Prod.mk.inj heq
      rw [← h] at hw
      rw [hsame v hv w' hw' hnew.symm]
      exact hm.replay values _ _ hw
    · have hfound : (m.replay (filed old values) k).isSome := isSome_replay.mpr (.inr hk)
      rw [h, isSome_replay] at hfound
      rcases hfound with hmem | hnone
      · exact (hwrites k).mp hmem
      · cases hnone
  · rintro ⟨hkeys, hwritten⟩
    have hlog : filed old values = filed new values :=
      List.map_congr_left fun v hv => by rw [hkeys v hv]
    rw [hlog, replay_eq_replay_none_iff]
    exact fun k hk => (hwrites k).mpr (hwritten k hk)

end Store

/-- A dictionary in insertion order: its items, no key twice. -/
structure Dict (κ : Type u) (ν : Type v) where
  /-- The items in insertion order. -/
  items : List (κ × ν)
  /-- No key is listed twice. -/
  nodup : (items.map Prod.fst).Nodup

namespace Dict

variable {κ : Type u} {ν : Type v} {μ : Type w}

/-- The dictionary without items. -/
def empty : Dict κ ν := ⟨[], List.nodup_nil⟩

instance : EmptyCollection (Dict κ ν) := ⟨empty⟩

instance : Inhabited (Dict κ ν) := ⟨empty⟩

theorem ext {d e : Dict κ ν} (h : d.items = e.items) : d = e := by
  cases d
  cases e
  cases h
  rfl

instance [DecidableEq κ] [DecidableEq ν] : DecidableEq (Dict κ ν) := fun d e =>
  decidable_of_iff (d.items = e.items) ⟨ext, fun h => by rw [h]⟩

/-- The keys in insertion order. -/
def keys (d : Dict κ ν) : List κ := d.items.map Prod.fst

/-- The values in insertion order. -/
def values (d : Dict κ ν) : List ν := d.items.map Prod.snd

/-- The number of items. -/
def size (d : Dict κ ν) : ℕ := d.items.length

/-- The dictionary with every value read through `f`. -/
def mapValues (f : ν → μ) (d : Dict κ ν) : Dict κ μ :=
  ⟨d.items.map fun p => (p.1, f p.2), by
    rw [List.map_map]
    exact d.nodup⟩

variable [DecidableEq κ]

/-- The value stored under a key. -/
def get? (d : Dict κ ν) (k : κ) : Option ν := d.items.lookup k

/-- The store a dictionary implements. -/
def view (d : Dict κ ν) : Store κ ν := fun k => d.get? k

/-- Writing a pair into a list of items: in place where the key stands, else at the end. -/
def putItem (k : κ) (v : ν) : List (κ × ν) → List (κ × ν)
  | [] => [(k, v)]
  | p :: l => if p.1 = k then (k, v) :: l else p :: putItem k v l

theorem map_fst_putItem (k : κ) (v : ν) (l : List (κ × ν)) :
    (putItem k v l).map Prod.fst =
      if k ∈ l.map Prod.fst then l.map Prod.fst else l.map Prod.fst ++ [k] := by
  induction l with
  | nil => simp [putItem]
  | cons p l ih =>
    rw [putItem]
    by_cases hp : p.1 = k
    · simp [hp]
    · have hk : ¬k = p.1 := fun h => hp h.symm
      rw [if_neg hp, List.map_cons, ih]
      by_cases hl : k ∈ l.map Prod.fst <;> simp [hl, hk]

private theorem lookup_cons_ite (p : κ × ν) (l : List (κ × ν)) (k : κ) :
    (p :: l).lookup k = if k = p.1 then some p.2 else l.lookup k := by
  obtain ⟨k', v⟩ := p
  rw [List.lookup_cons]
  by_cases hk : k = k'
  · subst hk
    simp
  · have hb : (k == k') = false := by simpa using hk
    simp [hb, hk]

private theorem mem_of_lookup {l : List (κ × ν)} {k : κ} {v : ν} (h : l.lookup k = some v) :
    (k, v) ∈ l := by
  induction l with
  | nil => simp at h
  | cons p l ih =>
    rw [lookup_cons_ite] at h
    by_cases hk : k = p.1
    · rw [if_pos hk, Option.some_inj] at h
      exact List.mem_cons.mpr (Or.inl (Prod.ext hk h.symm))
    · rw [if_neg hk] at h
      exact List.mem_cons_of_mem p (ih h)

theorem lookup_putItem (k : κ) (v : ν) (l : List (κ × ν)) (k' : κ) :
    (putItem k v l).lookup k' = if k' = k then some v else l.lookup k' := by
  induction l with
  | nil => rw [putItem, lookup_cons_ite]
  | cons p l ih =>
    rw [putItem, lookup_cons_ite]
    by_cases hp : p.1 = k
    · subst hp
      rw [if_pos rfl, lookup_cons_ite]
      split <;> rfl
    · rw [if_neg hp, lookup_cons_ite, ih]
      by_cases hk : k' = p.1
      · simp [hk, hp]
      · simp [hk]

theorem nodup_putItem {l : List (κ × ν)} (h : (l.map Prod.fst).Nodup) (k : κ) (v : ν) :
    ((putItem k v l).map Prod.fst).Nodup := by
  rw [map_fst_putItem]
  split
  · exact h
  · rename_i hk
    exact h.append (List.nodup_singleton k) (by simpa using hk)

/-- Writing a key. -/
def insert (d : Dict κ ν) (k : κ) (v : ν) : Dict κ ν :=
  ⟨putItem k v d.items, nodup_putItem d.nodup k v⟩

/-- Writing the pairs of a list, one after the other. -/
def insertAll (d : Dict κ ν) (l : List (κ × ν)) : Dict κ ν :=
  l.foldl (fun d p => d.insert p.1 p.2) d

theorem get?_insert (d : Dict κ ν) (k : κ) (v : ν) (k' : κ) :
    (d.insert k v).get? k' = if k' = k then some v else d.get? k' :=
  lookup_putItem k v d.items k'

theorem keys_insert (d : Dict κ ν) (k : κ) (v : ν) :
    (d.insert k v).keys = if k ∈ d.keys then d.keys else d.keys ++ [k] :=
  map_fst_putItem k v d.items

theorem view_empty : (∅ : Dict κ ν).view = fun _ => none := rfl

theorem view_insert (d : Dict κ ν) (k : κ) (v : ν) :
    (d.insert k v).view = d.view.put (k, v) := by
  funext k'
  rw [Store.put_apply]
  exact get?_insert d k v k'

theorem view_insertAll (d : Dict κ ν) (l : List (κ × ν)) :
    (d.insertAll l).view = d.view.replay l := by
  induction l generalizing d with
  | nil => rfl
  | cons p l ih =>
    rw [Store.replay_cons, ← view_insert, ← ih]
    rfl

/-- A dictionary is the replay of its own items. -/
theorem view_eq_replay_items (d : Dict κ ν) : d.view = Store.replay (fun _ => none) d.items := by
  obtain ⟨l, hnd⟩ := d
  funext k
  change l.lookup k = _
  induction l with
  | nil => rfl
  | cons p l ih =>
    rw [List.map_cons, List.nodup_cons] at hnd
    rw [lookup_cons_ite, Store.replay_cons]
    by_cases hk : k = p.1
    · subst hk
      rw [Store.replay_of_notMem hnd.1, Store.put_apply, if_pos rfl, if_pos rfl]
    · have hput : Store.put (fun _ => none) p k = (none : Option ν) := by
        rw [Store.put_apply, if_neg hk]
      rw [if_neg hk, ih hnd.2]
      by_cases hl : k ∈ l.map Prod.fst
      · exact Store.replay_of_mem hl
      · rw [Store.replay_of_notMem hl, Store.replay_of_notMem hl, hput]

theorem get?_eq_some_iff {d : Dict κ ν} {k : κ} {v : ν} :
    d.get? k = some v ↔ (k, v) ∈ d.items := by
  constructor
  · intro h
    exact mem_of_lookup h
  · intro h
    change d.view k = some v
    rw [view_eq_replay_items]
    exact Store.replay_of_mem_nodup d.nodup h

theorem isSome_get?_iff {d : Dict κ ν} {k : κ} : (d.get? k).isSome ↔ k ∈ d.keys := by
  change (d.view k).isSome ↔ _
  rw [view_eq_replay_items, Store.isSome_replay]
  simp [keys]

/-- Pairs without repeated keys are the items of the dictionary they make. -/
theorem items_insertAll_of_nodup {d : Dict κ ν} {l : List (κ × ν)}
    (h : (d.keys ++ l.map Prod.fst).Nodup) : (d.insertAll l).items = d.items ++ l := by
  induction l generalizing d with
  | nil => rw [List.append_nil]; rfl
  | cons p l ih =>
    have hp : p.1 ∉ d.keys := by
      rw [List.map_cons, List.nodup_middle, List.nodup_cons] at h
      exact fun hmem => h.1 (List.mem_append_left _ hmem)
    have hput : ∀ items : List (κ × ν), p.1 ∉ items.map Prod.fst →
        putItem p.1 p.2 items = items ++ [p] := by
      intro items
      induction items with
      | nil => exact fun _ => rfl
      | cons q items ihq =>
        intro hq
        rw [List.map_cons, List.mem_cons, not_or] at hq
        rw [putItem, if_neg (Ne.symm hq.1), ihq hq.2, List.cons_append]
    have hitems : (d.insert p.1 p.2).items = d.items ++ [p] := hput d.items hp
    have hkeys : (d.insert p.1 p.2).keys = d.keys ++ [p.1] := by
      rw [keys_insert, if_neg hp]
    calc (d.insertAll (p :: l)).items
        = ((d.insert p.1 p.2).insertAll l).items := rfl
      _ = (d.insert p.1 p.2).items ++ l := by
        refine ih ?_
        rw [hkeys, List.append_assoc]
        exact h
      _ = d.items ++ p :: l := by rw [hitems, List.append_assoc]; rfl

/-- Appending to the list stored under a key appends to the lists stored altogether. -/
theorem perm_flatten_insert (d : Dict κ (List ν)) (k : κ) (l : List ν) :
    (d.insert k ((d.get? k).getD [] ++ l)).values.flatten.Perm (d.values.flatten ++ l) := by
  obtain ⟨items, hnd⟩ := d
  change ((putItem k ((items.lookup k).getD [] ++ l) items).map Prod.snd).flatten.Perm
    ((items.map Prod.snd).flatten ++ l)
  clear hnd
  induction items with
  | nil => simp [putItem]
  | cons p items ih =>
    rw [putItem, lookup_cons_ite]
    by_cases hk : p.1 = k
    · rw [if_pos hk, if_pos hk.symm]
      simp only [List.map_cons, List.flatten_cons, Option.getD_some, List.append_assoc]
      exact (List.perm_append_comm).append_left p.2
    · have hk' : ¬k = p.1 := fun h => hk h.symm
      rw [if_neg hk, if_neg hk']
      simp only [List.map_cons, List.flatten_cons, List.append_assoc]
      exact ih.append_left p.2

theorem view_mapValues (f : ν → μ) (d : Dict κ ν) :
    (d.mapValues f).view = Store.through f d.view := by
  rw [view_eq_replay_items, view_eq_replay_items, Store.through_replay]
  rfl

/-- **Copying by writes.** A store into which all items of a dictionary have been written
equals the dictionary exactly when it held no other key before. -/
theorem replay_items_eq_iff {d : Dict κ ν} {m : Store κ ν} :
    m.replay d.items = d.view ↔ ∀ k, (m k).isSome → k ∈ d.keys := by
  rw [view_eq_replay_items, Store.replay_eq_replay_none_iff]
  rfl

end Dict
