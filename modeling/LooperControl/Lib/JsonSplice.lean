import LooperControl.Lib.JsonText
import Mathlib.Data.List.Count
import Mathlib.Algebra.Order.BigOperators.Group.List
import Mathlib.Algebra.GroupWithZero.Nat
import Mathlib.Algebra.Order.Group.Nat

/-!
# JSON texts that are spliced together

A program that builds the text of an object by hand puts a string between two quotes and hopes that
it stays there. `plain_of_room` says when it does: the string is plain if the object has it as the
value it was meant for, and the text has no room for the member twice.

* `Literal.splice`: the quote behind the string ends the literal, or the literal is shorter than
  the string, or it runs on across the quote.
* `weight_readMembers`: every member that is read takes its share of the text. The share does not
  count the characters of numerals, so that a numeral of any length makes no room.
-/

namespace JsonText

variable {double : List Char → Double}

/-! ### A literal and the quote behind it -/

private theorem hexUnit?_quote {a b c d : Char} {unit : ℕ} (h : hexUnit? a b c d = some unit) :
    a ≠ quote ∧ b ≠ quote ∧ c ≠ quote ∧ d ≠ quote := by
  have hquote : hexDigit? quote = none := by decide
  simp only [hexUnit?, Option.bind_eq_bind, Option.bind_eq_some_iff] at h
  obtain ⟨_, ha, _, hb, _, hc, _, hd, -⟩ := h
  refine ⟨?_, ?_, ?_, ?_⟩ <;>
  · rintro rfl
    simp [hquote] at *

/-- An escape takes more characters than it stands for, so that a literal with one is the shorter
whatever is behind it. -/
private theorem shorter_of_escape {s tail r : List Char} {units : List ℕ} {n : ℕ}
    (hn : s.length + 1 < n)
    (h : ((∀ c ∈ s, IsPlain c) ∧ units = s.map Char.toNat ∧ r = tail) ∨
      units.length < s.length ∨ ∃ units', Literal tail units' r) :
    units.length + 1 < n ∨ ∃ units', Literal tail units' r := by
  rcases h with ⟨-, rfl, -⟩ | hlt | hon
  · left
    rwa [List.length_map]
  · left
    omega
  · exact .inr hon

/-- **A spliced literal.** The characters before a quote are the literal that it ends, each standing
for itself, or more characters than the literal has, or the literal runs on across the quote. -/
theorem Literal.splice {s tail l r : List Char} {units : List ℕ} (h : Literal l units r)
    (hl : l = s ++ quote :: tail) :
    ((∀ c ∈ s, IsPlain c) ∧ units = s.map Char.toNat ∧ r = tail) ∨ units.length < s.length ∨
      ∃ units', Literal tail units' r := by
  have hne : backslash ≠ quote := by decide
  induction h generalizing s with
  | close l =>
    rcases s with _ | ⟨a, s⟩
    · obtain ⟨-, rfl⟩ := List.cons.inj hl
      exact .inl ⟨by simp, rfl, rfl⟩
    · exact .inr (.inl (Nat.succ_pos _))
  | @unicode d₁ d₂ d₃ d₄ unit l units r hunit h ih =>
    obtain ⟨h₁, h₂, h₃, h₄⟩ := hexUnit?_quote hunit
    -- The quote is none of the six characters, so that the string has all of them.
    rcases s with _ | ⟨a₁, _ | ⟨a₂, _ | ⟨a₃, _ | ⟨a₄, _ | ⟨a₅, _ | ⟨a₆, s⟩⟩⟩⟩⟩⟩ <;>
      simp only [List.nil_append, List.cons_append, List.cons.injEq] at hl
    · exact absurd hl.1 hne
    · exact absurd hl.2.1 (by decide)
    · exact absurd hl.2.2.1 h₁
    · exact absurd hl.2.2.2.1 h₂
    · exact absurd hl.2.2.2.2.1 h₃
    · exact absurd hl.2.2.2.2.2.1 h₄
    · exact .inr (shorter_of_escape (by simp) (ih hl.2.2.2.2.2.2))
  | @escape e unit l units r hunit h ih =>
    rcases s with _ | ⟨a₁, _ | ⟨a₂, s⟩⟩ <;>
      simp only [List.nil_append, List.cons_append, List.cons.injEq] at hl
    · exact absurd hl.1 hne
    · rw [← hl.2.2]
      exact .inr (.inr ⟨units, h⟩)
    · exact .inr (shorter_of_escape (by simp) (ih hl.2.2))
  | @plain c l units r hc h ih =>
    rcases s with _ | ⟨a, s⟩ <;>
      simp only [List.nil_append, List.cons_append, List.cons.injEq] at hl
    · exact absurd hl.1 hc.1
    · obtain ⟨rfl, hl⟩ := hl
      rw [List.forall_mem_cons, List.map_cons, List.length_cons, List.length_cons]
      rcases ih hl with ⟨hs, rfl, hr⟩ | hlt | hon
      · exact .inl ⟨⟨hc, hs⟩, rfl, hr⟩
      · exact .inr (.inl (Nat.succ_lt_succ hlt))
      · exact .inr (.inr hon)

theorem length_joinUnits_le (units : List ℕ) : (joinUnits units).length ≤ units.length := by
  fun_induction joinUnits units with
  | case1 => exact Nat.le_refl 0
  | case2 unit => exact Nat.le_refl 1
  | case3 hi lo l hpair ih =>
    rw [List.length_cons, List.length_cons, List.length_cons]
    omega
  | case4 hi lo l hpair ih =>
    rw [List.length_cons, List.length_cons]
    omega

/-- **A spliced string** is read as it stands and is plain, or is read as another one, or the
literal runs on across the quote. -/
theorem readString_splice {s v : String} {tail r : List Char}
    (h : readString (s.toList ++ quote :: tail) = some (v, r)) :
    (Plain s ∧ v = s ∧ r = tail) ∨ v ≠ s ∨ ∃ v', readString tail = some (v', r) := by
  obtain ⟨units, hliteral, rfl⟩ := readString_eq_some_iff.mp h
  rcases hliteral.splice rfl with ⟨hs, rfl, rfl⟩ | hlt | ⟨units', hon⟩
  · exact .inl ⟨hs, by rw [joinUnits_map_toNat, String.ofList_toList], rfl⟩
  · refine .inr (.inl fun hs => ?_)
    have hlength := length_joinUnits_le units
    rw [← hs, String.toList_ofList] at hlt
    omega
  · exact .inr (.inr ⟨_, readString_eq_some_iff.mpr ⟨units', hon, rfl⟩⟩)

/-! ### What is read takes its share of the text -/

/-- The number of characters that numerals do not have. -/
def weight (l : List Char) : ℕ := l.countP fun c => !isNumeral c

@[simp] theorem weight_append (l m : List Char) : weight (l ++ m) = weight l + weight m :=
  List.countP_append

theorem weight_cons (c : Char) (l : List Char) : weight (c :: l) = weight [c] + weight l :=
  weight_append [c] l

theorem weight_singleton_le (c : Char) : weight [c] ≤ 1 := List.countP_le_length

theorem weight_skip_le (l : List Char) : weight (skip l) ≤ weight l :=
  (List.dropWhile_sublist _).countP_le

theorem weight_expect {c : Char} {l r : List Char} (h : expect c l = some r) :
    weight [c] + weight r ≤ weight l := by
  rw [← weight_cons, ← expect_eq_some_iff.mp h]
  exact weight_skip_le l

/-- A code unit whose character numerals do not have. -/
def isHeavy (unit : ℕ) : Bool := !isNumeral (unitChar unit)

theorem weight_joinUnits_le (units : List ℕ) : weight (joinUnits units) ≤ units.countP isHeavy := by
  fun_induction joinUnits units with
  | case1 => exact Nat.le_refl 0
  | case2 unit => simp [weight, isHeavy, List.countP_cons]
  | case3 hi lo l hpair ih =>
    -- A surrogate has no character of its own, so that the pair counts twice.
    have hvalid : ¬hi.isValidChar := by
      rw [Nat.isValidChar]
      omega
    have hheavy : isHeavy hi = true := by
      rw [isHeavy, unitChar, if_neg hvalid]
      rfl
    rw [weight_cons, List.countP_cons, List.countP_cons, if_pos hheavy]
    have hone := weight_singleton_le (Char.ofNat (0x10000 + 1024 * (hi - 0xd800) + (lo - 0xdc00)))
    omega
  | case4 hi lo l hpair ih =>
    rw [weight_cons, List.countP_cons]
    have hunit : weight [unitChar hi] = if isHeavy hi then 1 else 0 := by
      simp [weight, isHeavy, List.countP_cons]
    omega

/-- The code units of a string literal and its closing quote. -/
theorem Literal.weight {l r : List Char} {units : List ℕ} (h : Literal l units r) :
    units.countP isHeavy + 1 + JsonText.weight r ≤ JsonText.weight l := by
  have hbackslash : JsonText.weight [backslash] = 1 := by decide
  have hquote : JsonText.weight [quote] = 1 := by decide
  have hunit : ∀ unit, (if isHeavy unit = true then 1 else 0) ≤ 1 := by
    intro unit
    split <;> decide
  induction h with
  | close l =>
    rw [weight_cons, hquote]
    exact Nat.le_refl _
  | @unicode d₁ d₂ d₃ d₄ unit l units r hunit' h ih =>
    rw [List.countP_cons, weight_cons, hbackslash, weight_cons, weight_cons d₁, weight_cons d₂,
      weight_cons d₃, weight_cons d₄]
    have hone := hunit unit
    omega
  | @escape e unit l units r hunit' h ih =>
    rw [List.countP_cons, weight_cons, hbackslash, weight_cons]
    have hone := hunit unit
    omega
  | @plain c l units r hc h ih =>
    have hchar : JsonText.weight [c] = if isHeavy c.toNat then 1 else 0 := by
      simp [JsonText.weight, isHeavy, List.countP_cons, unitChar_toNat]
    rw [List.countP_cons, weight_cons]
    omega

/-- A string and its closing quote. -/
theorem weight_readString {l r : List Char} {s : String} (h : readString l = some (s, r)) :
    weight s.toList + 1 + weight r ≤ weight l := by
  obtain ⟨units, hliteral, rfl⟩ := readString_eq_some_iff.mp h
  have hshare := hliteral.weight
  have hjoin := weight_joinUnits_le units
  rw [String.toList_ofList]
  omega

/-- The share of a value: that of its characters and its quotes, if it is a string. -/
def valueWeight : Json → ℕ
  | .str s => weight s.toList + 2
  | _ => 0

/-- The share of a member: the key with its quotes, the colon and the value. -/
def memberWeight (m : String × Json) : ℕ := weight m.1.toList + 3 + valueWeight m.2

theorem weight_readScalar {l r : List Char} {v : Json} (h : readScalar double l = some (v, r)) :
    valueWeight v + weight r ≤ weight l := by
  have hword : ∀ word w, valueWeight w = 0 → readWord word w l = some (v, r) →
      valueWeight v + weight r ≤ weight l := by
    intro word w hw hread
    obtain ⟨-, heq⟩ := Option.ite_none_right_eq_some.mp hread
    cases heq
    rw [hw, Nat.zero_add]
    exact (List.drop_sublist _ l).countP_le
  rw [readScalar, Option.or_eq_some_iff, Option.or_eq_some_iff, Option.or_eq_some_iff] at h
  rcases h with ((h | ⟨-, h⟩) | ⟨-, h⟩) | ⟨-, h⟩
  · exact hword _ _ rfl h
  · exact hword _ _ rfl h
  · exact hword _ _ rfl h
  · obtain ⟨-, heq⟩ := Option.ite_none_right_eq_some.mp h
    cases heq
    have hvalue : valueWeight (numberValue double (l.takeWhile isNumeral)) = 0 := by
      unfold numberValue
      dsimp only
      split <;> rfl
    rw [hvalue, Nat.zero_add]
    exact (List.dropWhile_sublist _).countP_le

theorem weight_readItems {α : Type} {item : List Char → Option (α × List Char)} {cost : α → ℕ}
    (hitem : ∀ l a r, item l = some (a, r) → cost a + weight r ≤ weight l) {close : Char}
    (hclose : weight [close] = 1) {n : ℕ} {l r : List Char} {as : List α}
    (h : readItems item close n l = some (as, r)) :
    (as.map fun a => cost a + 1).sum + weight r ≤ weight l := by
  have hcomma : weight [','] = 1 := by decide
  induction n generalizing l as with
  | zero => cases h
  | succ n ih =>
    obtain ⟨a, m, ha, ⟨m', as', hnext, hrest, rfl⟩ | ⟨-, hend, rfl⟩⟩ := readItems_succ.mp h
    · have hcost := hitem l a m ha
      have hexpect := weight_expect hnext
      have hsum := ih hrest
      rw [List.map_cons, List.sum_cons]
      omega
    · have hcost := hitem l a m ha
      have hexpect := weight_expect hend
      rw [List.map_singleton, List.sum_singleton]
      omega

theorem weight_readMember {value : List Char → Option (Json × List Char)}
    (hvalue : ∀ l v r, value l = some (v, r) → valueWeight v + weight r ≤ weight l)
    {l r : List Char} {m : String × Json} (h : readMember value l = some (m, r)) :
    memberWeight m + weight r ≤ weight l := by
  have hquote : weight [quote] = 1 := by decide
  have hcolon : weight [':'] = 1 := by decide
  simp only [readMember, Option.bind_eq_bind, Option.bind_eq_some_iff, Option.pure_def,
    Option.some_inj, Prod.exists] at h
  obtain ⟨l₁, hopen, key, l₂, hkey, l₃, hsep, v, l₄, hv, heq⟩ := h
  obtain ⟨rfl, rfl⟩ := Prod.mk.inj heq
  have h₁ := weight_expect hopen
  have h₂ := weight_readString hkey
  have h₃ := weight_expect hsep
  have h₄ := hvalue _ _ _ hv
  rw [memberWeight]
  dsimp only
  omega

/-- What stands behind an opening bracket: the closing one, or items before it. -/
theorem weight_body {α : Type} {item : List Char → Option (α × List Char)} {cost : α → ℕ}
    (hitem : ∀ l a r, item l = some (a, r) → cost a + weight r ≤ weight l) {close : Char}
    (hclose : weight [close] = 1) {value : List α → Json}
    (hvalue : ∀ as, valueWeight (value as) = 0) {n : ℕ} {l r : List Char} {v : Json}
    (h : (match expect close l with
      | some l => some (value [], l)
      | none => (readItems item close n l).map fun r => (value r.1, r.2)) = some (v, r)) :
    valueWeight v + weight r ≤ weight l := by
  split at h
  · rename_i l' hend
    obtain ⟨rfl, rfl⟩ := Prod.mk.inj (Option.some.inj h)
    have hexpect := weight_expect hend
    rw [hvalue]
    omega
  · obtain ⟨⟨as, r'⟩, hitems, heq⟩ := Option.map_eq_some_iff.mp h
    obtain ⟨rfl, rfl⟩ := Prod.mk.inj heq
    have hsum := weight_readItems hitem hclose hitems
    rw [hvalue]
    dsimp only
    omega

theorem weight_readValue {n : ℕ} {l r : List Char} {v : Json}
    (h : readValue double n l = some (v, r)) : valueWeight v + weight r ≤ weight l := by
  have hquote : weight [quote] = 1 := by decide
  induction n generalizing l v r with
  | zero => cases h
  | succ n ih =>
    rw [readValue] at h
    split at h
    · rename_i l₁ hopen
      obtain ⟨⟨s, r'⟩, hs, heq⟩ := Option.map_eq_some_iff.mp h
      obtain ⟨rfl, rfl⟩ := Prod.mk.inj heq
      have hexpect := weight_expect hopen
      have hstring := weight_readString hs
      rw [valueWeight]
      dsimp only
      omega
    split at h
    · rename_i l₁ hopen
      have hexpect := weight_expect hopen
      have hbody := weight_body (fun l v r => ih) (by decide) (fun _ => rfl) h
      omega
    split at h
    · rename_i l₁ hopen
      have hexpect := weight_expect hopen
      have hbody := weight_body (fun l m r => weight_readMember fun l v r => ih) (by decide)
        (fun _ => rfl) h
      omega
    · exact (weight_readScalar h).trans (weight_skip_le l)

/-- **The members that are read take their share of the text.** -/
theorem weight_readMembers {n k : ℕ} {l r : List Char} {ms : List (String × Json)}
    (h : readItems (readMember (readValue double k)) '\x7d' n l = some (ms, r)) :
    (ms.map fun m => memberWeight m + 1).sum + weight r ≤ weight l :=
  weight_readItems (fun _ _ _ => weight_readMember fun _ _ _ => weight_readValue) (by decide) h

/-! ### Object texts with a string spliced in -/

/-- A text from a key on, with a string spliced in as its value. -/
def splicedText (key s : String) (tail : List Char) : List Char :=
  quote :: (key.toList ++ quote :: ':' :: ' ' :: quote :: (s.toList ++ quote :: tail))

theorem weight_splicedText (key s : String) (tail : List Char) :
    weight (splicedText key s tail) = weight key.toList + weight s.toList + 6 + weight tail := by
  have hquote : weight [quote] = 1 := by decide
  have hcolon : weight [':'] = 1 := by decide
  have hblank : weight [' '] = 1 := by decide
  have htail := weight_cons quote tail
  have hvalue := weight_cons quote (s.toList ++ quote :: tail)
  have hcolons := weight_cons ':' (' ' :: quote :: (s.toList ++ quote :: tail))
  have hblanks := weight_cons ' ' (quote :: (s.toList ++ quote :: tail))
  have hkey := weight_cons quote (':' :: ' ' :: quote :: (s.toList ++ quote :: tail))
  rw [weight_append] at hvalue
  rw [splicedText, weight_cons, weight_append]
  omega

/-- A text behind a string literal that leaves a literal no way to run on across the quote. -/
def Breaks (tail : List Char) : Prop :=
  ∀ v r, readString tail = some (v, r) → expect ',' r = none ∧ expect '\x7d' r = none

theorem breaks_of_notMem {tail : List Char} (h : quote ∉ tail) : Breaks tail := by
  have hquote : ∀ l units r, Literal l units r → quote ∈ l := by
    intro l units r hliteral
    induction hliteral with
    | close => exact List.mem_cons_self
    | unicode _ _ ih => simp [ih]
    | escape _ _ ih => simp [ih]
    | plain _ _ ih => simp [ih]
  intro v r hread
  obtain ⟨units, hliteral, -⟩ := readString_eq_some_iff.mp hread
  exact absurd (hquote _ _ _ hliteral) h

theorem breaks_of_plain {s : String} (hs : Plain s) {rest : List Char}
    (hcomma : expect ',' rest = none) (hclose : expect '\x7d' rest = none) :
    Breaks (s.toList ++ quote :: rest) := by
  intro v r hread
  rw [readString_plain hs] at hread
  cases hread
  exact ⟨hcomma, hclose⟩

/-- **A spliced value.** The first member has the key and a string. If this is the string that was
spliced in then it is plain, and reading goes on behind it. -/
theorem readItems_splice {n k : ℕ} {key s : String} (hkey : Plain key) {l tail r : List Char}
    (hl : skip l = splicedText key s tail) (htail : Breaks tail) {ms : List (String × Json)}
    (h : readItems (readMember (readValue double (k + 1))) '\x7d' (n + 1) l = some (ms, r)) :
    ∃ w ms', ms = (key, .str w) :: ms' ∧ (w = s → Plain s ∧ ∀ m, expect ',' tail = some m →
      readItems (readMember (readValue double (k + 1))) '\x7d' n m = some (ms', r)) := by
  rw [readItems_succ] at h
  obtain ⟨a, m, ha, h⟩ := h
  rw [readMember_key hkey hl, readValue_string rfl, Option.map_map, Option.map_eq_some_iff] at ha
  obtain ⟨⟨w, m'⟩, hread, heq⟩ := ha
  obtain ⟨rfl, rfl⟩ := Prod.mk.inj heq
  have hnext : ∃ ms', ms = (key, .str w) :: ms' ∧ ∀ m, expect ',' m' = some m →
      readItems (readMember (readValue double (k + 1))) '\x7d' n m = some (ms', r) := by
    rcases h with ⟨m₁, ms', hm₁, hrest, rfl⟩ | ⟨hno, -, rfl⟩
    · refine ⟨ms', rfl, fun m hm => ?_⟩
      obtain rfl := Option.some.inj (hm₁.symm.trans hm)
      exact hrest
    · refine ⟨[], rfl, fun m hm => ?_⟩
      cases hno.symm.trans hm
  obtain ⟨ms', rfl, hrest⟩ := hnext
  refine ⟨w, ms', rfl, fun hw => ?_⟩
  rcases readString_splice hread with ⟨hplain, -, rfl⟩ | hne | ⟨v, hon⟩
  · exact ⟨hplain, hrest⟩
  · exact absurd hw hne
  · obtain ⟨hcomma, hclose⟩ := htail v m' hon
    rcases h with ⟨m₁, ms'', hm₁, -⟩ | ⟨-, hend, -⟩
    · cases hcomma.symm.trans hm₁
    · cases hclose.symm.trans hend

/-- Members that are read have room in the text. -/
theorem sum_le_weight {n k : ℕ} {l r : List Char} {ms : List (String × Json)}
    (asked : List (String × Json))
    (h : readItems (readMember (readValue double k)) '\x7d' n l = some (ms, r))
    (hnodup : asked.Nodup) (hasked : ∀ m ∈ asked, m ∈ ms) :
    (asked.map fun m => memberWeight m + 1).sum ≤ weight l := by
  obtain ⟨l', hperm, hsub⟩ := List.subperm_of_subset hnodup hasked
  have hsum : (asked.map fun m => memberWeight m + 1).sum ≤
      (ms.map fun m => memberWeight m + 1).sum := by
    rw [← (hperm.map _).sum_eq]
    exact List.Sublist.sum_le_sum (hsub.map _) (by simp)
  exact hsum.trans ((Nat.le_add_right _ _).trans (weight_readMembers h))

/-- **A spliced string is plain** if it is the value of its key and the text has no room for that
member behind another one of the key, the `others` counted. -/
theorem plain_of_room {n k : ℕ} {key s : String} (hkey : Plain key) {l tail r : List Char}
    (hl : skip l = splicedText key s tail) (htail : Breaks tail)
    {ms others : List (String × Json)}
    (h : readItems (readMember (readValue double (k + 1))) '\x7d' (n + 1) l = some (ms, r))
    (hmem : (key, .str s) ∈ ms) (hnodup : others.Nodup)
    (hothers : ∀ m ∈ others, m ∈ ms ∧ m.1 ≠ key)
    (hroom : weight l < 2 * weight key.toList + weight s.toList + 12 +
      (others.map fun m => memberWeight m + 1).sum) :
    Plain s ∧ ∃ ms', ms = (key, .str s) :: ms' ∧ ∀ m, expect ',' tail = some m →
      readItems (readMember (readValue double (k + 1))) '\x7d' n m = some (ms', r) := by
  obtain ⟨w, ms', rfl, hnext⟩ := readItems_splice hkey hl htail h
  by_cases hw : w = s
  · subst hw
    exact ⟨(hnext rfl).1, ms', rfl, (hnext rfl).2⟩
  -- Otherwise the key has two members, and all of them together do not fit.
  · have hsum := sum_le_weight ((key, .str w) :: (key, .str s) :: others) h
      (List.nodup_cons.mpr ⟨?_, List.nodup_cons.mpr ⟨?_, hnodup⟩⟩) ?_
    · have hshare : ∀ v : String, memberWeight (key, .str v) =
          weight key.toList + 3 + (weight v.toList + 2) := fun _ => rfl
      rw [List.map_cons, List.map_cons, List.sum_cons, List.sum_cons, hshare, hshare] at hsum
      omega
    · rw [List.mem_cons, not_or]
      exact ⟨by simp [hw], fun hm => (hothers _ hm).2 rfl⟩
    · exact fun hm => (hothers _ hm).2 rfl
    · rw [List.forall_mem_cons, List.forall_mem_cons]
      exact ⟨List.mem_cons_self, hmem, fun m hm => (hothers m hm).1⟩

end JsonText
